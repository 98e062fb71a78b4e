import CodePrint.Log.Entry

/-! # Journals

A journal holds the log settings in force and the lines written so far, by destination. An entry has
to pass the level of the settings and then the level of each output. With settings that have no
output, entries from warnings up go to the standard error stream as they are.
-/

namespace CodePrint

/-- The log settings in force and the lines written so far. -/
structure Journal where
  settings : Option LogSettings := none
  /-- The lines of every destination in use, in the order of first use. -/
  written : List (LogDestination × List String) := [(.stdout, []), (.stderr, [])]
deriving Repr

/-- The level of an output, which is that of the settings unless it has its own. -/
def LogSettings.threshold (settings : LogSettings) (output : LogOutput) : LogLevel :=
  output.level.getD settings.level

/-- The lines of a text. -/
def linesOf (text : String) : List String :=
  text.splitOn "\n"

namespace Journal

/-- Lines added to those of a destination, which is listed from then on. -/
def extend (destination : LogDestination) (lines : List String) :
    List (LogDestination × List String) → List (LogDestination × List String)
  | [] => [(destination, lines)]
  | (other, old) :: rest =>
    if other = destination then (other, old ++ lines) :: rest
    else (other, old) :: extend destination lines rest

/-- The journal with lines added to those of a destination. -/
def append (journal : Journal) (destination : LogDestination) (lines : List String) : Journal :=
  { journal with written := extend destination lines journal.written }

/-- Puts settings in force. Files are there from then on, with the lines they have. -/
def configure (journal : Journal) (settings : LogSettings) : Journal :=
  settings.outputs.foldl (fun journal output => journal.append output.destination [])
    { journal with settings := some settings }

/-- Writes an entry to every output whose level it passes. -/
def deliver (settings : LogSettings) (entry : LogEntry) (journal : Journal) : Journal :=
  settings.outputs.foldl (fun journal output =>
    if entry.level.passes (settings.threshold output) then
      journal.append output.destination (linesOf (entry.text output.format))
    else journal) journal

/-- Writes an entry under settings; the bare text stands in where there is no output. -/
def write (journal : Journal) (settings : LogSettings) (entry : LogEntry) (bare : String) :
    Journal :=
  if !entry.level.passes settings.level then journal
  else if !settings.outputs.isEmpty then journal.deliver settings entry
  else if entry.level.passes .warning then journal.append .stderr (linesOf bare)
  else journal

/-- Logs the entry of a call. Without settings nothing is written. -/
def log (journal : Journal) (entry : LogEntry) : Journal :=
  match journal.settings with
  | some settings => journal.write settings entry (Value.mapping entry.fields).quoted
  | none => journal

/-- Logs a bare message. Without settings, warnings and what is above them go to the standard error
stream. -/
def logMessage (journal : Journal) (message : String) (entry : LogEntry) : Journal :=
  journal.write (journal.settings.getD ⟨.warning, []⟩) entry message

end Journal

/-- The settings of a plain log: one output on the standard error stream. -/
def LogSettings.plain (homes : Homes) (fields : Fields) : Checked LogSettings :=
  let format : LogFormat :=
    match fields.get? "json_format" with
    | some value => if value.isVoid then .console else .json
    | none => .console
  let level := (fields.get? "level").getD (.text LogLevel.info.setting)
  (Check.logSettings homes [("level", level)]).map fun settings =>
    { settings with outputs := [{ format := format }] }

/-- The settings that a configuration call asks for: the given ones, else those of a plain log. -/
def LogSettings.requested (homes : Homes) (fields : Fields) : Checked LogSettings :=
  match fields.get? "config" with
  | some (.mapping given) => Check.logSettings homes given
  | _ => LogSettings.plain homes fields

end CodePrint
