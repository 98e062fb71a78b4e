import CodePrint.Json.Writer
import CodePrint.Session
import CodePrint.Settings
import CodePrint.Value.Text

/-! # Log entries

An entry is a level with named values: what the logger carries, what the call gives, and then the
event, the level and the time. Where a scan identifier with characters is set and none is among the
values, it comes last. An entry is written as a JSON object or as a line for a console.
-/

namespace CodePrint

/-- A log entry. -/
structure LogEntry where
  level : LogLevel
  fields : Fields
deriving Repr

namespace LogEntry

/-- The fields with the event, the level and the time in place of any given ones, and with the scan
identifier unless they hold one. An identifier without characters is none. -/
def complete (level : LogLevel) (event time : String) (scanId : Option String) (fields : Fields) :
    LogEntry :=
  let timed := ((fields.put "event" (.text event)).put "level" (.text level.name)).put "timestamp"
    (.text time)
  match Session.chosen? scanId, timed.get? "scan_id" with
  | some id, none => ⟨level, timed.put "scan_id" (.text id)⟩
  | _, _ => ⟨level, timed⟩

/-- The entry of a call to a logger, which may have a name and carry values of its own. -/
def ofCall (logger : Option String) (bound : Fields) (level : LogLevel) (event : String)
    (values : Fields) (time : String) (scanId : Option String) : LogEntry :=
  let named : Fields :=
    match logger with
    | some name => if name.isEmpty then [] else [("logger", .text name)]
    | none => []
  complete level event time scanId ((Fields.putAll named bound).putAll values)

/-- The entry of a bare message. -/
def ofMessage (level : LogLevel) (message time : String) (scanId : Option String) : LogEntry :=
  complete level message time scanId []

/-- A character for which a text is quoted on a console line. -/
def needsQuotes (c : Char) : Bool :=
  c == ' ' || c == '\t' || c == '=' || c == '\r' || c == '\n' || c == '"' || c == '\''

/-- A value on a console line. -/
def consoleValue : Value → String
  | .text s => if s.toList.any needsQuotes then Text.quoted s else s
  | value => value.quoted

/-- The names that have a place of their own on a console line, and how their values are shown. -/
def consoleColumns : List (String × (Value → String)) :=
  [("timestamp", Value.shown), ("level", fun level => "[" ++ level.shown ++ "]"),
    ("event", Value.shown), ("logger", fun logger => "[" ++ logger.shown ++ "]"),
    ("logger_name", fun logger => "[" ++ logger.shown ++ "]")]

/-- Fields in the order of their names, each with its name. -/
def sortFields (fields : Fields) : List (String × Value) :=
  (fields.map fun (key, value) => (key.shown, value)).mergeSort fun a b => decide (a.1 ≤ b.1)

/-- A text without the spaces at its end. -/
def withoutLastSpaces (text : String) : String :=
  String.ofList (text.toList.reverse.dropWhile (· == ' ')).reverse

/-- The names whose values do not stand on the console line itself. -/
def traceNames : List String :=
  ["stack", "exception", "exc_info"]

/-- What follows a console line: the stack and the exception among the values, each from a line of
its own on, with a rule between the two. -/
def consoleTrace (entry : LogEntry) : String :=
  let rule := "\n\n" ++ String.ofList (List.replicate 79 '=') ++ "\n"
  match entry.fields.get? "stack", entry.fields.get? "exception" with
  | some (.text stack), some (.text exception) => "\n" ++ stack ++ rule ++ "\n" ++ exception
  | some (.text stack), _ => "\n" ++ stack
  | _, some (.text exception) => "\n" ++ exception
  | _, _ => ""

/-- The entry as a console line: the columns, then the other values by name. Parts without
characters are left out. -/
def consoleText (entry : LogEntry) : String :=
  let columns := consoleColumns.filterMap fun (name, shown) => (entry.fields.get? name).map shown
  let others := (sortFields entry.fields).filter fun (name, _) =>
    !(consoleColumns.any (·.1 == name) || traceNames.contains name)
  let pairs := others.map fun (name, value) => name ++ "=" ++ consoleValue value
  let parts := (columns ++ pairs).filter fun part => !part.isEmpty
  withoutLastSpaces (" ".intercalate parts) ++ entry.consoleTrace

/-- The entry as text in a format. -/
def text (entry : LogEntry) : LogFormat → String
  | .json => Json.write (.mapping entry.fields)
  | .console => entry.consoleText

end LogEntry

end CodePrint
