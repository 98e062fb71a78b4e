import CodePrint.Language
import CodePrint.Log.Level
import CodePrint.Options
import CodePrint.Path
import CodePrint.Settings.Check
import CodePrint.Value.Text

/-! # Settings

The settings of a scan: where log entries go, what an extraction produces, and which languages are
enabled. They are checked field by field, and unknown fields of a section are passed over.
-/

namespace CodePrint

/-- How a log output writes entries. -/
inductive LogFormat where
  | json
  | console
deriving DecidableEq, Repr

namespace LogFormat

/-- All formats, in order. -/
def all : List LogFormat :=
  [.json, .console]

/-- The name of a format. -/
def name : LogFormat → String
  | .json => "json"
  | .console => "console"

/-- The format with a name. -/
def ofName? (name : String) : Option LogFormat :=
  all.find? (·.name == name)

end LogFormat

/-- Where a log output writes. -/
inductive LogDestination where
  | stderr
  | stdout
  | file (path : Path)
deriving DecidableEq, Repr

/-- The name of a destination. -/
def LogDestination.text : LogDestination → String
  | .stderr => "stderr"
  | .stdout => "stdout"
  | .file path => path.text

/-- One output for log entries. -/
structure LogOutput where
  format : LogFormat := .console
  destination : LogDestination := .stderr
  /-- The level of the output, if it has its own. -/
  level : Option LogLevel := none
deriving DecidableEq, Repr

/-- The settings of the log. -/
structure LogSettings where
  level : LogLevel := .info
  outputs : List LogOutput := [{}]
deriving DecidableEq, Repr

/-- All settings. -/
structure Settings where
  logging : LogSettings := {}
  extraction : Options := {}
  /-- The enabled languages; all installed ones if none are named. -/
  languages : Option (List Language) := none
deriving DecidableEq, Repr

namespace Check

/-- A log level. -/
def logLevel : Check LogLevel :=
  literal (LogLevel.all.map (·.setting)) LogLevel.ofSetting?

/-- A log format. -/
def logFormat : Check LogFormat :=
  literal (LogFormat.all.map (·.name)) LogFormat.ofName?

/-- A log destination: a standard stream or the absolute path of a file. -/
def logDestination (homes : Homes) : Check LogDestination
  | .text name =>
    if name = "stderr" then .valid .stderr
    else if name = "stdout" then .valid .stdout
    else
      match (Path.ofString name).expandHome? homes with
      | none => .halted .noHome
      | some path =>
        if path.isAbsolute then .valid (.file path)
        else
          .complain (.refused ("File destination must be absolute path: " ++ name)) (.text name)
  | value => .complain .notText value

/-- The fields of a log output. -/
def logOutput (homes : Homes) (fields : Fields) : Checked LogOutput :=
  let format := field fields "format" logFormat .console
  let destination := field fields "destination" (logDestination homes) .stderr
  let level := field fields "level" (optional logLevel) none
  (format.join (destination.join level)).map fun (format, destination, level) =>
    ⟨format, destination, level⟩

/-- The fields of the log settings. -/
def logSettings (homes : Homes) (fields : Fields) : Checked LogSettings :=
  let level := field fields "level" logLevel .info
  let outputs :=
    field fields "outputs" (listOf .notList (sectionOf "LogOutputConfig" (logOutput homes))) [{}]
  (level.join outputs).map fun (level, outputs) => ⟨level, outputs⟩

/-- The transforms of an extraction: at least one, none twice; they are put in order. -/
def transforms : Check (List VariantKind) := fun value =>
  let kinds := listOf .notTuple (member (VariantKind.all.map (·.name)) VariantKind.ofName?) value
  kinds.andThen fun kinds =>
    if kinds.isEmpty then .halted .noTransforms
    else if kinds.Nodup then .valid (VariantKind.sort kinds)
    else .complain (.refused "transform kinds must not repeat") value

/-- The fields of the options. -/
def options (fields : Fields) : Checked Options :=
  let defaults : Options := {}
  let kinds := field fields "transforms" transforms defaults.transforms
  let algorithm :=
    field fields "hash_algorithm" (member (HashAlgorithm.all.map (·.name)) HashAlgorithm.ofName?)
      defaults.algorithm
  let backend :=
    field fields "hash_backend" (member (HashBackend.all.map (·.name)) HashBackend.ofName?)
      defaults.backend
  let allowErrors := field fields "allow_partial_parse" bool defaults.allowErrors
  let policy :=
    field fields "on_region_error"
      (member (RegionErrorPolicy.all.map (·.name)) RegionErrorPolicy.ofName?) defaults.policy
  (kinds.join (algorithm.join (backend.join (allowErrors.join policy)))).map
    fun (kinds, algorithm, backend, allowErrors, policy) =>
      ⟨kinds, algorithm, backend, allowErrors, policy⟩

/-- A list of languages, or none. -/
def languages : Check (Option (List Language)) :=
  optional (listOf .notList (member (Language.all.map (·.tag)) Language.ofTag?))

/-- The fields of all settings. -/
def settings (homes : Homes) (fields : Fields) : Checked Settings :=
  let logging := field fields "logging" (sectionOf "LoggingConfig" (logSettings homes)) {}
  let extraction := field fields "extraction" (sectionOf "ExtractionOptions" options) {}
  let enabled := field fields "languages" languages none
  (logging.join (extraction.join enabled)).map fun (logging, extraction, enabled) =>
    ⟨logging, extraction, enabled⟩

end Check

/-- The error that an issue is reported as. -/
def Issue.toError (issue : Issue) : ScanError :=
  .invalidSetting issue.place issue.input.shown issue.complaint.message

/-- A log output as named values. -/
def LogOutput.fields (output : LogOutput) : Fields :=
  [("format", .text output.format.name), ("destination", .text output.destination.text),
    ("level", .ofText? (output.level.map (·.setting)))]

/-- Log settings as named values. -/
def LogSettings.fields (settings : LogSettings) : Fields :=
  [("level", .text settings.level.setting),
    ("outputs", .list (settings.outputs.map fun output => .mapping output.fields))]

/-- Options as named values. -/
def Options.fields (options : Options) : Fields :=
  [("transforms", .ofTexts (options.transforms.map (·.name))),
    ("hash_algorithm", .text options.algorithm.name), ("hash_backend", .text options.backend.name),
    ("allow_partial_parse", .bool options.allowErrors),
    ("on_region_error", .text options.policy.name)]

/-- The enabled languages as a value. -/
def languagesValue : Option (List Language) → Value
  | some languages => .ofTexts (languages.map (·.tag))
  | none => .null

/-- Settings as named values. -/
def Settings.fields (settings : Settings) : Fields :=
  [("logging", .mapping settings.logging.fields),
    ("extraction", .mapping settings.extraction.fields),
    ("languages", languagesValue settings.languages)]

end CodePrint
