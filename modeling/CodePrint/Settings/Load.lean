import CodePrint.Settings
import CodePrint.Settings.Environment
import CodePrint.Yaml.Reader

/-! # Loading settings

Settings come from a file, from environment variables and from the caller; the later of these win
over the earlier, name by name. What is merged is checked as a whole, and no unknown setting may
stand at the top; what comes out is written as values and checked again. The caller may write the
names of settings in any case.
-/

namespace CodePrint

/-- What a path leads to. -/
inductive FileEntry where
  | file (text : String)
  | directory
deriving DecidableEq, Repr

/-- What loading reads from its surroundings. -/
structure Surroundings where
  homes : Homes
  environment : Variables
  /-- What is found under the text of a path. -/
  files : List (String × FileEntry)

/-- Why settings could not be loaded. -/
inductive LoadError where
  | refused (error : ScanError)
  | noHome
  | isDirectory (path : String)
  | unreadableVariable (setting : String)
  /-- The settings file is well formed, but something in it stands for no value. -/
  | noValue (refusal : Yaml.Refusal)
  /-- A setting has a key that is no text. -/
  | unnamedSetting
deriving Repr

/-- What went wrong, in words. -/
def LoadError.message : LoadError → String
  | .refused error => error.message
  | .noHome => "Could not determine home directory."
  | .isDirectory path => "[Errno 21] Is a directory: " ++ Text.quoted path
  | .unreadableVariable setting =>
    "error parsing value for field \"" ++ setting ++ "\" from source \"EnvSettingsSource\""
  | .noValue refusal => refusal.message
  | .unnamedSetting => "keywords must be strings"

/-- The value of a check, or the error it is reported as: what ended it at once, or its first
issue. -/
def Checked.report {α : Type} : Checked α → Except LoadError α
  | .valid value => .ok value
  | .halted .noTransforms => .error (.refused .noTransforms)
  | .halted .noHome => .error .noHome
  | .invalid issue _ => .error (.refused issue.toError)

/-- Options from named values. -/
def Options.build (fields : Fields) : Except LoadError Options :=
  (Check.options fields).report

/-- The fields of a settings file. A document that is void counts as empty. -/
def readSettingsFile (surroundings : Surroundings) (path : String) : Except LoadError Fields :=
  match (Path.ofString path).expandHome? surroundings.homes with
  | none => .error .noHome
  | some path =>
    match surroundings.files.lookup path.text with
    | none => .error (.refused (.configMissing path.text))
    | some .directory => .error (.isDirectory path.text)
    | some (.file text) =>
      match Yaml.read text with
      | .error .malformed =>
        .error (.refused (.configUnreadable path.text Yaml.Refusal.malformed.message))
      | .error refusal => .error (.noValue refusal)
      | .ok (.mapping fields) => .ok fields
      | .ok value =>
        if value.isVoid then .ok []
        else .error (.refused (.configUnreadable path.text "top level must be a mapping"))

/-- Whether an extraction section names its transforms but gives none. -/
def lacksTransforms (section? : Option Value) : Bool :=
  match section?.bind (·.field? "transforms") with
  | some value => value.isVoid
  | none => false

/-- The names of all settings. -/
def settingNames : List String :=
  ["logging", "extraction", "languages"]

/-- The settings of a caller under their names, whatever the case of their keys. Of several keys for
one setting the first counts; every other key stays as it is. -/
def recaseSettings (overrides : Fields) : Fields :=
  overrides.foldl (fun acc (key, value) =>
    match declaredName? settingNames key with
    | some name => if (acc.get? name).isSome then acc else acc.put name value
    | none => acc.put key value) []

/-- Every setting that is not known is an issue. -/
def Check.knownOnly (named : List (String × Value)) : Checked Unit :=
  match named.filter fun (name, _) => !settingNames.contains name with
  | [] => .valid ()
  | first :: rest =>
    let issue : String × Value → Issue := fun (name, value) => ⟨[.field name], .unknown, value⟩
    .invalid (issue first) (rest.map issue)

/-- The settings that stored fields, environment variables and the fields of the caller make
together. -/
def Settings.gather (homes : Homes) (environment : Variables) (stored overrides : Fields) :
    Except LoadError Settings := do
  let named ← (settingsFromEnvironment environment).mapError fun error =>
    .unreadableVariable error.setting
  let fields := Fields.merge stored (Fields.merge named (recaseSettings overrides))
  match fields.named? with
  | none => throw .unnamedSetting
  | some named =>
    let checked := (Check.settings homes fields).join (Check.knownOnly named)
    (checked.map (·.1)).report

/-- Settings written as named values and checked again. -/
def Settings.recheck (homes : Homes) (settings : Settings) : Except LoadError Settings :=
  (Check.settings homes settings.fields).report

/-- The settings that are gathered, checked a second time. Transforms that the caller, or else the
store, leaves empty are refused before anything is merged. -/
def Settings.resolve (homes : Homes) (environment : Variables) (stored overrides : Fields) :
    Except LoadError Settings := do
  if lacksTransforms ((overrides.get? "extraction").or (stored.get? "extraction")) then
    throw (.refused .noTransforms)
  let settings ← Settings.gather homes environment stored overrides
  settings.recheck homes

/-- Loads the settings, from a file if a path is given. -/
def Settings.load (surroundings : Surroundings) (path : Option String) (overrides : Fields) :
    Except LoadError Settings := do
  let stored ←
    match path with
    | some path => readSettingsFile surroundings path
    | none => .ok []
  Settings.resolve surroundings.homes surroundings.environment stored overrides

end CodePrint
