import CodePrint.Json.Reader
import CodePrint.Settings.Merge
import CodePrint.Text.Lower

/-! # Settings from environment variables

A variable sets a whole section, as JSON, or one field of a section. The parts of its name are
divided by two underscores, and case does not count. A field's own variable wins over the section's.
-/

namespace CodePrint

/-- A section of the settings as environment variables see it. -/
structure SectionShape where
  name : String
  fields : List String
  /-- The fields that hold collections; their variables are written in JSON. -/
  collections : List String

/-- The sections, in order. -/
def SectionShape.all : List SectionShape :=
  [{ name := "logging", fields := ["level", "outputs"], collections := ["outputs"] },
    { name := "extraction"
      fields :=
        ["transforms", "hash_algorithm", "hash_backend", "allow_partial_parse", "on_region_error"]
      collections := ["transforms"] }]

/-- Named texts, in order. -/
abbrev Variables := List (String × String)

namespace Variables

/-- The variables with one set: in place when its name is present, at the end otherwise. -/
def set (name text : String) : Variables → Variables
  | [] => [(name, text)]
  | (other, old) :: rest =>
    if other = name then (name, text) :: rest else (other, old) :: set name text rest

/-- The variables under lower-case names; of two that become the same the later counts. -/
def lowered (bindings : Variables) : Variables :=
  bindings.foldl (fun acc (name, text) => set (Text.lower name) text acc) []

end Variables

/-- What the name of every variable for settings begins with. -/
def variableStart : String :=
  "snipscan__"

/-- The parts of a name between double underscores. -/
def nameParts : List Char → List (List Char)
  | [] => [[]]
  | '_' :: '_' :: rest => [] :: nameParts rest
  | c :: rest =>
    match nameParts rest with
    | [] => [[c]]
    | part :: parts => (c :: part) :: parts

/-- The fields with a value at the end of a chain of names; mappings on the way are made where there
is nothing, and any other value on the way stays. -/
def Fields.assign (value : Value) : (names : List String) → Fields → Fields
  | [], fields => fields
  | [name], fields => fields.put name value
  | name :: rest, fields =>
    match fields.get? name with
    | none => fields.put name (.mapping (Fields.assign value rest []))
    | some (.mapping inner) => fields.put name (.mapping (Fields.assign value rest inner))
    | some _ => fields

/-- The chain of names that a variable sets below a section or setting, if it sets one. -/
def chainBelow? (setting key : String) : Option (List String) :=
  let start := (variableStart ++ setting ++ "__").toList
  if start.isPrefixOf key.toList then
    some ((nameParts (key.toList.drop start.length)).map String.ofList)
  else none

/-- A variable that should hold JSON does not; the setting is the top-level one. -/
structure UnreadableVariable where
  setting : String
deriving DecidableEq, Repr

/-- The value of a variable with a chain of names below a setting. -/
def chainValue (setting : String) (collections : List String) (chain : List String)
    (text : String) : Except UnreadableVariable Value :=
  match chain with
  | [name] =>
    if name ∈ collections ∧ !text.isEmpty then
      match Json.read? text with
      | some value => .ok value
      | none => .error ⟨setting⟩
    else .ok (.text text)
  | _ => .ok (.text text)

/-- The fields that variables set below a setting, added to those already set. -/
def fieldsBelow (setting : String) (collections : List String) :
    Fields → Variables → Except UnreadableVariable Fields
  | fields, [] => .ok fields
  | fields, (key, text) :: rest =>
    match chainBelow? setting key with
    | none => fieldsBelow setting collections fields rest
    | some chain => do
      let value ← chainValue setting collections chain text
      fieldsBelow setting collections (Fields.assign value chain fields) rest

/-- A mapping, unless it has no fields. -/
def mappingUnlessEmpty (fields : Fields) : Option Value :=
  if fields.isEmpty then none else some (.mapping fields)

/-- What the fields of a setting's own variable and those of the variables below it make together. A
null counts as not set. -/
def combine (own : Value) (below : Except UnreadableVariable Fields) :
    Except UnreadableVariable (Option Value) :=
  match own with
  | .null => .ok none
  | .mapping fields => below.map fun updates => some (.mapping (Fields.merge fields updates))
  | value => .ok (some value)

/-- The declared name that a key is, whatever its case. -/
def declaredName? (declared : List String) : Scalar → Option String
  | .text name => declared.find? (· == Text.lower name)
  | _ => none

/-- The fields of a section under the names it declares, whatever their case. -/
def SectionShape.recase (shape : SectionShape) (fields : Fields) : Fields :=
  fields.foldl (fun acc (key, value) =>
    acc.put (((declaredName? shape.fields key).map Scalar.text).getD key) value) []

/-- The value that variables give to a section. -/
def SectionShape.fromVariables (shape : SectionShape) (bindings : Variables) :
    Except UnreadableVariable (Option Value) := do
  let below := fieldsBelow shape.name shape.collections [] bindings
  let found ←
    match bindings.lookup (variableStart ++ shape.name) with
    | none => below.map mappingUnlessEmpty
    | some text =>
      match Json.read? text with
      | none => .error ⟨shape.name⟩
      | some own => combine own below
  match found with
  | some (.mapping fields) => return some (.mapping (shape.recase fields))
  | other => return other

/-- The value that variables give to the languages. A text that is no JSON stays as it is. -/
def languagesFromVariables (bindings : Variables) : Except UnreadableVariable (Option Value) :=
  let below := fieldsBelow "languages" [] [] bindings
  match bindings.lookup (variableStart ++ "languages") with
  | none => below.map mappingUnlessEmpty
  | some text =>
    match Json.read? text with
    | none => .ok (some (.text text))
    | some own => combine own below

/-- The sections that variables set, in order. -/
def sectionsFromVariables (bindings : Variables) :
    List SectionShape → Except UnreadableVariable Fields
  | [] => .ok []
  | shape :: rest => do
    let value ← shape.fromVariables bindings
    let later ← sectionsFromVariables bindings rest
    return (value.toList.map (.text shape.name, ·)) ++ later

/-- The settings that environment variables make. -/
def settingsFromEnvironment (environment : Variables) : Except UnreadableVariable Fields := do
  let bindings := environment.lowered
  let sections ← sectionsFromVariables bindings SectionShape.all
  let languages ← languagesFromVariables bindings
  return sections ++ languages.toList.map (.text "languages", ·)

end CodePrint
