import CodePrint.Moment
import CodePrint.Number.Binary64

/-! # Dynamic values

Settings files, environment variables, error details and log entries hold values whose shape is not
known in advance. A value is a scalar, a list or a mapping. The fields of a mapping keep the order
in which their keys first came; writing to a key that is present keeps its place. A key is a scalar,
and most often a text; numbers that are equal are the same key, whatever their kind.
-/

namespace CodePrint

/-- A value without parts. -/
inductive Scalar where
  | null
  | bool (b : Bool)
  | int (n : Int)
  | float (x : Binary64)
  | text (s : String)
  | moment (m : Moment)
deriving DecidableEq, Repr

/-- A text stands for itself where a scalar is expected. -/
instance : Coe String Scalar :=
  ⟨.text⟩

namespace Scalar

/-- The form of a scalar as a key. A truth value counts as zero or one, a whole number is the same
in every format, and there is one value that is no number. -/
def standard : Scalar → Scalar
  | .bool b => .int (if b then 1 else 0)
  | .float x =>
    match x.toInt? with
    | some n => .int n
    | none => .float (if x.isNan then .nan else x)
  | key => key

/-- Whether two scalars are the same key. -/
def sameKey (key other : Scalar) : Bool :=
  key.standard == other.standard

/-- Whether a scalar counts as absent where a setting is looked for: null, false, zero and the empty
text. -/
def isVoid : Scalar → Bool
  | .null => true
  | .bool b => !b
  | .int n => n == 0
  | .float x => x.magnitude == 0
  | .text s => s.isEmpty
  | .moment _ => false

end Scalar

/-- A value of unknown shape. -/
inductive Value where
  | scalar (s : Scalar)
  | list (items : List Value)
  | mapping (fields : List (Scalar × Value))
deriving Repr

/-- The fields of a mapping, in order. -/
abbrev Fields := List (Scalar × Value)

namespace Fields

/-- The value under a key. -/
def get? (fields : Fields) (key : Scalar) : Option Value :=
  (fields.find? fun field => field.1.sameKey key).map (·.2)

/-- The fields with a value under a key: in place when the key is present, at the end otherwise. A
key that is present stays as it is. -/
def put (key : Scalar) (value : Value) : Fields → Fields
  | [] => [(key, value)]
  | (other, old) :: rest =>
    if other.sameKey key then (other, value) :: rest else (other, old) :: put key value rest

/-- The fields with all of `updates` written to them in order. -/
def putAll (fields updates : Fields) : Fields :=
  updates.foldl (fun acc (key, value) => acc.put key value) fields

/-- The fields by their names, if every key is a text. -/
def named? (fields : Fields) : Option (List (String × Value)) :=
  fields.mapM fun
    | (.text name, value) => some (name, value)
    | _ => none

end Fields

namespace Value

/-- The null value. -/
@[match_pattern]
abbrev null : Value :=
  .scalar .null

/-- A truth value. -/
@[match_pattern]
abbrev bool (b : Bool) : Value :=
  .scalar (.bool b)

/-- A whole number. -/
@[match_pattern]
abbrev int (n : Int) : Value :=
  .scalar (.int n)

/-- A number of the 64-bit binary format. -/
@[match_pattern]
abbrev float (x : Binary64) : Value :=
  .scalar (.float x)

/-- A text. -/
@[match_pattern]
abbrev text (s : String) : Value :=
  .scalar (.text s)

/-- The value under a name, for a mapping that has it. -/
def field? : Value → String → Option Value
  | .mapping fields, name => Fields.get? fields name
  | _, _ => none

/-- Whether a value counts as absent where a setting is looked for: a void scalar, or a collection
without parts. -/
def isVoid : Value → Bool
  | .scalar s => s.isVoid
  | .list items => items.isEmpty
  | .mapping fields => fields.isEmpty

/-- A text or null. -/
def ofText? : Option String → Value
  | some s => .text s
  | none => .null

/-- A natural number. -/
def ofNat (n : Nat) : Value :=
  .int n

/-- A list of texts. -/
def ofTexts (items : List String) : Value :=
  .list (items.map .text)

end Value

end CodePrint
