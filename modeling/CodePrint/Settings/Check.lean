import CodePrint.Number.Binary64
import CodePrint.Text.Quoted
import CodePrint.Value

/-! # Checking dynamic values

A check turns a value of unknown shape into a value of a type, or says what is wrong with it. The
checks of several parts are joined so that all issues are found, in the order of the parts. Two
causes are not collected but end the check at once.
-/

namespace CodePrint

/-- A step into a value: a field of a mapping or a place of a list. -/
inductive LocationStep where
  | field (name : String)
  | place (index : Nat)
deriving DecidableEq, Repr

/-- The step as text. -/
def LocationStep.text : LocationStep → String
  | .field name => name
  | .place index => toString index

/-- What is wrong with a value. -/
inductive Complaint where
  /-- The value names no member of an enumeration. -/
  | notMember (choices : List String)
  /-- The value is none of the given texts. -/
  | notLiteral (choices : List String)
  | notTuple
  | notList
  | notText
  | notBool
  /-- The value may mean a truth value, but it is not clear which. -/
  | unclearBool
  /-- The value is no section of the given name. -/
  | notSection (name : String)
  /-- The value has the right shape but is refused for a reason. -/
  | refused (reason : String)
  /-- There is no setting of this name. -/
  | unknown
deriving DecidableEq, Repr

namespace Complaint

/-- Alternatives in words. -/
def alternatives : List String → String
  | [] => ""
  | [last] => last
  | [first, last] => first ++ " or " ++ last
  | first :: rest => first ++ ", " ++ alternatives rest

/-- The name of a complaint. -/
def label : Complaint → String
  | .notMember _ => "enum"
  | .notLiteral _ => "literal_error"
  | .notTuple => "tuple_type"
  | .notList => "list_type"
  | .notText => "string_type"
  | .notBool => "bool_type"
  | .unclearBool => "bool_parsing"
  | .notSection _ => "model_type"
  | .refused _ => "value_error"
  | .unknown => "extra_forbidden"

/-- The complaint in words. -/
def message : Complaint → String
  | .notMember choices | .notLiteral choices =>
    "Input should be " ++ alternatives (choices.map Text.quoted)
  | .notTuple => "Input should be a valid tuple"
  | .notList => "Input should be a valid list"
  | .notText => "Input should be a valid string"
  | .notBool => "Input should be a valid boolean"
  | .unclearBool => "Input should be a valid boolean, unable to interpret input"
  | .notSection name => "Input should be a valid dictionary or instance of " ++ name
  | .refused reason => "Value error, " ++ reason
  | .unknown => "Extra inputs are not permitted"

end Complaint

/-- Something wrong at a place. -/
structure Issue where
  location : List LocationStep
  complaint : Complaint
  /-- The value that was given there. -/
  input : Value
deriving Repr

namespace Issue

/-- The issue seen from one step further out. -/
def under (step : LocationStep) (issue : Issue) : Issue :=
  { issue with location := step :: issue.location }

/-- The place of an issue as text. -/
def place (issue : Issue) : String :=
  ".".intercalate (issue.location.map (·.text))

end Issue

/-- A cause that ends a check at once. -/
inductive Halt where
  | noTransforms
  | noHome
deriving DecidableEq, Repr

/-- The result of a check. -/
inductive Checked (α : Type) where
  | valid (value : α)
  | invalid (first : Issue) (others : List Issue)
  | halted (cause : Halt)
deriving Repr

namespace Checked

variable {α β : Type}

/-- One issue with the whole value. -/
def complain (complaint : Complaint) (input : Value) : Checked α :=
  .invalid ⟨[], complaint, input⟩ []

/-- The result with a function applied to its value. -/
def map (f : α → β) : Checked α → Checked β
  | .valid value => .valid (f value)
  | .invalid first others => .invalid first others
  | .halted cause => .halted cause

/-- Two results joined: all issues of both, in order, unless one of them ended at once. -/
def join : Checked α → Checked β → Checked (α × β)
  | .halted cause, _ => .halted cause
  | _, .halted cause => .halted cause
  | .invalid first others, .invalid next later => .invalid first (others ++ next :: later)
  | .invalid first others, .valid _ => .invalid first others
  | .valid _, .invalid next later => .invalid next later
  | .valid a, .valid b => .valid (a, b)

/-- The result seen from one step further out. -/
def under (step : LocationStep) : Checked α → Checked α
  | .invalid first others => .invalid (first.under step) (others.map (·.under step))
  | result => result

/-- A further check of a value that is valid. -/
def andThen : Checked α → (α → Checked β) → Checked β
  | .valid value, check => check value
  | .invalid first others, _ => .invalid first others
  | .halted cause, _ => .halted cause

end Checked

/-- A way to read a value of unknown shape. -/
abbrev Check (α : Type) := Value → Checked α

namespace Check

variable {α : Type}

/-- The value that a text names. -/
def named (complaint : Complaint) (ofName? : String → Option α) : Check α
  | .text name =>
    match ofName? name with
    | some value => .valid value
    | none => .complain complaint (.text name)
  | value => .complain complaint value

/-- A member of an enumeration. -/
def member (choices : List String) (ofName? : String → Option α) : Check α :=
  named (.notMember choices) ofName?

/-- One of several texts. -/
def literal (choices : List String) (ofName? : String → Option α) : Check α :=
  named (.notLiteral choices) ofName?

/-- A value that may be null. -/
def optional (check : Check α) : Check (Option α)
  | .null => .valid none
  | value => (check value).map some

/-- The items of a list, each with its place. -/
def each (check : Check α) : (place : Nat) → List Value → Checked (List α)
  | _, [] => .valid []
  | place, item :: rest =>
    (((check item).under (.place place)).join (each check (place + 1) rest)).map
      fun (value, later) => value :: later

/-- A list; the complaint is for a value that is none. -/
def listOf (complaint : Complaint) (check : Check α) : Check (List α)
  | .list items => each check 0 items
  | value => .complain complaint value

/-- The field of a mapping, or a default where the mapping lacks it. -/
def field (fields : Fields) (name : String) (check : Check α) (default : α) : Checked α :=
  match fields.get? name with
  | some value => (check value).under (.field name)
  | none => .valid default

/-- A section, which is a mapping of settings. -/
def sectionOf (name : String) (check : Fields → Checked α) : Check α
  | .mapping fields => check fields
  | value => .complain (.notSection name) value

/-- The words for truth and for falsehood, whatever their case. -/
def boolWords : List (String × Bool) :=
  [("0", false), ("off", false), ("f", false), ("false", false), ("n", false), ("no", false),
    ("1", true), ("on", true), ("t", true), ("true", true), ("y", true), ("yes", true)]

/-- The least positive number that no machine word holds, `2 ^ 63`. -/
def wordLimit : Int :=
  0x8000000000000000

/-- A truth value: zero and one count as such, and so do the usual words. A number that no machine
word holds is none. -/
def bool : Check Bool
  | .bool b => .valid b
  | .int n =>
    if n = 0 then .valid false
    else if n = 1 then .valid true
    else if -wordLimit ≤ n ∧ n < wordLimit then .complain .unclearBool (.int n)
    else .complain .notBool (.int n)
  | .float x =>
    match x.toInt? with
    | some n =>
      if n = 0 then .valid false
      else if n = 1 then .valid true
      else if -wordLimit < n ∧ n < wordLimit then .complain .unclearBool (.float x)
      else .complain .notBool (.float x)
    | none => .complain .notBool (.float x)
  | .text s =>
    match boolWords.lookup (s.map Char.toLower) with
    | some b => .valid b
    | none => .complain .unclearBool (.text s)
  | value => .complain .notBool value

end Check

end CodePrint
