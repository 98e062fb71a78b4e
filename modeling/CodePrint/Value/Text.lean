import CodePrint.Number.Shortest
import CodePrint.Text.Quoted
import CodePrint.Value

/-! # The text of a value

Inside a list or a mapping a text is quoted; by itself it is shown bare. Null is `None` and the
truth values are capitalised.
-/

namespace CodePrint

namespace Scalar

/-- The text of a scalar, a text being quoted. -/
def quoted : Scalar → String
  | .null => "None"
  | .bool b => if b then "True" else "False"
  | .int n => toString n
  | .float x => x.text
  | .text s => Text.quoted s
  | .moment m => m.quoted

/-- The text of a scalar by itself. -/
def shown : Scalar → String
  | .text s => s
  | .moment m => m.shown
  | other => other.quoted

end Scalar

namespace Value

mutual

/-- The text of a value, a text being quoted. -/
def quoted : Value → String
  | .scalar s => s.quoted
  | .list items => "[" ++ ", ".intercalate (quotedItems items) ++ "]"
  | .mapping fields => "\x7b" ++ ", ".intercalate (quotedFields fields) ++ "\x7d"

/-- The texts of list items. -/
def quotedItems : List Value → List String
  | [] => []
  | item :: rest => item.quoted :: quotedItems rest

/-- The texts of mapping fields. -/
def quotedFields : List (Scalar × Value) → List String
  | [] => []
  | (key, value) :: rest => (key.quoted ++ ": " ++ value.quoted) :: quotedFields rest

end

/-- The text of a value, a text by itself being bare. -/
def shown : Value → String
  | .scalar s => s.shown
  | value => value.quoted

end Value

end CodePrint
