import CodePrint.Number.Shortest
import CodePrint.Text.Quoted
import CodePrint.Value

/-! # Writing JSON

A value is written on one line, in ASCII, with the names of every object in order and a space after
each comma and colon.
-/

namespace CodePrint.Json

/-- The escape of one sixteen-bit unit. -/
def unitEscape (unit : Nat) : List Char :=
  '\\' :: 'u' :: Text.hexDigits 4 unit

/-- A character inside a JSON text. Outside the basic plane it is written as a surrogate pair. -/
def textChar (c : Char) : List Char :=
  if c = '"' then ['\\', '"']
  else if c = '\\' then ['\\', '\\']
  else if c = '\n' then ['\\', 'n']
  else if c = '\r' then ['\\', 'r']
  else if c = '\t' then ['\\', 't']
  else if c = '\x08' then ['\\', 'b']
  else if c = '\x0c' then ['\\', 'f']
  else if 0x20 ≤ c.toNat ∧ c.toNat < 0x7F then [c]
  else if c.toNat < 0x10000 then unitEscape c.toNat
  else
    let offset := c.toNat - 0x10000
    unitEscape (0xD800 + offset / 0x400) ++ unitEscape (0xDC00 + offset % 0x400)

/-- A text between double quotes. -/
def writeText (text : String) : String :=
  String.ofList ('"' :: text.toList.flatMap textChar ++ ['"'])

/-- A number; the values that are not finite are words. -/
def writeNumber (x : Binary64) : String :=
  if x.isFinite then x.text
  else if Binary64.infinite < x.magnitude then "NaN"
  else if x.isNegative then "-Infinity" else "Infinity"

/-- Named texts in the order of their names. -/
def sortByName (fields : List (String × String)) : List (String × String) :=
  fields.mergeSort fun a b => decide (a.1 ≤ b.1)

/-- The word for a scalar, before a text is put between quotes. -/
def word : Scalar → String
  | .null => "null"
  | .bool b => if b then "true" else "false"
  | .int n => toString n
  | .float x => writeNumber x
  | .text s => s
  | .moment m => m.shown

/-- The JSON text of a scalar; a moment is written as a text. -/
def writeScalar : Scalar → String
  | .text s => writeText s
  | .moment m => writeText m.shown
  | other => word other

mutual

/-- The JSON text of a value. -/
def write : Value → String
  | .scalar s => writeScalar s
  | .list items => "[" ++ ", ".intercalate (writeItems items) ++ "]"
  | .mapping fields =>
    let named := (sortByName (writeFields fields)).map fun (name, text) =>
      writeText name ++ ": " ++ text
    "\x7b" ++ ", ".intercalate named ++ "\x7d"

/-- The JSON texts of list items. -/
def writeItems : List Value → List String
  | [] => []
  | item :: rest => write item :: writeItems rest

/-- The JSON texts of mapping fields, with their names. -/
def writeFields : List (Scalar × Value) → List (String × String)
  | [] => []
  | (key, value) :: rest => (word key, write value) :: writeFields rest

end

end CodePrint.Json
