import CodePrint.Value

/-! # Reading JSON

A JSON text is read into a value. Whole numbers of any size stay whole; a number with a fraction or
an exponent is read as the nearest binary number; the words `NaN` and `Infinity` are numbers too. A
name given twice in an object keeps its first place and its last value.

The reader descends into the text with a bound on its steps. Each character is the first of the
remaining text in at most two steps, so twice the length of the text is enough.
-/

namespace CodePrint.Json

/-- The text after the blanks at its start. -/
def skipBlanks (text : List Char) : List Char :=
  text.dropWhile fun c => c == ' ' || c == '\t' || c == '\n' || c == '\r'

/-- The value of a hexadecimal digit. -/
def hexValue? (c : Char) : Option Nat :=
  if '0' ≤ c ∧ c ≤ '9' then some (c.toNat - '0'.toNat)
  else if 'a' ≤ c ∧ c ≤ 'f' then some (c.toNat - 'a'.toNat + 10)
  else if 'A' ≤ c ∧ c ≤ 'F' then some (c.toNat - 'A'.toNat + 10)
  else none

/-- The number that hexadecimal digits write. -/
def hexNumber? (digits : List Char) : Option Nat :=
  digits.foldlM (fun n c => (hexValue? c).map (16 * n + ·)) 0

/-- The character that a one-letter escape stands for. -/
def escaped? : Char → Option Char
  | '"' => some '"'
  | '\\' => some '\\'
  | '/' => some '/'
  | 'b' => some '\x08'
  | 'f' => some '\x0c'
  | 'n' => some '\n'
  | 'r' => some '\r'
  | 't' => some '\t'
  | _ => none

/-- The code units of a text up to its closing quote, and what follows the quote. -/
def readUnits : List Char → Option (List Nat × List Char)
  | [] => none
  | '"' :: rest => some ([], rest)
  | '\\' :: 'u' :: a :: b :: c :: d :: rest => do
    let unit ← hexNumber? [a, b, c, d]
    let (units, after) ← readUnits rest
    return (unit :: units, after)
  | '\\' :: letter :: rest => do
    let c ← escaped? letter
    let (units, after) ← readUnits rest
    return (c.toNat :: units, after)
  | c :: rest =>
    if c.toNat < 0x20 then none
    else do
      let (units, after) ← readUnits rest
      return (c.toNat :: units, after)

/-- The characters of code units. Two halves of a surrogate pair make one character; a half by
itself becomes the replacement character. -/
def joinUnits : List Nat → List Char
  | [] => []
  | high :: rest =>
    if 0xD800 ≤ high ∧ high < 0xDC00 then
      match rest with
      | low :: later =>
        if 0xDC00 ≤ low ∧ low < 0xE000 then
          Char.ofNat (0x10000 + (high - 0xD800) * 0x400 + (low - 0xDC00)) :: joinUnits later
        else '\ufffd' :: joinUnits (low :: later)
      | [] => ['\ufffd']
    else if 0xDC00 ≤ high ∧ high < 0xE000 then '\ufffd' :: joinUnits rest
    else Char.ofNat high :: joinUnits rest

/-- The number that decimal digits write. -/
def decimalNumber (digits : List Char) : Nat :=
  digits.foldl (fun n c => 10 * n + (c.toNat - '0'.toNat)) 0

/-- Digits at the start of a text, and the rest. -/
def spanDigits (text : List Char) : List Char × List Char :=
  text.span Char.isDigit

/-- The exponent part of a number: nothing, or a mark, a sign and digits. -/
def readExponent? : List Char → Option Int
  | [] => some 0
  | mark :: rest =>
    if mark = 'e' ∨ mark = 'E' then
      let (negative, digits) :=
        match rest with
        | '-' :: digits => (true, digits)
        | '+' :: digits => (false, digits)
        | digits => (false, digits)
      if digits.isEmpty || !digits.all Char.isDigit then none
      else
        let size : Int := decimalNumber digits
        some (if negative then -size else size)
    else none

/-- The number that a whole text writes, without its sign. -/
def readMagnitude? (negative : Bool) (text : List Char) : Option Value :=
  let (whole, rest) := spanDigits text
  if whole.isEmpty || (whole.head? == some '0' && whole.length != 1) then none
  else
    match rest with
    | [] =>
      let size : Int := decimalNumber whole
      some (.int (if negative then -size else size))
    | '.' :: rest =>
      let (fraction, rest) := spanDigits rest
      if fraction.isEmpty then none
      else
        (readExponent? rest).map fun power =>
          .float (.ofDecimal negative (decimalNumber (whole ++ fraction)) (power - fraction.length))
    | rest =>
      (readExponent? rest).map fun power => .float (.ofDecimal negative (decimalNumber whole) power)

/-- The number that a whole text writes. -/
def readNumber? : List Char → Option Value
  | '-' :: text => readMagnitude? true text
  | text => readMagnitude? false text

/-- The words that stand for values. -/
def wordValues : List (List Char × Value) :=
  [("null".toList, .null), ("true".toList, .bool true), ("false".toList, .bool false),
    ("NaN".toList, .float ⟨0x7FF8000000000000⟩),
    ("Infinity".toList, .float (.ofMagnitude false Binary64.infinite)),
    ("-Infinity".toList, .float (.ofMagnitude true Binary64.infinite))]

/-- The text after a word, if the text begins with it. -/
def dropWord? (word text : List Char) : Option (List Char) :=
  if word.isPrefixOf text then some (text.drop word.length) else none

/-- A value that is neither a text, a list nor an object. -/
def readAtom? (text : List Char) : Option (Value × List Char) :=
  match wordValues.findSome? fun (word, value) => (dropWord? word text).map (value, ·) with
  | some found => some found
  | none =>
    let (number, rest) :=
      text.span fun c => c.isDigit || c == '-' || c == '+' || c == '.' || c == 'e' || c == 'E'
    (readNumber? number).map (·, rest)

mutual

/-- A value at the start of a text that begins with no blank. -/
def readValue? : (fuel : Nat) → List Char → Option (Value × List Char)
  | 0, _ => none
  | fuel + 1, text =>
    match text with
    | '"' :: rest => (readUnits rest).map fun (units, after) =>
      (.text (String.ofList (joinUnits units)), after)
    | '[' :: rest =>
      match skipBlanks rest with
      | ']' :: after => some (.list [], after)
      | rest => (readItems? fuel rest).map fun (items, after) => (.list items, after)
    | '{' :: rest =>
      match skipBlanks rest with
      | '}' :: after => some (.mapping [], after)
      | rest => (readFields? fuel [] rest).map fun (fields, after) => (.mapping fields, after)
    | rest => readAtom? rest

/-- The items of a list, from an item to the closing bracket. -/
def readItems? : (fuel : Nat) → List Char → Option (List Value × List Char)
  | 0, _ => none
  | fuel + 1, text => do
    let (item, rest) ← readValue? fuel text
    match skipBlanks rest with
    | ',' :: rest =>
      let (items, after) ← readItems? fuel (skipBlanks rest)
      return (item :: items, after)
    | ']' :: after => return ([item], after)
    | _ => none

/-- The fields of an object, from a name to the closing brace, added to those already read. -/
def readFields? : (fuel : Nat) → Fields → List Char → Option (Fields × List Char)
  | 0, _, _ => none
  | fuel + 1, fields, text =>
    match text with
    | '"' :: rest => do
      let (units, rest) ← readUnits rest
      let name := String.ofList (joinUnits units)
      match skipBlanks rest with
      | ':' :: rest =>
        let (value, rest) ← readValue? fuel (skipBlanks rest)
        let fields := fields.put name value
        match skipBlanks rest with
        | ',' :: rest => readFields? fuel fields (skipBlanks rest)
        | '}' :: after => return (fields, after)
        | _ => none
      | _ => none
    | _ => none

end

/-- The value of a JSON text, if it is one. -/
def read? (text : String) : Option Value :=
  let chars := text.toList
  match readValue? (2 * chars.length + 2) (skipBlanks chars) with
  | some (value, rest) => if (skipBlanks rest).isEmpty then some value else none
  | none => none

end CodePrint.Json
