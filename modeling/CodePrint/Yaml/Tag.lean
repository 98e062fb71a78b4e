import CodePrint.Text.Blank
import CodePrint.Text.Lower
import CodePrint.Yaml.Scalar

/-! # Tags of YAML

A tag says what a node stands for, whatever it looks like. A scalar with a tag is read more freely
than one without: spaces around a number do not count, and a number may be written in more ways. The
tags for octets, for sets and for lists of pairs are among those that no value is known for.
-/

namespace CodePrint.Yaml

/-- What a node is said to stand for. -/
inductive Tag where
  | null
  | bool
  | int
  | float
  | moment
  | text
  | sequence
  | mapping
  /-- As a key: other mappings are merged into the mapping. -/
  | merge
  /-- As a key: a default, under its own text. -/
  | default
  /-- A tag without a name: the node is read as if it had no tag and no quotes. -/
  | unspecific
  /-- Any tag for which no value is known. -/
  | other
deriving DecidableEq, Repr

namespace Tag

/-- What the names of all known tags begin with. -/
def knownStart : String :=
  "tag:yaml.org,2002:"

/-- The known tags by the ends of their names. -/
def known : List (String × Tag) :=
  [("null", .null), ("bool", .bool), ("int", .int), ("float", .float), ("timestamp", .moment),
    ("str", .text), ("seq", .sequence), ("map", .mapping), ("merge", .merge), ("value", .default)]

/-- The tag with a full name. -/
def ofName (name : String) : Tag :=
  if name = "!" then .unspecific
  else ((known.find? fun (word, _) => knownStart ++ word == name).map (·.2)).getD .other

end Tag

/-- The mark that may stand in front of the digits of a base. -/
def baseMark? : (base : Nat) → Option Char
  | 2 => some 'b'
  | 8 => some 'o'
  | 16 => some 'x'
  | _ => none

/-- The digits without the mark of their base. -/
def withoutBaseMark (base : Nat) : List Char → List Char
  | '0' :: mark :: digits =>
    if baseMark? base == some mark.toLower then digits else '0' :: mark :: digits
  | digits => digits

/-- The whole number that a text writes in a base, with blanks around it, a sign and the mark of the
base where it has them. -/
def wholeIn (base : Nat) (text : List Char) : Except Refusal Int :=
  let (negative, size) := splitSign (Text.trim text)
  let digits := withoutBaseMark base size
  let isDigit (c : Char) : Bool := (Json.hexValue? c).any fun value => decide (value < base)
  if digits.isEmpty || !digits.all isDigit then .error (.notWhole base (String.ofList text))
  else
    let size : Int := numberIn base digits
    .ok (if negative then -size else size)

/-- The number that whole places in base sixty make, the highest place first. -/
def wholeInSixties (places : List (List Char)) : Except Refusal Int := do
  let places ← places.mapM (wholeIn 10)
  return places.foldl (fun n place => 60 * n + place) 0

/-- The whole number that a text is tagged to be. A sign in front of it is taken off first, and what
is left says the base. -/
def taggedWhole (text : List Char) : Except Refusal Int := do
  let (negative, size) := splitSign (ungrouped text)
  let size ←
    match size with
    | [] => .error .nothingWritten
    | ['0'] => .ok 0
    | '0' :: 'b' :: digits => wholeIn 2 digits
    | '0' :: 'x' :: digits => wholeIn 16 digits
    | '0' :: _ => wholeIn 8 size
    | _ => if size.contains ':' then wholeInSixties (splitColons size) else wholeIn 10 size
  return if negative then -size else size

/-- The number that a text writes in decimals. It may have a sign, and blanks around it. -/
def decimalNumber? (text : List Char) : Option Binary64 :=
  let (negative, size) := splitSign (Text.trim text)
  let word := String.ofList size
  if word = "inf" ∨ word = "infinity" then some (.ofMagnitude negative Binary64.infinite)
  else if word = "nan" then some .nan
  else
    let (whole, rest) := Json.spanDigits size
    let (fraction, rest) :=
      match rest with
      | '.' :: rest => Json.spanDigits rest
      | rest => ([], rest)
    if whole.isEmpty && fraction.isEmpty then none
    else
      (Json.readExponent? rest).map fun power =>
        .ofDecimal negative (Json.decimalNumber (whole ++ fraction)) (power - fraction.length)

/-- The decimal number that a text writes. -/
def readDecimal (text : List Char) : Except Refusal Binary64 :=
  match decimalNumber? text with
  | some x => .ok x
  | none => .error (.notNumber (String.ofList text))

/-- The number that a text is tagged to be, in small letters. A sign in front of it is taken off
first. -/
def taggedNumber (text : List Char) : Except Refusal Binary64 := do
  if text.isEmpty then throw .nothingWritten
  let (negative, size) := splitSign text
  let size ←
    if size = ['.', 'i', 'n', 'f'] then .ok (.ofMagnitude false Binary64.infinite)
    else if size = ['.', 'n', 'a', 'n'] then .ok .nan
    else if size.contains ':' then do
      let places ← (splitColons size).mapM readDecimal
      pure (sumOfSixties places.reverse)
    else readDecimal size
  return if negative then size.negate else size

/-- The truth value that a text is tagged to be; the case of its letters does not count. -/
def taggedTruth (text : List Char) : Except Refusal Bool :=
  let word := Text.lower (String.ofList text)
  if word ∈ trueWords then .ok true
  else if word ∈ falseWords then .ok false
  else .error (.notTruth word)

/-- The moment that a text is tagged to be, but for one line end behind it. The month and the day
may have one digit. -/
def taggedMoment (text : List Char) : Except Refusal Moment :=
  let text := if text.getLast? = some '\n' then text.dropLast else text
  match moment? 1 text with
  | none => .error .notMoment
  | some moment =>
    match moment.fault? with
    | some fault => .error (.noMoment fault)
    | none => .ok moment

/-- What a text with a tag stands for. -/
def Tag.scalar (text : List Char) : Tag → Except Refusal Scalar
  | .null => .ok .null
  | .bool => (taggedTruth text).map .bool
  | .int => (taggedWhole text).map .int
  | .float => (taggedNumber (ungrouped (Text.lower (String.ofList text)).toList)).map .float
  | .moment => (taggedMoment text).map .moment
  | .text => .ok (.text (String.ofList text))
  | .sequence | .mapping | .merge | .default | .unspecific | .other => .error .malformed

end CodePrint.Yaml
