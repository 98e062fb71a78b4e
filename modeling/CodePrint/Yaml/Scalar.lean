import CodePrint.Text.Quoted
import CodePrint.Yaml.Timestamp

/-! # Plain scalars of YAML

What a scalar without quotes stands for: a truth value, a number, a moment, nothing, or else its own
text. Whole numbers may be binary, octal, hexadecimal or in base sixty, and digits may be grouped
with underscores. Some scalars have the form of a value but stand for none.
-/

namespace CodePrint.Yaml

/-- Why a text is refused. -/
inductive Refusal where
  /-- The text is not well formed. -/
  | malformed
  /-- A text is no whole number in a base. -/
  | notWhole (base : Nat) (text : String)
  /-- A text is no number. -/
  | notNumber (text : String)
  /-- A number is to be read where nothing is written. -/
  | nothingWritten
  /-- A word stands for no truth value. -/
  | notTruth (word : String)
  /-- A text has not the form of a moment. -/
  | notMoment
  /-- There is no such moment. -/
  | noMoment (fault : MomentFault)
  /-- An escape names no character. -/
  | noCharacter
deriving DecidableEq, Repr

/-- Why a text is refused, in words. A text that is no whole number is shown up to a length. -/
def Refusal.message : Refusal → String
  | .malformed => "<yaml error>"
  | .notWhole base text =>
    let shown := String.ofList ((Text.quoted text).toList.take 200)
    s!"invalid literal for int() with base {base}: {shown}"
  | .notNumber text => "could not convert string to float: " ++ Text.quoted text
  | .nothingWritten => "string index out of range"
  | .notTruth word => Text.quoted word
  | .notMoment => "'NoneType' object has no attribute 'groupdict'"
  | .noMoment fault => fault.message
  | .noCharacter => "chr() arg not in range(0x110000)"

/-- A word in small letters, capitalised, and in capitals. -/
def casings (small capitalised capitals : String) : List String :=
  [small, capitalised, capitals]

/-- The words for truth. -/
def trueWords : List String :=
  casings "yes" "Yes" "YES" ++ casings "true" "True" "TRUE" ++ casings "on" "On" "ON"

/-- The words for falsehood. -/
def falseWords : List String :=
  casings "no" "No" "NO" ++ casings "false" "False" "FALSE" ++ casings "off" "Off" "OFF"

/-- The words for nothing; no word at all is one of them. -/
def nullWords : List String :=
  "" :: "~" :: casings "null" "Null" "NULL"

/-- The sign in front of a number, and the rest. -/
def splitSign : List Char → Bool × List Char
  | '-' :: rest => (true, rest)
  | '+' :: rest => (false, rest)
  | rest => (false, rest)

/-- The text without its underscores. -/
def ungrouped (digits : List Char) : List Char :=
  digits.filter (· != '_')

/-- The number that digits write in a base. -/
def numberIn (base : Nat) (digits : List Char) : Nat :=
  (ungrouped digits).foldl (fun n c => base * n + (Json.hexValue? c).getD 0) 0

/-- Digits of a base, perhaps grouped, at least one character. -/
def areDigits (base : Nat) (digits : List Char) : Bool :=
  !digits.isEmpty &&
    digits.all fun c => c == '_' || (Json.hexValue? c).any fun value => decide (value < base)

/-- The pieces of a text between colons. -/
def splitColons : List Char → List (List Char)
  | [] => [[]]
  | c :: rest =>
    match splitColons rest with
    | [] => [[c]]
    | piece :: pieces => if c = ':' then [] :: piece :: pieces else (c :: piece) :: pieces

/-- A place of a number in base sixty, written with one or two decimal digits. -/
def isSixtieth : List Char → Bool
  | [a] => a.isDigit
  | [a, b] => '0' ≤ a && a ≤ '5' && b.isDigit
  | _ => false

/-- The number that places in base sixty write. -/
def numberInSixties (places : List (List Char)) : Nat :=
  places.foldl (fun n place => 60 * n + numberIn 10 place) 0

/-- A whole number without its sign. -/
def wholeNumber? (text : List Char) : Option Nat :=
  match text with
  | '0' :: 'b' :: digits => if areDigits 2 digits then some (numberIn 2 digits) else none
  | '0' :: 'x' :: digits => if areDigits 16 digits then some (numberIn 16 digits) else none
  | ['0'] => some 0
  | '0' :: digits => if areDigits 8 digits then some (numberIn 8 digits) else none
  | first :: _ =>
    if !first.isDigit then none
    else if areDigits 10 text then some (numberIn 10 text)
    else
      match splitColons text with
      | head :: places =>
        if areDigits 10 head && !places.isEmpty && places.all isSixtieth then
          some (numberInSixties (head :: places))
        else none
      | [] => none
  | [] => none

/-- The base of a number that has the mark of a base and no digits. -/
def digitlessBase? : List Char → Option Nat
  | '0' :: 'b' :: digits => if !digits.isEmpty && (ungrouped digits).isEmpty then some 2 else none
  | '0' :: 'x' :: digits => if !digits.isEmpty && (ungrouped digits).isEmpty then some 16 else none
  | _ => none

/-- The exponent of a broken number: nothing, or a mark, a sign and digits. -/
def exponent? : List Char → Option Int
  | [] => some 0
  | mark :: sign :: digits =>
    if (mark == 'e' || mark == 'E') && (sign == '-' || sign == '+') && !digits.isEmpty &&
        digits.all Char.isDigit then
      let size : Int := Json.decimalNumber digits
      some (if sign = '-' then -size else size)
    else none
  | _ => none

/-- A decimal digit or the underscore between groups of them. -/
def isGroupedDigit (c : Char) : Bool :=
  c.isDigit || c == '_'

/-- Whether a text begins with a digit. -/
def beginsWithDigit (text : List Char) : Bool :=
  text.head?.any Char.isDigit

/-- A broken number: digits around a point and perhaps an exponent. One that begins with its point
has no sign. -/
def brokenNumber? (text : List Char) : Option Binary64 :=
  let (negative, size) := splitSign text
  let (whole, rest) := size.span isGroupedDigit
  match rest with
  | '.' :: rest =>
    let (fraction, rest) := rest.span isGroupedDigit
    if beginsWithDigit whole ||
        (text.head? == some '.' && whole.isEmpty && beginsWithDigit fraction) then
      let places := ungrouped fraction
      (exponent? rest).map fun power =>
        .ofDecimal negative (Json.decimalNumber (ungrouped whole ++ places)) (power - places.length)
    else none
  | _ => none

/-- The last place of a broken number in base sixty: a place, a point and decimal digits. -/
def brokenSixtieth? (text : List Char) : Option Binary64 :=
  let (place, rest) := text.span (· != '.')
  match rest with
  | '.' :: fraction =>
    if isSixtieth place && fraction.all isGroupedDigit then
      let places := ungrouped fraction
      some (.ofDecimal false (Json.decimalNumber (place ++ places)) (-places.length))
    else none
  | _ => none

/-- The number that places in base sixty make, the lowest place first. Every product and every sum
is rounded. -/
def sumOfSixties (places : List Binary64) : Binary64 :=
  let step (state : Binary64 × Nat) (place : Binary64) : Binary64 × Nat :=
    let (sum, unit) := state
    (sum.add (place.multiply (.ofRatio false unit 1)), 60 * unit)
  (places.foldl step (.ofMagnitude false 0, 1)).1

/-- A broken number in base sixty. -/
def brokenSixties? (text : List Char) : Option Binary64 :=
  let (negative, size) := splitSign text
  match splitColons size with
  | head :: places =>
    match places.reverse with
    | last :: middle =>
      if beginsWithDigit head && head.all isGroupedDigit && middle.all isSixtieth then
        (brokenSixtieth? last).map fun last =>
          let whole := (middle ++ [head]).map fun place =>
            Binary64.ofDecimal false (Json.decimalNumber (ungrouped place)) 0
          let size := sumOfSixties (last :: whole)
          if negative then size.negate else size
      else none
    | [] => none
  | [] => none

/-- The words for numbers that are not finite, without their sign. -/
def infinityWords : List String :=
  casings ".inf" ".Inf" ".INF"

/-- The words for what is no number. -/
def nanWords : List String :=
  casings ".nan" ".NaN" ".NAN"

/-- The number that a scalar writes. -/
def number? (text : List Char) : Option Scalar :=
  let (negative, size) := splitSign text
  match wholeNumber? size with
  | some n => some (.int (if negative then -(n : Int) else n))
  | none =>
    if String.ofList size ∈ infinityWords then
      some (.float (.ofMagnitude negative Binary64.infinite))
    else if String.ofList text ∈ nanWords then some (.float .nan)
    else ((brokenNumber? text).or (brokenSixties? text)).map .float

/-- What a plain scalar stands for. -/
def plainScalar (text : List Char) : Except Refusal Scalar :=
  let word := String.ofList text
  if word ∈ nullWords then .ok .null
  else if word ∈ trueWords then .ok (.bool true)
  else if word ∈ falseWords then .ok (.bool false)
  else
    match digitlessBase? (splitSign text).2, number? text, moment? 2 text with
    | some base, _, _ => .error (.notWhole base "")
    | none, some number, _ => .ok number
    | none, none, some moment =>
      match moment.fault? with
      | some fault => .error (.noMoment fault)
      | none => .ok (.moment moment)
    | none, none, none => .ok (.text word)

end CodePrint.Yaml
