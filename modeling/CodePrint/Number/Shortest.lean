import CodePrint.Number.Binary64

/-! # Shortest decimal text

The text of a finite number has the fewest digits that read back as the same number, and among
those the nearest ones. It is positional while the decimal point stands at most four places before
and at most sixteen places behind the first digit, and scientific otherwise.
-/

namespace CodePrint.Binary64

/-- The reals that read back as `m * 2 ^ q`, in quarters of `2 ^ q`: the two ends and whether they
belong to it. -/
structure Rounding where
  low : Nat
  high : Nat
  closed : Bool

/-- The rounding interval of a positive finite number. It is narrower below a power of two. -/
def rounding (x : Binary64) : Rounding :=
  let m := x.significand
  let below := if m = exponentUnit ∧ -1074 < x.exponent then 1 else 2
  ⟨4 * m - below, 4 * m + 2, m % 2 = 0⟩

/-- Whether `candidate * 10 ^ power` lies in the rounding interval. -/
def readsBack (x : Binary64) (candidate : Nat) (power : Int) : Bool :=
  let interval := x.rounding
  let (value, unit) := scaleRatio 10 power candidate 1
  let (num, den) := scaleRatio 2 (2 - x.exponent) value unit
  let low := interval.low * den
  let high := interval.high * den
  if interval.closed then low ≤ num && num ≤ high else low < num && num < high

/-- The least `k` with `x < 10 ^ k`, for a positive finite number. -/
def decimalPoint (x : Binary64) : Int :=
  let (num, den) := scaleRatio 2 x.exponent x.significand 1
  let below (k : Int) : Bool :=
    let (power, unit) := scaleRatio 10 k den 1
    num * unit < power
  let exponents : List Int := (List.range 700).map fun (i : Nat) => (i : Int) - 340
  (exponents.find? below).getD 0

/-- The decimal of `count` digits that reads back and is nearest, if there is one. -/
def decimalOf? (x : Binary64) (point : Int) (count : Nat) : Option Nat :=
  let power := point - count
  let (value, unit) := scaleRatio 2 x.exponent x.significand 1
  let (num, den) := scaleRatio 10 (-power) value unit
  let floor := num / den
  let nearest := divideToEven num den
  let other := if nearest = floor then floor + 1 else floor
  if x.readsBack nearest power then some nearest
  else if x.readsBack other power then some other
  else none

/-- The fewest digits that read back, with the power of ten of the last one. -/
def shortest (x : Binary64) : Nat × Int :=
  let point := x.decimalPoint
  let counts := (List.range 17).map (· + 1)
  match counts.findSome? fun count => (x.decimalOf? point count).map (·, count) with
  | some (digits, count) => (digits, point - count)
  | none => (x.significand, x.exponent)

/-- The digits without zeros at the end, the power of ten grown by as many. -/
def dropZeros (digits : List Char) (power : Int) : List Char × Int :=
  let kept := (digits.reverse.dropWhile (· == '0')).reverse
  (kept, power + (digits.length - kept.length : Nat))

/-- Digits with the decimal point after the first `point` of them. -/
def positional (digits : List Char) (point : Int) : List Char :=
  if point ≤ 0 then '0' :: '.' :: List.replicate (-point).toNat '0' ++ digits
  else if digits.length ≤ point.toNat then
    digits ++ List.replicate (point.toNat - digits.length) '0' ++ ['.', '0']
  else digits.take point.toNat ++ '.' :: digits.drop point.toNat

/-- Digits with the point after the first and a signed exponent of at least two digits. -/
def scientific (digits : List Char) (point : Int) : List Char :=
  let exponent := point - 1
  let size := Nat.toDigits 10 exponent.natAbs
  let tail := (if exponent < 0 then ['e', '-'] else ['e', '+']) ++
    (if size.length < 2 then '0' :: size else size)
  match digits with
  | [] => tail
  | [digit] => digit :: tail
  | digit :: rest => digit :: '.' :: rest ++ tail

/-- The text of the absolute value of a finite number. -/
def magnitudeText (x : Binary64) : List Char :=
  if x.magnitude = 0 then ['0', '.', '0']
  else
    let (digits, power) := x.shortest
    let (kept, power) := dropZeros (Nat.toDigits 10 digits) power
    let point := kept.length + power
    if -4 < point ∧ point ≤ 16 then positional kept point else scientific kept point

/-- The text of a number. -/
def text (x : Binary64) : String :=
  if infinite < x.magnitude then "nan"
  else
    let body := if x.isFinite then x.magnitudeText else ['i', 'n', 'f']
    String.ofList (if x.isNegative then '-' :: body else body)

end CodePrint.Binary64
