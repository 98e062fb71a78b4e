/-! # Binary floating-point numbers

A number of the 64-bit binary format is kept as its bits. A decimal is read as the nearest such
number, a tie going to the even neighbour, in exact arithmetic on natural numbers.
-/

namespace CodePrint

/-- A number of the 64-bit binary format, by its bits: sign, eleven of exponent, fifty-two of
fraction. -/
structure Binary64 where
  bits : UInt64
deriving DecidableEq, Repr

namespace Binary64

/-- The place of the sign, `2 ^ 63`. -/
def signUnit : Nat :=
  0x8000000000000000

/-- The place of the exponent, `2 ^ 52`. -/
def exponentUnit : Nat :=
  0x10000000000000

/-- The bits without the sign. -/
def magnitude (x : Binary64) : Nat :=
  x.bits.toNat % signUnit

/-- The sign bit. -/
def isNegative (x : Binary64) : Bool :=
  signUnit ≤ x.bits.toNat

/-- The magnitude of the infinities. -/
def infinite : Nat :=
  2047 * exponentUnit

/-- Neither an infinity nor a not-a-number. -/
def isFinite (x : Binary64) : Bool :=
  x.magnitude < infinite

/-- The whole number `m` in the value `m * 2 ^ q` of a finite number. -/
def significand (x : Binary64) : Nat :=
  let fraction := x.magnitude % exponentUnit
  if x.magnitude < exponentUnit then fraction else fraction + exponentUnit

/-- The exponent `q` in the value `m * 2 ^ q` of a finite number. -/
def exponent (x : Binary64) : Int :=
  max (x.magnitude / exponentUnit : Nat) 1 - 1075

/-- The number with the given sign and magnitude. -/
def ofMagnitude (negative : Bool) (magnitude : Nat) : Binary64 :=
  ⟨UInt64.ofNat (if negative then magnitude + signUnit else magnitude)⟩

/-- The whole number nearest to `num / den`, a tie going to the even one. -/
def divideToEven (num den : Nat) : Nat :=
  let quotient := num / den
  let rest := num % den
  if 2 * rest > den || (2 * rest == den && quotient % 2 == 1) then quotient + 1 else quotient

/-- `base ^ power` above the bar for a positive power, below it for a negative one. -/
def scaleRatio (base : Nat) (power : Int) (num den : Nat) : Nat × Nat :=
  if 0 ≤ power then (num * Nat.pow base power.toNat, den)
  else (num, den * Nat.pow base (-power).toNat)

/-- The greatest `e` with `2 ^ e ≤ num / den`, for positive `num` and `den`. -/
def floorLog (num den : Nat) : Int :=
  let guess : Int := (num.log2 : Int) - den.log2
  let (low, high) := scaleRatio 2 guess den num
  if low ≤ high then guess else guess - 1

/-- The magnitude of the number nearest to `num / den`; too large a ratio is infinite. -/
def nearestMagnitude (num den : Nat) : Nat :=
  if num = 0 then 0
  else
    let unit := max (floorLog num den - 52) (-1074)
    let (scaled, divisor) := scaleRatio 2 (-unit) num den
    min infinite ((unit + 1074).toNat * exponentUnit + divideToEven scaled divisor)

/-- The number nearest to `num / den`. -/
def ofRatio (negative : Bool) (num den : Nat) : Binary64 :=
  ofMagnitude negative (nearestMagnitude num den)

/-- How many decimal digits a number has. -/
def decimalSize (n : Nat) : Nat :=
  (Nat.toDigits 10 n).length

/-- The number nearest to `digits * 10 ^ power`. Decimals far outside the range of the format are
settled by their size alone. -/
def ofDecimal (negative : Bool) (digits : Nat) (power : Int) : Binary64 :=
  let size := decimalSize digits + power
  if digits = 0 ∨ size < -400 then ofMagnitude negative 0
  else if 400 < size then ofMagnitude negative infinite
  else
    let (num, den) := scaleRatio 10 power digits 1
    ofRatio negative num den

/-- What is no number. -/
def nan : Binary64 :=
  ⟨0x7FF8000000000000⟩

/-- Whether a number is none. -/
def isNan (x : Binary64) : Bool :=
  infinite < x.magnitude

/-- The size of a finite number as a ratio. -/
def sizeRatio (x : Binary64) : Nat × Nat :=
  scaleRatio 2 x.exponent x.significand 1

/-- The number with the other sign. -/
def negate (x : Binary64) : Binary64 :=
  ofMagnitude (!x.isNegative) x.magnitude

/-- The value of a finite number as a ratio. -/
def ratio (x : Binary64) : Int × Nat :=
  let (num, den) := x.sizeRatio
  (if x.isNegative then -num else num, den)

/-- The number nearest to the sum of two numbers. Infinities of different signs have none, and a sum
of zero is negative only if both numbers are. -/
def add (x y : Binary64) : Binary64 :=
  if x.isNan || y.isNan then nan
  else if !x.isFinite then
    if y.isFinite || x.isNegative == y.isNegative then x else nan
  else if !y.isFinite then y
  else
    let (a, b) := x.ratio
    let (c, d) := y.ratio
    let sum := a * d + c * b
    let negative := decide (sum < 0) || (sum == 0 && x.isNegative && y.isNegative)
    ofRatio negative sum.natAbs (b * d)

/-- The number nearest to the product of two numbers. An infinity and zero have none. -/
def multiply (x y : Binary64) : Binary64 :=
  let negative := x.isNegative != y.isNegative
  if x.isNan || y.isNan then nan
  else if x.isFinite && y.isFinite then
    let (a, b) := x.sizeRatio
    let (c, d) := y.sizeRatio
    ofRatio negative (a * c) (b * d)
  else if x.magnitude == 0 || y.magnitude == 0 then nan
  else ofMagnitude negative infinite

/-- The whole number that a finite number is, if it is one. -/
def toInt? (x : Binary64) : Option Int :=
  if x.isFinite then
    let (num, den) := x.sizeRatio
    if num % den = 0 then
      let whole : Int := num / den
      some (if x.isNegative then -whole else whole)
    else none
  else none

end Binary64

end CodePrint
