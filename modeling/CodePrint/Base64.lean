/-! # Base64

Octets are written six bits to a character, without padding. A text is completed with padding before
it is read, and reading is strict: characters of the alphabet, then the padding that ends the last
group of four. Bits that the last character has beyond the last octet are ignored.
-/

namespace CodePrint.Base64

/-- The character of a six-bit number. -/
def digit (n : Nat) : Char :=
  if n < 26 then Char.ofNat ('A'.toNat + n)
  else if n < 52 then Char.ofNat ('a'.toNat + (n - 26))
  else if n < 62 then Char.ofNat ('0'.toNat + (n - 52))
  else if n = 62 then '+'
  else '/'

/-- The six-bit number of a character of the alphabet. -/
def value? (c : Char) : Option Nat :=
  if 'A' ≤ c ∧ c ≤ 'Z' then some (c.toNat - 'A'.toNat)
  else if 'a' ≤ c ∧ c ≤ 'z' then some (c.toNat - 'a'.toNat + 26)
  else if '0' ≤ c ∧ c ≤ '9' then some (c.toNat - '0'.toNat + 52)
  else if c = '+' then some 62
  else if c = '/' then some 63
  else none

/-- The characters of octets: four for three of them, three for two, two for one. -/
def encode : List UInt8 → List Char
  | [] => []
  | [a] => [digit (a.toNat / 4), digit (a.toNat % 4 * 16)]
  | [a, b] =>
    [digit (a.toNat / 4), digit (a.toNat % 4 * 16 + b.toNat / 16), digit (b.toNat % 16 * 4)]
  | a :: b :: c :: rest =>
    digit (a.toNat / 4) :: digit (a.toNat % 4 * 16 + b.toNat / 16) ::
      digit (b.toNat % 16 * 4 + c.toNat / 64) :: digit (c.toNat % 64) :: encode rest

/-- The octets of six-bit numbers. -/
def octets : List Nat → List UInt8
  | a :: b :: c :: d :: rest =>
    UInt8.ofNat (a * 4 + b / 16) :: UInt8.ofNat (b % 16 * 16 + c / 4) ::
      UInt8.ofNat (c % 4 * 64 + d) :: octets rest
  | [a, b, c] => [UInt8.ofNat (a * 4 + b / 16), UInt8.ofNat (b % 16 * 16 + c / 4)]
  | [a, b] => [UInt8.ofNat (a * 4 + b / 16)]
  | _ => []

/-- The text with the padding that completes its last group of four. -/
def complete (text : List Char) : List Char :=
  text ++ List.replicate ((4 - text.length % 4) % 4) '='

/-- Whether what is left of a text may close it after `count` characters of the alphabet, when
`seen` padding characters were read. Padding never comes first, and nothing follows the padding that
completes a group; after whole groups any number is passed over. -/
def closes (count seen : Nat) : List Char → Bool
  | [] => count % 4 == 0
  | c :: rest =>
    if c ≠ '=' ∨ count = 0 then false
    else if 2 ≤ count % 4 ∧ 4 ≤ count % 4 + (seen + 1) then rest.isEmpty
    else closes count (seen + 1) rest

/-- The six-bit numbers of a text, read strictly when `count` of them were read before. -/
def numbers? (count : Nat) : List Char → Option (List Nat)
  | [] => if closes count 0 [] then some [] else none
  | c :: rest =>
    match value? c with
    | some n => (numbers? (count + 1) rest).map (n :: ·)
    | none => if closes count 0 (c :: rest) then some [] else none

/-- The octets that a text writes, if it is well formed once its padding is completed. -/
def decode? (text : List Char) : Option (List UInt8) :=
  (numbers? 0 (complete text)).map octets

end CodePrint.Base64
