import CodePrint.Text.LowerTable

/-! # Lower-casing

Each letter becomes its lower-case letter. Two capitals need care: the dotted capital `İ` becomes an
`i` with a combining dot, and a capital sigma becomes the final sigma when a letter stands before it
and none after it.
-/

namespace CodePrint.Text

/-- Whether a code point lies in one of the ranges, ends included. -/
def inRanges (ranges : Array (Nat × Nat)) (c : Char) : Bool :=
  ranges.any fun (first, last) => first ≤ c.toNat && c.toNat ≤ last

/-- The first character that is not passed over has case. -/
def facesLetter (neighbours : List Char) : Bool :=
  match neighbours.dropWhile (inRanges passedOverRanges) with
  | [] => false
  | c :: _ => inRanges casedRanges c

/-- The lower-case form of a letter, whatever stands around it. -/
def lowerLetter (c : Char) : List Char :=
  if c = 'İ' then ['i', '\u0307']
  else
    match caseRuns.find? (·.covers c.toNat) with
    | some run => [Char.ofNat (c.toNat + run.distance).toNat]
    | none => [c]

/-- The lower-case form of a text, given the characters before it, nearest first. -/
def lowerAfter (before : List Char) : List Char → List Char
  | [] => []
  | c :: rest =>
    let letter :=
      if c = 'Σ' then [if facesLetter before && !facesLetter rest then 'ς' else 'σ']
      else lowerLetter c
    letter ++ lowerAfter (c :: before) rest

/-- The lower-case form of a string. -/
def lower (text : String) : String :=
  String.ofList (lowerAfter [] text.toList)

end CodePrint.Text
