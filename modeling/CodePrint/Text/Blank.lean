/-! # Blank characters and words

A blank character separates words: it is a white-space character of the Unicode standard or one of
the four information separators. A text is read as the list of its *words*, its maximal runs of
characters that are not blank. Collapsing writes the words again with one space between neighbours.
-/

namespace CodePrint.Text

/-- A character that separates words. -/
def isBlank (c : Char) : Bool :=
  let code := c.toNat
  (0x09 ≤ code && code ≤ 0x0D) || (0x1C ≤ code && code ≤ 0x20) || code == 0x85 || code == 0xA0 ||
    code == 0x1680 || (0x2000 ≤ code && code ≤ 0x200A) || code == 0x2028 || code == 0x2029 ||
    code == 0x202F || code == 0x205F || code == 0x3000

/-- The maximal runs of characters that are not blank, in order. -/
def words : List Char → List (List Char)
  | [] => []
  | c :: rest =>
    if isBlank c then words rest
    else
      match rest, words rest with
      | next :: _, word :: later =>
        if isBlank next then [c] :: word :: later else (c :: word) :: later
      | _, later => [c] :: later

/-- The text without the blanks before its first word and after its last. -/
def trim (text : List Char) : List Char :=
  ((text.dropWhile isBlank).reverse.dropWhile isBlank).reverse

/-- The given words with one space between neighbours. -/
def joinSpaced (parts : List (List Char)) : List Char :=
  [' '].intercalate parts

/-- The words of the text with one space between neighbours. -/
def collapse (text : List Char) : List Char :=
  joinSpaced (words text)

end CodePrint.Text
