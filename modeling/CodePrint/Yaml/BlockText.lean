import CodePrint.Yaml.Cursor

/-! # Block scalars

A block scalar is a text on the lines below its header, indented more than what it belongs to. Its
lines stay as they are, or are folded: a single line end between two lines that begin with no blank
becomes a space. The header may say how deep the text is indented and what happens to the line ends
behind its last line.
-/

namespace CodePrint.Yaml

/-- What happens to the line ends behind a text: one stays, none stays, or all stay. -/
inductive Chomping where
  | clip
  | strip
  | keep
deriving DecidableEq, Repr

/-- The line end behind the last line of a text, and those of empty lines after it, as they are
kept. -/
def Chomping.tail (last empty : List Char) : Chomping → List Char
  | .clip => last
  | .strip => []
  | .keep => last ++ empty

/-- How a block scalar is written. -/
structure BlockHeader where
  folded : Bool
  chomping : Chomping
  /-- How much deeper the text is indented, if the header says so. -/
  increment : Option Nat
deriving Repr

/-- Whether a block scalar begins at a cursor. -/
def startsBlockText (cursor : Cursor) : Bool :=
  cursor.rest.head?.any fun c => c == '|' || c == '>'

/-- The mark for what happens to the last line ends, where there is one, and the rest. -/
def splitChomping : List Char → Option Chomping × List Char
  | '+' :: rest => (some .keep, rest)
  | '-' :: rest => (some .strip, rest)
  | rest => (none, rest)

/-- The digit of an increment, where there is one, and the rest. -/
def splitIncrement : List Char → Option Nat × List Char
  | c :: rest => if c.isDigit then (some (Json.decimalNumber [c]), rest) else (none, c :: rest)
  | [] => (none, [])

/-- The marks behind the first character of a header, in either order, and the rest. -/
def splitMarks (text : List Char) : Chomping × Option Nat × List Char :=
  let (before, rest) := splitChomping text
  let (increment, rest) := splitIncrement rest
  let (behind, rest) :=
    if before.isNone && increment.isSome then splitChomping rest else (none, rest)
  ((before.or behind).getD .clip, increment, rest)

/-- The header at a cursor, and the cursor at the end of its line. An increment is not zero, and
nothing but a comment may follow. -/
def readHeader (cursor : Cursor) : Except Refusal (BlockHeader × Cursor) := do
  let (chomping, increment, rest) := splitMarks (cursor.rest.drop 1)
  if increment == some 0 || !startsSpace rest then throw .malformed
  let after ← endLine (cursor.skip (cursor.rest.length - rest.length))
  return (⟨cursor.rest.head? == some '>', chomping, increment⟩, after)

/-- The cursor behind the spaces of an indentation, at most up to a column. -/
def skipIndentation (column : Nat) (cursor : Cursor) : Cursor :=
  let spaces := cursor.rest.takeWhile (· == ' ')
  cursor.skip (min spaces.length (column - cursor.column))

/-- The line ends of empty lines in a text indented to a column, and the cursor where its next line
begins or the text ends. -/
def readEmptyLines (column : Nat) (cursor : Cursor) : List Char × Cursor :=
  go cursor.rest.length cursor
where
  go : Nat → Cursor → List Char × Cursor
    | 0, cursor => ([], cursor)
    | fuel + 1, cursor =>
      let inner := skipIndentation column cursor
      match inner.rest with
      | c :: _ =>
        if isLineEnd c then
          let (later, last) := go fuel inner.step
          (c :: later, last)
        else ([], inner)
      | [] => ([], inner)

/-- Whether a text begins with a space or a tab. -/
def startsIndented (text : List Char) : Bool :=
  text.head?.any fun c => c == ' ' || c == '\t'

/-- The lines of a block scalar that are indented to a column, and the cursor at the end of the last
of them. The first line follows empty lines with these line ends; where there is none, the scalar
ends where its header does. -/
def readLines (header : BlockHeader) (column : Nat) (headerEnd : Cursor) (empty : List Char)
    (cursor : Cursor) : List Char × Cursor :=
  go cursor.rest.length headerEnd [] empty cursor
where
  -- `last` is the line end of the line before, and `empty` holds those of the empty lines after it.
  go : Nat → Cursor → (last empty : List Char) → Cursor → List Char × Cursor
    | 0, ended, last, empty, _ => (header.chomping.tail last empty, ended)
    | fuel + 1, ended, last, empty, cursor =>
      if cursor.column == column && !cursor.rest.isEmpty then
        let line := cursor.rest.takeWhile fun c => !isLineEnd c
        let ended := cursor.skipLine
        let last := ended.rest.take 1
        let (later, following) := readEmptyLines column ended.step
        let isFolded := header.folded && last == ['\n'] && !startsIndented line &&
          !startsIndented following.rest
        let joint :=
          if following.column != column || following.rest.isEmpty then []
          else if !isFolded then last
          else if later.isEmpty then [' ']
          else []
        let (text, final) := go fuel ended last later following
        (empty ++ line ++ joint ++ text, final)
      else (header.chomping.tail last empty, ended)

/-- The block scalar at a cursor, and the cursor at the end of its last line. Where the header does
not say it, the text is indented to the deepest column that its first line and the empty lines
before it reach, and at least to `least`. -/
def readBlockText (least : Nat) (cursor : Cursor) : Except Refusal (List Char × Cursor) := do
  let (header, headerEnd) ← readHeader cursor
  let body := headerEnd.step
  let least := max least 1
  match header.increment with
  | some increment =>
    let column := least + increment - 1
    let (empty, start) := readEmptyLines column body
    return readLines header column headerEnd empty start
  | none =>
    let blanks := blanksOf false body.rest
    let column := (blanks.splitOnP isLineEnd).foldl (fun column spaces => max column spaces.length)
      least
    return readLines header column headerEnd (lineEnds blanks) (body.skip blanks.length)

end CodePrint.Yaml
