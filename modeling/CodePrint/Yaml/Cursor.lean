import CodePrint.Yaml.Scalar

/-! # Positions in a YAML text

A cursor is what is left of the text together with the line and column of its first character.
Layout between tokens is spaces, comments and line ends; a tab is none. Scalars may run over several
lines: a common line end inside one counts as a space, and further line ends stay. The separators of
lines and of paragraphs are line ends that always stay.
-/

namespace CodePrint.Yaml

/-- The common line end, or the separator of lines or of paragraphs. -/
def isLineEnd (c : Char) : Bool :=
  c == '\n' || c == '\u2028' || c == '\u2029'

/-- What is left of a text and where it starts. -/
structure Cursor where
  rest : List Char
  line : Nat := 0
  column : Nat := 0
deriving DecidableEq, Repr

namespace Cursor

/-- The cursor after the first character. A byte order mark takes no column. -/
def step (cursor : Cursor) : Cursor :=
  match cursor.rest with
  | [] => cursor
  | c :: rest =>
    if isLineEnd c then ⟨rest, cursor.line + 1, 0⟩
    else if c = '\ufeff' then ⟨rest, cursor.line, cursor.column⟩
    else ⟨rest, cursor.line, cursor.column + 1⟩

/-- The cursor after so many characters. -/
def skip (cursor : Cursor) : (count : Nat) → Cursor
  | 0 => cursor
  | count + 1 => cursor.step.skip count

/-- The cursor after the characters at its start that satisfy a test. -/
def skipWhile (cursor : Cursor) (test : Char → Bool) : Cursor :=
  cursor.skip (cursor.rest.takeWhile test).length

/-- The cursor after the spaces at its start. -/
def skipSpaces (cursor : Cursor) : Cursor :=
  cursor.skipWhile (· == ' ')

/-- The cursor at the end of its line. -/
def skipLine (cursor : Cursor) : Cursor :=
  cursor.skipWhile fun c => !isLineEnd c

end Cursor

/-- A space, a tab or a line end. -/
def isBlank (c : Char) : Bool :=
  c == ' ' || c == '\t' || isLineEnd c

/-- Whether a text is at its end or begins with a blank. -/
def startsBlank (text : List Char) : Bool :=
  text.head?.all isBlank

/-- Whether a text is at its end or begins with a space or a line end. -/
def startsSpace (text : List Char) : Bool :=
  text.head?.all fun c => c == ' ' || isLineEnd c

/-- The end of a line of which nothing but a comment may be left. -/
def endLine (cursor : Cursor) : Except Refusal Cursor :=
  let token := cursor.skipSpaces
  let after := if token.rest.head? = some '#' then token.skipLine else token
  if after.rest.head?.all isLineEnd then .ok after else .error .malformed

/-- A mark between documents, which stands at the start of a line. -/
def isMark (mark : String) (cursor : Cursor) : Bool :=
  cursor.column == 0 && mark.toList.isPrefixOf cursor.rest && startsBlank (cursor.rest.drop 3)

/-- Whether a mark between documents is at a cursor. -/
def isDocumentMark (cursor : Cursor) : Bool :=
  isMark "---" cursor || isMark "..." cursor

/-- Whether a document ends at a cursor. -/
def isDocumentEnd (cursor : Cursor) : Bool :=
  cursor.rest.isEmpty || isDocumentMark cursor

/-- The cursor at the next token. -/
def skipLayout (cursor : Cursor) : Cursor :=
  go cursor.rest.length cursor
where
  go : Nat → Cursor → Cursor
    | 0, cursor => cursor
    | fuel + 1, cursor =>
      match cursor.rest with
      | '#' :: _ => go fuel cursor.skipLine
      | c :: _ => if c = ' ' ∨ isLineEnd c then go fuel cursor.step else cursor
      | [] => cursor

/-- A dash that begins an entry of a block sequence. -/
def isEntry (cursor : Cursor) : Bool :=
  match cursor.rest with
  | '-' :: rest => startsBlank rest
  | _ => false

/-- A question mark that begins an explicit key. Inside flow collections every question mark at the
start of a token is one. -/
def isQuestion (inFlow : Bool) (cursor : Cursor) : Bool :=
  match cursor.rest with
  | '?' :: rest => inFlow || startsBlank rest
  | _ => false

/-- A character that ends or divides flow collections. -/
def isFlowMark (c : Char) : Bool :=
  c == ',' || c == '[' || c == ']' || c == '{' || c == '}'

/-- A colon between a key and its value. Inside flow collections every colon at the start of a token
is one. -/
def isColon (inFlow : Bool) (cursor : Cursor) : Bool :=
  match cursor.rest with
  | ':' :: rest => inFlow || startsBlank rest
  | _ => false

/-- The greatest distance between the start of a key and its colon. -/
def keyLimit : Nat :=
  1024

/-- A colon that makes a key of what begins at `start`: on the same line and not too far away. -/
def isKeyColon (inFlow : Bool) (start cursor : Cursor) : Bool :=
  isColon inFlow cursor && cursor.line == start.line && cursor.column ≤ start.column + keyLimit

/-- Whether a plain scalar can begin with the text. -/
def startsPlain (inFlow : Bool) : List Char → Bool
  | [] => false
  | '-' :: rest => !startsBlank rest
  | c :: rest =>
    if c = '?' ∨ c = ':' then !inFlow && !startsBlank rest
    else !(isBlank c || "#&*!|>'\"%@\x60,[]\x7b\x7d".toList.contains c)

/-- The characters of a plain scalar up to a blank or a mark that ends it. -/
def plainChunk (inFlow : Bool) : List Char → List Char
  | [] => []
  | c :: rest =>
    if isBlank c then []
    else if c = ':' ∧ (startsBlank rest ∨ (inFlow ∧ rest.head?.any isFlowMark)) then []
    else if inFlow ∧ (c = '?' ∨ isFlowMark c) then []
    else c :: plainChunk inFlow rest

/-- The line ends in a text. -/
def lineEnds (text : List Char) : List Char :=
  text.filter isLineEnd

/-- What a run of blanks with these line ends in it stands for inside a scalar. -/
def folded : (ends : List Char) → List Char
  | ['\n'] => [' ']
  | '\n' :: rest => rest
  | ends => ends

/-- The spaces and line ends at the start of a text, and the tabs among them where tabs count. -/
def blanksOf (tabs : Bool) (text : List Char) : List Char :=
  text.takeWhile fun c => c == ' ' || isLineEnd c || (tabs && c == '\t')

/-- Whether a text begins with a line end. -/
def startsLineEnd (text : List Char) : Bool :=
  text.head?.any isLineEnd

/-- The blanks inside a plain scalar: what they stand for and the cursor after them. There are none
where a mark between documents follows. -/
def plainBlanks? (cursor : Cursor) : Option (List Char × Cursor) :=
  let spaces := cursor.rest.takeWhile (· == ' ')
  let inner := cursor.skip spaces.length
  if startsLineEnd inner.rest then
    let blanks := blanksOf false inner.rest
    let after := inner.skip blanks.length
    if isDocumentMark after then none else some (folded (lineEnds blanks), after)
  else if spaces.isEmpty then none
  else some (spaces, inner)

/-- A plain scalar and the cursor after it. A line belongs to it if it is inside a flow collection
or starts in the least column or behind it. -/
def readPlain (inFlow : Bool) (least : Nat) (cursor : Cursor) : List Char × Cursor :=
  go cursor.rest.length cursor
where
  go : Nat → Cursor → List Char × Cursor
    | 0, cursor => ([], cursor)
    | fuel + 1, cursor =>
      let chunk := plainChunk inFlow cursor.rest
      let after := cursor.skip chunk.length
      match plainBlanks? after with
      | none => (chunk, after)
      | some (blanks, following) =>
        let ends := following.rest.head? == some '#' || (!inFlow && following.column < least) ||
          (plainChunk inFlow following.rest).isEmpty
        if ends then (chunk, after)
        else
          let (later, last) := go fuel following
          (chunk ++ blanks ++ later, last)

/-- The characters that one-letter escapes stand for. -/
def escapes : List (Char × Char) :=
  [('0', '\x00'), ('a', '\x07'), ('b', '\x08'), ('t', '\t'), ('\t', '\t'), ('n', '\n'),
    ('v', '\x0b'), ('f', '\x0c'), ('r', '\r'), ('e', '\x1b'), (' ', ' '), ('"', '"'),
    ('\\', '\\'), ('/', '/'), ('N', '\u0085'), ('_', '\u00a0'), ('L', '\u2028'), ('P', '\u2029')]

/-- How many hexadecimal digits follow the letter of an escape. -/
def escapeWidth? : Char → Option Nat
  | 'x' => some 2
  | 'u' => some 4
  | 'U' => some 8
  | _ => none

/-- The line ends at a cursor and the blanks among them, and the cursor after them. No mark between
documents may follow. -/
def readLineEnds (cursor : Cursor) : Except Refusal (List Char × Cursor) :=
  let blanks := blanksOf true cursor.rest
  let after := cursor.skip blanks.length
  if isDocumentMark after then .error .malformed else .ok (lineEnds blanks, after)

/-- The character of a code in an escape. -/
def escapedChar (digits : List Char) : Except Refusal Char :=
  match Json.hexNumber? digits with
  | none => .error .malformed
  | some code =>
    if code < 0x110000 then .ok (Char.ofNat code)
    else if code < 0x80000000 then .error .noCharacter
    else .error .malformed

/-- The text of an escape after its backslash, and the cursor after it. An escaped line end leaves
nothing but the line ends after it. -/
def readEscape (cursor : Cursor) : Except Refusal (List Char × Cursor) :=
  match cursor.rest with
  | [] => .error .malformed
  | letter :: rest =>
    if isLineEnd letter then (readLineEnds cursor).map fun (ends, after) => (ends.drop 1, after)
    else
      match escapes.lookup letter, escapeWidth? letter with
      | some c, _ => .ok ([c], cursor.step)
      | none, some width =>
        let digits := rest.take width
        if digits.length ≠ width then .error .malformed
        else (escapedChar digits).map fun c => ([c], cursor.skip (width + 1))
      | none, none => .error .malformed

/-- The blanks inside a quoted scalar: what they stand for and the cursor after them. -/
def readQuotedBlanks (cursor : Cursor) : Except Refusal (List Char × Cursor) :=
  let spaces := cursor.rest.takeWhile fun c => c == ' ' || c == '\t'
  let inner := cursor.skip spaces.length
  if startsLineEnd inner.rest then
    (readLineEnds inner).map fun (ends, after) => (folded ends, after)
  else .ok (spaces, inner)

/-- A quoted scalar from behind its opening quote, and the cursor behind its closing quote. -/
def readQuoted (quote : Char) (cursor : Cursor) : Except Refusal (List Char × Cursor) :=
  go cursor.rest.length cursor
where
  go : Nat → Cursor → Except Refusal (List Char × Cursor)
    | 0, _ => .error .malformed
    | fuel + 1, cursor =>
      match cursor.rest with
      | [] => .error .malformed
      | c :: rest =>
        if c = quote then
          if c = '\'' ∧ rest.head? = some '\'' then do
            let (later, after) ← go fuel (cursor.skip 2)
            return (c :: later, after)
          else .ok ([], cursor.step)
        else do
          let (part, following) ←
            if c = '\\' ∧ quote = '"' then readEscape cursor.step
            else if isBlank c then readQuotedBlanks cursor
            else .ok ([c], cursor.step)
          let (later, after) ← go fuel following
          return (part ++ later, after)

end CodePrint.Yaml
