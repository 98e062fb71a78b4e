import CodePrint.Text.Utf8
import CodePrint.Yaml.Cursor
import CodePrint.Yaml.Node

/-! # Properties of nodes

In front of a node may stand a name, by which aliases refer to it, and a tag, in either order. A tag
is written out in full, or it begins with a handle, which stands for the beginning of its name.
Handles are declared by directives in front of a document; two need no declaration.
-/

namespace CodePrint.Yaml

/-! ## Names and tags -/

/-- A character of a name, of a handle or of the word of a directive. -/
def isNameChar (c : Char) : Bool :=
  c.isAlphanum || c == '-' || c == '_'

/-- Whether a name or an alias may end in front of a text. -/
def endsName (text : List Char) : Bool :=
  startsBlank text || text.head?.any "?:,]\x7d%@\x60".toList.contains

/-- The name behind the mark of an anchor or of an alias, and the cursor after it. -/
def readName (cursor : Cursor) : Except Refusal (String × Cursor) :=
  let name := cursor.rest.takeWhile isNameChar
  let after := cursor.skip name.length
  if name.isEmpty || !endsName after.rest then .error .malformed
  else .ok (String.ofList name, after)

/-- A character of a tag behind its handle, or of what a handle stands for. -/
def isTagChar (c : Char) : Bool :=
  c.isAlphanum || "-;/?:@&=+$,_.!~*'()[]%".toList.contains c

/-- The text with its escapes replaced. An escape is an octet in hexadecimal digits, and the octets
of neighbouring escapes, which `octets` collects, are characters together. -/
def unescapeTag (octets : List UInt8) : List Char → Except Refusal (List Char)
  | [] => (Utf8.decode octets).mapError fun _ => .malformed
  | '%' :: high :: low :: rest =>
    match Json.hexNumber? [high, low] with
    | some octet => unescapeTag (octets ++ [UInt8.ofNat octet]) rest
    | none => .error .malformed
  | c :: rest =>
    if c = '%' then .error .malformed
    else do
      let decoded ← (Utf8.decode octets).mapError fun _ => Refusal.malformed
      let later ← unescapeTag [] rest
      return decoded ++ c :: later

/-- The part of a tag without a handle, and the cursor after it. -/
def readTagPart (cursor : Cursor) : Except Refusal (String × Cursor) := do
  let part := cursor.rest.takeWhile isTagChar
  if part.isEmpty then throw .malformed
  let text ← unescapeTag [] part
  return (String.ofList text, cursor.skip part.length)

/-- A handle and the cursor after it: an exclamation mark in front of a space, or a name between
two. -/
def readHandle (cursor : Cursor) : Except Refusal (String × Cursor) :=
  match cursor.rest with
  | '!' :: ' ' :: _ => .ok ("!", cursor.step)
  | '!' :: rest =>
    let name := rest.takeWhile isNameChar
    if rest[name.length]? = some '!' then
      .ok ("!" ++ String.ofList name ++ "!", cursor.skip (name.length + 2))
    else .error .malformed
  | _ => .error .malformed

/-- What handles stand for. -/
abbrev Handles := List (String × String)

/-- The handles that need no declaration. -/
def Handles.standard : Handles :=
  [("!", "!"), ("!!", Tag.knownStart)]

/-- The full name of the tag at a cursor, and the cursor after it. -/
def readTagName (handles : Handles) (cursor : Cursor) : Except Refusal (String × Cursor) :=
  match cursor.rest.drop 1 with
  | '<' :: _ => do
    let (name, after) ← readTagPart (cursor.skip 2)
    if after.rest.head? = some '>' then return (name, after.step) else throw .malformed
  | rest =>
    if startsBlank rest then .ok ("!", cursor.step)
    else do
      let word := rest.takeWhile fun c => !(c == ' ' || isLineEnd c)
      let (handle, behind) ←
        if word.contains '!' then readHandle cursor else .ok ("!", cursor.step)
      let (part, after) ← readTagPart behind
      match handles.lookup handle with
      | some start => return (start ++ part, after)
      | none => throw .malformed

/-- The tag at a cursor, and the cursor after it. A space or a line end has to follow. -/
def readTag (handles : Handles) (cursor : Cursor) : Except Refusal (Tag × Cursor) := do
  let (name, after) ← readTagName handles cursor
  if startsSpace after.rest then return (.ofName name, after) else throw .malformed

/-! ## Properties -/

/-- What stands in front of a node. -/
structure Properties where
  anchor : Option String := none
  tag : Option Tag := none
deriving DecidableEq, Repr

/-- Whether a property is at a cursor. -/
def startsProperty (cursor : Cursor) : Bool :=
  cursor.rest.head?.any fun c => c == '&' || c == '!'

namespace Properties

/-- The properties with the one at a cursor, and the cursor after it. A node has at most one name
and at most one tag. -/
def read (given : Properties) (handles : Handles) (cursor : Cursor) :
    Except Refusal (Properties × Cursor) :=
  if cursor.rest.head? = some '&' then do
    let (name, after) ← readName cursor.step
    if given.anchor.isSome then throw .malformed
    return ({ given with anchor := some name }, after)
  else do
    let (tag, after) ← readTag handles cursor
    if given.tag.isSome then throw .malformed
    return ({ given with tag := some tag }, after)

/-- A node with properties. An alias has none. -/
def attach (given : Properties) : Node → Except Refusal Node
  | .alias name => if given = {} then .ok (.alias name) else .error .malformed
  | node =>
    let tagged := (given.tag.map node.withTag).getD node
    .ok ((given.anchor.map (Node.anchored · tagged)).getD tagged)

end Properties

/-! ## Directives -/

/-- What the directives in front of a document declare. -/
structure Directives where
  /-- Whether a version was declared. -/
  versioned : Bool := false
  handles : Handles := []
deriving Repr

/-- The cursor behind a version, which has two numbers; the first of them is one. -/
def readVersion (cursor : Cursor) : Except Refusal Cursor :=
  let (major, rest) := Json.spanDigits cursor.rest
  match rest with
  | '.' :: rest =>
    let minor := rest.takeWhile Char.isDigit
    if major.isEmpty || minor.isEmpty || Json.decimalNumber major != 1 then .error .malformed
    else .ok (cursor.skip (major.length + 1 + minor.length))
  | _ => .error .malformed

namespace Directives

/-- The directives with the one whose word ends at a cursor, and the cursor after it. Words that are
not known declare nothing. -/
def declare (given : Directives) (word : List Char) (cursor : Cursor) :
    Except Refusal (Directives × Cursor) :=
  if word = "YAML".toList then do
    let after ← readVersion cursor.skipSpaces
    if given.versioned || !startsSpace after.rest then throw .malformed
    return ({ given with versioned := true }, after)
  else if word = "TAG".toList then do
    let (handle, behind) ← readHandle cursor.skipSpaces
    if behind.rest.head? ≠ some ' ' then throw .malformed
    let (start, after) ← readTagPart behind.skipSpaces
    if (given.handles.lookup handle).isSome || !startsSpace after.rest then throw .malformed
    return ({ given with handles := (handle, start) :: given.handles }, after)
  else .ok (given, cursor.skipLine)

/-- All directives at the start of a text, and the cursor at the first token after them. -/
def read (cursor : Cursor) : Except Refusal (Directives × Cursor) :=
  go cursor.rest.length {} cursor
where
  go : Nat → Directives → Cursor → Except Refusal (Directives × Cursor)
    | 0, given, cursor => .ok (given, cursor)
    | fuel + 1, given, cursor =>
      if cursor.column == 0 && cursor.rest.head? == some '%' then do
        let word := (cursor.rest.drop 1).takeWhile isNameChar
        let behind := cursor.skip (word.length + 1)
        if word.isEmpty || !startsSpace behind.rest then throw .malformed
        let (given, after) ← given.declare word behind
        let after ← endLine after
        go fuel given (skipLayout after)
      else .ok (given, cursor)

end Directives

end CodePrint.Yaml
