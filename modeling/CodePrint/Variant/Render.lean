import CodePrint.Failure
import CodePrint.Region
import CodePrint.Syntax.Span
import CodePrint.Text.Blank
import CodePrint.Variant

/-! # Rendering regions

A region of a tree is rendered in six ways. Those that read tokens take them from the leaf spans of
the range and neither reorder nor respell them.
-/

namespace CodePrint

/-- A whole literal whose inner blanks are layout. -/
def LeafSpan.isLayout (span : LeafSpan) : Bool :=
  span.nodeType == some "preproc_arg"

/-- A span that normalized text shows. -/
def LeafSpan.isKept (span : LeafSpan) : Bool :=
  span.role != .trivia && span.role != .comment

/-- A token as normalized text shows it. -/
def LeafSpan.render (span : LeafSpan) (text : List Char) : List Char :=
  let token := Text.trim text
  if span.isLayout then Text.collapse token else token

/-- The text of bytes that a kind of variant reads, starting at `base`. -/
def decodeFor (kind : VariantKind) (base : Nat) (bytes : List UInt8) :
    Except ScanError (List Char) :=
  match Utf8.decode bytes with
  | .ok text => .ok text
  | .error fault =>
    .error (.invalidUtf8 kind.name (base + fault.offset : Nat) fault.cause.reason)

/-- The text of the bytes of a token. -/
def decodeToken (bytes : List UInt8) : Except Breakdown (List Char) :=
  match Utf8.decode bytes with
  | .ok text => .ok text
  | .error fault => .error (.cutCharacter (bytes.getD fault.offset 0) fault)

namespace SyntaxTree

/-- The tokens of spans as normalized text shows them, those that are blank left out. -/
def tokensOf (tree : SyntaxTree) : List LeafSpan → Except Breakdown (List (List Char))
  | [] => .ok []
  | span :: rest =>
    if span.isKept then do
      let text ← decodeToken (tree.bytes span.range)
      let later ← tree.tokensOf rest
      let token := span.render text
      return if token.isEmpty then later else token :: later
    else tree.tokensOf rest

/-- The tokens of a range. -/
def tokens (tree : SyntaxTree) (range : ByteRange) : Except Breakdown (List (List Char)) :=
  match tree.leafSpans (some range) with
  | .ok spans => tree.tokensOf spans
  | .error _ => .error .uncountable

/-- The normalized text of a range. All of its bytes have to be text, comments included. -/
def normalized (tree : SyntaxTree) (kind : VariantKind) (range : ByteRange) :
    Except Failure (List Char) := do
  let _ ← (decodeFor kind range.start (tree.bytes range)).mapError .error
  let tokens ← (tree.tokens range).mapError .breakdown
  return Text.joinSpaced tokens

/-- The bytes of a range that no comment covers. -/
def uncommented (tree : SyntaxTree) (range : ByteRange) : Except Failure (List UInt8) :=
  match tree.leafSpans (some range) with
  | .ok spans => .ok ((spans.filter (·.role != .comment)).flatMap fun span => tree.bytes span.range)
  | .error _ => .error (.breakdown .uncountable)

end SyntaxTree

namespace Region

/-- A region lacks a part that is asked for. -/
def lacks (region : Region) (reason : String) : Failure :=
  .error (.malformed region.kind.name region.range.start region.range.stop reason)

/-- The range that a kind of variant is made from. -/
def rangeFor (region : Region) : VariantKind → Except Failure ByteRange
  | .signature =>
    match region.signature with
    | some range => .ok range
    | none => .error (region.lacks "no signature range")
  | .body =>
    match region.body with
    | some range => .ok range
    | none => .error (region.lacks "no body range")
  | _ => .ok region.range

/-- The content of a kind of variant, made from a range. -/
def contentFor (tree : SyntaxTree) (kind : VariantKind) (range : ByteRange) :
    Except Failure (List UInt8) :=
  match kind with
  | .full => .ok (tree.bytes range)
  | .commentStripped => tree.uncommented range
  | .spaceCollapsed => do
    let text ← (decodeFor kind range.start (tree.bytes range)).mapError .error
    return Utf8.encode (Text.collapse text)
  | .normalized | .signature | .body => do
    let text ← tree.normalized kind range
    return Utf8.encode text

/-- The variant of a kind. -/
def render (region : Region) (tree : SyntaxTree) (kind : VariantKind) : Except Failure Variant := do
  let range ← region.rangeFor kind
  let content ← contentFor tree kind range
  return ⟨kind, content, range⟩

/-- The variants of several kinds, up to the first failure. -/
def renderAll (region : Region) (tree : SyntaxTree) :
    List VariantKind → Except Failure (List Variant)
  | [] => .ok []
  | kind :: rest => do
    let variant ← region.render tree kind
    let later ← region.renderAll tree rest
    return variant :: later

end Region

/-- The normalized text of a free text with the tree that a parser gave for it. Errors in it are
allowed. -/
def normalizeText (document : Document) : Except Failure (List Char) := do
  let tree ← (document.parse true).mapError .error
  tree.normalized .normalized (.first document.source.size)

end CodePrint
