import CodePrint.Base64
import CodePrint.ByteRange
import CodePrint.Text.Utf8

/-! # Variants

A variant is one rendering of a region, kept as bytes together with the range it was made from.
-/

namespace CodePrint

/-- How a region is rendered. -/
inductive VariantKind where
  /-- The bytes as they are. -/
  | full
  /-- The tokens with single spaces between them, comments left out. -/
  | normalized
  /-- The tokens of the signature. -/
  | signature
  /-- The tokens of the body. -/
  | body
  /-- The bytes without those of comments. -/
  | commentStripped
  /-- The words with single spaces between them. -/
  | spaceCollapsed
deriving DecidableEq, Repr

namespace VariantKind

/-- All kinds, in order. -/
def all : List VariantKind :=
  [.full, .normalized, .signature, .body, .commentStripped, .spaceCollapsed]

/-- The name of a kind. -/
def name : VariantKind → String
  | .full => "full"
  | .normalized => "normalized"
  | .signature => "signature"
  | .body => "body"
  | .commentStripped => "comment_stripped"
  | .spaceCollapsed => "space_collapsed"

/-- The place of a kind in the order. -/
def rank : VariantKind → Nat
  | .full => 0
  | .normalized => 1
  | .signature => 2
  | .body => 3
  | .commentStripped => 4
  | .spaceCollapsed => 5

/-- Whether the rendering reads its bytes as text. -/
def readsText : VariantKind → Bool
  | .full | .commentStripped => false
  | _ => true

/-- The kind with a name. -/
def ofName? (name : String) : Option VariantKind :=
  all.find? (·.name == name)

/-- Kinds in order. -/
def sort (kinds : List VariantKind) : List VariantKind :=
  kinds.mergeSort fun a b => a.rank ≤ b.rank

end VariantKind

/-- One rendering of a region. -/
structure Variant where
  kind : VariantKind
  content : List UInt8
  range : ByteRange
deriving DecidableEq, Repr

/-- Bytes for a reader: their text where they are text, their base64 form otherwise. -/
def displayBytes (content : List UInt8) : String :=
  match Utf8.decode content with
  | .ok text => String.ofList text
  | .error _ => String.ofList (Base64.encode content)

/-- The content for a reader. -/
def Variant.display (variant : Variant) : String :=
  displayBytes variant.content

end CodePrint
