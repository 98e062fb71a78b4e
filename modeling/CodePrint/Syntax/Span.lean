import CodePrint.Syntax.Tree

/-! # Leaf spans

A window of a source is cut into spans: one for each token, comment and whole literal that reaches
into it, and trivia for the bytes between them. The walk keeps the position up to which bytes are
covered; it passes over a node that ends before that position or starts behind the window, so the
spans follow each other without gap or overlap, whatever the ranges of the nodes are.
-/

namespace CodePrint

/-- A piece of a source on the level of tokens. -/
structure LeafSpan where
  role : NodeRole
  range : ByteRange
  /-- The type of the node behind the span; trivia has none. -/
  nodeType : Option String
deriving DecidableEq, Repr

namespace LeafSpan

/-- The trivia between two positions. -/
def trivia (start stop : Nat) (ordered : start ≤ stop) : LeafSpan :=
  ⟨.trivia, ⟨start, stop, ordered⟩, none⟩

/-- The trivia between two positions, if there is a byte between them. -/
def gap (start stop : Nat) : List LeafSpan :=
  if apart : start < stop then [trivia start stop (Nat.le_of_lt apart)] else []

end LeafSpan

/-- The spans of a node that is taken whole, from a position up to a limit, and the position
after them. -/
def NodeInfo.spansFrom (info : NodeInfo) (limit position : Nat) : List LeafSpan × Nat :=
  let start := max info.range.start position
  let stop := min info.range.stop limit
  if apart : start < stop then
    let span : LeafSpan := ⟨info.role, ⟨start, stop, Nat.le_of_lt apart⟩, some info.type⟩
    (LeafSpan.gap position start ++ [span], stop)
  else ([], position)

namespace SyntaxNode

mutual

/-- The spans below a node, from a position up to a limit, and the position after them. -/
def spansFrom (limit : Nat) : SyntaxNode → (position : Nat) → List LeafSpan × Nat
  | .node info children, position =>
    if info.range.stop ≤ position ∨ limit ≤ info.range.start then ([], position)
    else if children.isEmpty || info.role.isWhole then info.spansFrom limit position
    else spansOfAll limit children position

/-- The spans below neighbouring nodes. -/
def spansOfAll (limit : Nat) : List SyntaxNode → (position : Nat) → List LeafSpan × Nat
  | [], position => ([], position)
  | first :: rest, position =>
    let (spans, position) := first.spansFrom limit position
    let (later, position) := spansOfAll limit rest position
    (spans ++ later, position)

end

/-- The spans that tile the bounds, by the nodes below a start node. -/
def tile (start : SyntaxNode) (bounds : ByteRange) : List LeafSpan :=
  let (spans, position) := start.spansFrom bounds.stop bounds.start
  spans ++ LeafSpan.gap position bounds.stop

end SyntaxNode

/-- The length of a window is greater than positions can be counted. -/
structure Uncountable where
deriving DecidableEq, Repr

namespace SyntaxTree

/-- The bytes a window stands for. A window without bytes stands for the whole source, as no window
does. -/
def bounds (tree : SyntaxTree) : (window : Option ByteRange) → Except Uncountable ByteRange
  | none => .ok (.first tree.content.length)
  | some window =>
    if !window.isCountable then .error ⟨⟩
    else if window.isEmpty then .ok (.first tree.content.length)
    else .ok window

/-- The leaf spans of a window, by the nodes below a start node. -/
def leafSpansFrom (tree : SyntaxTree) (start : SyntaxNode) (window : Option ByteRange) :
    Except Uncountable (List LeafSpan) :=
  (tree.bounds window).map start.tile

/-- The leaf spans of a window. -/
def leafSpans (tree : SyntaxTree) (window : Option ByteRange) :
    Except Uncountable (List LeafSpan) :=
  tree.leafSpansFrom tree.root window

end SyntaxTree

end CodePrint
