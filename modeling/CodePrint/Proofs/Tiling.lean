import CodePrint.Proofs.Adaptation
import CodePrint.Syntax.Span
import Mathlib.Data.List.Chain

/-! # Leaf spans tile their bounds

The walk over a tree carries one position. Whatever the ranges of the nodes are, a node moves the
position forward by spans that begin where it stood and end where it comes to rest, so the spans of
a whole walk, closed by the trivia behind the last of them, cut the bounds exactly. Trivia is only
put before the span of a node or at the very end, so two pieces of trivia never meet.
-/

namespace CodePrint

/-- Spans with bytes, each directly after the one before it, from a position up to another. -/
def Tiles : (start stop : Nat) → List LeafSpan → Prop
  | start, stop, [] => start = stop
  | start, stop, span :: rest =>
    span.range.start = start ∧ start < span.range.stop ∧ Tiles span.range.stop stop rest

namespace Tiles

variable {start middle stop : Nat} {spans later : List LeafSpan}

private theorem single {span : LeafSpan} (begins : span.range.start = start)
    (occupied : start < span.range.stop) : Tiles start span.range.stop [span] :=
  ⟨begins, occupied, rfl⟩

/-- Two tilings that meet make one. -/
theorem append (front : Tiles start middle spans) (back : Tiles middle stop later) :
    Tiles start stop (spans ++ later) := by
  induction spans generalizing start with
  | nil =>
      obtain rfl : start = middle := front
      exact back
  | cons span rest ih =>
      obtain ⟨begins, occupied, rest⟩ := front
      exact ⟨begins, occupied, ih rest⟩

/-- A stretch that spans tile does not end before it starts. -/
theorem start_le_stop (tiled : Tiles start stop spans) : start ≤ stop := by
  induction spans generalizing start with
  | nil => exact Nat.le_of_eq tiled
  | cons span rest ih =>
      obtain ⟨_, occupied, rest⟩ := tiled
      exact Nat.le_trans (Nat.le_of_lt occupied) (ih rest)

/-- A tiling has no piece exactly if there is nothing to cover. -/
theorem eq_nil_iff (tiled : Tiles start stop spans) : spans = [] ↔ start = stop := by
  cases spans with
  | nil => exact iff_of_true rfl tiled
  | cons span rest =>
      obtain ⟨_, occupied, rest⟩ := tiled
      have reached := rest.start_le_stop
      exact iff_of_false (List.cons_ne_nil _ _) (by omega)

/-- Every piece has bytes and lies between the two ends. -/
theorem mem_bounds (tiled : Tiles start stop spans) {span : LeafSpan} (member : span ∈ spans) :
    start ≤ span.range.start ∧ span.range.start < span.range.stop ∧ span.range.stop ≤ stop := by
  induction spans generalizing start with
  | nil => exact absurd member List.not_mem_nil
  | cons first rest ih =>
      obtain ⟨begins, occupied, rest⟩ := tiled
      rcases List.mem_cons.mp member with rfl | member
      · exact ⟨Nat.le_of_eq begins.symm, begins ▸ occupied, rest.start_le_stop⟩
      · obtain ⟨after, bytes, before⟩ := ih rest member
        exact ⟨by omega, bytes, before⟩

private theorem head_start (tiled : Tiles start stop spans) {first : LeafSpan}
    (isFirst : first ∈ spans.head?) : first.range.start = start := by
  cases spans with
  | nil => cases isFirst
  | cons span rest =>
      obtain rfl : span = first := Option.some.inj isFirst
      exact tiled.1

private theorem getLast_stop (tiled : Tiles start stop spans) {last : LeafSpan}
    (isLast : last ∈ spans.getLast?) : last.range.stop = stop := by
  induction spans generalizing start with
  | nil => cases isLast
  | cons span rest ih =>
      obtain ⟨_, _, tail⟩ := tiled
      cases rest with
      | nil =>
          obtain rfl : span = last := Option.some.inj isLast
          exact tail
      | cons next rest => exact ih tail (by simpa only [List.getLast?_cons_cons] using isLast)

/-- Each span of a tiling ends where the next starts. -/
theorem consecutive (tiled : Tiles start stop spans) :
    spans.IsChain fun span next => span.range.stop = next.range.start := by
  induction spans generalizing start with
  | nil => exact .nil
  | cons span rest ih =>
      obtain ⟨_, _, tail⟩ := tiled
      cases rest with
      | nil => exact .singleton _
      | cons next rest => exact .cons_cons tail.1.symm (ih tail)

/-- The pieces of a buffer that a tiling cuts out make up the buffer between the two ends. -/
theorem flatMap_slice (tiled : Tiles start stop spans) {α : Type} (buffer : List α) :
    spans.flatMap (fun span => span.range.slice buffer) =
      (buffer.drop start).take (stop - start) := by
  induction spans generalizing start with
  | nil =>
      obtain rfl : start = stop := tiled
      simp
  | cons span rest ih =>
      obtain ⟨rfl, occupied, tail⟩ := tiled
      have reached := tail.start_le_stop
      have split : stop - span.range.start =
          (span.range.stop - span.range.start) + (stop - span.range.stop) := by omega
      have after : span.range.start + (span.range.stop - span.range.start) = span.range.stop := by
        omega
      rw [List.flatMap_cons, ih tail, split, List.take_add, List.drop_drop, after]
      rfl

end Tiles

/-- What a walk from a position up to a limit gives: spans from there to the position reached, which
stays within the limit. -/
structure Advances (limit position : Nat) (reached : List LeafSpan × Nat) : Prop where
  tiled : Tiles position reached.2 reached.1
  bounded : position ≤ limit → reached.2 ≤ limit

namespace Advances

variable {limit position : Nat}

private theorem stay : Advances limit position ([], position) :=
  ⟨rfl, id⟩

/-- Two walks, the second from where the first came to rest. -/
theorem trans {reached later : List LeafSpan × Nat} (front : Advances limit position reached)
    (back : Advances limit reached.2 later) :
    Advances limit position (reached.1 ++ later.1, later.2) :=
  ⟨front.tiled.append back.tiled, fun below => back.bounded (front.bounded below)⟩

end Advances

private theorem LeafSpan.gap_tiles {start stop : Nat} (ordered : start ≤ stop) :
    Tiles start stop (LeafSpan.gap start stop) := by
  unfold LeafSpan.gap
  split
  · exact Tiles.single rfl ‹_›
  · exact (by omega : start = stop)

private theorem NodeInfo.spansFrom_advances (info : NodeInfo) (limit position : Nat) :
    Advances limit position (info.spansFrom limit position) := by
  unfold NodeInfo.spansFrom
  dsimp only
  split
  · refine ⟨?_, fun _ => Nat.min_le_right _ _⟩
    exact (LeafSpan.gap_tiles (Nat.le_max_right _ _)).append (Tiles.single rfl ‹_›)
  · exact .stay

namespace SyntaxNode

mutual

/-- The spans of a node tile the stretch from a position to the place they reach, and stay within a
limit that lies ahead. -/
theorem spansFrom_advances (limit : Nat) : ∀ (node : SyntaxNode) (position : Nat),
    Advances limit position (node.spansFrom limit position)
  | .node info children, position => by
    unfold spansFrom
    split
    · exact .stay
    · split
      · exact info.spansFrom_advances limit position
      · exact spansOfAll_advances limit children position

/-- The spans of several nodes tile the stretch from a position to the place they reach. -/
theorem spansOfAll_advances (limit : Nat) : ∀ (nodes : List SyntaxNode) (position : Nat),
    Advances limit position (spansOfAll limit nodes position)
  | [], _ => .stay
  | first :: rest, position =>
    (spansFrom_advances limit first position).trans (spansOfAll_advances limit rest _)

end

/-- The spans of a node cut every bounds exactly. -/
theorem tile_tiles (start : SyntaxNode) (bounds : ByteRange) :
    Tiles bounds.start bounds.stop (start.tile bounds) := by
  have walked := start.spansFrom_advances bounds.stop bounds.start
  exact walked.tiled.append (LeafSpan.gap_tiles (walked.bounded bounds.ordered))

end SyntaxNode

/-- Spans among which no two neighbours are both trivia. -/
def Separated (spans : List LeafSpan) : Prop :=
  spans.IsChain fun span next => ¬(span.role = .trivia ∧ next.role = .trivia)

/-- Separated spans of which the last belongs to a node, so that anything may follow. -/
structure Anchored (spans : List LeafSpan) : Prop where
  separated : Separated spans
  last_role : ∀ last ∈ spans.getLast?, last.role ≠ .trivia

namespace Anchored

private theorem nil : Anchored [] :=
  ⟨.nil, fun _ impossible => nomatch impossible⟩

private theorem separated_append {spans later : List LeafSpan} (front : Anchored spans)
    (back : Separated later) : Separated (spans ++ later) := by
  refine List.isChain_append.mpr ⟨front.separated, back, ?_⟩
  intro last isLast next _ both
  exact front.last_role last isLast both.1

private theorem append {spans later : List LeafSpan} (front : Anchored spans)
    (back : Anchored later) : Anchored (spans ++ later) := by
  refine ⟨front.separated_append back.separated, ?_⟩
  intro last isLast
  rw [List.getLast?_append] at isLast
  cases ending : later.getLast? with
  | none => exact front.last_role last (by simpa only [ending, Option.none_or] using isLast)
  | some other => exact back.last_role last (by simpa only [ending, Option.some_or] using isLast)

end Anchored

private theorem LeafSpan.gap_separated (start stop : Nat) :
    Separated (LeafSpan.gap start stop) := by
  unfold LeafSpan.gap
  split
  · exact .singleton _
  · exact .nil

private theorem NodeInfo.spansFrom_anchored {info : NodeInfo} (role : info.role ≠ .trivia)
    (limit position : Nat) : Anchored (info.spansFrom limit position).1 := by
  unfold NodeInfo.spansFrom
  dsimp only
  split
  · refine ⟨List.isChain_append.mpr ⟨LeafSpan.gap_separated _ _, .singleton _, ?_⟩, ?_⟩
    · intro _ _ next isNext both
      obtain rfl := Option.some.inj isNext
      exact role both.2
    · intro last isLast
      obtain rfl := Option.some.inj (List.getLast?_concat.symm.trans isLast)
      exact role
  · exact .nil

namespace SyntaxNode

mutual

/-- The spans of a node never end with a gap when nothing in the node is layout. -/
theorem spansFrom_anchored (limit : Nat) : ∀ (node : SyntaxNode) (position : Nat),
    (∀ inner ∈ node.walk, inner.role ≠ .trivia) → Anchored (node.spansFrom limit position).1
  | .node info children, position, roles => by
    unfold spansFrom
    split
    · exact .nil
    · split
      · exact NodeInfo.spansFrom_anchored (roles _ (self_mem_walk _)) limit position
      · exact spansOfAll_anchored limit children position
          (fun child member inner met => roles inner (mem_walk.mpr (.inr ⟨child, member, met⟩)))

private theorem spansOfAll_anchored (limit : Nat) : ∀ (nodes : List SyntaxNode) (position : Nat),
    (∀ node ∈ nodes, ∀ inner ∈ node.walk, inner.role ≠ .trivia) →
      Anchored (spansOfAll limit nodes position).1
  | [], _, _ => .nil
  | first :: rest, position, roles =>
    (spansFrom_anchored limit first position (roles first List.mem_cons_self)).append
      (spansOfAll_anchored limit rest _ fun node member => roles node (.tail _ member))

end

/-- A tiling has no two gaps in a row when nothing in the node is layout. -/
theorem tile_separated (start : SyntaxNode) (bounds : ByteRange)
    (roles : ∀ inner ∈ start.walk, inner.role ≠ .trivia) : Separated (start.tile bounds) :=
  (start.spansFrom_anchored bounds.stop bounds.start roles).separated_append
    (LeafSpan.gap_separated _ _)

end SyntaxNode

/-- Spans that cut bounds into pieces with bytes: the first starts where the bounds do, every other
where the one before it ends, the last ends where the bounds do, and trivia is never cut in two. -/
structure IsTiling (bounds : ByteRange) (spans : List LeafSpan) : Prop where
  occupied : ∀ span ∈ spans, span.range.start < span.range.stop
  begins : ∀ first ∈ spans.head?, first.range.start = bounds.start
  consecutive : spans.IsChain fun span next => span.range.stop = next.range.start
  ends : ∀ last ∈ spans.getLast?, last.range.stop = bounds.stop
  /-- There is no span at all exactly if the bounds are empty. -/
  nothing : spans = [] ↔ bounds.start = bounds.stop
  separated : spans.IsChain fun span next => ¬(span.role = .trivia ∧ next.role = .trivia)

/-- Spans that tile a range without two gaps in a row are a tiling of it. -/
theorem Tiles.isTiling {bounds : ByteRange} {spans : List LeafSpan}
    (tiled : Tiles bounds.start bounds.stop spans) (separated : Separated spans) :
    IsTiling bounds spans where
  occupied _ member := (tiled.mem_bounds member).2.1
  begins _ isFirst := tiled.head_start isFirst
  consecutive := tiled.consecutive
  ends _ isLast := tiled.getLast_stop isLast
  nothing := tiled.eq_nil_iff
  separated := separated

/-- The window if there is one with bytes, and the first `length` bytes otherwise. -/
def windowOr (length : Nat) : (window : Option ByteRange) → ByteRange
  | some window => if window.start < window.stop then window else .first length
  | none => .first length

/-- A window whose length can be counted always has bounds. -/
theorem SyntaxTree.bounds_eq (tree : SyntaxTree) {window : Option ByteRange}
    (countable : ∀ range ∈ window, range.length ≤ ByteRange.indexLimit) :
    tree.bounds window = .ok (windowOr tree.content.length window) := by
  cases window with
  | none => rfl
  | some window =>
      have counted : window.isCountable = true := decide_eq_true (countable window rfl)
      by_cases occupied : window.start < window.stop
      · have inhabited : window.isEmpty = false := beq_false_of_ne (Nat.ne_of_lt occupied)
        simp only [bounds, windowOr, counted, inhabited, occupied, Bool.not_true,
          Bool.false_eq_true, ↓reduceIte]
      · have empty : window.isEmpty = true := beq_iff_eq.mpr (by have := window.ordered; omega)
        simp only [bounds, windowOr, counted, empty, occupied, Bool.not_true,
          Bool.false_eq_true, ↓reduceIte]

/-- Whatever the ranges of an adapted tree are, the leaf spans of a window by the nodes below any of
its nodes tile the window, and their bytes put together are those of the window. -/
theorem leafSpansFrom_isTiling {document : Document} {tree : SyntaxTree}
    (adapted : document.tree = .ok tree) {start : SyntaxNode} (met : start ∈ tree.root.walk)
    (window : Option ByteRange)
    (countable : ∀ range ∈ window, range.length ≤ ByteRange.indexLimit) :
    ∃ spans, tree.leafSpansFrom start window = .ok spans ∧
      IsTiling (windowOr tree.content.length window) spans ∧
      spans.flatMap (fun span => tree.bytes span.range) =
        tree.bytes (windowOr tree.content.length window) := by
  have roles : ∀ inner ∈ start.walk, inner.role ≠ .trivia := fun inner below =>
    Document.tree_role_ne_trivia adapted (SyntaxNode.walk_trans met below)
  let bounds := windowOr tree.content.length window
  have tiled := start.tile_tiles bounds
  refine ⟨start.tile bounds, ?_, tiled.isTiling (start.tile_separated bounds roles), ?_⟩
  · rw [SyntaxTree.leafSpansFrom, tree.bounds_eq countable]
    rfl
  · exact tiled.flatMap_slice tree.content

/-- A document whose reported nodes leave the source, overlap, are out of order or have no bytes. -/
def Document.disordered : Document where
  source := ⟨.c, Utf8.encodeString "a//b\n", none⟩
  parsed := some (.node ⟨"translation_unit", none, 0, 5, 0, 0, true, false⟩
    [.node ⟨"identifier", none, 3, 9, 0, 3, true, false⟩ [],
      .node ⟨"comment", none, 1, 4, 0, 1, true, false⟩ [],
      .node ⟨";", none, 2, 2, 0, 2, false, false⟩ []])

/-- Nodes that leave the source, overlap, are out of order or have no bytes: the spans of a range
still tile it. -/
theorem leafSpansFrom_isTiling_disordered :
    ∃ tree spans, Document.disordered.tree = .ok tree ∧
      tree.leafSpansFrom tree.root (some ⟨1, 8, by decide⟩) = .ok spans ∧
      IsTiling ⟨1, 8, by decide⟩ spans ∧
      spans.flatMap (fun span => tree.bytes span.range) = tree.bytes ⟨1, 8, by decide⟩ := by
  obtain ⟨tree, adapted⟩ : ∃ tree, Document.disordered.tree = .ok tree := ⟨_, rfl⟩
  obtain ⟨spans, made, tiling, bytes⟩ :=
    leafSpansFrom_isTiling adapted tree.root.self_mem_walk (some ⟨1, 8, by decide⟩)
      (by rintro _ ⟨⟩; decide)
  exact ⟨tree, spans, adapted, made, tiling, bytes⟩

end CodePrint
