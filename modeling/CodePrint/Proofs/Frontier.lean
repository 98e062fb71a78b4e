import CodePrint.Proofs.Tiling
import CodePrint.Proofs.WellFormed

/-! # The token frontier

The frontier of a tree are the nodes at which a walk for spans ends: those without children and
those that are taken whole, as far as no node above is taken whole. In a well-formed tree the walk
gives one span for every frontier node that has bytes inside the bounds, cut to the bounds. The walk
itself compares with a position that moves along; but the position never moves behind the node
just left, so where the next node begins it makes no difference.
-/

namespace CodePrint

/-- A node at which a walk for spans ends. -/
def NodeSite.isFrontier (site : NodeSite) : Bool :=
  (site.node.children.isEmpty || site.node.role.isWhole) &&
    site.ancestors.all fun ancestor => !ancestor.role.isWhole

/-- The span of a node between two positions, if it has bytes there. -/
def NodeInfo.spanIn (start stop : Nat) (info : NodeInfo) : Option LeafSpan :=
  if apart : max info.range.start start < min info.range.stop stop then
    some ⟨info.role, ⟨max info.range.start start, min info.range.stop stop, Nat.le_of_lt apart⟩,
      some info.type⟩
  else none

/-- A choice of spans without the trivia that fills gaps. -/
def LeafSpan.HidesGaps (keep : LeafSpan → Bool) : Prop :=
  ∀ start stop ordered, keep (.trivia start stop ordered) = false

private theorem LeafSpan.HidesGaps.filter_gap {keep : LeafSpan → Bool} (hidden : HidesGaps keep)
    (start stop : Nat) : (LeafSpan.gap start stop).filter keep = [] := by
  unfold LeafSpan.gap
  split
  · rw [List.filter_cons, hidden, if_neg Bool.false_ne_true, List.filter_nil]
  · rfl

namespace NodeInfo

variable {info : NodeInfo} {start stop limit position reached : Nat} {span : LeafSpan}

/-- A leaf that ends before a stretch or begins behind it has no span there. -/
theorem spanIn_eq_none (outside : info.range.stop ≤ start ∨ stop ≤ info.range.start) :
    info.spanIn start stop = none := by
  apply dif_neg
  omega

/-- The span of a leaf in a stretch has its role and type, and covers what of the leaf lies in the
stretch. -/
theorem spanIn_eq_some (given : info.spanIn start stop = some span) :
    span.role = info.role ∧ span.nodeType = some info.type ∧
      span.range.start = max info.range.start start ∧
      span.range.stop = min info.range.stop stop := by
  unfold spanIn at given
  split at given
  · cases given
    exact ⟨rfl, rfl, rfl, rfl⟩
  · cases given

/-- Where a node starts behind it, the position from which spans are made makes no difference. -/
theorem spanIn_from (later : position ≤ reached)
    (passed : reached ≤ max position info.range.start) :
    info.spanIn reached stop = info.spanIn position stop := by
  have same : max info.range.start reached = max info.range.start position := by omega
  unfold spanIn
  simp only [same]

/-- Apart from trivia, a node that is taken whole gives the one span it has. -/
theorem spansFrom_filter {keep : LeafSpan → Bool} (hidden : LeafSpan.HidesGaps keep) :
    (info.spansFrom limit position).1.filter keep =
      (info.spanIn position limit).toList.filter keep := by
  unfold spansFrom spanIn
  dsimp only
  split
  · rw [List.filter_append, hidden.filter_gap, List.nil_append, Option.toList_some]
  · rfl

private theorem spansFrom_reached_le :
    (info.spansFrom limit position).2 ≤ max position info.range.stop := by
  unfold spansFrom
  dsimp only
  split
  · simp only
    omega
  · exact Nat.le_max_left _ _

end NodeInfo

namespace SyntaxNode

/-! ## The frontier by recursion -/

mutual

/-- The frontier nodes of a tree, in order. -/
def leaves : SyntaxNode → List NodeInfo
  | .node info children =>
    if children.isEmpty || info.role.isWhole then [info] else leavesOfAll children

/-- The frontier nodes of neighbouring trees, in order. -/
def leavesOfAll : List SyntaxNode → List NodeInfo
  | [] => []
  | first :: rest => first.leaves ++ leavesOfAll rest

end

/-- A node that is taken whole is its only leaf, whatever stands below it. -/
theorem leaves_of_whole {info : NodeInfo} (whole : info.role.isWhole = true)
    (children : List SyntaxNode) : (SyntaxNode.node info children).leaves = [info] := by
  rw [leaves, whole, Bool.or_true, if_pos rfl]

/-- A node that is opened and has children has the leaves of its children. -/
theorem leaves_of_child {info : NodeInfo} {children : List SyntaxNode} {child : SyntaxNode}
    (opened : info.role.isWhole = false) (member : child ∈ children) :
    (SyntaxNode.node info children).leaves = leavesOfAll children := by
  have parental : children.isEmpty = false :=
    List.isEmpty_eq_false_iff_exists_mem.mpr ⟨child, member⟩
  rw [leaves, opened, parental]
  rfl

/-- The leaves of several nodes are those of each, one node after the other. -/
theorem leavesOfAll_eq_flatMap (nodes : List SyntaxNode) :
    leavesOfAll nodes = nodes.flatMap leaves := by
  induction nodes with
  | nil => rfl
  | cons first rest ih => rw [leavesOfAll, List.flatMap_cons, ih]

/-- A leaf of several nodes is a leaf of one of them. -/
theorem mem_leavesOfAll {leaf : NodeInfo} {nodes : List SyntaxNode} :
    leaf ∈ leavesOfAll nodes ↔ ∃ node ∈ nodes, leaf ∈ node.leaves := by
  rw [leavesOfAll_eq_flatMap, List.mem_flatMap]

/-- Below a node that is taken whole there is no frontier. -/
theorem frontier_eq_nil_of_whole {above nodes : List SyntaxNode} {ancestor : SyntaxNode}
    (member : ancestor ∈ above) (whole : ancestor.role.isWhole = true) :
    (sitesOfAll above nodes).filter (·.isFrontier) = [] := by
  apply List.filter_eq_nil_iff.mpr
  intro site met frontier
  obtain ⟨tree, _, below⟩ := mem_sitesOfAll.mp met
  have opened := List.all_eq_true.mp (Bool.and_eq_true_iff.mp frontier).2 ancestor
    (above_subset_ancestors below member)
  simp only [whole, Bool.not_true, Bool.false_eq_true] at opened

mutual

/-- The frontier sites below a node hold its leaves, in order. -/
theorem sitesBelow_frontier : ∀ (root : SyntaxNode) (above : List SyntaxNode),
    (∀ ancestor ∈ above, ancestor.role.isWhole = false) →
      ((root.sitesBelow above).filter (·.isFrontier)).map (·.node.info) = root.leaves
  | .node info children, above, exposed => by
    have opened : above.all (fun ancestor => !ancestor.role.isWhole) = true := by
      apply List.all_eq_true.mpr
      intro ancestor member
      simp only [exposed ancestor member, Bool.not_false]
    have ends : (⟨.node info children, above⟩ : NodeSite).isFrontier =
        (children.isEmpty || info.role.isWhole) := by
      rw [NodeSite.isFrontier, opened, Bool.and_true]
      rfl
    rw [sitesBelow, leaves, List.filter_cons, ends]
    by_cases stops : (children.isEmpty || info.role.isWhole) = true
    · have below : (sitesOfAll (.node info children :: above) children).filter (·.isFrontier) =
          [] := by
        rcases Bool.or_eq_true_iff.mp stops with childless | whole
        · rw [List.isEmpty_iff.mp childless]
          rfl
        · exact frontier_eq_nil_of_whole List.mem_cons_self whole
      rw [if_pos stops, if_pos stops, below]
      rfl
    · rw [if_neg stops, if_neg stops]
      apply sitesOfAll_frontier children
      intro ancestor member
      rcases List.mem_cons.mp member with rfl | member
      · exact (Bool.or_eq_false_iff.mp (Bool.eq_false_iff.mpr stops)).2
      · exact exposed ancestor member

private theorem sitesOfAll_frontier : ∀ (nodes above : List SyntaxNode),
    (∀ ancestor ∈ above, ancestor.role.isWhole = false) →
      ((sitesOfAll above nodes).filter (·.isFrontier)).map (·.node.info) = leavesOfAll nodes
  | [], _, _ => rfl
  | first :: rest, above, exposed => by
    rw [sitesOfAll, leavesOfAll, List.filter_append, List.map_append,
      sitesBelow_frontier first above exposed, sitesOfAll_frontier rest above exposed]

end

/-- The frontier nodes that a walk with ancestors meets are the leaves, in the same order. -/
theorem sites_frontier (root : SyntaxNode) :
    (root.sites.filter (·.isFrontier)).map (·.node.info) = root.leaves :=
  sitesBelow_frontier root [] (fun _ impossible => absurd impossible List.not_mem_nil)

/-- A leaf is a node of the tree. -/
theorem leaf_mem_walk {root : SyntaxNode} {leaf : NodeInfo} (member : leaf ∈ root.leaves) :
    ∃ node ∈ root.walk, node.info = leaf := by
  rw [← root.sites_frontier] at member
  obtain ⟨site, met, rfl⟩ := List.mem_map.mp member
  exact ⟨site.node, site_mem_walk (List.mem_filter.mp met).1, rfl⟩

/-- Every leaf of a well-formed tree lies in the range of its root. -/
theorem WellFormed.leaf_inside {root : SyntaxNode} (wellFormed : root.WellFormed)
    {leaf : NodeInfo} (member : leaf ∈ root.leaves) :
    root.range.start ≤ leaf.range.start ∧ leaf.range.stop ≤ root.range.stop := by
  obtain ⟨node, met, rfl⟩ := leaf_mem_walk member
  exact wellFormed.inside met

/-! ## The walk and the frontier -/

mutual

/-- The walk of a well-formed node comes to rest where it began or inside the node. -/
theorem spansFrom_reached_le (limit : Nat) : ∀ (node : SyntaxNode) (position : Nat),
    node.WellFormed → (node.spansFrom limit position).2 ≤ max position node.range.stop
  | .node info children, position, wellFormed => by
    unfold spansFrom
    split
    · exact Nat.le_max_left _ _
    · split
      · exact info.spansFrom_reached_le
      · exact spansOfAll_reached_le limit children position info.range.stop
          (fun child member => wellFormed.child member)
          (fun child member => (wellFormed.child_inside member).2)

private theorem spansOfAll_reached_le (limit : Nat) :
    ∀ (nodes : List SyntaxNode) (position stop : Nat),
    (∀ node ∈ nodes, node.WellFormed) → (∀ node ∈ nodes, node.range.stop ≤ stop) →
      (spansOfAll limit nodes position).2 ≤ max position stop
  | [], _, _, _, _ => Nat.le_max_left _ _
  | first :: rest, position, stop, wellFormed, inside => by
    have atFirst := spansFrom_reached_le limit first position (wellFormed first List.mem_cons_self)
    have atRest := spansOfAll_reached_le limit rest (first.spansFrom limit position).2 stop
      (fun node member => wellFormed node (.tail _ member))
      (fun node member => inside node (.tail _ member))
    have ends := inside first List.mem_cons_self
    rw [spansOfAll]
    dsimp only
    omega

end

section Spans

variable {keep : LeafSpan → Bool} {limit : Nat}

/-- Leaves that all start behind a node do not tell the position after the node from the one
before it. -/
theorem filterMap_spanIn_from {leaves : List NodeInfo} {position reached : Nat}
    (later : position ≤ reached)
    (passed : ∀ leaf ∈ leaves, reached ≤ max position leaf.range.start) :
    leaves.filterMap (·.spanIn reached limit) = leaves.filterMap (·.spanIn position limit) :=
  List.filterMap_congr fun leaf member => NodeInfo.spanIn_from later (passed leaf member)

mutual

/-- Gaps apart, the spans of a well-formed node are those of its leaves. -/
theorem spansFrom_filter (hidden : LeafSpan.HidesGaps keep) :
    ∀ (node : SyntaxNode) (position : Nat), node.WellFormed →
    (node.spansFrom limit position).1.filter keep =
      (node.leaves.filterMap (·.spanIn position limit)).filter keep
  | .node info children, position, wellFormed => by
    by_cases outside : info.range.stop ≤ position ∨ limit ≤ info.range.start
    · have nothing : (SyntaxNode.node info children).leaves.filterMap (·.spanIn position limit) =
          [] := by
        apply List.filterMap_eq_nil_iff.mpr
        intro leaf member
        have inside := wellFormed.leaf_inside member
        apply NodeInfo.spanIn_eq_none
        change info.range.start ≤ _ ∧ _ ≤ info.range.stop at inside
        omega
      rw [nothing, spansFrom, if_pos outside]
    · rw [spansFrom, if_neg outside, leaves]
      split
      · rw [NodeInfo.spansFrom_filter hidden, List.filterMap_cons, List.filterMap_nil]
        cases info.spanIn position limit <;> rfl
      · exact spansOfAll_filter hidden children position
          (fun child member => wellFormed.child member) wellFormed.children_ordered

private theorem spansOfAll_filter (hidden : LeafSpan.HidesGaps keep) :
    ∀ (nodes : List SyntaxNode) (position : Nat),
    (∀ node ∈ nodes, node.WellFormed) →
    (nodes.Pairwise fun node later => node.range.stop ≤ later.range.start) →
      (spansOfAll limit nodes position).1.filter keep =
        ((leavesOfAll nodes).filterMap (·.spanIn position limit)).filter keep
  | [], _, _, _ => rfl
  | first :: rest, position, wellFormed, ordered => by
    obtain ⟨beforeRest, orderedRest⟩ := List.pairwise_cons.mp ordered
    have later := (first.spansFrom_advances limit position).tiled.start_le_stop
    have reached := spansFrom_reached_le limit first position (wellFormed first List.mem_cons_self)
    have passed : ∀ leaf ∈ leavesOfAll rest,
        (first.spansFrom limit position).2 ≤ max position leaf.range.start := by
      intro leaf member
      obtain ⟨node, among, below⟩ := mem_leavesOfAll.mp member
      have behind := beforeRest node among
      have inside := (wellFormed node (.tail _ among)).leaf_inside below
      omega
    rw [spansOfAll, leavesOfAll, List.filterMap_append, List.filter_append, List.filter_append,
      spansFrom_filter hidden first position (wellFormed first List.mem_cons_self),
      spansOfAll_filter hidden rest _ (fun node member => wellFormed node (.tail _ member))
        orderedRest,
      filterMap_spanIn_from later passed]

end

/-- Apart from trivia, the spans that tile bounds are those of the leaves, cut to the bounds. -/
theorem tile_filter (hidden : LeafSpan.HidesGaps keep) {root : SyntaxNode}
    (wellFormed : root.WellFormed) (bounds : ByteRange) :
    (root.tile bounds).filter keep =
      (root.leaves.filterMap (·.spanIn bounds.start bounds.stop)).filter keep := by
  unfold tile
  dsimp only
  rw [List.filter_append, hidden.filter_gap, List.append_nil,
    spansFrom_filter hidden root _ wellFormed]

end Spans

end SyntaxNode

/-- A window with bytes that can be counted is tiled as it is. -/
theorem SyntaxTree.leafSpans_eq_tile (tree : SyntaxTree) {bounds : ByteRange}
    (occupied : bounds.start < bounds.stop) (countable : bounds.length ≤ ByteRange.indexLimit) :
    tree.leafSpans (some bounds) = .ok (tree.root.tile bounds) := by
  have counted : ∀ range ∈ some bounds, range.length ≤ ByteRange.indexLimit := by
    rintro range ⟨⟩
    exact countable
  rw [leafSpans, leafSpansFrom, tree.bounds_eq counted, windowOr, if_pos occupied]
  rfl

/-- Over a well-formed tree the leaf spans of bounds with bytes are, trivia left out, one span for
each frontier node that has bytes inside the bounds, in pre-order: it has the role and the type of
the node, and its range is that of the node, cut to the bounds. -/
theorem leafSpans_frontier {document : Document} {tree : SyntaxTree}
    (adapted : document.tree = .ok tree) (wellFormed : tree.root.WellFormed) {bounds : ByteRange}
    (occupied : bounds.start < bounds.stop) (countable : bounds.length ≤ ByteRange.indexLimit) :
    ∃ spans, tree.leafSpans (some bounds) = .ok spans ∧
      spans.filter (·.role != .trivia) =
        (tree.root.sites.filter (·.isFrontier)).filterMap fun site =>
          site.node.info.spanIn bounds.start bounds.stop := by
  refine ⟨tree.root.tile bounds, tree.leafSpans_eq_tile occupied countable, ?_⟩
  have solid : (tree.root.leaves.filterMap (·.spanIn bounds.start bounds.stop)).filter
      (·.role != .trivia) = tree.root.leaves.filterMap (·.spanIn bounds.start bounds.stop) := by
    apply List.filter_eq_self.mpr
    intro span member
    obtain ⟨leaf, among, cut⟩ := List.mem_filterMap.mp member
    obtain ⟨node, met, rfl⟩ := SyntaxNode.leaf_mem_walk among
    rw [bne_iff_ne, (NodeInfo.spanIn_eq_some cut).1]
    exact Document.tree_role_ne_trivia adapted met
  rw [SyntaxNode.tile_filter (fun _ _ _ => rfl) wellFormed, solid, ← tree.root.sites_frontier,
    List.filterMap_map]
  rfl

/-- A string literal in three parts, a node without bytes and a comment, one after the other. -/
def Document.sampleLiteral : Document where
  source := ⟨.c, Utf8.encodeString "x=\"a\"/*c*/;", none⟩
  parsed := some (.node ⟨"translation_unit", none, 0, 11, 0, 0, true, false⟩
    [.node ⟨"identifier", none, 0, 1, 0, 0, true, false⟩ [],
      .node ⟨"=", none, 1, 2, 0, 1, false, false⟩ [],
      .node ⟨"string_literal", none, 2, 5, 0, 2, true, false⟩
        [.node ⟨"\"", none, 2, 3, 0, 2, false, false⟩ [],
          .node ⟨"string_content", none, 3, 4, 0, 3, true, false⟩ [],
          .node ⟨"\"", none, 4, 5, 0, 4, false, false⟩ []],
      .node ⟨"identifier", none, 5, 5, 0, 5, true, true⟩ [],
      .node ⟨"comment", none, 5, 10, 0, 5, true, false⟩ [],
      .node ⟨";", none, 10, 11, 0, 10, false, false⟩ []])

/-- A range that starts inside a literal and ends inside a comment: the literal and the comment each
give one span, cut to the range. -/
theorem leafSpans_frontier_sampleLiteral :
    ∃ tree spans, Document.sampleLiteral.tree = .ok tree ∧ tree.root.WellFormed ∧
      tree.leafSpans (some ⟨3, 8, by decide⟩) = .ok spans ∧
      spans.filter (·.role != .trivia) =
        [⟨.atomic, ⟨3, 5, by decide⟩, some "string_literal"⟩,
          ⟨.comment, ⟨5, 8, by decide⟩, some "comment"⟩] := by
  let tree := Document.sampleLiteral.tree.toOption.get rfl
  have wellFormed : tree.root.WellFormed := by decide
  have adapted : Document.sampleLiteral.tree = .ok tree := rfl
  obtain ⟨spans, made, frontier⟩ := @leafSpans_frontier _ tree adapted wellFormed
    ⟨3, 8, by decide⟩ (by decide) (by decide)
  exact ⟨tree, spans, adapted, wellFormed, made, frontier⟩

end CodePrint
