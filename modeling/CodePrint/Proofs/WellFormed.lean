import CodePrint.Proofs.Walk
import CodePrint.Syntax.Span
import Mathlib.Data.List.Chain

/-! # Well-formed trees

In a well-formed tree the range of a node contains those of its children, and siblings stand one
after the other. A window inside a node then sees nothing but that node: the walk from the root
passes over everything beside the node and gives the spans that a walk from the node gives.
-/

namespace CodePrint.SyntaxNode

/-- The range of every node contains those of its children, and no child ends after the next one
starts. -/
def WellFormed (root : SyntaxNode) : Prop :=
  ∀ node ∈ root.walk,
    (∀ child ∈ node.children, node.range.contains child.range = true) ∧
      node.children.IsChain fun child next => child.range.stop ≤ next.range.start

instance (root : SyntaxNode) : Decidable root.WellFormed :=
  inferInstanceAs (Decidable (∀ node ∈ root.walk,
    (∀ child ∈ node.children, node.range.contains child.range = true) ∧
      node.children.IsChain fun child next => child.range.stop ≤ next.range.start))

namespace WellFormed

variable {root : SyntaxNode} {info : NodeInfo} {children : List SyntaxNode}

/-- Every node of a well-formed tree is well formed. -/
theorem of_mem (wellFormed : root.WellFormed) {node : SyntaxNode} (met : node ∈ root.walk) :
    node.WellFormed :=
  fun inner below => wellFormed inner (walk_trans met below)

/-- The children of a well-formed node are well formed. -/
theorem child (wellFormed : (SyntaxNode.node info children).WellFormed) {child : SyntaxNode}
    (member : child ∈ children) : child.WellFormed :=
  wellFormed.of_mem (child_mem_walk (self_mem_walk _) member)

/-- The children of a well-formed node lie in its range. -/
theorem child_inside (wellFormed : (SyntaxNode.node info children).WellFormed)
    {child : SyntaxNode} (member : child ∈ children) :
    info.range.start ≤ child.range.start ∧ child.range.stop ≤ info.range.stop :=
  ByteRange.contains_iff.mp ((wellFormed _ (self_mem_walk _)).1 child member)

/-- Not only neighbours: every child ends before any later one starts. -/
theorem children_ordered (wellFormed : (SyntaxNode.node info children).WellFormed) :
    children.Pairwise fun child later => child.range.stop ≤ later.range.start := by
  have : IsTrans SyntaxNode fun child later => child.range.stop ≤ later.range.start :=
    ⟨fun first second third => fun before after =>
      Nat.le_trans before (Nat.le_trans second.range.ordered after)⟩
  exact (wellFormed _ (self_mem_walk _)).2.pairwise

/-- The range of the root contains the range of every node. -/
theorem inside (wellFormed : root.WellFormed) {node : SyntaxNode} (met : node ∈ root.walk) :
    root.range.start ≤ node.range.start ∧ node.range.stop ≤ root.range.stop := by
  induction root using childInduction with
  | step info children ih =>
      rcases mem_walk.mp met with rfl | ⟨child, member, below⟩
      · exact ⟨Nat.le_refl _, Nat.le_refl _⟩
      · have outer := wellFormed.child_inside member
        have inner := ih child member (wellFormed.child member) below
        exact ⟨Nat.le_trans outer.1 inner.1, Nat.le_trans inner.2 outer.2⟩

end WellFormed

/-- A node that ends before the position or starts behind the limit is passed over. -/
theorem spansFrom_outside {node : SyntaxNode} {limit position : Nat}
    (outside : node.range.stop ≤ position ∨ limit ≤ node.range.start) :
    node.spansFrom limit position = ([], position) := by
  cases node with
  | node info children =>
      unfold spansFrom
      exact if_pos outside

/-- Nodes outside a stretch give no spans in it. -/
theorem spansOfAll_outside {nodes : List SyntaxNode} {limit position : Nat}
    (outside : ∀ node ∈ nodes, node.range.stop ≤ position ∨ limit ≤ node.range.start) :
    spansOfAll limit nodes position = ([], position) := by
  induction nodes with
  | nil => rfl
  | cons first rest ih =>
      simp only [spansOfAll, spansFrom_outside (outside first List.mem_cons_self),
        ih fun node member => outside node (.tail _ member), List.append_nil]

/-- Several nodes are visited in two lists, the second from the place that the first reaches. -/
theorem spansOfAll_append (limit : Nat) (front back : List SyntaxNode) (position : Nat) :
    spansOfAll limit (front ++ back) position =
      ((spansOfAll limit front position).1 ++
          (spansOfAll limit back (spansOfAll limit front position).2).1,
        (spansOfAll limit back (spansOfAll limit front position).2).2) := by
  induction front generalizing position with
  | nil => rfl
  | cons first rest ih => simp only [List.cons_append, spansOfAll, ih, List.append_assoc]

/-- Among ordered siblings, a window inside one of them sees only that one. -/
theorem spansOfAll_focus {nodes : List SyntaxNode} {node : SyntaxNode} {limit position : Nat}
    (ordered : nodes.Pairwise fun sibling later => sibling.range.stop ≤ later.range.start)
    (member : node ∈ nodes) (begins : node.range.start ≤ position)
    (ends : limit ≤ node.range.stop) :
    spansOfAll limit nodes position = node.spansFrom limit position := by
  obtain ⟨before, after, rfl⟩ := List.append_of_mem member
  obtain ⟨_, fromNode, beforeNode⟩ := List.pairwise_append.mp ordered
  have passedBefore : spansOfAll limit before position = ([], position) :=
    spansOfAll_outside fun sibling inside =>
      .inl (Nat.le_trans (beforeNode sibling inside node List.mem_cons_self) begins)
  have passedAfter : ∀ reached, spansOfAll limit after reached = ([], reached) := fun reached =>
    spansOfAll_outside fun sibling inside =>
      .inr (Nat.le_trans ends ((List.pairwise_cons.mp fromNode).1 sibling inside))
  simp only [spansOfAll_append, passedBefore, spansOfAll, passedAfter, List.append_nil,
    List.nil_append]

/-- A window inside a node that no literal or comment encloses sees only that node. -/
theorem spansFrom_focus {root : SyntaxNode} {above : List SyntaxNode} {site : NodeSite}
    {limit position : Nat} (wellFormed : root.WellFormed) (met : site ∈ root.sitesBelow above)
    (exposed : ∀ ancestor ∈ site.ancestors, ancestor.role.isWhole = false)
    (begins : site.node.range.start ≤ position) (occupied : position < limit)
    (ends : limit ≤ site.node.range.stop) :
    root.spansFrom limit position = site.node.spansFrom limit position := by
  -- One step down towards the node: the siblings of the child on the way are all passed over.
  induction root using childInduction generalizing above with
  | step info children ih =>
      rcases mem_sitesBelow.mp met with rfl | ⟨child, member, below⟩
      · rfl
      · have outer := wellFormed.child_inside member
        have inner := (wellFormed.child member).inside (site_mem_walk below)
        have reached : ¬(info.range.stop ≤ position ∨ limit ≤ info.range.start) := by omega
        have opened : info.role.isWhole = false :=
          exposed _ (above_subset_ancestors below List.mem_cons_self)
        have parental : children.isEmpty = false :=
          List.isEmpty_eq_false_iff_exists_mem.mpr ⟨child, member⟩
        rw [spansFrom, if_neg reached, opened, parental]
        exact (spansOfAll_focus wellFormed.children_ordered member (by omega) (by omega)).trans
          (ih child member (wellFormed.child member) below)

/-- The tiling of bounds inside a node, made from the root, is the one made from the node. -/
theorem tile_focus {root : SyntaxNode} {site : NodeSite} {bounds : ByteRange}
    (wellFormed : root.WellFormed) (met : site ∈ root.sites)
    (exposed : ∀ ancestor ∈ site.ancestors, ancestor.role.isWhole = false)
    (begins : site.node.range.start ≤ bounds.start) (occupied : bounds.start < bounds.stop)
    (ends : bounds.stop ≤ site.node.range.stop) : root.tile bounds = site.node.tile bounds := by
  unfold tile
  rw [spansFrom_focus wellFormed met exposed begins occupied ends]

end CodePrint.SyntaxNode
