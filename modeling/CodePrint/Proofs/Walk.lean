import CodePrint.Syntax.Node

/-! # Walks over a tree

What a walk meets, said by the children of a node: the node itself and what the walks of its
children meet. A walk with ancestors meets the same nodes, each below the nodes it was told of.
-/

namespace CodePrint.SyntaxNode

/-- What holds of a node whenever it holds of its children holds of every node. -/
theorem childInduction {motive : SyntaxNode → Prop}
    (step : ∀ info children, (∀ child ∈ children, motive child) → motive (.node info children))
    (node : SyntaxNode) : motive node := by
  refine @SyntaxNode.rec motive (fun nodes => ∀ member ∈ nodes, motive member) step ?_ ?_ node
  · intro member inside
    exact absurd inside List.not_mem_nil
  · intro first rest atFirst atRest member inside
    rcases List.mem_cons.mp inside with rfl | inside
    · exact atFirst
    · exact atRest member inside

private theorem mem_walkAll {node : SyntaxNode} {nodes : List SyntaxNode} :
    node ∈ walkAll nodes ↔ ∃ tree ∈ nodes, node ∈ tree.walk := by
  induction nodes with
  | nil => simp [walkAll]
  | cons first rest ih => simp [walkAll, ih]

/-- The walk of a node meets the node and then what the walks of its children meet. -/
theorem mem_walk {node : SyntaxNode} {info : NodeInfo} {children : List SyntaxNode} :
    node ∈ (SyntaxNode.node info children).walk ↔
      node = .node info children ∨ ∃ child ∈ children, node ∈ child.walk := by
  rw [walk, List.mem_cons, mem_walkAll]

/-- The walk of a node meets the node itself. -/
theorem self_mem_walk (node : SyntaxNode) : node ∈ node.walk := by
  cases node with
  | node info children => exact mem_walk.mpr (.inl rfl)

/-- A walk from a node that a walk meets stays inside that walk. -/
theorem walk_trans {root middle node : SyntaxNode} (outer : middle ∈ root.walk)
    (inner : node ∈ middle.walk) : node ∈ root.walk := by
  induction root using childInduction with
  | step info children ih =>
      rcases mem_walk.mp outer with rfl | ⟨child, member, below⟩
      · exact inner
      · exact mem_walk.mpr (.inr ⟨child, member, ih child member below⟩)

/-- A walk meets the children of every node it meets. -/
theorem child_mem_walk {root node child : SyntaxNode} (met : node ∈ root.walk)
    (member : child ∈ node.children) : child ∈ root.walk := by
  refine walk_trans met ?_
  cases node with
  | node info children => exact mem_walk.mpr (.inr ⟨child, member, child.self_mem_walk⟩)

/-- Every node that a walk meets is its root or a child of a node that it meets. -/
theorem eq_root_or_child {root node : SyntaxNode} (met : node ∈ root.walk) :
    node = root ∨ ∃ parent ∈ root.walk, node ∈ parent.children := by
  induction root using childInduction with
  | step info children ih =>
      rcases mem_walk.mp met with rfl | ⟨child, member, below⟩
      · exact .inl rfl
      · rcases ih child member below with rfl | ⟨parent, inside, isChild⟩
        · exact .inr ⟨.node info children, self_mem_walk _, member⟩
        · exact .inr ⟨parent, mem_walk.mpr (.inr ⟨child, member, inside⟩), isChild⟩

/-- The sites of several nodes below the same ancestors are those of each, one node after the
other. -/
theorem sitesOfAll_eq_flatMap (above nodes : List SyntaxNode) :
    sitesOfAll above nodes = nodes.flatMap (·.sitesBelow above) := by
  induction nodes with
  | nil => rfl
  | cons first rest ih => rw [sitesOfAll, List.flatMap_cons, ih]

/-- A site of several nodes is a site of one of them. -/
theorem mem_sitesOfAll {above nodes : List SyntaxNode} {site : NodeSite} :
    site ∈ sitesOfAll above nodes ↔ ∃ tree ∈ nodes, site ∈ tree.sitesBelow above := by
  rw [sitesOfAll_eq_flatMap, List.mem_flatMap]

/-- A site below a node is the node itself, or a site below one of its children, to which the node
is an ancestor. -/
theorem mem_sitesBelow {above children : List SyntaxNode} {info : NodeInfo} {site : NodeSite} :
    site ∈ (SyntaxNode.node info children).sitesBelow above ↔
      site = ⟨.node info children, above⟩ ∨
        ∃ child ∈ children, site ∈ child.sitesBelow (.node info children :: above) := by
  rw [sitesBelow, List.mem_cons, mem_sitesOfAll]

/-- A walk with ancestors meets only nodes of the tree. -/
theorem site_mem_walk {root : SyntaxNode} {above : List SyntaxNode} {site : NodeSite}
    (met : site ∈ root.sitesBelow above) : site.node ∈ root.walk := by
  induction root using childInduction generalizing above with
  | step info children ih =>
      rcases mem_sitesBelow.mp met with rfl | ⟨child, member, below⟩
      · exact self_mem_walk _
      · exact mem_walk.mpr (.inr ⟨child, member, ih child member below⟩)

mutual

/-- The sites below a node hold the nodes of its walk, in order. -/
theorem sitesBelow_node : ∀ (root : SyntaxNode) (above : List SyntaxNode),
    (root.sitesBelow above).map (·.node) = root.walk
  | .node info children, above => by
    rw [sitesBelow, walk, List.map_cons, sitesOfAll_node children]

private theorem sitesOfAll_node : ∀ (nodes above : List SyntaxNode),
    (sitesOfAll above nodes).map (·.node) = walkAll nodes
  | [], _ => rfl
  | first :: rest, above => by
    rw [sitesOfAll, walkAll, List.map_append, sitesBelow_node first above,
      sitesOfAll_node rest above]

end

/-- A walk with ancestors meets the nodes of the plain walk, in the same order. -/
theorem sites_node (root : SyntaxNode) : root.sites.map (·.node) = root.walk :=
  root.sitesBelow_node []

/-- The nodes that a walk is told of are the last ancestors of every node it meets. -/
theorem above_suffix_ancestors {root : SyntaxNode} {above : List SyntaxNode} {site : NodeSite}
    (met : site ∈ root.sitesBelow above) : above <:+ site.ancestors := by
  induction root using childInduction generalizing above with
  | step info children ih =>
      rcases mem_sitesBelow.mp met with rfl | ⟨child, member, below⟩
      · exact List.suffix_refl _
      · exact (List.suffix_cons _ _).trans (ih child member below)

/-- Every site below some ancestors has them among its own. -/
theorem above_subset_ancestors {root : SyntaxNode} {above : List SyntaxNode} {site : NodeSite}
    (met : site ∈ root.sitesBelow above) : above ⊆ site.ancestors :=
  (above_suffix_ancestors met).subset

end CodePrint.SyntaxNode
