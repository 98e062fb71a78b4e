import CodePrint.Proofs.Alike
import CodePrint.Proofs.Walk
import CodePrint.Syntax.Tree

/-! # Adapted trees

Adapting a reported tree gives every node the role that the profile of its language finds for its
type, its field, its flags, the role of its parent and whether it has children. Nothing else goes
into a role, so a role can be found again from the adapted node and its parent.
-/

namespace CodePrint

/-- What a parser reports of a node, read back from the adapted node. -/
def NodeInfo.reported (info : NodeInfo) : RawNode where
  type := info.type
  field := info.field
  start := info.range.start
  stop := info.range.stop
  row := info.row
  column := info.column
  named := info.named
  missing := info.missing

/-- The spans between tokens have a role of their own: no node is given it. -/
theorem RawNode.role_ne_trivia (profile : Profile) (node : RawNode) (parent : Option NodeRole)
    (field : Option String) (childless : Bool) :
    node.role profile parent field childless ≠ .trivia := by
  unfold RawNode.role
  repeat' split
  all_goals exact nofun

/-- The error role goes to the nodes the parser could not place and to the ones it put in, in every
language and wherever they stand. -/
theorem RawNode.role_eq_error_iff (profile : Profile) (node : RawNode) (parent : Option NodeRole)
    (field : Option String) (childless : Bool) :
    node.role profile parent field childless = .error ↔ node.type = "ERROR" ∨ node.missing := by
  unfold RawNode.role
  split
  · exact iff_of_true rfl ‹_›
  · refine iff_of_false ?_ ‹_›
    repeat' split
    all_goals exact nofun

/-- Of a node's own data only its type and whether it is missing go into its role. -/
theorem RawNode.role_congr {node other : RawNode} (type : other.type = node.type)
    (missing : other.missing = node.missing) (profile : Profile) (parent : Option NodeRole)
    (field : Option String) (childless : Bool) :
    other.role profile parent field childless = node.role profile parent field childless := by
  cases node
  cases other
  cases type
  cases missing
  rfl

/-- An adapted node stands in its field and has the role that its own data gives. -/
theorem RawNode.adapt_role {profile : Profile} {node : RawNode} {parent : Option NodeRole}
    {field : Option String} {childless : Bool} {info : NodeInfo}
    (adapted : node.adapt profile parent field childless = .ok info) :
    info.field = field ∧ info.role = info.reported.role profile parent field childless := by
  obtain ⟨range, _, made⟩ := bind_eq_ok.mp adapted
  cases made
  exact ⟨rfl, rfl⟩

namespace SyntaxNode

/-- The role that a profile finds for a node below a parent. -/
def roleUnder (profile : Profile) (parent : Option NodeRole) (node : SyntaxNode) : NodeRole :=
  node.info.reported.role profile parent node.info.field node.children.isEmpty

/-- Every node below the root has the role that the profile finds for it under its parent. -/
def Classified (profile : Profile) (root : SyntaxNode) : Prop :=
  ∀ node ∈ root.walk, ∀ child ∈ node.children, child.role = child.roleUnder profile (some node.role)

/-- Classification is inherited by every node that the walk meets. -/
theorem Classified.of_mem {profile : Profile} {root node : SyntaxNode}
    (classified : root.Classified profile) (met : node ∈ root.walk) : node.Classified profile :=
  fun inner below => classified inner (walk_trans met below)

/-- A child of a classified node has the role that its parent's role gives it, and is classified in
its turn. -/
theorem Classified.child {profile : Profile} {info : NodeInfo} {children : List SyntaxNode}
    (classified : (SyntaxNode.node info children).Classified profile) {child : SyntaxNode}
    (member : child ∈ children) :
    child.role = child.roleUnder profile (some info.role) ∧ child.Classified profile :=
  ⟨classified _ (self_mem_walk _) child member,
    classified.of_mem (child_mem_walk (self_mem_walk _) member)⟩

private theorem classified_node {profile : Profile} {info : NodeInfo} {children : List SyntaxNode}
    (below : ∀ child ∈ children,
      child.role = child.roleUnder profile (some info.role) ∧ child.Classified profile) :
    (SyntaxNode.node info children).Classified profile := by
  intro node met
  rcases mem_walk.mp met with rfl | ⟨child, member, inside⟩
  · exact fun child member => (below child member).1
  · exact (below child member).2 node inside

end SyntaxNode

namespace RawTree

mutual

/-- The adapted tree is classified, its root by the parent it was told of. -/
theorem adaptIn_classified {profile : Profile} {parent : Option NodeRole} {field : Option String} :
    ∀ (tree : RawTree) {root : SyntaxNode}, tree.adaptIn profile parent field = .ok root →
      root.role = root.roleUnder profile parent ∧ root.Classified profile
  | .node data children, root, adapted => by
    obtain ⟨info, adaptedInfo, rest⟩ := bind_eq_ok.mp adapted
    obtain ⟨nodes, adaptedAll, made⟩ := bind_eq_ok.mp rest
    cases made
    obtain ⟨childless, below⟩ := adaptAll_classified children adaptedAll
    obtain ⟨rfl, role⟩ := data.adapt_role adaptedInfo
    refine ⟨?_, SyntaxNode.classified_node below⟩
    rw [← childless] at role
    exact role

private theorem adaptAll_classified {profile : Profile} {parent : NodeRole} :
    ∀ (trees : List RawTree) {nodes : List SyntaxNode}, adaptAll profile parent trees = .ok nodes →
      nodes.isEmpty = trees.isEmpty ∧
        ∀ node ∈ nodes, node.role = node.roleUnder profile (some parent) ∧ node.Classified profile
  | [], nodes, adapted => by
    cases adapted
    exact ⟨rfl, fun _ member => absurd member List.not_mem_nil⟩
  | first :: rest, nodes, adapted => by
    obtain ⟨child, adaptedFirst, others⟩ := bind_eq_ok.mp adapted
    obtain ⟨later, adaptedRest, made⟩ := bind_eq_ok.mp others
    cases made
    refine ⟨rfl, fun node member => ?_⟩
    rcases List.mem_cons.mp member with rfl | member
    · exact adaptIn_classified first adaptedFirst
    · exact (adaptAll_classified rest adaptedRest).2 node member

end

end RawTree

namespace Document

/-- What an adapted tree takes over from its document. -/
theorem tree_eq_ok {document : Document} {tree : SyntaxTree} (adapted : document.tree = .ok tree) :
    tree.content = document.source.content ∧ tree.language = document.source.language ∧
      ∃ raw, document.parsed = some raw ∧
        raw.adapt document.source.language.profile = .ok tree.root := by
  unfold Document.tree at adapted
  split at adapted
  · cases adapted
  · obtain ⟨root, adaptedRoot, made⟩ := bind_eq_ok.mp adapted
    cases made
    exact ⟨rfl, rfl, _, ‹_›, adaptedRoot⟩

/-- The tree of a document is classified by the profile of the document's language. -/
theorem tree_classified {document : Document} {tree : SyntaxTree}
    (adapted : document.tree = .ok tree) : tree.root.Classified tree.language.profile := by
  obtain ⟨_, language, raw, _, adaptedRoot⟩ := tree_eq_ok adapted
  rw [language]
  exact (raw.adaptIn_classified adaptedRoot).2

/-- Every node of an adapted tree has a role that the profile finds for it. -/
theorem tree_roleUnder {document : Document} {tree : SyntaxTree}
    (adapted : document.tree = .ok tree) {node : SyntaxNode} (met : node ∈ tree.root.walk) :
    ∃ profile parent, node.role = node.roleUnder profile parent := by
  obtain ⟨_, _, raw, _, adaptedRoot⟩ := tree_eq_ok adapted
  obtain ⟨atRoot, below⟩ := raw.adaptIn_classified adaptedRoot
  rcases SyntaxNode.eq_root_or_child met with rfl | ⟨parent, inside, isChild⟩
  · exact ⟨_, _, atRoot⟩
  · exact ⟨_, _, below parent inside node isChild⟩

/-- No node of an adapted tree has the role of the bytes between tokens. -/
theorem tree_role_ne_trivia {document : Document} {tree : SyntaxTree}
    (adapted : document.tree = .ok tree) {node : SyntaxNode} (met : node ∈ tree.root.walk) :
    node.role ≠ .trivia := by
  obtain ⟨profile, parent, role⟩ := tree_roleUnder adapted met
  rw [role]
  exact RawNode.role_ne_trivia _ _ _ _ _

end Document

end CodePrint
