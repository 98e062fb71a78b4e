import CodePrint.Proofs.Adaptation
import CodePrint.Region.Locate
import CodePrint.Syntax.Span
import Mathlib.Data.List.Forall2

/-! # Copies of a tree at another place

A copy of a tree has the same types, fields and flags node by node, and every range is moved by one
offset; where its nodes stand in lines and columns is left open. Roles are found from what a copy
keeps, so copies with the same role at the root have the same roles throughout, and the spans of a
moved window are the moved spans of the window.
-/

namespace CodePrint

/-- The second range is the first one, moved by an offset. -/
structure ByteRange.MovedBy (offset : Int) (range moved : ByteRange) : Prop where
  start : (moved.start : Int) = range.start + offset
  stop : (moved.stop : Int) = range.stop + offset

instance (offset : Int) (range moved : ByteRange) : Decidable (range.MovedBy offset moved) :=
  decidable_of_iff
    ((moved.start : Int) = range.start + offset ∧ (moved.stop : Int) = range.stop + offset)
    ⟨fun ⟨start, stop⟩ => ⟨start, stop⟩, fun ⟨start, stop⟩ => ⟨start, stop⟩⟩

/-- The second node has the type, field and flags of the first, and its range moved by an offset. -/
structure NodeInfo.CopiedAt (offset : Int) (info copy : NodeInfo) : Prop where
  type : copy.type = info.type
  field : copy.field = info.field
  named : copy.named = info.named
  missing : copy.missing = info.missing
  range : info.range.MovedBy offset copy.range

instance (offset : Int) (info copy : NodeInfo) : Decidable (info.CopiedAt offset copy) :=
  decidable_of_iff
    (copy.type = info.type ∧ copy.field = info.field ∧ copy.named = info.named ∧
      copy.missing = info.missing ∧ info.range.MovedBy offset copy.range)
    ⟨fun ⟨type, field, named, missing, range⟩ => ⟨type, field, named, missing, range⟩,
      fun ⟨type, field, named, missing, range⟩ => ⟨type, field, named, missing, range⟩⟩

/-- A copy that has the same role as well. -/
structure NodeInfo.TwinAt (offset : Int) (info twin : NodeInfo) : Prop
    extends info.CopiedAt offset twin where
  role : twin.role = info.role

namespace SyntaxNode

mutual

/-- Two trees of one shape whose nodes are related one by one. -/
def Corresponds (related : NodeInfo → NodeInfo → Prop) : SyntaxNode → SyntaxNode → Prop
  | .node info children, .node other others =>
    related info other ∧ AllCorrespond related children others

/-- As many trees on both sides, related one by one. -/
def AllCorrespond (related : NodeInfo → NodeInfo → Prop) :
    List SyntaxNode → List SyntaxNode → Prop
  | [], [] => True
  | first :: rest, other :: others =>
    first.Corresponds related other ∧ AllCorrespond related rest others
  | _, _ => False

end

mutual

/-- Whether two trees correspond can be decided node by node. -/
def decideCorresponds {related : NodeInfo → NodeInfo → Prop}
    [∀ info other, Decidable (related info other)] :
    (node other : SyntaxNode) → Decidable (node.Corresponds related other)
  | .node info children, .node other others =>
    have := @decideAllCorrespond related _ children others
    inferInstanceAs (Decidable (related info other ∧ AllCorrespond related children others))

def decideAllCorrespond {related : NodeInfo → NodeInfo → Prop}
    [∀ info other, Decidable (related info other)] :
    (nodes others : List SyntaxNode) → Decidable (AllCorrespond related nodes others)
  | [], [] => isTrue trivial
  | first :: rest, other :: others =>
    have := @decideCorresponds related _ first other
    have := @decideAllCorrespond related _ rest others
    inferInstanceAs
      (Decidable (first.Corresponds related other ∧ AllCorrespond related rest others))
  | [], _ :: _ => isFalse id
  | _ :: _, [] => isFalse id

end

/-- The second tree is the first one, moved by an offset. -/
def CopiedAt (offset : Int) : SyntaxNode → SyntaxNode → Prop :=
  Corresponds (NodeInfo.CopiedAt offset)

instance (offset : Int) (node copy : SyntaxNode) : Decidable (node.CopiedAt offset copy) :=
  decideCorresponds node copy

/-- The second tree is the first one, moved by an offset, with the same roles. -/
def TwinAt (offset : Int) : SyntaxNode → SyntaxNode → Prop :=
  Corresponds (NodeInfo.TwinAt offset)

variable {related : NodeInfo → NodeInfo → Prop} {offset : Int}

private theorem allCorrespond_iff {nodes others : List SyntaxNode} :
    AllCorrespond related nodes others ↔ List.Forall₂ (Corresponds related) nodes others := by
  induction nodes generalizing others with
  | nil =>
      cases others with
      | nil => exact iff_of_true trivial .nil
      | cons other others => exact iff_of_false id nofun
  | cons first rest ih =>
      cases others with
      | nil => exact iff_of_false id nofun
      | cons other others => rw [AllCorrespond, List.forall₂_cons, ih]

/-- The relation between two corresponding trees holds of their roots. -/
theorem Corresponds.info {node other : SyntaxNode} (same : node.Corresponds related other) :
    related node.info other.info := by
  cases node
  cases other
  exact same.1

private theorem Corresponds.children {node other : SyntaxNode}
    (same : node.Corresponds related other) :
    List.Forall₂ (Corresponds related) node.children other.children := by
  cases node
  cases other
  exact allCorrespond_iff.mp same.2

private theorem Corresponds.childless {node other : SyntaxNode}
    (same : node.Corresponds related other) : other.children.isEmpty = node.children.isEmpty := by
  rw [Bool.eq_iff_iff, List.isEmpty_iff_length_eq_zero, List.isEmpty_iff_length_eq_zero,
    same.children.length_eq]

mutual

/-- Walks over corresponding trees meet corresponding nodes. -/
theorem walk_corresponds : ∀ (node other : SyntaxNode), node.Corresponds related other →
    List.Forall₂ (Corresponds related) node.walk other.walk
  | .node _ children, .node _ others, same =>
    .cons same (walkAll_corresponds children others same.2)

private theorem walkAll_corresponds : ∀ (nodes others : List SyntaxNode),
    AllCorrespond related nodes others →
      List.Forall₂ (Corresponds related) (walkAll nodes) (walkAll others)
  | [], [], _ => .nil
  | first :: rest, other :: others, same =>
    List.rel_append (walk_corresponds first other same.1) (walkAll_corresponds rest others same.2)

end

/-- The role that a profile finds for a node under a parent is the one it finds for a copy. -/
theorem CopiedAt.roleUnder {node copy : SyntaxNode} (copied : node.CopiedAt offset copy)
    (profile : Profile) (parent : Option NodeRole) :
    copy.roleUnder profile parent = node.roleUnder profile parent := by
  have kept := copied.info
  unfold SyntaxNode.roleUnder
  rw [kept.field, copied.childless]
  exact RawNode.role_congr kept.type kept.missing _ _ _ _

mutual

/-- A copy whose root has the same role has the same roles throughout. -/
theorem twin_of_copied {profile : Profile} : ∀ (node copy : SyntaxNode),
    node.Classified profile → copy.Classified profile → copy.role = node.role →
      node.CopiedAt offset copy → node.TwinAt offset copy
  | .node info children, .node other others, classified, classifiedCopy, role, copied => by
    refine ⟨⟨copied.1, role⟩,
      allTwins_of_copied profile (some info.role) children others ?_ ?_ copied.2⟩
    · exact fun child member => classified.child member
    · intro child member
      have found := classifiedCopy.child member
      rw [show other.role = info.role from role] at found
      exact found

private theorem allTwins_of_copied (profile : Profile) (parent : Option NodeRole) :
    ∀ (nodes copies : List SyntaxNode),
      (∀ node ∈ nodes, node.role = node.roleUnder profile parent ∧ node.Classified profile) →
      (∀ copy ∈ copies, copy.role = copy.roleUnder profile parent ∧ copy.Classified profile) →
      AllCorrespond (NodeInfo.CopiedAt offset) nodes copies →
        AllCorrespond (NodeInfo.TwinAt offset) nodes copies
  | [], [], _, _, _ => trivial
  | first :: rest, copy :: copies, classified, classifiedCopies, copied => by
    obtain ⟨role, below⟩ := classified first List.mem_cons_self
    obtain ⟨roleCopy, belowCopy⟩ := classifiedCopies copy List.mem_cons_self
    have sameRole : copy.role = first.role :=
      roleCopy.trans ((CopiedAt.roleUnder copied.1 profile parent).trans role.symm)
    exact ⟨twin_of_copied first copy below belowCopy sameRole copied.1,
      allTwins_of_copied profile parent rest copies
        (fun node member => classified node (.tail _ member))
        (fun node member => classifiedCopies node (.tail _ member)) copied.2⟩

end

/-- What stands in a field of a node and of its twin are twins. -/
theorem TwinAt.inField {node twin : SyntaxNode} (same : node.TwinAt offset twin) (field : String) :
    Option.Rel (TwinAt offset) (node.inField? field) (twin.inField? field) := by
  unfold inField?
  have children := same.children
  generalize node.children = nodes, twin.children = others at children
  induction children with
  | nil => exact .none
  | @cons child other _ _ twins _ ih =>
      have sameField : other.info.field = child.info.field := twins.info.field
      rw [List.find?_cons, List.find?_cons, sameField]
      split
      · exact .some twins
      · exact ih

/-- Twins have parameters or lack them together. -/
theorem TwinAt.hasParameters {node twin : SyntaxNode} (same : node.TwinAt offset twin) :
    twin.hasParameters = node.hasParameters := by
  unfold SyntaxNode.hasParameters
  have walks := walk_corresponds node twin same
  generalize node.walk = nodes, twin.walk = others at walks
  induction walks with
  | nil => rfl
  | @cons inner other _ _ twins _ ih =>
      have sameRole : other.role = inner.role := twins.info.role
      rw [List.any_cons, List.any_cons, ih, sameRole]

end SyntaxNode

/-- The second span is the first one, moved by an offset. -/
structure LeafSpan.MovedBy (offset : Int) (span moved : LeafSpan) : Prop where
  role : moved.role = span.role
  nodeType : moved.nodeType = span.nodeType
  range : span.range.MovedBy offset moved.range

/-- Two walks that gave spans and came to rest, the second all moved by an offset. -/
structure ReachedBy (offset : Int) (reached moved : List LeafSpan × Nat) : Prop where
  spans : List.Forall₂ (LeafSpan.MovedBy offset) reached.1 moved.1
  position : (moved.2 : Int) = reached.2 + offset

section Spans

variable {offset : Int} {limit limit' position position' : Nat}

private theorem ReachedBy.stay (positions : (position' : Int) = position + offset) :
    ReachedBy offset ([], position) ([], position') :=
  ⟨.nil, positions⟩

private theorem LeafSpan.gap_moved (positions : (position' : Int) = position + offset)
    (limits : (limit' : Int) = limit + offset) :
    List.Forall₂ (LeafSpan.MovedBy offset) (LeafSpan.gap position limit)
      (LeafSpan.gap position' limit') := by
  unfold LeafSpan.gap
  by_cases apart : position < limit
  · have apart' : position' < limit' := by omega
    rw [dif_pos apart, dif_pos apart']
    exact .cons ⟨rfl, rfl, positions, limits⟩ .nil
  · have together : ¬position' < limit' := by omega
    rw [dif_neg apart, dif_neg together]
    exact .nil

private theorem NodeInfo.TwinAt.spansFrom {info twin : NodeInfo} (same : info.TwinAt offset twin)
    (limits : (limit' : Int) = limit + offset)
    (positions : (position' : Int) = position + offset) :
    ReachedBy offset (info.spansFrom limit position) (twin.spansFrom limit' position') := by
  have starts : ((max twin.range.start position' : Nat) : Int) =
      (max info.range.start position : Nat) + offset := by
    have := same.range.start
    omega
  have stops : ((min twin.range.stop limit' : Nat) : Int) =
      (min info.range.stop limit : Nat) + offset := by
    have := same.range.stop
    omega
  unfold NodeInfo.spansFrom
  by_cases apart : max info.range.start position < min info.range.stop limit
  · have apart' : max twin.range.start position' < min twin.range.stop limit' := by omega
    simp only [dif_pos apart, dif_pos apart']
    refine ⟨List.rel_append (LeafSpan.gap_moved positions starts) (.cons ?_ .nil), stops⟩
    exact ⟨same.role, congrArg some same.type, starts, stops⟩
  · have together : ¬max twin.range.start position' < min twin.range.stop limit' := by omega
    simp only [dif_neg apart, dif_neg together]
    exact .stay positions

namespace SyntaxNode

mutual

/-- Twins visited from positions an offset apart give spans that offset apart. -/
theorem TwinAt.spansFrom (limits : (limit' : Int) = limit + offset) :
    ∀ (node twin : SyntaxNode), node.TwinAt offset twin → ∀ {position position' : Nat},
      (position' : Int) = position + offset →
        ReachedBy offset (node.spansFrom limit position) (twin.spansFrom limit' position')
  | .node info children, .node other others, same, position, position', positions => by
    have childless : others.isEmpty = children.isEmpty := same.childless
    obtain ⟨sameInfo, sameChildren⟩ := same
    have outside : other.range.stop ≤ position' ∨ limit' ≤ other.range.start ↔
        info.range.stop ≤ position ∨ limit ≤ info.range.start := by
      have := sameInfo.range.start
      have := sameInfo.range.stop
      omega
    unfold SyntaxNode.spansFrom
    simp only [outside, childless, sameInfo.role]
    split
    · exact .stay positions
    · split
      · exact sameInfo.spansFrom limits positions
      · exact AllTwins.spansOfAll limits children others sameChildren positions

private theorem AllTwins.spansOfAll (limits : (limit' : Int) = limit + offset) :
    ∀ (nodes twins : List SyntaxNode), AllCorrespond (NodeInfo.TwinAt offset) nodes twins →
      ∀ {position position' : Nat}, (position' : Int) = position + offset →
        ReachedBy offset (spansOfAll limit nodes position) (spansOfAll limit' twins position')
  | [], [], _, _, _, positions => .stay positions
  | first :: rest, twin :: twins, same, _, _, positions =>
    have front := TwinAt.spansFrom limits first twin same.1 positions
    have back := AllTwins.spansOfAll limits rest twins same.2 front.position
    ⟨List.rel_append front.spans back.spans, back.position⟩

end

/-- The tiling that a twin gives of moved bounds is the moved tiling. -/
theorem TwinAt.tile {node twin : SyntaxNode} (same : node.TwinAt offset twin)
    {bounds moved : ByteRange} (movedBounds : bounds.MovedBy offset moved) :
    List.Forall₂ (LeafSpan.MovedBy offset) (node.tile bounds) (twin.tile moved) := by
  have walked := TwinAt.spansFrom movedBounds.stop node twin same movedBounds.start
  exact List.rel_append walked.spans (LeafSpan.gap_moved walked.position movedBounds.stop)

end SyntaxNode

end Spans

end CodePrint
