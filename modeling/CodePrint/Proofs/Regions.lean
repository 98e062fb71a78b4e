import CodePrint.Proofs.WellFormed
import CodePrint.Region.Locate

/-! # Regions of functions

The region of a function is found from the function and the children that stand in two of its
fields. Inside the source it fails only for want of a part, or when the signature would end before
it starts; in a well-formed tree the latter cannot be.
-/

namespace CodePrint

/-- Two places in order are the bounds of a range. -/
theorem ByteRange.ofBounds_natCast {start stop : Nat} (ordered : start ≤ stop) :
    ByteRange.ofBounds start stop = .ok ⟨start, stop, ordered⟩ := by
  have inOrder : (0 : Int) ≤ start ∧ (start : Int) ≤ stop := by omega
  simp only [ByteRange.ofBounds, ByteRange.ofBounds?, dif_pos inOrder, Int.toNat_natCast]

namespace SyntaxNode

private theorem inField_mem {node child : SyntaxNode} {field : String}
    (found : node.inField? field = some child) : child ∈ node.children :=
  List.mem_of_find?_eq_some found

/-- In a well-formed tree the child in a field lies in the range of its parent. -/
theorem WellFormed.inField_inside {node child : SyntaxNode} {field : String}
    (wellFormed : node.WellFormed) (found : node.inField? field = some child) :
    node.range.start ≤ child.range.start ∧ child.range.stop ≤ node.range.stop :=
  wellFormed.inside (child_mem_walk (self_mem_walk _) (inField_mem found))

end SyntaxNode

/-- A function without one of its parts. -/
def NodeSite.lacks (site : NodeSite) (reason : String) : ScanError :=
  .malformed site.node.type site.node.range.start site.node.range.stop reason

namespace SyntaxTree

/-- The region of a function with all its parts. -/
def regionOf (tree : SyntaxTree) (profile : Profile) (site : NodeSite)
    (signature body : ByteRange) (declarator : SyntaxNode) : Region where
  kind := site.regionKind
  range := site.node.range
  signature := some signature
  body := some body
  depth := site.functionDepth
  name := tree.declaredName? profile declarator

/-- The region of a function inside the source, by what stands in its two fields. -/
theorem regionAt_inBounds (tree : SyntaxTree) (profile : Profile) {site : NodeSite}
    (inside : site.node.range.stop ≤ tree.content.length) :
    tree.regionAt profile site =
      match site.node.inField? profile.bodyField, site.node.inField? profile.declaratorField with
      | none, _ => .error (site.lacks "no body")
      | some _, none => .error (site.lacks "no declarator")
      | some body, some declarator =>
        if declarator.hasParameters then
          (ByteRange.ofBounds site.node.range.start declarator.range.stop).map fun signature =>
            tree.regionOf profile site signature body.range declarator
        else .error (site.lacks "no parameter list") := by
  have inBounds : ¬tree.content.length < site.node.range.stop := Nat.not_lt.mpr inside
  unfold regionAt
  simp only [inBounds, ↓reduceIte]
  cases site.node.inField? profile.bodyField with
  | none => rfl
  | some body =>
      cases site.node.inField? profile.declaratorField with
      | none => rfl
      | some declarator =>
          dsimp only
          cases declarator.hasParameters with
          | false => rfl
          | true =>
              cases ByteRange.ofBounds site.node.range.start declarator.range.stop with
              | error failure => rfl
              | ok signature => rfl

/-- A function that reaches beyond the source is refused with its bounds and the length of the
source. -/
theorem regionAt_outside {tree : SyntaxTree} {site : NodeSite}
    (outside : tree.content.length < site.node.range.stop) (profile : Profile) :
    tree.regionAt profile site =
      .error (.outOfBounds site.node.range.start site.node.range.stop tree.content.length) := by
  unfold regionAt
  simp only [outside, ↓reduceIte]
  rfl

/-- A region that is found lies in the source. Its signature ends with the child in one field of the
function, and its body is the child in another. -/
theorem regionAt_fields {tree : SyntaxTree} {profile : Profile} {site : NodeSite} {region : Region}
    (found : tree.regionAt profile site = .ok region) :
    site.node.range.stop ≤ tree.content.length ∧
      ∃ declarator body, site.node.inField? profile.declaratorField = some declarator ∧
        site.node.inField? profile.bodyField = some body ∧
        ∃ ordered : site.node.range.start ≤ declarator.range.stop,
          region = tree.regionOf profile site
            ⟨site.node.range.start, declarator.range.stop, ordered⟩ body.range declarator := by
  by_cases inside : site.node.range.stop ≤ tree.content.length
  · refine ⟨inside, ?_⟩
    rw [tree.regionAt_inBounds profile inside] at found
    split at found
    · cases found
    · cases found
    · rename_i body declarator foundBody foundDeclarator
      refine ⟨declarator, body, foundDeclarator, foundBody, ?_⟩
      split at found
      · by_cases ordered : site.node.range.start ≤ declarator.range.stop
        · rw [ByteRange.ofBounds_natCast ordered] at found
          cases found
          exact ⟨ordered, rfl⟩
        · have disordered : ¬((0 : Int) ≤ site.node.range.start ∧
              (site.node.range.start : Int) ≤ declarator.range.stop) := by omega
          rw [ByteRange.ofBounds, ByteRange.ofBounds?, dif_neg disordered] at found
          cases found
      · cases found
  · rw [regionAt_outside (Nat.not_le.mp inside)] at found
    cases found

/-- The parts of a region that is found come from children of the function. -/
theorem regionAt_parts {tree : SyntaxTree} {profile : Profile} {site : NodeSite} {region : Region}
    (found : tree.regionAt profile site = .ok region) :
    site.node.range.stop ≤ tree.content.length ∧
      ∃ declarator ∈ site.node.children, ∃ body ∈ site.node.children,
        ∃ ordered : site.node.range.start ≤ declarator.range.stop,
          region = tree.regionOf profile site
            ⟨site.node.range.start, declarator.range.stop, ordered⟩ body.range declarator := by
  obtain ⟨inside, declarator, body, declares, embodies, ordered, whole⟩ := regionAt_fields found
  exact ⟨inside, declarator, SyntaxNode.inField_mem declares, body,
    SyntaxNode.inField_mem embodies, ordered, whole⟩

/-- A region that is found has all its parts and lies in the source. -/
theorem regionAt_eq_ok {tree : SyntaxTree} {profile : Profile} {site : NodeSite} {region : Region}
    (found : tree.regionAt profile site = .ok region) :
    site.node.range.stop ≤ tree.content.length ∧
      ∃ signature body declarator,
        region = tree.regionOf profile site signature body declarator := by
  obtain ⟨inside, declarator, _, body, _, ordered, whole⟩ := regionAt_parts found
  exact ⟨inside, _, body.range, declarator, whole⟩

end SyntaxTree

end CodePrint
