import CodePrint.Proofs.Locating
import CodePrint.Variant.Render

/-! # Ranges of located regions

Only the range of the function itself is checked against the source. The signature is cut from where
the function starts to where the child in one of its fields ends, and the body is the child in
another, so that both lie inside the function is owed to the tree: ranges that contain those of
children contain them, and siblings that stand one after the other keep them apart.
-/

namespace CodePrint

namespace SyntaxNode

/-- The range of every node contains those of its children. -/
def Nested (root : SyntaxNode) : Prop :=
  ∀ node ∈ root.walk, ∀ child ∈ node.children, node.range.contains child.range = true

/-- The first child in a field stands before the first child in another. -/
def FieldBefore (node : SyntaxNode) (field other : String) : Prop :=
  node.children.findIdx (·.info.field == some field) <
    node.children.findIdx (·.info.field == some other)

instance (node : SyntaxNode) (field other : String) : Decidable (node.FieldBefore field other) :=
  inferInstanceAs (Decidable (_ < _))

private theorem WellFormed.nested {root : SyntaxNode} (wellFormed : root.WellFormed) :
    root.Nested :=
  fun node met => (wellFormed node met).1

private theorem inField_getElem? (node : SyntaxNode) (field : String) :
    node.inField? field = node.children[node.children.findIdx (·.info.field == some field)]? :=
  List.find?_eq_getElem?_findIdx

/-- Where siblings stand one after the other, so do the first children in two fields. -/
theorem WellFormed.field_stop_le {node child later : SyntaxNode} {field other : String}
    (wellFormed : node.WellFormed) (before : node.FieldBefore field other)
    (found : node.inField? field = some child) (foundLater : node.inField? other = some later) :
    child.range.stop ≤ later.range.start := by
  have ordered : node.children.Pairwise fun child later =>
      child.range.stop ≤ later.range.start := by
    cases node with
    | node info children => exact wellFormed.children_ordered
  rw [inField_getElem?] at found foundLater
  obtain ⟨inside, rfl⟩ := List.getElem?_eq_some_iff.mp found
  obtain ⟨insideLater, rfl⟩ := List.getElem?_eq_some_iff.mp foundLater
  exact List.pairwise_iff_getElem.mp ordered _ _ inside insideLater before

end SyntaxNode

namespace SyntaxTree

variable {tree : SyntaxTree} {profile : Profile} {site : NodeSite} {region : Region}

/-- A located region is that of a function with a body of its own, at the same rank. -/
theorem locate_getElem? {rank : ℕ} (located : (tree.locate profile)[rank]? = some (.ok region)) :
    ∃ place, ((tree.rankedFindings profile).map Prod.fst)[rank]? = some place ∧
      (tree.functionSites profile)[place.2]? = some place.1 ∧
      tree.regionAt profile place.1 = .ok region := by
  rw [tree.locate_eq_ranked profile, List.getElem?_map] at located
  obtain ⟨both, ranked, item⟩ := Option.map_eq_some_iff.mp located
  have member := List.mem_of_getElem? ranked
  have placed := (tree.rankedFindings_perm profile).mem_iff.mp (List.mem_map_of_mem member)
  obtain ⟨_, yields⟩ := tree.mem_rankedFindings profile member
  rw [item] at yields
  cases yields with
  | located found _ =>
      refine ⟨both.1, ?_, List.mem_zipIdx_iff_getElem?.mp placed, found⟩
      rw [List.getElem?_map, ranked]
      rfl

private theorem mem_locate_function (located : .ok region ∈ tree.locate profile) :
    ∃ site ∈ tree.functionSites profile, tree.regionAt profile site = .ok region := by
  obtain ⟨rank, ranked⟩ := List.getElem?_of_mem located
  obtain ⟨place, _, placed, found⟩ := locate_getElem? ranked
  exact ⟨place.1, List.mem_of_getElem? placed, found⟩

private theorem function_mem_walk (function : site ∈ tree.functionSites profile) :
    site.node ∈ tree.root.walk :=
  SyntaxNode.site_mem_walk (List.mem_filter.mp function).1

/-- The whole text of a region that lies in the source has as many bytes as its range. -/
theorem render_full_length (inside : region.range.stop ≤ tree.content.length) :
    ∃ variant, region.render tree .full = .ok variant ∧
      variant.content.length = region.range.stop - region.range.start := by
  refine ⟨⟨.full, tree.bytes region.range, region.range⟩, rfl, ?_⟩
  simp only [bytes, ByteRange.slice, ByteRange.length, List.length_take, List.length_drop]
  omega

/-- Sorting changes nothing where the findings of a tree are in order already. -/
theorem locate_of_sorted
    (sorted : (tree.findings profile).Pairwise fun a b => a.key.le b.key = true) :
    tree.locate profile = (tree.findings profile).map (·.finding.item) := by
  unfold locate
  rw [List.mergeSort_of_pairwise sorted]

section Parts

variable {signature body : ByteRange} (function : site ∈ tree.functionSites profile)
  (found : tree.regionAt profile site = .ok region)
  (signed : region.signature = some signature) (embodied : region.body = some body)
include function found signed embodied

/-- In a tree whose nodes lie inside their parents a region holds its signature and its body. -/
theorem parts_inside (nested : tree.root.Nested) :
    region.range.contains signature = true ∧ region.range.contains body = true := by
  obtain ⟨_, declarator, declares, bodyNode, embodies, _, rfl⟩ := regionAt_parts found
  cases signed
  cases embodied
  have children := nested site.node (function_mem_walk function)
  refine ⟨ByteRange.contains_iff.mpr ⟨Nat.le_refl _, ?_⟩, children bodyNode embodies⟩
  exact (ByteRange.contains_iff.mp (children declarator declares)).2

/-- In a well-formed tree with the declarator before the body, the signature ends before the body
starts. -/
theorem parts_apart (wellFormed : tree.root.WellFormed)
    (before : site.node.FieldBefore profile.declaratorField profile.bodyField) :
    signature.stop ≤ body.start := by
  obtain ⟨_, declarator, bodyNode, declares, embodies, _, rfl⟩ := regionAt_fields found
  cases signed
  cases embodied
  have atNode := wellFormed.of_mem (function_mem_walk function)
  exact atNode.field_stop_le before declares embodies

end Parts

end SyntaxTree

/-- A located region lies in the source, has a signature that starts where the region does and a
body, and its whole text has as many bytes as its range. Where ranges contain those of children, it
contains its signature and its body. Where siblings also stand one after the other, the signature
ends before the body starts, if in the function the declarator comes before the body. -/
theorem located_ranges_valid {tree : SyntaxTree} {profile : Profile} {region : Region}
    (located : .ok region ∈ tree.locate profile) :
    region.range.start ≤ region.range.stop ∧ region.range.stop ≤ tree.content.length ∧
    ∃ signature body, region.signature = some signature ∧ region.body = some body ∧
      signature.start = region.range.start ∧
      (∃ variant, region.render tree .full = .ok variant ∧
        variant.content.length = region.range.stop - region.range.start) ∧
      (tree.root.Nested →
        region.range.contains signature = true ∧ region.range.contains body = true) ∧
      (∃ site ∈ tree.functionSites profile, tree.regionAt profile site = .ok region) ∧
      ∀ site ∈ tree.functionSites profile, tree.regionAt profile site = .ok region →
        tree.root.WellFormed →
        site.node.FieldBefore profile.declaratorField profile.bodyField →
        signature.stop ≤ body.start := by
  obtain ⟨site, function, found⟩ := SyntaxTree.mem_locate_function located
  obtain ⟨inside, declarator, bodyNode, _, _, ordered, whole⟩ := SyntaxTree.regionAt_fields found
  have range : region.range = site.node.range := by rw [whole]; rfl
  have signed : region.signature =
      some ⟨site.node.range.start, declarator.range.stop, ordered⟩ := by rw [whole]; rfl
  have embodied : region.body = some bodyNode.range := by rw [whole]; rfl
  have inSource : region.range.stop ≤ tree.content.length := by rw [range]; exact inside
  refine ⟨region.range.ordered, inSource, _, _, signed, embodied, by rw [range],
    SyntaxTree.render_full_length inSource, ?_, ⟨site, function, found⟩, ?_⟩
  · exact SyntaxTree.parts_inside function found signed embodied
  · intro other otherFunction otherFound wellFormed before
    exact SyntaxTree.parts_apart otherFunction otherFound signed embodied wellFormed before

/-- A function with two declarators, one token before them and one behind its body. -/
def Document.sampleDeclarators : Document where
  source := ⟨.c, Utf8.encodeString "v f(),g\x7b\x7d;", none⟩
  parsed := some (.node ⟨"function_definition", none, 0, 10, 0, 0, true, false⟩
    [.node ⟨"primitive_type", some "type", 0, 1, 0, 0, true, false⟩ [],
      .node ⟨"function_declarator", some "declarator", 2, 5, 0, 2, true, false⟩
        [.node ⟨"identifier", some "declarator", 2, 3, 0, 2, true, false⟩ [],
          .node ⟨"parameter_list", some "parameters", 3, 5, 0, 3, true, false⟩ []],
      .node ⟨"identifier", some "declarator", 6, 7, 0, 6, true, false⟩ [],
      .node ⟨"compound_statement", some "body", 7, 9, 0, 7, true, false⟩ [],
      .node ⟨";", none, 9, 10, 0, 9, false, false⟩ []])

/-- A function with two declarators: its signature begins where it does and ends before its body,
and it holds both. -/
theorem located_ranges_valid_sampleDeclarators :
    ∃ tree region signature body, Document.sampleDeclarators.tree = .ok tree ∧
      .ok region ∈ tree.locate .c ∧ tree.root.WellFormed ∧
      region.signature = some signature ∧ region.body = some body ∧
      signature.start = region.range.start ∧ region.range.contains signature = true ∧
      region.range.contains body = true ∧ signature.stop ≤ body.start := by
  let tree := Document.sampleDeclarators.tree.toOption.get rfl
  let site : NodeSite := ⟨tree.root, []⟩
  let region := (tree.regionAt .c site).toOption.get rfl
  have findings : tree.findings .c = [⟨region.sortKey, .located region⟩] := rfl
  have located : .ok region ∈ tree.locate .c := by
    rw [SyntaxTree.locate_of_sorted (by rw [findings]; exact List.pairwise_singleton _ _), findings]
    exact List.mem_singleton.mpr rfl
  have wellFormed : tree.root.WellFormed := by decide
  have function : site ∈ tree.functionSites .c := List.mem_singleton.mpr rfl
  obtain ⟨_, _, signature, body, signed, embodied, begins, _, inside, _, apart⟩ :=
    located_ranges_valid located
  obtain ⟨holdsSignature, holdsBody⟩ := inside wellFormed.nested
  exact ⟨tree, region, signature, body, rfl, located, wellFormed, signed, embodied, begins,
    holdsSignature, holdsBody, apart site function rfl wellFormed (by decide)⟩

end CodePrint
