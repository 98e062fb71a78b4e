import CodePrint.Proofs.RegionRanges

/-! # Nested regions

In pre-order a node comes before the nodes that it encloses and before those that stand behind it.
So of two functions of a well-formed tree one encloses the other or they are apart, and what a
function encloses is deeper. Located regions are put in order by their starts, kinds and depths: an
enclosing region comes first, but where both start at one byte the kind decides before the depth,
and a method comes after a function inside it.
-/

namespace CodePrint

private theorem ByteRange.contains_antisymm {range other : ByteRange}
    (holds : range.contains other = true) (back : other.contains range = true) : range = other := by
  rw [contains_iff] at holds back
  cases range
  cases other
  simp only [mk.injEq]
  dsimp only at holds back
  omega

namespace NodeSite

/-- The first node is above the second. -/
def Encloses (outer inner : NodeSite) : Prop :=
  outer.node :: outer.ancestors <:+ inner.ancestors

/-- The first node encloses the second, or it ends before the second starts. -/
def Precedes (first second : NodeSite) : Prop :=
  first.Encloses second ∧ first.node.range.contains second.node.range = true ∨
    first.node.range.stop ≤ second.node.range.start

/-- What a function encloses is deeper than the function. -/
theorem Encloses.functionDepth_lt {outer inner : NodeSite} (encloses : outer.Encloses inner)
    (function : (outer.node.role == .function) = true) :
    outer.functionDepth < inner.functionDepth := by
  have counted : (outer.node :: outer.ancestors).countP (fun node => node.role == .function) ≤
      inner.functionDepth := encloses.countP_le
  simp only [List.countP_cons, function, ↓reduceIte] at counted
  exact counted

end NodeSite

/-- Whatever a node of a well-formed tree precedes in pre-order it encloses, or it ends before. -/
theorem SyntaxNode.WellFormed.sites_precede {root : SyntaxNode} (wellFormed : root.WellFormed)
    (above : List SyntaxNode) : (root.sitesBelow above).Pairwise NodeSite.Precedes := by
  induction root using childInduction generalizing above with
  | step info children ih =>
      rw [sitesBelow, List.pairwise_cons, sitesOfAll_eq_flatMap, List.pairwise_flatMap]
      refine ⟨?_, fun child member => ih child member (wellFormed.child member) _, ?_⟩
      · intro site met
        obtain ⟨child, member, below⟩ := List.mem_flatMap.mp met
        have inside := wellFormed.inside (mem_walk.mpr (.inr ⟨child, member, site_mem_walk below⟩))
        exact .inl ⟨above_suffix_ancestors below, ByteRange.contains_iff.mpr inside⟩
      · refine wellFormed.children_ordered.imp_of_mem ?_
        intro child later member laterMember before site met other otherMet
        have inside := (wellFormed.child member).inside (site_mem_walk met)
        have otherInside := (wellFormed.child laterMember).inside (site_mem_walk otherMet)
        right
        omega

private theorem SortKey.le_iff_cases {a b : SortKey} :
    a.le b = true ↔ a.start < b.start ∨
      a.start = b.start ∧ (a.rank < b.rank ∨ a.rank = b.rank ∧ a.depth ≤ b.depth) := by
  simp only [le_iff, lex, Prod.Lex.toLex_le_toLex]

namespace Region

/-- The first region holds the second, which is deeper, or it ends before the second starts. -/
def Precedes (first second : Region) : Prop :=
  first.range.contains second.range = true ∧ first.depth < second.depth ∨
    first.range.stop ≤ second.range.start

/-- The two regions start at one byte, and by their kinds the inner one comes first. -/
def KindReverses (outer inner : Region) : Prop :=
  outer.range.start = inner.range.start ∧ outer.kind = .method ∧ inner.kind = .function

variable {outer inner : Region}

private theorem kindReverses_iff : outer.KindReverses inner ↔
    outer.range.start = inner.range.start ∧ inner.kind.rank < outer.kind.rank := by
  unfold KindReverses
  cases outer.kind <;> cases inner.kind <;> simp [RegionKind.rank]

section Order

variable (starts : outer.range.start ≤ inner.range.start) (deeper : outer.depth < inner.depth)
include starts deeper

/-- A region inside another comes after it, unless their kinds put it first. -/
theorem sortKey_le_inner :
    outer.sortKey.le inner.sortKey = true ↔ ¬outer.KindReverses inner := by
  rw [SortKey.le_iff_cases, kindReverses_iff]
  dsimp only [sortKey]
  omega

/-- A nested region comes no later than the one around it only where their kinds reverse the
order. -/
theorem sortKey_le_outer :
    inner.sortKey.le outer.sortKey = true ↔ outer.KindReverses inner := by
  rw [SortKey.le_iff_cases, kindReverses_iff]
  dsimp only [sortKey]
  omega

end Order

end Region

namespace SyntaxTree

variable {tree : SyntaxTree} {profile : Profile} {first second : Region} {rank later : ℕ}

/-- Regions of functions in pre-order. -/
theorem regionAt_precedes (wellFormed : tree.root.WellFormed) {place next : ℕ}
    {site other : NodeSite} (before : place < next)
    (placed : (tree.functionSites profile)[place]? = some site)
    (placedNext : (tree.functionSites profile)[next]? = some other)
    (found : tree.regionAt profile site = .ok first)
    (foundNext : tree.regionAt profile other = .ok second) : first.Precedes second := by
  have ordered : (tree.functionSites profile).Pairwise NodeSite.Precedes :=
    (wellFormed.sites_precede []).filter _
  have function := (List.mem_filter.mp (List.mem_of_getElem? placed)).2
  obtain ⟨inside, rfl⟩ := List.getElem?_eq_some_iff.mp placed
  obtain ⟨insideNext, rfl⟩ := List.getElem?_eq_some_iff.mp placedNext
  obtain ⟨_, _, _, _, rfl⟩ := regionAt_eq_ok found
  obtain ⟨_, _, _, _, rfl⟩ := regionAt_eq_ok foundNext
  rcases List.pairwise_iff_getElem.mp ordered _ _ inside insideNext before with
    ⟨encloses, holds⟩ | apart
  · exact .inl ⟨holds, encloses.functionDepth_lt (Bool.and_eq_true_iff.mp function).1⟩
  · exact .inr apart

section Pair

variable (before : rank < later) (located : (tree.locate profile)[rank]? = some (.ok first))
  (locatedLater : (tree.locate profile)[later]? = some (.ok second))
include before located locatedLater

/-- The order of two located regions: by their keys, and in pre-order where the keys are equal. -/
theorem locate_ordered :
    first.sortKey.le second.sortKey = true ∧
      (tree.root.WellFormed → first.Precedes second ∨ second.Precedes first) := by
  obtain ⟨place, ranked, placed, found⟩ := locate_getElem? located
  obtain ⟨next, rankedLater, placedNext, foundNext⟩ := locate_getElem? locatedLater
  obtain ⟨inside, atRank⟩ := List.getElem?_eq_some_iff.mp ranked
  obtain ⟨insideLater, atLater⟩ := List.getElem?_eq_some_iff.mp rankedLater
  have compared := List.pairwise_iff_getElem.mp (tree.rankedFindings_pairwise profile) _ _ inside
    insideLater before
  rw [atRank, atLater] at compared
  constructor
  · rw [SortKey.le_iff, ← orderKey_ok found, ← orderKey_ok foundNext]
    exact compared.elim le_of_lt fun same => same.1.le
  · intro wellFormed
    rcases Nat.lt_trichotomy place.2 next.2 with earlier | same | afterwards
    · exact .inl (regionAt_precedes wellFormed earlier placed placedNext found foundNext)
    · -- One place holds one function, which cannot come before itself.
      rw [same, placedNext] at placed
      rw [Option.some.inj placed] at compared
      rcases compared with less | ⟨_, less⟩
      · exact absurd less (lt_irrefl _)
      · omega
    · exact .inr (regionAt_precedes wellFormed afterwards placedNext placed foundNext found)

end Pair

end SyntaxTree

/-- The regions of a well-formed tree are laminar and outer ones come first: two of them are apart,
or one contains the other. If one strictly contains another that has bytes, that one is deeper, and
it comes later, except where both start at the same byte, the outer one is a method and the inner
one a function. -/
theorem regions_laminar {tree : SyntaxTree} {profile : Profile} (wellFormed : tree.root.WellFormed)
    {rank other : ℕ} {outer inner : Region}
    (located : (tree.locate profile)[rank]? = some (.ok outer))
    (locatedOther : (tree.locate profile)[other]? = some (.ok inner)) (distinct : rank ≠ other) :
    (outer.range.stop ≤ inner.range.start ∨ inner.range.stop ≤ outer.range.start ∨
      outer.range.contains inner.range = true ∨ inner.range.contains outer.range = true) ∧
    (outer.range.contains inner.range = true → outer.range ≠ inner.range →
      inner.range.start < inner.range.stop →
      outer.depth < inner.depth ∧
        (rank < other ↔ ¬(outer.range.start = inner.range.start ∧ outer.kind = .method ∧
          inner.kind = .function))) := by
  have related : outer.Precedes inner ∨ inner.Precedes outer := by
    rcases Nat.lt_or_gt_of_ne distinct with before | before
    · exact (SyntaxTree.locate_ordered before located locatedOther).2 wellFormed
    · exact ((SyntaxTree.locate_ordered before locatedOther located).2 wellFormed).symm
  constructor
  · rcases related with (⟨holds, _⟩ | apart) | ⟨holds, _⟩ | apart
    · exact .inr (.inr (.inl holds))
    · exact .inl apart
    · exact .inr (.inr (.inr holds))
    · exact .inr (.inl apart)
  · intro holds strict occupied
    obtain ⟨starts, stops⟩ := ByteRange.contains_iff.mp holds
    have deeper : outer.depth < inner.depth := by
      rcases related with (⟨_, deeper⟩ | apart) | ⟨back, _⟩ | apart
      · exact deeper
      · omega
      · exact absurd (ByteRange.contains_antisymm holds back) strict
      · omega
    refine ⟨deeper, ?_, ?_⟩
    · intro before
      have ordered := (SyntaxTree.locate_ordered before located locatedOther).1
      exact (Region.sortKey_le_inner starts deeper).mp ordered
    · intro regular
      rcases Nat.lt_or_gt_of_ne distinct with before | after
      · exact before
      · have ordered := (SyntaxTree.locate_ordered after locatedOther located).1
        exact absurd ((Region.sortKey_le_outer starts deeper).mp ordered) regular

/-- A function, a class inside it, a method of the class and a function inside the method. -/
def Document.sampleInlaid : Document where
  source := ⟨.cpp, Utf8.encodeString "f()\x7bs\x7bg()\x7bh()\x7b\x7d\x7d\x7d\x7d", none⟩
  parsed := some (.node ⟨"function_definition", none, 0, 18, 0, 0, true, false⟩
    [.node ⟨"function_declarator", some "declarator", 0, 3, 0, 0, true, false⟩
        [.node ⟨"parameter_list", some "parameters", 1, 3, 0, 1, true, false⟩ []],
      .node ⟨"compound_statement", some "body", 3, 18, 0, 3, true, false⟩
        [.node ⟨"field_declaration_list", none, 5, 17, 0, 5, true, false⟩
          [.node ⟨"function_definition", none, 6, 16, 0, 6, true, false⟩
            [.node ⟨"function_declarator", some "declarator", 6, 9, 0, 6, true, false⟩
                [.node ⟨"parameter_list", some "parameters", 7, 9, 0, 7, true, false⟩ []],
              .node ⟨"compound_statement", some "body", 9, 16, 0, 9, true, false⟩
                [.node ⟨"function_definition", none, 10, 15, 0, 10, true, false⟩
                  [.node ⟨"function_declarator", some "declarator", 10, 13, 0, 10, true, false⟩
                      [.node ⟨"parameter_list", some "parameters", 11, 13, 0, 11, true, false⟩ []],
                    .node ⟨"compound_statement", some "body", 13, 15, 0, 13, true, false⟩ []]]]]]])

/-- A function inside a method lies in the method's range, comes behind it and is deeper. -/
theorem regions_laminar_sampleInlaid :
    ∃ tree outer inner, Document.sampleInlaid.tree = .ok tree ∧ tree.root.WellFormed ∧
      (tree.locate .cpp)[1]? = some (.ok outer) ∧ (tree.locate .cpp)[2]? = some (.ok inner) ∧
      outer.kind = .method ∧ inner.kind = .function ∧
      outer.range.contains inner.range = true ∧ outer.depth < inner.depth := by
  let tree := Document.sampleInlaid.tree.toOption.get rfl
  have wellFormed : tree.root.WellFormed := by decide
  have sorted : (tree.findings .cpp).Pairwise fun a b => a.key.le b.key = true := by decide
  let outer := (tree.regionAt .cpp (tree.root.sites.get ⟨5, by decide⟩)).toOption.get rfl
  let inner := (tree.regionAt .cpp (tree.root.sites.get ⟨9, by decide⟩)).toOption.get rfl
  have located : (tree.locate .cpp)[1]? = some (.ok outer) := by
    rw [SyntaxTree.locate_of_sorted sorted]
    rfl
  have locatedOther : (tree.locate .cpp)[2]? = some (.ok inner) := by
    rw [SyntaxTree.locate_of_sorted sorted]
    rfl
  have holds : outer.range.contains inner.range = true := by decide
  obtain ⟨_, nested⟩ := regions_laminar wellFormed located locatedOther (by decide)
  exact ⟨tree, outer, inner, rfl, wellFormed, located, locatedOther, rfl, rfl, holds,
    (nested holds (by decide) (by decide)).1⟩

end CodePrint
