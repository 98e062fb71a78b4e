import CodePrint.Proofs.Frontier
import CodePrint.Variant.Render

/-! # Stripping comments, position by position

Comments are stripped span by span: the spans of a tiling that are not comments are put together.
What is left can be said without spans. A comment that stands outside every literal covers its
positions, whatever it is nested in otherwise, and the bytes at the other positions of the region
are kept in order. The two agree because every such comment lies in one of the frontier, and because
a tiling has only one span at each position.
-/

namespace CodePrint

namespace ByteRange

/-- The positions of a range, in order. -/
def positions (range : ByteRange) : List Nat :=
  List.range' range.start range.length

/-- Whether a position belongs to a range. -/
def covers (range : ByteRange) (position : Nat) : Bool :=
  range.start ≤ position && position < range.stop

/-- Whether two ranges have a byte in common. -/
def meets (range other : ByteRange) : Bool :=
  max range.start other.start < min range.stop other.stop

private theorem covers_iff {range : ByteRange} {position : Nat} :
    range.covers position = true ↔ range.start ≤ position ∧ position < range.stop := by
  simp only [covers, Bool.and_eq_true, decide_eq_true_eq]

private theorem mem_positions {range : ByteRange} {position : Nat} :
    position ∈ range.positions ↔ range.covers position = true := by
  have ordered := range.ordered
  rw [positions, length, List.mem_range'_1, covers_iff]
  omega

end ByteRange

private theorem drop_take_eq_filterMap {α : Type} (buffer : List α) (start length : Nat) :
    (buffer.drop start).take length = (List.range' start length).filterMap (buffer[·]?) := by
  induction length generalizing start with
  | zero => simp
  | succ length ih =>
      rw [List.range'_succ, List.filterMap_cons, ← ih]
      by_cases inside : start < buffer.length
      · rw [List.drop_eq_getElem_cons inside, List.getElem?_eq_getElem inside, List.take_succ_cons]
      · rw [List.drop_eq_nil_of_le (by omega), List.drop_eq_nil_of_le (by omega),
          List.getElem?_eq_none (by omega)]
        simp

/-- A node has a span between two positions if it covers one of the positions between them. -/
theorem NodeInfo.spanIn_covers {info : NodeInfo} {start stop position : Nat}
    (inside : info.range.start ≤ position ∧ position < info.range.stop)
    (between : start ≤ position ∧ position < stop) :
    ∃ span, info.spanIn start stop = some span ∧ span.range.covers position = true := by
  have apart : max info.range.start start < min info.range.stop stop := by omega
  refine ⟨_, dif_pos apart, ?_⟩
  rw [ByteRange.covers_iff]
  dsimp only
  omega

namespace Tiles

variable {start stop : Nat} {spans : List LeafSpan}

/-- A tiling has one span at each position. -/
theorem eq_of_covers (tiled : Tiles start stop spans) {span other : LeafSpan} {position : Nat}
    (member : span ∈ spans) (otherMember : other ∈ spans)
    (covered : span.range.covers position = true)
    (otherCovered : other.range.covers position = true) : span = other := by
  rw [ByteRange.covers_iff] at covered otherCovered
  induction spans generalizing start with
  | nil => exact absurd member List.not_mem_nil
  | cons first rest ih =>
      obtain ⟨_, _, tail⟩ := tiled
      rcases List.mem_cons.mp member with rfl | later
      · rcases List.mem_cons.mp otherMember with rfl | otherLater
        · rfl
        · have := (tail.mem_bounds otherLater).1
          omega
      · rcases List.mem_cons.mp otherMember with rfl | otherLater
        · have := (tail.mem_bounds later).1
          omega
        · exact ih tail later otherLater

/-- The bytes of chosen spans are the bytes at chosen positions, if a position is chosen exactly
when its span is. -/
theorem flatMap_filter (tiled : Tiles start stop spans) {keep : LeafSpan → Bool}
    {chosen : Nat → Bool}
    (agree : ∀ span ∈ spans, ∀ position, span.range.covers position = true →
      chosen position = keep span) {α : Type} (buffer : List α) :
    (spans.filter keep).flatMap (fun span => span.range.slice buffer) =
      ((List.range' start (stop - start)).filter chosen).filterMap (buffer[·]?) := by
  induction spans generalizing start with
  | nil =>
      obtain rfl : start = stop := tiled
      simp
  | cons span rest ih =>
      obtain ⟨rfl, occupied, tail⟩ := tiled
      have reached := tail.start_le_stop
      have split : List.range' span.range.start (stop - span.range.start) =
          span.range.positions ++ List.range' span.range.stop (stop - span.range.stop) := by
        have next : span.range.stop = span.range.start + 1 * span.range.length := by
          rw [ByteRange.length]
          omega
        have whole : stop - span.range.start = span.range.length + (stop - span.range.stop) := by
          rw [ByteRange.length]
          omega
        rw [ByteRange.positions, whole, ← List.range'_append, ← next]
      have atSpan : span.range.positions.filter chosen =
          if keep span then span.range.positions else [] := by
        have same : span.range.positions.filter chosen =
            span.range.positions.filter fun _ => keep span := by
          apply List.filter_congr
          intro position member
          exact agree span List.mem_cons_self position (ByteRange.mem_positions.mp member)
        rw [same]
        split <;> simp [*]
      rw [split, List.filter_append, List.filterMap_append, atSpan,
        ← ih tail fun other member => agree other (.tail _ member), List.filter_cons]
      split
      · rw [List.flatMap_cons]
        congr 1
        exact drop_take_eq_filterMap buffer _ _
      · rfl

end Tiles

/-- A comment outside every literal. -/
def NodeSite.isOpenComment (site : NodeSite) : Bool :=
  site.node.role == .comment && site.ancestors.all fun ancestor => ancestor.role != .atomic

namespace SyntaxNode

/-- Whether a comment outside every literal covers a position. -/
def isCommented (root : SyntaxNode) (position : Nat) : Bool :=
  root.sites.any fun site => site.isOpenComment && site.node.range.covers position

/-- A comment outside every literal lies in a comment of the frontier. -/
theorem leaf_of_openComment {root : SyntaxNode} {above : List SyntaxNode} {site : NodeSite}
    {position : Nat} (wellFormed : root.WellFormed) (met : site ∈ root.sitesBelow above)
    (isOpen : site.isOpenComment = true) (covered : site.node.range.covers position = true) :
    ∃ leaf ∈ root.leaves, leaf.role = .comment ∧ leaf.range.covers position = true := by
  obtain ⟨isComment, outside⟩ := Bool.and_eq_true_iff.mp isOpen
  induction root using childInduction generalizing above with
  | step info children ih =>
      rcases mem_sitesBelow.mp met with rfl | ⟨child, member, below⟩
      · have comment : info.role = .comment := eq_of_beq isComment
        have whole : info.role.isWhole = true := by rw [comment]; rfl
        rw [leaves_of_whole whole]
        exact ⟨info, List.mem_cons_self, comment, covered⟩
      · obtain ⟨leaf, among, comment, inLeaf⟩ := ih child member (wellFormed.child member) below
        by_cases whole : info.role.isWhole = true
        · -- The frontier ends here, so the comment met is nested in another one.
          have solid : info.role ≠ .atomic := by
            intro atomic
            have passed := List.all_eq_true.mp outside _
              (above_subset_ancestors below List.mem_cons_self)
            exact bne_iff_ne.mp passed atomic
          have nesting : info.role = .comment := by
            simpa [NodeRole.isWhole, solid] using whole
          have outer := wellFormed.child_inside member
          have inner := (wellFormed.child member).leaf_inside among
          rw [leaves_of_whole whole]
          refine ⟨info, List.mem_cons_self, nesting, ?_⟩
          rw [ByteRange.covers_iff] at inLeaf ⊢
          omega
        · rw [leaves_of_child (Bool.eq_false_iff.mpr whole) member]
          exact ⟨leaf, mem_leavesOfAll.mpr ⟨child, member, among⟩, comment, inLeaf⟩

/-- A comment of the frontier stands outside every literal. -/
theorem isCommented_of_leaf {root : SyntaxNode} {leaf : NodeInfo} {position : Nat}
    (among : leaf ∈ root.leaves) (comment : leaf.role = .comment)
    (covered : leaf.range.covers position = true) : root.isCommented position = true := by
  rw [← root.sites_frontier] at among
  obtain ⟨site, member, rfl⟩ := List.mem_map.mp among
  obtain ⟨met, frontier⟩ := List.mem_filter.mp member
  apply List.any_eq_true.mpr
  refine ⟨site, met, Bool.and_eq_true_iff.mpr ⟨?_, covered⟩⟩
  apply Bool.and_eq_true_iff.mpr
  refine ⟨beq_iff_eq.mpr comment, ?_⟩
  apply List.all_eq_true.mpr
  intro ancestor above
  have opened := List.all_eq_true.mp (Bool.and_eq_true_iff.mp frontier).2 ancestor above
  apply bne_iff_ne.mpr
  intro atomic
  simp [atomic, NodeRole.isWhole] at opened

/-- In a well-formed tree a position is commented exactly when a comment among the leaves covers
it. -/
theorem isCommented_iff {root : SyntaxNode} (wellFormed : root.WellFormed) {position : Nat} :
    root.isCommented position = true ↔
      ∃ leaf ∈ root.leaves, leaf.role = .comment ∧ leaf.range.covers position = true := by
  constructor
  · intro commented
    obtain ⟨site, met, found⟩ := List.any_eq_true.mp commented
    obtain ⟨isOpen, covered⟩ := Bool.and_eq_true_iff.mp found
    exact leaf_of_openComment wellFormed met isOpen covered
  · rintro ⟨leaf, among, comment, covered⟩
    exact isCommented_of_leaf among comment covered

/-- A span of a tiling is a comment exactly if its positions are commented. -/
theorem tile_isCommented {root : SyntaxNode} (wellFormed : root.WellFormed) {bounds : ByteRange}
    {span : LeafSpan} (member : span ∈ root.tile bounds) {position : Nat}
    (covered : span.range.covers position = true) :
    root.isCommented position = (span.role == .comment) := by
  have comments : (root.tile bounds).filter (·.role == .comment) =
      (root.leaves.filterMap (·.spanIn bounds.start bounds.stop)).filter (·.role == .comment) :=
    tile_filter (fun _ _ _ => rfl) wellFormed bounds
  have tiled := root.tile_tiles bounds
  have inside := tiled.mem_bounds member
  apply Bool.eq_iff_iff.mpr
  rw [isCommented_iff wellFormed]
  constructor
  · rintro ⟨leaf, among, comment, inLeaf⟩
    obtain ⟨cut, given, inCut⟩ : ∃ cut, leaf.spanIn bounds.start bounds.stop = some cut ∧
        cut.range.covers position = true := by
      rw [ByteRange.covers_iff] at covered inLeaf
      exact NodeInfo.spanIn_covers inLeaf (by omega)
    have isComment : (cut.role == .comment) = true := by
      rw [(NodeInfo.spanIn_eq_some given).1, comment]
      rfl
    have cutMember : cut ∈ (root.tile bounds).filter (·.role == .comment) := by
      rw [comments]
      exact List.mem_filter.mpr ⟨List.mem_filterMap.mpr ⟨leaf, among, given⟩, isComment⟩
    rw [tiled.eq_of_covers member (List.mem_filter.mp cutMember).1 covered inCut]
    exact isComment
  · intro isComment
    have kept : span ∈ (root.tile bounds).filter (·.role == .comment) :=
      List.mem_filter.mpr ⟨member, isComment⟩
    rw [comments] at kept
    obtain ⟨leaf, among, given⟩ := List.mem_filterMap.mp (List.mem_filter.mp kept).1
    obtain ⟨role, _, starts, stops⟩ := NodeInfo.spanIn_eq_some given
    refine ⟨leaf, among, role.symm.trans (eq_of_beq isComment), ?_⟩
    rw [ByteRange.covers_iff] at covered ⊢
    omega

end SyntaxNode

/-- The bytes of the spans that are no comments are the bytes at positions without comment. -/
theorem SyntaxTree.uncommented_eq (tree : SyntaxTree) (wellFormed : tree.root.WellFormed)
    {range : ByteRange} (occupied : range.start < range.stop)
    (countable : range.length ≤ ByteRange.indexLimit) :
    tree.uncommented range =
      .ok ((range.positions.filter (!tree.root.isCommented ·)).filterMap (tree.content[·]?)) := by
  have agree : ∀ span ∈ tree.root.tile range, ∀ position, span.range.covers position = true →
      (!tree.root.isCommented position) = (span.role != .comment) := by
    intro span member position covered
    rw [SyntaxNode.tile_isCommented wellFormed member covered]
    rfl
  unfold uncommented
  rw [tree.leafSpans_eq_tile occupied countable]
  exact congrArg Except.ok ((tree.root.tile_tiles range).flatMap_filter agree tree.content)

private theorem SyntaxNode.not_isCommented {root : SyntaxNode} {range : ByteRange}
    (apart : ∀ site ∈ root.sites, site.isOpenComment = true → site.node.range.meets range = false)
    {position : Nat} (member : position ∈ range.positions) : root.isCommented position = false := by
  apply List.any_eq_false.mpr
  intro site met found
  obtain ⟨isOpen, covered⟩ := Bool.and_eq_true_iff.mp found
  have separate := apart site met isOpen
  rw [ByteRange.mem_positions, ByteRange.covers_iff] at member
  rw [ByteRange.covers_iff] at covered
  simp only [ByteRange.meets, decide_eq_false_iff_not] at separate
  omega

/-- Over a well-formed tree a region with bytes is stripped of its comments without fail: what is
left are its bytes, in order, at the positions that no comment outside every literal covers. Where
no such comment has bytes in the region, nothing is taken away. -/
theorem commentStripped_exact {tree : SyntaxTree} (wellFormed : tree.root.WellFormed)
    {region : Region} (occupied : region.range.start < region.range.stop)
    (countable : region.range.length ≤ ByteRange.indexLimit) :
    region.render tree .commentStripped =
        .ok ⟨.commentStripped,
          (region.range.positions.filter (!tree.root.isCommented ·)).filterMap (tree.content[·]?),
          region.range⟩ ∧
      ((∀ site ∈ tree.root.sites, site.isOpenComment = true →
          site.node.range.meets region.range = false) →
        (region.render tree .commentStripped).map (·.content) =
          (region.render tree .full).map (·.content)) := by
  have stripped : region.render tree .commentStripped =
      .ok ⟨.commentStripped,
        (region.range.positions.filter (!tree.root.isCommented ·)).filterMap (tree.content[·]?),
        region.range⟩ := by
    change tree.uncommented region.range >>= _ = _
    rw [tree.uncommented_eq wellFormed occupied countable]
    rfl
  refine ⟨stripped, ?_⟩
  intro apart
  have all : region.range.positions.filter (!tree.root.isCommented ·) = region.range.positions := by
    apply List.filter_eq_self.mpr
    intro position member
    rw [SyntaxNode.not_isCommented apart member]
    rfl
  rw [stripped, all]
  exact congrArg Except.ok (drop_take_eq_filterMap tree.content _ _).symm

/-- A literal with a comment inside, and a comment with another one inside. -/
def Document.sampleNested : Document where
  source := ⟨.c, Utf8.encodeString "1/*b*//*c*/;", none⟩
  parsed := some (.node ⟨"translation_unit", none, 0, 12, 0, 0, true, false⟩
    [.node ⟨"preproc_arg", none, 0, 6, 0, 0, true, false⟩
        [.node ⟨"number_literal", none, 0, 1, 0, 0, true, false⟩ [],
          .node ⟨"comment", none, 1, 6, 0, 1, true, false⟩ []],
      .node ⟨"comment", none, 6, 11, 0, 6, true, false⟩
        [.node ⟨"comment", none, 8, 9, 0, 8, true, false⟩ []],
      .node ⟨";", none, 11, 12, 0, 11, false, false⟩ []])

/-- A region from within the literal to the end, and one of the literal alone. -/
theorem commentStripped_exact_sampleNested :
    ∃ tree, Document.sampleNested.tree = .ok tree ∧ tree.root.WellFormed ∧
      Region.render ⟨.function, ⟨2, 12, by decide⟩, none, none, 0, none⟩ tree .commentStripped =
        .ok ⟨.commentStripped, Utf8.encodeString "*b*/;", ⟨2, 12, by decide⟩⟩ ∧
      (Region.render ⟨.function, .first 6, none, none, 0, none⟩ tree .commentStripped).map
          (·.content) =
        .ok (Utf8.encodeString "1/*b*/") := by
  let tree := Document.sampleNested.tree.toOption.get rfl
  have wellFormed : tree.root.WellFormed := by decide
  refine ⟨tree, rfl, wellFormed, ?_, ?_⟩
  · exact (commentStripped_exact wellFormed (by decide) (by decide)).1
  · exact (commentStripped_exact wellFormed (by decide) (by decide)).2 (by decide)

end CodePrint
