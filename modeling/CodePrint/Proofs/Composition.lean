import CodePrint.Proofs.Frontier
import CodePrint.Proofs.Normalization
import CodePrint.Proofs.Regions

/-! # Normalized text in parts

The tokens of a window can be read in two windows instead, if the place between them lies in no
token. The borders of the children of a function are such places. So the normalized text of a
function is put together from that of its signature, that of its body, and those of what stands
between and behind them. That these can be read at all follows from the whole: their bytes are
cut out at places where characters start.
-/

namespace CodePrint

/-! ## Cutting the frontier -/

namespace NodeInfo

variable {info : NodeInfo} {start middle stop : Nat}

private theorem spanIn_before (ends : info.range.stop ≤ middle) (later : middle ≤ stop) :
    info.spanIn start stop = info.spanIn start middle := by
  have whole : min info.range.stop stop = info.range.stop := by omega
  have cut : min info.range.stop middle = info.range.stop := by omega
  unfold spanIn
  simp only [whole, cut]

/-- The spans of leaves in a window are those in its two parts, if the place between the parts lies
inside none of them. -/
theorem filterMap_spanIn_cut {leaves : List NodeInfo} (first : start ≤ middle)
    (second : middle ≤ stop)
    (ordered : leaves.Pairwise fun leaf later => leaf.range.stop ≤ later.range.start)
    (whole : ∀ leaf ∈ leaves, leaf.range.stop ≤ middle ∨ middle ≤ leaf.range.start) :
    leaves.filterMap (·.spanIn start stop) =
      leaves.filterMap (·.spanIn start middle) ++ leaves.filterMap (·.spanIn middle stop) := by
  induction leaves with
  | nil => rfl
  | cons leaf rest ih =>
      obtain ⟨behind, orderedRest⟩ := List.pairwise_cons.mp ordered
      by_cases before : leaf.range.stop ≤ middle
      · have split := ih orderedRest fun leaf member => whole leaf (.tail _ member)
        rw [List.filterMap_cons, List.filterMap_cons, List.filterMap_cons, split,
          spanIn_before before second, spanIn_eq_none (.inl before)]
        cases leaf.spanIn start middle <;> rfl
      · -- The leaf starts behind the cut, and so do all that come later.
        have starts : ∀ other ∈ leaf :: rest, middle ≤ other.range.start := by
          have start := (whole leaf List.mem_cons_self).resolve_left before
          intro other member
          rcases List.mem_cons.mp member with rfl | member
          · exact start
          · have := leaf.range.ordered
            have := behind other member
            omega
        have nothing : (leaf :: rest).filterMap (·.spanIn start middle) = [] := by
          apply List.filterMap_eq_nil_iff.mpr
          intro other member
          exact spanIn_eq_none (.inr (starts other member))
        rw [nothing, List.nil_append]
        apply List.filterMap_congr
        intro other member
        exact (spanIn_from first (Nat.le_trans (starts other member) (Nat.le_max_right _ _))).symm

end NodeInfo

namespace SyntaxNode

/-- The leaves of a well-formed tree follow one another. -/
theorem WellFormed.leaves_ordered {root : SyntaxNode} (wellFormed : root.WellFormed) :
    root.leaves.Pairwise fun leaf later => leaf.range.stop ≤ later.range.start := by
  induction root using childInduction with
  | step info children ih =>
      rw [leaves]
      split
      · exact List.pairwise_singleton _ _
      · rw [leavesOfAll_eq_flatMap, List.pairwise_flatMap]
        refine ⟨fun child member => ih child member (wellFormed.child member), ?_⟩
        refine wellFormed.children_ordered.imp_of_mem ?_
        intro child later member laterMember before leaf among laterLeaf laterAmong
        have := (wellFormed.child member).leaf_inside among
        have := (wellFormed.child laterMember).leaf_inside laterAmong
        omega

/-- A place that lies inside no leaf of a node. -/
def Divides (node : SyntaxNode) (place : Nat) : Prop :=
  ∀ leaf ∈ node.leaves, leaf.range.stop ≤ place ∨ place ≤ leaf.range.start

/-- Both ends of a child divide a node that is not taken whole. -/
theorem WellFormed.child_divides {node child : SyntaxNode} (wellFormed : node.WellFormed)
    (opened : node.role.isWhole = false) (member : child ∈ node.children) :
    node.Divides child.range.start ∧ node.Divides child.range.stop := by
  cases node with
  | node info children =>
      change child ∈ children at member
      change info.role.isWhole = false at opened
      have beside : ∀ leaf ∈ (SyntaxNode.node info children).leaves,
          leaf.range.stop ≤ child.range.start ∨ child.range.stop ≤ leaf.range.start ∨
            child.range.start ≤ leaf.range.start ∧ leaf.range.stop ≤ child.range.stop := by
        intro leaf among
        rw [leaves_of_child opened member] at among
        obtain ⟨other, otherMember, below⟩ := mem_leavesOfAll.mp among
        have inside := (wellFormed.child otherMember).leaf_inside below
        obtain ⟨before, after, whole⟩ := List.append_of_mem member
        have ordered := wellFormed.children_ordered
        rw [whole] at ordered otherMember
        obtain ⟨_, fromChild, beforeChild⟩ := List.pairwise_append.mp ordered
        rcases List.mem_append.mp otherMember with earlier | notEarlier
        · have := beforeChild other earlier child List.mem_cons_self
          omega
        · rcases List.mem_cons.mp notEarlier with rfl | later
          · exact .inr (.inr inside)
          · have := (List.pairwise_cons.mp fromChild).1 other later
            omega
      have := child.range.ordered
      constructor
      · intro leaf among
        have := beside leaf among
        omega
      · intro leaf among
        have := beside leaf among
        omega

/-- Three places in a node that divide it into a first part, what follows it, a block and what
follows that. The first part and the block have bytes. -/
structure Parted (node : SyntaxNode) (second third fourth : Nat) : Prop where
  toSecond : node.range.start < second
  toThird : second ≤ third
  toFourth : third < fourth
  toStop : fourth ≤ node.range.stop
  atSecond : node.Divides second
  atThird : node.Divides third
  atFourth : node.Divides fourth

/-- As far as kept spans go, a stretch may be tiled in two parts that meet where no leaf is
divided. -/
theorem tile_cut {node : SyntaxNode} (wellFormed : node.WellFormed) {start middle stop : Nat}
    (first : start ≤ middle) (second : middle ≤ stop) (divides : node.Divides middle) :
    (node.tile ⟨start, stop, Nat.le_trans first second⟩).filter (·.isKept) =
      (node.tile ⟨start, middle, first⟩).filter (·.isKept) ++
        (node.tile ⟨middle, stop, second⟩).filter (·.isKept) := by
  have hidden : LeafSpan.HidesGaps (·.isKept) := fun _ _ _ => rfl
  rw [tile_filter hidden wellFormed, tile_filter hidden wellFormed, tile_filter hidden wellFormed,
    ← List.filter_append,
    ← NodeInfo.filterMap_spanIn_cut first second wellFormed.leaves_ordered divides]

end SyntaxNode

/-! ## Reading in parts -/

namespace SyntaxTree

variable {tree : SyntaxTree}

/-- Tokens come from the kept spans alone, so the others may be left out before. -/
theorem tokensOf_filter (spans : List LeafSpan) :
    tree.tokensOf (spans.filter (·.isKept)) = tree.tokensOf spans := by
  induction spans with
  | nil => rfl
  | cons span rest ih =>
      rw [List.filter_cons]
      split
      · rw [tokensOf, tokensOf, ih]
      · rename_i hidden
        rw [tokensOf_skip (Bool.eq_false_iff.mpr hidden), ih]

/-- The tokens of two lists of spans are those of the first and then those of the second. -/
theorem tokensOf_append {front back : List LeafSpan} {tokens : List (List Char)} :
    tree.tokensOf (front ++ back) = .ok tokens ↔
      ∃ first second, tree.tokensOf front = .ok first ∧ tree.tokensOf back = .ok second ∧
        tokens = first ++ second := by
  induction front generalizing tokens with
  | nil => simp [tokensOf]
  | cons span rest ih =>
      rw [List.cons_append]
      cases kept : span.isKept with
      | false => rw [tokensOf_skip kept, tokensOf_skip kept, ih]
      | true =>
          simp only [tokensOf_keep kept, ih]
          constructor
          · rintro ⟨text, _, decoded, ⟨first, second, atFirst, atSecond, rfl⟩, rfl⟩
            refine ⟨_, second, ⟨text, first, decoded, atFirst, rfl⟩, atSecond, ?_⟩
            split <;> rfl
          · rintro ⟨_, second, ⟨text, first, decoded, atFirst, rfl⟩, atSecond, rfl⟩
            refine ⟨text, first ++ second, decoded, ⟨first, second, atFirst, atSecond, rfl⟩, ?_⟩
            split <;> rfl

/-- The tokens of a window, read in two windows. -/
theorem tokensOf_tile_cut {node : SyntaxNode} (wellFormed : node.WellFormed)
    {start middle stop : Nat} (first : start ≤ middle) (second : middle ≤ stop)
    (divides : node.Divides middle) {tokens : List (List Char)}
    (read : tree.tokensOf (node.tile ⟨start, stop, Nat.le_trans first second⟩) = .ok tokens) :
    ∃ front back, tree.tokensOf (node.tile ⟨start, middle, first⟩) = .ok front ∧
      tree.tokensOf (node.tile ⟨middle, stop, second⟩) = .ok back ∧ tokens = front ++ back := by
  rw [← tokensOf_filter, SyntaxNode.tile_cut wellFormed first second divides, tokensOf_append]
    at read
  simpa only [tokensOf_filter] using read

/-- The bytes of a range are those up to a place in it followed by those from that place on. -/
theorem bytes_cut (tree : SyntaxTree) {start middle stop : Nat} (first : start ≤ middle)
    (second : middle ≤ stop) :
    tree.bytes ⟨start, stop, Nat.le_trans first second⟩ =
      tree.bytes ⟨start, middle, first⟩ ++ tree.bytes ⟨middle, stop, second⟩ := by
  have length : stop - start = (middle - start) + (stop - middle) := by omega
  have place : start + (middle - start) = middle := by omega
  simp only [bytes, ByteRange.slice, ByteRange.length]
  rw [length, List.take_add, List.drop_drop, place]

private theorem bytes_ne_nil {range : ByteRange} (occupied : range.start < range.stop)
    (inside : range.stop ≤ tree.content.length) : tree.bytes range ≠ [] := by
  apply List.ne_nil_of_length_pos
  simp only [bytes, ByteRange.slice, ByteRange.length, List.length_take, List.length_drop]
  omega

private theorem leafSpans_countable {range : ByteRange} {spans : List LeafSpan}
    (made : tree.leafSpans (some range) = .ok spans) : range.length ≤ ByteRange.indexLimit := by
  apply Nat.le_of_not_lt
  intro long
  have uncountable : range.isCountable = false := decide_eq_false (Nat.not_le.mpr long)
  simp only [leafSpans, leafSpansFrom, bounds, uncountable, Bool.not_false, ↓reduceIte] at made
  cases made

/-- What stands between and behind two parts that are text is text if the whole is. -/
theorem decode_parts {node : SyntaxNode} {second third fourth : Nat}
    (parted : node.Parted second third fourth) (inside : node.range.stop ≤ tree.content.length)
    {whole first block : List Char} (decoded : Utf8.decode (tree.bytes node.range) = .ok whole)
    (decodedFirst : Utf8.decode (tree.bytes
      ⟨node.range.start, second, Nat.le_of_lt parted.toSecond⟩) = .ok first)
    (decodedBlock : Utf8.decode (tree.bytes
      ⟨third, fourth, Nat.le_of_lt parted.toFourth⟩) = .ok block) :
    ∃ between behind, Utf8.decode (tree.bytes ⟨second, third, parted.toThird⟩) = .ok between ∧
      Utf8.decode (tree.bytes ⟨fourth, node.range.stop, parted.toStop⟩) = .ok behind := by
  have toThird := parted.toThird
  have toFourth := parted.toFourth
  have toStop := parted.toStop
  rw [tree.bytes_cut (Nat.le_of_lt parted.toSecond) (by omega), Utf8.decode_append decodedFirst]
    at decoded
  obtain ⟨rest, decodedRest, _⟩ := decoded
  rw [tree.bytes_cut toThird (by omega), tree.bytes_cut (Nat.le_of_lt toFourth) toStop]
    at decodedRest
  obtain ⟨between, decodedBetween⟩ := Utf8.decode_front decodedRest decodedBlock
    (bytes_ne_nil toFourth (Nat.le_trans toStop inside))
  obtain ⟨_, decodedTail, _⟩ := (Utf8.decode_append decodedBetween).mp decodedRest
  obtain ⟨behind, decodedBehind, _⟩ := (Utf8.decode_append decodedBlock).mp decodedTail
  exact ⟨between, behind, decodedBetween, decodedBehind⟩

/-- The normalized text of a stretch of the source; one without bytes has no text. -/
def stretchText (tree : SyntaxTree) (range : ByteRange) : Except Failure (List Char) :=
  if range.isEmpty then .ok [] else tree.normalized .normalized range

/-- A node of a well-formed tree that no literal or comment encloses. -/
structure Exposes (tree : SyntaxTree) (site : NodeSite) : Prop where
  wellFormed : tree.root.WellFormed
  met : site ∈ tree.root.sites
  opened : ∀ ancestor ∈ site.ancestors, ancestor.role.isWhole = false

namespace Exposes

variable {site : NodeSite} (exposed : tree.Exposes site)
include exposed

private theorem node_wellFormed : site.node.WellFormed :=
  exposed.wellFormed.of_mem (SyntaxNode.site_mem_walk exposed.met)

section Window

variable {start stop : Nat} (begins : site.node.range.start ≤ start)
  (ends : stop ≤ site.node.range.stop)
  (countable : site.node.range.length ≤ ByteRange.indexLimit)
include begins ends countable

/-- Inside a node that no literal or comment encloses, tokens are read from that node. -/
theorem tokens_focus (occupied : start < stop) :
    tree.tokens ⟨start, stop, Nat.le_of_lt occupied⟩ =
      tree.tokensOf (site.node.tile ⟨start, stop, Nat.le_of_lt occupied⟩) := by
  have short : stop - start ≤ ByteRange.indexLimit := by
    unfold ByteRange.length at countable
    omega
  have made : tree.leafSpans (some ⟨start, stop, Nat.le_of_lt occupied⟩) = .ok (tree.root.tile _) :=
    tree.leafSpans_eq_tile occupied short
  have focused : tree.root.tile ⟨start, stop, Nat.le_of_lt occupied⟩ = site.node.tile _ :=
    SyntaxNode.tile_focus exposed.wellFormed exposed.met exposed.opened begins occupied ends
  rw [SyntaxTree.tokens, made, focused]

private theorem stretchText_eq {ordered : start ≤ stop} {text : List Char}
    (decoded : Utf8.decode (tree.bytes ⟨start, stop, ordered⟩) = .ok text)
    {tokens : List (List Char)}
    (read : tree.tokensOf (site.node.tile ⟨start, stop, ordered⟩) = .ok tokens) :
    tree.stretchText ⟨start, stop, ordered⟩ = .ok (Text.joinSpaced tokens) := by
  by_cases empty : start = stop
  · rw [(site.node.tile_tiles ⟨start, stop, ordered⟩).eq_nil_iff.mpr empty] at read
    cases read
    exact if_pos (beq_iff_eq.mpr empty)
  · have apart : tree.stretchText ⟨start, stop, ordered⟩ = tree.normalized .normalized _ :=
      if_neg (mt beq_iff_eq.mp empty)
    rw [apart, normalized_eq_ok_iff]
    refine ⟨⟨text, decoded⟩, tokens, ?_, rfl⟩
    exact (exposed.tokens_focus begins ends countable (by omega)).trans read

end Window

/-- A node that is divided into parts has its tokens in them; what stands between and behind the two
parts that are known to be text has a normalized text as well. -/
theorem tokens_parts (inSource : site.node.range.stop ≤ tree.content.length)
    {second third fourth : Nat} (parted : site.node.Parted second third fourth)
    {whole first block : List Char}
    (decoded : Utf8.decode (tree.bytes site.node.range) = .ok whole)
    (decodedFirst : Utf8.decode (tree.bytes
      ⟨site.node.range.start, second, Nat.le_of_lt parted.toSecond⟩) = .ok first)
    (decodedBlock : Utf8.decode (tree.bytes
      ⟨third, fourth, Nat.le_of_lt parted.toFourth⟩) = .ok block)
    {tokens : List (List Char)} (read : tree.tokens site.node.range = .ok tokens) :
    ∃ first between block behind,
      tree.tokens ⟨site.node.range.start, second, Nat.le_of_lt parted.toSecond⟩ = .ok first ∧
      tree.stretchText ⟨second, third, parted.toThird⟩ = .ok (Text.joinSpaced between) ∧
      tree.tokens ⟨third, fourth, Nat.le_of_lt parted.toFourth⟩ = .ok block ∧
      tree.stretchText ⟨fourth, site.node.range.stop, parted.toStop⟩ =
        .ok (Text.joinSpaced behind) ∧
      tokens = first ++ between ++ block ++ behind := by
  obtain ⟨_, _, decodedBetween, decodedBehind⟩ :=
    decode_parts parted inSource decoded decodedFirst decodedBlock
  obtain ⟨toSecond, toThird, toFourth, toStop, atSecond, atThird, atFourth⟩ := parted
  obtain ⟨_, made, _⟩ := tokens_eq_ok_iff.mp read
  have countable := leafSpans_countable made
  have readWhole := (exposed.tokens_focus (Nat.le_refl _) (Nat.le_refl _) countable
    (by omega)).symm.trans read
  obtain ⟨first, _, readFirst, readRest, rfl⟩ :=
    tokensOf_tile_cut exposed.node_wellFormed (Nat.le_of_lt toSecond) (by omega) atSecond readWhole
  obtain ⟨between, _, readBetween, readTail, rfl⟩ :=
    tokensOf_tile_cut exposed.node_wellFormed toThird (by omega) atThird readRest
  obtain ⟨block, behind, readBlock, readBehind, rfl⟩ :=
    tokensOf_tile_cut exposed.node_wellFormed (Nat.le_of_lt toFourth) toStop atFourth readTail
  refine ⟨first, between, block, behind, ?_, ?_, ?_, ?_, by simp only [List.append_assoc]⟩
  · exact (exposed.tokens_focus (Nat.le_refl _) (by omega) countable toSecond).trans readFirst
  · exact exposed.stretchText_eq (by omega) (by omega) countable decodedBetween readBetween
  · exact (exposed.tokens_focus (by omega) toStop countable toFourth).trans readBlock
  · exact exposed.stretchText_eq (by omega) (Nat.le_refl _) countable decodedBehind readBehind

end Exposes

end SyntaxTree

/-- The normalized text of a function outside every literal and comment is joined from its
signature, what stands between signature and body, its body and what stands behind it, each
normalized by itself. The tokens of the signature come first among its tokens, and those of the body
follow each other. -/
theorem normalized_composed {tree : SyntaxTree} {profile : Profile} {site : NodeSite}
    {region : Region} (wellFormed : tree.root.WellFormed) (met : site ∈ tree.root.sites)
    (function : site.node.role = .function)
    (exposed : ∀ ancestor ∈ site.ancestors, ancestor.role.isWhole = false)
    (located : tree.regionAt profile site = .ok region) {signature body : ByteRange}
    (signed : region.signature = some signature) (embodied : region.body = some body)
    (signatureBytes : signature.start < signature.stop) (bodyBytes : body.start < body.stop)
    (apart : signature.stop ≤ body.start) {whole front inner : Variant}
    (wholeRendered : region.render tree .normalized = .ok whole)
    (frontRendered : region.render tree .signature = .ok front)
    (innerRendered : region.render tree .body = .ok inner) :
    ∃ (enclosed : body.stop ≤ region.range.stop) (first between block behind : List (List Char)),
      tree.tokens signature = .ok first ∧ tree.tokens body = .ok block ∧
      tree.tokens region.range = .ok (first ++ between ++ block ++ behind) ∧
      Utf8.decode front.content = .ok (Text.joinSpaced first) ∧
      tree.stretchText ⟨signature.stop, body.start, apart⟩ = .ok (Text.joinSpaced between) ∧
      Utf8.decode inner.content = .ok (Text.joinSpaced block) ∧
      tree.stretchText ⟨body.stop, region.range.stop, enclosed⟩ = .ok (Text.joinSpaced behind) ∧
      Utf8.decode whole.content = .ok (Text.joinSpaced
        (([first, between, block, behind].map Text.joinSpaced).filter (!·.isEmpty))) := by
  obtain ⟨inSource, declarator, declares, bodyNode, embodies, ordered, rfl⟩ :=
    SyntaxTree.regionAt_parts located
  obtain rfl := Option.some.inj signed
  obtain rfl := Option.some.inj embodied
  obtain ⟨⟨_, wholeDecoded⟩, tokens, read, wholeContent⟩ :=
    Region.render_read (by decide) wholeRendered rfl
  obtain ⟨⟨_, frontDecoded⟩, first, readFirst, frontContent⟩ :=
    Region.render_read (by decide) frontRendered rfl
  obtain ⟨⟨_, innerDecoded⟩, block, readBlock, innerContent⟩ :=
    Region.render_read (by decide) innerRendered rfl
  have shown : tree.Exposes site := ⟨wellFormed, met, exposed⟩
  have opened : site.node.role.isWhole = false := by
    rw [function]
    rfl
  have enclosed : bodyNode.range.stop ≤ site.node.range.stop :=
    (shown.node_wellFormed.inside
      (SyntaxNode.child_mem_walk site.node.self_mem_walk embodies)).2
  have atDeclarator := shown.node_wellFormed.child_divides opened declares
  have atBody := shown.node_wellFormed.child_divides opened embodies
  have parted : site.node.Parted declarator.range.stop bodyNode.range.start bodyNode.range.stop :=
    ⟨signatureBytes, apart, bodyBytes, enclosed, atDeclarator.2, atBody.1, atBody.2⟩
  obtain ⟨_, between, _, behind, readFront, stretchBetween, readInner, stretchBehind, rfl⟩ :=
    shown.tokens_parts inSource parted wholeDecoded frontDecoded innerDecoded read
  obtain rfl := Except.ok.inj (readFront.symm.trans readFirst)
  obtain rfl := Except.ok.inj (readInner.symm.trans readBlock)
  refine ⟨enclosed, _, between, _, behind, readFirst, readBlock, read, frontContent,
    stretchBetween, innerContent, stretchBehind, ?_⟩
  rw [wholeContent, ← Text.joinSpaced_flatten]
  · simp
  · obtain ⟨_, _, readSpans⟩ := SyntaxTree.tokens_eq_ok_iff.mp read
    intro group member part inside
    apply (SyntaxTree.mem_tokensOf readSpans part ?_).1
    simp only [List.mem_cons, List.not_mem_nil, or_false] at member
    rcases member with rfl | rfl | rfl | rfl <;> simp [inside]

/-- A constructor with an initializer between signature and body and a token behind the body. -/
def Document.sampleInitialized : Document where
  source := ⟨.cpp, Utf8.encodeString "A() :x\x7by;\x7d z", none⟩
  parsed := some (.node ⟨"translation_unit", none, 0, 12, 0, 0, true, false⟩
    [.node ⟨"function_definition", none, 0, 12, 0, 0, true, false⟩
      [.node ⟨"function_declarator", some "declarator", 0, 3, 0, 0, true, false⟩
          [.node ⟨"identifier", some "declarator", 0, 1, 0, 0, true, false⟩ [],
            .node ⟨"parameter_list", some "parameters", 1, 3, 0, 1, true, false⟩
              [.node ⟨"(", none, 1, 2, 0, 1, false, false⟩ [],
                .node ⟨")", none, 2, 3, 0, 2, false, false⟩ []]],
        .node ⟨"field_initializer_list", none, 4, 6, 0, 4, true, false⟩
          [.node ⟨":", none, 4, 5, 0, 4, false, false⟩ [],
            .node ⟨"field_identifier", none, 5, 6, 0, 5, true, false⟩ []],
        .node ⟨"compound_statement", some "body", 6, 10, 0, 6, true, false⟩
          [.node ⟨"\x7b", none, 6, 7, 0, 6, false, false⟩ [],
            .node ⟨"identifier", none, 7, 8, 0, 7, true, false⟩ [],
            .node ⟨";", none, 8, 9, 0, 8, false, false⟩ [],
            .node ⟨"\x7d", none, 9, 10, 0, 9, false, false⟩ []],
        .node ⟨"identifier", none, 11, 12, 0, 11, true, false⟩ []]])

/-- A constructor whose normalized text has four parts: signature, initializer, body and a token
behind the body. -/
theorem normalized_composed_sampleInitialized :
    ∃ tree region whole first between block behind,
      Document.sampleInitialized.tree = .ok tree ∧ tree.root.WellFormed ∧
      tree.regionAt .cpp (tree.root.sites.getD 1 ⟨tree.root, []⟩) = .ok region ∧
      region.render tree .normalized = .ok whole ∧
      tree.tokens ⟨0, 3, by decide⟩ = .ok first ∧
      tree.stretchText ⟨3, 6, by decide⟩ = .ok (Text.joinSpaced between) ∧
      tree.tokens ⟨6, 10, by decide⟩ = .ok block ∧
      tree.stretchText ⟨10, 12, by decide⟩ = .ok (Text.joinSpaced behind) ∧
      Utf8.decode whole.content = .ok (Text.joinSpaced
        (([first, between, block, behind].map Text.joinSpaced).filter (!·.isEmpty))) := by
  let tree := Document.sampleInitialized.tree.toOption.get rfl
  let site := tree.root.sites.get ⟨1, by decide⟩
  let region := (tree.regionAt .cpp site).toOption.get rfl
  have rendered (kind : VariantKind)
      (succeeds : (failure? (region.render tree kind)).isNone = true) :
      ∃ variant, region.render tree kind = .ok variant :=
    failure_eq_none.mp (Option.isNone_iff_eq_none.mp succeeds)
  obtain ⟨whole, wholeRendered⟩ := rendered .normalized (by decide +kernel)
  obtain ⟨front, frontRendered⟩ := rendered .signature (by decide +kernel)
  obtain ⟨inner, innerRendered⟩ := rendered .body (by decide +kernel)
  have wellFormed : tree.root.WellFormed := by decide
  have located : tree.regionAt .cpp site = .ok region := rfl
  have signed : region.signature = some ⟨0, 3, by decide⟩ := rfl
  have embodied : region.body = some ⟨6, 10, by decide⟩ := rfl
  obtain ⟨_, first, between, block, behind, readFirst, readBlock, _, _, stretchBetween, _,
      stretchBehind, content⟩ :=
    normalized_composed wellFormed (List.get_mem _ _) (by decide) (by decide) located signed
      embodied (by decide) (by decide) (by decide) wholeRendered frontRendered innerRendered
  exact ⟨tree, region, whole, first, between, block, behind, rfl, wellFormed, located,
    wholeRendered, readFirst, stretchBetween, readBlock, stretchBehind, content⟩

end CodePrint
