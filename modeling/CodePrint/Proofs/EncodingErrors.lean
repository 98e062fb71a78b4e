import CodePrint.Proofs.Composition
import CodePrint.Proofs.ValidOctets

/-! # Where bytes are no text

A rendering that reads text refuses bytes that are none, and tells the place of the source up to
which they are. If all bytes of a range are text, only a token can be in the way, one whose border
cuts a character in two. Spans begin and end only where the range or a node does, so no token does
so if no node does.
-/

namespace CodePrint

/-! ## Borders of spans -/

/-- Spans that begin and end only at certain places. -/
def BordersAt (border : Nat → Prop) (spans : List LeafSpan) : Prop :=
  ∀ span ∈ spans, border span.range.start ∧ border span.range.stop

section Borders

variable {border : Nat → Prop} {limit position : Nat}

private theorem BordersAt.append {front back : List LeafSpan} (first : BordersAt border front)
    (second : BordersAt border back) : BordersAt border (front ++ back) := by
  intro span member
  rcases List.mem_append.mp member with member | member
  · exact first span member
  · exact second span member

private theorem LeafSpan.gap_borders {start stop : Nat} (begins : border start)
    (ends : border stop) : BordersAt border (LeafSpan.gap start stop) := by
  intro span member
  unfold LeafSpan.gap at member
  split at member
  · obtain rfl := List.mem_singleton.mp member
    exact ⟨begins, ends⟩
  · exact absurd member List.not_mem_nil

private theorem NodeInfo.spansFrom_borders {info : NodeInfo} (begins : border info.range.start)
    (ends : border info.range.stop) (limited : border limit) (placed : border position) :
    BordersAt border (info.spansFrom limit position).1 ∧
      border (info.spansFrom limit position).2 := by
  have start : border (max info.range.start position) := max_rec' border begins placed
  have stop : border (min info.range.stop limit) := min_rec' border ends limited
  unfold NodeInfo.spansFrom
  dsimp only
  split
  · refine ⟨(LeafSpan.gap_borders placed start).append ?_, stop⟩
    intro span member
    obtain rfl := List.mem_singleton.mp member
    exact ⟨start, stop⟩
  · exact ⟨fun _ impossible => absurd impossible List.not_mem_nil, placed⟩

namespace SyntaxNode

mutual

private theorem spansFrom_borders (limited : border limit) : ∀ (node : SyntaxNode) {position : Nat},
    (∀ inner ∈ node.walk, border inner.range.start ∧ border inner.range.stop) → border position →
      BordersAt border (node.spansFrom limit position).1 ∧
        border (node.spansFrom limit position).2
  | .node info children, position, borders, placed => by
    unfold spansFrom
    split
    · exact ⟨fun _ impossible => absurd impossible List.not_mem_nil, placed⟩
    · split
      · obtain ⟨begins, ends⟩ := borders _ (self_mem_walk _)
        exact NodeInfo.spansFrom_borders begins ends limited placed
      · exact spansOfAll_borders limited children
          (fun child member inner met => borders inner (mem_walk.mpr (.inr ⟨child, member, met⟩)))
          placed

private theorem spansOfAll_borders (limited : border limit) :
    ∀ (nodes : List SyntaxNode) {position : Nat},
    (∀ node ∈ nodes, ∀ inner ∈ node.walk, border inner.range.start ∧ border inner.range.stop) →
      border position →
      BordersAt border (spansOfAll limit nodes position).1 ∧
        border (spansOfAll limit nodes position).2
  | [], _, _, placed => ⟨fun _ impossible => absurd impossible List.not_mem_nil, placed⟩
  | first :: rest, _, borders, placed => by
    obtain ⟨front, reached⟩ :=
      spansFrom_borders limited first (borders first List.mem_cons_self) placed
    obtain ⟨back, ended⟩ := spansOfAll_borders limited rest
      (fun node member => borders node (.tail _ member)) reached
    exact ⟨front.append back, ended⟩

end

/-- Spans begin and end only where their bounds or a node does. -/
theorem tile_borders {start : SyntaxNode} {bounds : ByteRange}
    (borders : ∀ inner ∈ start.walk, border inner.range.start ∧ border inner.range.stop)
    (begins : border bounds.start) (ends : border bounds.stop) :
    BordersAt border (start.tile bounds) := by
  obtain ⟨walked, reached⟩ := spansFrom_borders ends start borders begins
  exact walked.append (LeafSpan.gap_borders reached ends)

end SyntaxNode

end Borders

/-! ## Text in a range -/

namespace SyntaxTree

variable {tree : SyntaxTree} {range : ByteRange} {place : Nat}

/-- The bytes of a range are text up to a place, and no character of the range starts there. -/
structure TextCeases (tree : SyntaxTree) (range : ByteRange) (place : Nat) : Prop where
  after : range.start ≤ place
  inside : place < range.stop
  held : place < tree.content.length
  before : Utf8.IsText (tree.bytes ⟨range.start, place, after⟩)
  unstarted : ∀ c, ¬String.utf8EncodeChar c <+: tree.bytes ⟨place, range.stop, Nat.le_of_lt inside⟩

private theorem bytes_length (tree : SyntaxTree) (range : ByteRange) :
    (tree.bytes range).length = min range.length (tree.content.length - range.start) := by
  rw [bytes, ByteRange.slice, List.length_take, List.length_drop]

private theorem textCeases_iff (after : range.start ≤ place) :
    tree.TextCeases range place ↔ Utf8.CeasesAt (tree.bytes range) (place - range.start) := by
  have inside_iff : place - range.start < (tree.bytes range).length ↔
      place < range.stop ∧ place < tree.content.length := by
    rw [bytes_length, ByteRange.length]
    omega
  -- The bytes before and behind a place that the source holds.
  have parts (inside : place < range.stop) (held : place < tree.content.length) :
      (tree.bytes range).take (place - range.start) = tree.bytes ⟨range.start, place, after⟩ ∧
      (tree.bytes range).drop (place - range.start) =
        tree.bytes ⟨place, range.stop, Nat.le_of_lt inside⟩ := by
    have front : (tree.bytes ⟨range.start, place, after⟩).length = place - range.start := by
      rw [bytes_length, ByteRange.length]
      dsimp only
      omega
    have whole : tree.bytes range = _ := tree.bytes_cut after (Nat.le_of_lt inside)
    rw [whole]
    exact ⟨List.take_left' front, List.drop_left' front⟩
  constructor
  · intro ceases
    obtain ⟨first, second⟩ := parts ceases.inside ceases.held
    exact ⟨inside_iff.mpr ⟨ceases.inside, ceases.held⟩, first ▸ ceases.before,
      second ▸ ceases.unstarted⟩
  · intro ceases
    obtain ⟨inside, held⟩ := inside_iff.mp ceases.inside
    obtain ⟨first, second⟩ := parts inside held
    exact ⟨after, inside, held, first ▸ ceases.before, second ▸ ceases.unstarted⟩

/-- A range ceases to be text at one place only. -/
theorem TextCeases.unique {other : Nat} (ceases : tree.TextCeases range place)
    (ceasesToo : tree.TextCeases range other) : place = other := by
  have same := ((textCeases_iff ceases.after).mp ceases).unique
    ((textCeases_iff ceasesToo.after).mp ceasesToo)
  have := ceases.after
  have := ceasesToo.after
  omega

/-- The place at which decoding a range fails is where the range ceases to be text. -/
theorem textCeases_of_decode {fault : Utf8.Fault}
    (failed : Utf8.decode (tree.bytes range) = .error fault) :
    tree.TextCeases range (range.start + fault.offset) := by
  rw [textCeases_iff (Nat.le_add_right _ _), Nat.add_sub_cancel_left]
  exact Utf8.ceasesAt_of_decode failed

/-- A place, if it lies inside a range, cuts no character of the range in two. -/
def KeepsCharacters (tree : SyntaxTree) (range : ByteRange) (place : Nat) : Prop :=
  ∀ after : range.start < place, place < range.stop →
    Utf8.IsText (tree.bytes ⟨range.start, place, Nat.le_of_lt after⟩)

instance (tree : SyntaxTree) (range : ByteRange) (place : Nat) :
    Decidable (tree.KeepsCharacters range place) :=
  inferInstanceAs (Decidable (∀ after : range.start < place, place < range.stop →
    Utf8.IsText (tree.bytes ⟨range.start, place, Nat.le_of_lt after⟩)))

/-- The bytes up to a place that cuts no character in two are text, the ends of the range
included. -/
theorem KeepsCharacters.isText (keeps : tree.KeepsCharacters range place)
    (whole : Utf8.IsText (tree.bytes range)) (after : range.start ≤ place)
    (before : place ≤ range.stop) : Utf8.IsText (tree.bytes ⟨range.start, place, after⟩) := by
  by_cases begins : range.start = place
  · subst begins
    refine ⟨[], List.eq_nil_of_length_eq_zero ?_⟩
    rw [bytes_length, ByteRange.length, Nat.sub_self, Nat.zero_min]
  · by_cases ends : place = range.stop
    · subst ends
      exact whole
    · exact keeps (Nat.lt_of_le_of_ne after begins) (Nat.lt_of_le_of_ne before ends)

/-- Where no border of a node cuts a character of the range in two, every span is text. -/
theorem isText_of_mem_tile (whole : Utf8.IsText (tree.bytes range))
    (borders : ∀ node ∈ tree.root.walk, tree.KeepsCharacters range node.range.start ∧
      tree.KeepsCharacters range node.range.stop) {span : LeafSpan}
    (member : span ∈ tree.root.tile range) : Utf8.IsText (tree.bytes span.range) := by
  have atStart : tree.KeepsCharacters range range.start := fun after =>
    absurd after (Nat.lt_irrefl _)
  have atStop : tree.KeepsCharacters range range.stop := fun _ before =>
    absurd before (Nat.lt_irrefl _)
  obtain ⟨begins, ends⟩ := SyntaxNode.tile_borders borders atStart atStop span member
  obtain ⟨after, occupied, before⟩ := (tree.root.tile_tiles range).mem_bounds member
  have throughSpan := ends.isText whole (Nat.le_trans after (Nat.le_of_lt occupied)) before
  rw [tree.bytes_cut after (Nat.le_of_lt occupied)] at throughSpan
  exact (begins.isText whole after (Nat.le_trans (Nat.le_of_lt occupied) before)).of_append
    throughSpan

private theorem isText_of_tokensOf {spans : List LeafSpan} {tokens : List (List Char)}
    (read : tree.tokensOf spans = .ok tokens) {span : LeafSpan} (member : span ∈ spans)
    (kept : span.isKept = true) : Utf8.IsText (tree.bytes span.range) := by
  induction spans generalizing tokens with
  | nil => exact absurd member List.not_mem_nil
  | cons first rest ih =>
      cases keptFirst : first.isKept with
      | false =>
          rw [tokensOf_skip keptFirst] at read
          rcases List.mem_cons.mp member with rfl | member
          · cases kept.symm.trans keptFirst
          · exact ih read member
      | true =>
          obtain ⟨text, later, decoded, readLater, _⟩ := (tokensOf_keep keptFirst).mp read
          rcases List.mem_cons.mp member with rfl | member
          · exact Utf8.isText_iff.mpr ⟨text, decoded⟩
          · exact ih readLater member

/-- Tokens cannot be read exactly if one of them is no text by itself. -/
theorem tokensOf_eq_error_iff {spans : List LeafSpan} :
    (∃ breakdown, tree.tokensOf spans = .error breakdown) ↔
      ∃ span ∈ spans, span.role ≠ .trivia ∧ span.role ≠ .comment ∧
        ¬Utf8.IsText (tree.bytes span.range) := by
  constructor
  · rintro ⟨breakdown, failed⟩
    obtain ⟨span, member, kept, fault, broken, _⟩ := tokensOf_eq_error failed
    obtain ⟨solid, uncommented⟩ := LeafSpan.isKept_iff.mp kept
    exact ⟨span, member, solid, uncommented, Utf8.not_isText_iff.mpr ⟨fault, broken⟩⟩
  · rintro ⟨span, member, solid, uncommented, broken⟩
    have kept := LeafSpan.isKept_iff.mpr ⟨solid, uncommented⟩
    cases read : tree.tokensOf spans with
    | error breakdown => exact ⟨breakdown, rfl⟩
    | ok tokens => exact absurd (isText_of_tokensOf read member kept) broken

end SyntaxTree

/-! ## Failed renderings -/

namespace Region

variable {region : Region} {tree : SyntaxTree} {kind : VariantKind} {range : ByteRange}
  {failure : Failure}

/-- A rendering that reads text fails if its bytes are none, or if it reads tokens and they cannot
be read. -/
theorem render_eq_error_iff (reads : kind.readsText = true)
    (ranged : region.rangeFor kind = .ok range) :
    region.render tree kind = .error failure ↔
      (∃ error, decodeFor kind range.start (tree.bytes range) = .error error ∧
        failure = .error error) ∨
      kind ≠ .spaceCollapsed ∧ Utf8.IsText (tree.bytes range) ∧
        ∃ breakdown, tree.tokens range = .error breakdown ∧ failure = .breakdown breakdown := by
  rw [render_failed_iff ranged]
  by_cases collapses : kind = .spaceCollapsed
  · subst collapses
    have unread : contentFor tree .spaceCollapsed range = .error failure ↔
        (decodeFor .spaceCollapsed range.start (tree.bytes range)).mapError Failure.error =
          .error failure := map_eq_error
    rw [unread, mapError_eq_error]
    constructor
    · rintro ⟨error, undecoded, rfl⟩
      exact .inl ⟨error, undecoded, rfl⟩
    · rintro (⟨error, undecoded, rfl⟩ | ⟨never, _⟩)
      · exact ⟨error, undecoded, rfl⟩
      · exact absurd rfl never
  · have tokens : kind ∈ [VariantKind.normalized, .signature, .body] := by
      cases kind with
      | normalized | signature | body => decide
      | full | commentStripped => cases reads
      | spaceCollapsed => exact absurd rfl collapses
    have unread : contentFor tree kind range = .error failure ↔
        tree.normalized kind range = .error failure := by
      rw [contentFor_tokens tokens]
      exact map_eq_error
    rw [unread, SyntaxTree.normalized_eq_error_iff, Utf8.isText_iff]
    simp only [collapses, ne_eq, not_false_eq_true, true_and]

/-- A rendering that reads text fails with an error exactly if its bytes are no text. -/
theorem render_refused_iff (reads : kind.readsText = true)
    (ranged : region.rangeFor kind = .ok range) {error : ScanError} :
    region.render tree kind = .error (.error error) ↔
      decodeFor kind range.start (tree.bytes range) = .error error := by
  rw [render_eq_error_iff reads ranged]
  constructor
  · rintro (⟨_, undecoded, ⟨⟩⟩ | ⟨_, _, _, _, ⟨⟩⟩)
    exact undecoded
  · intro undecoded
    exact .inl ⟨error, undecoded, rfl⟩

/-- A rendering of a range that is text breaks down exactly if it reads tokens and they cannot be
read. -/
theorem render_broken_iff (reads : kind.readsText = true)
    (ranged : region.rangeFor kind = .ok range) (whole : Utf8.IsText (tree.bytes range)) :
    region.render tree kind = .error failure ↔
      kind ≠ .spaceCollapsed ∧
        ∃ breakdown, tree.tokens range = .error breakdown ∧ failure = .breakdown breakdown := by
  rw [render_eq_error_iff reads ranged]
  constructor
  · rintro (⟨_, undecoded, _⟩ | ⟨tokens, _, broken⟩)
    · obtain ⟨fault, failed, _⟩ := decodeFor_eq_error_iff.mp undecoded
      exact absurd whole (Utf8.not_isText_iff.mpr ⟨fault, failed⟩)
    · exact ⟨tokens, broken⟩
  · rintro ⟨tokens, broken⟩
    exact .inr ⟨tokens, whole, broken⟩

section Tokens

variable (reads : kind.readsText = true) (ranged : region.rangeFor kind = .ok range)
  (whole : Utf8.IsText (tree.bytes range)) (tokens : kind ≠ .spaceCollapsed)
  (occupied : range.start < range.stop) (countable : range.length ≤ ByteRange.indexLimit)
include reads ranged whole tokens occupied countable

private theorem render_cut_iff :
    region.render tree kind = .error failure ↔
      ∃ breakdown, tree.tokensOf (tree.root.tile range) = .error breakdown ∧
        failure = .breakdown breakdown := by
  rw [render_broken_iff reads ranged whole, SyntaxTree.tokens,
    tree.leafSpans_eq_tile occupied countable]
  exact and_iff_right tokens

/-- The tokens of a range that is text cannot be shown exactly if one of them is no text by
itself. -/
theorem exists_failure_iff :
    (∃ failure, region.render tree kind = .error failure) ↔
      ∃ span ∈ tree.root.tile range, span.role ≠ .trivia ∧ span.role ≠ .comment ∧
        ¬Utf8.IsText (tree.bytes span.range) := by
  rw [← SyntaxTree.tokensOf_eq_error_iff]
  simp only [render_cut_iff reads ranged whole tokens occupied countable]
  constructor
  · rintro ⟨_, breakdown, broken, _⟩
    exact ⟨breakdown, broken⟩
  · rintro ⟨breakdown, broken⟩
    exact ⟨_, breakdown, broken, rfl⟩

end Tokens

end Region

/-- Encoding errors are exact. The bytes as they are can always be taken. A rendering that reads
text fails with an encoding error exactly if the bytes of its range are no text, and the offset told
is the one place of the range up to which they are and at which no character starts. If they are
text, words can always be collapsed; tokens of a range with bytes can be read unless one of them is
no text by itself, which takes a node that cuts a character in two. -/
theorem encoding_errors_exact (region : Region) (tree : SyntaxTree) :
    (∃ variant, region.render tree .full = .ok variant) ∧
    ∀ (kind : VariantKind) (range : ByteRange), kind.readsText = true →
      region.rangeFor kind = .ok range →
      ((∃ error, region.render tree kind = .error (.error error) ∧ error.family = .encoding) ↔
        ¬Utf8.IsText (tree.bytes range)) ∧
      (∀ error, region.render tree kind = .error (.error error) → error.family = .encoding →
        ∃ place, error.details.get? "offset" = some (.ofNat place) ∧
          tree.TextCeases range place ∧ ∀ other, tree.TextCeases range other → other = place) ∧
      (Utf8.IsText (tree.bytes range) →
        (kind = .spaceCollapsed → ∃ variant, region.render tree kind = .ok variant) ∧
        (kind ≠ .spaceCollapsed → range.start < range.stop →
          range.length ≤ ByteRange.indexLimit →
          ∃ spans, tree.leafSpans (some range) = .ok spans ∧
            ((∃ failure, region.render tree kind = .error failure) ↔
              ∃ span ∈ spans, span.role ≠ .trivia ∧ span.role ≠ .comment ∧
                ¬Utf8.IsText (tree.bytes span.range)) ∧
            (∀ failure, region.render tree kind = .error failure →
              ∃ octet fault, failure = .breakdown (.cutCharacter octet fault)) ∧
            ((∀ node ∈ tree.root.walk, tree.KeepsCharacters range node.range.start ∧
                tree.KeepsCharacters range node.range.stop) →
              ∃ variant, region.render tree kind = .ok variant))) := by
  refine ⟨⟨_, rfl⟩, ?_⟩
  intro kind range reads ranged
  simp only [Region.render_refused_iff reads ranged]
  refine ⟨?_, ?_, ?_⟩
  · rw [Utf8.not_isText_iff]
    constructor
    · rintro ⟨error, undecoded, _⟩
      obtain ⟨fault, failed, _⟩ := decodeFor_eq_error_iff.mp undecoded
      exact ⟨fault, failed⟩
    · rintro ⟨fault, failed⟩
      exact ⟨_, decodeFor_eq_error_iff.mpr ⟨fault, failed, rfl⟩, rfl⟩
  · intro error undecoded _
    obtain ⟨fault, failed, rfl⟩ := decodeFor_eq_error_iff.mp undecoded
    have ceases := SyntaxTree.textCeases_of_decode failed
    exact ⟨range.start + fault.offset, rfl, ceases, fun other another => another.unique ceases⟩
  · intro whole
    refine ⟨?_, ?_⟩
    · intro collapses
      apply exists_ok_of_forall_ne
      intro failure failed
      exact ((Region.render_broken_iff reads ranged whole).mp failed).1 collapses
    · intro tokens occupied countable
      have fails_iff :=
        Region.exists_failure_iff reads ranged whole tokens occupied countable
      refine ⟨_, tree.leafSpans_eq_tile occupied countable, fails_iff, ?_, ?_⟩
      · intro failure failed
        obtain ⟨breakdown, broken, rfl⟩ :=
          (Region.render_cut_iff reads ranged whole tokens occupied countable).mp failed
        obtain ⟨span, _, _, fault, _, rfl⟩ := SyntaxTree.tokensOf_eq_error broken
        exact ⟨_, fault, rfl⟩
      · intro borders
        apply exists_ok_of_forall_ne
        intro failure failed
        obtain ⟨span, member, _, _, broken⟩ := fails_iff.mp ⟨failure, failed⟩
        exact broken (SyntaxTree.isText_of_mem_tile whole borders member)

/-- Characters of one, two and three octets, the last one unfinished. A node ends inside the third
of them. -/
def Document.sampleTorn : Document where
  source := ⟨.c, [0x61, 0xC3, 0xA9, 0xE2, 0x82, 0xAC, 0xE2, 0x82], none⟩
  parsed := some (.node ⟨"translation_unit", none, 0, 8, 0, 0, true, false⟩
    [.node ⟨"identifier", none, 0, 1, 0, 0, true, false⟩ [],
      .node ⟨"identifier", none, 1, 4, 0, 1, true, false⟩ [],
      .node ⟨"identifier", none, 4, 8, 0, 4, true, false⟩ []])

/-- All octets are no text. The next two characters are, and a node cuts the second. The first two
characters are whole. -/
def Region.sampleTorn : Region :=
  ⟨.function, .first 8, some ⟨1, 6, by decide⟩, some (.first 3), 0, none⟩

/-- One source fails in two ways: all of it ceases to be text at octet 6, and a part that is text
has a character that a node cuts. A third part renders. -/
theorem encoding_errors_exact_sampleTorn :
    ∃ tree error octet fault variant, Document.sampleTorn.tree = .ok tree ∧
      ¬Utf8.IsText (tree.bytes (.first 8)) ∧
      Region.sampleTorn.render tree .normalized = .error (.error error) ∧
      error.details.get? "offset" = some (.ofNat 6) ∧ tree.TextCeases (.first 8) 6 ∧
      Region.sampleTorn.render tree .signature =
        .error (.breakdown (.cutCharacter octet fault)) ∧
      Region.sampleTorn.render tree .body = .ok variant := by
  let tree := Document.sampleTorn.tree.toOption.get rfl
  obtain ⟨_, reading⟩ := encoding_errors_exact Region.sampleTorn tree
  have noText : ¬Utf8.IsText (tree.bytes (.first 8)) := by decide
  obtain ⟨refused_iff, placed, _⟩ := reading .normalized (.first 8) rfl rfl
  obtain ⟨error, refused, encoding⟩ := refused_iff.mpr noText
  obtain ⟨place, offset, ceases, only⟩ := placed error refused encoding
  have failedAtSix : Utf8.decode (tree.bytes (.first 8)) = .error ⟨6, 2, .unfinished⟩ := rfl
  obtain rfl := only 6 (SyntaxTree.textCeases_of_decode failedAtSix)
  obtain ⟨_, _, valid⟩ := reading .signature ⟨1, 6, by decide⟩ rfl rfl
  obtain ⟨_, inTokens⟩ := valid (by decide)
  obtain ⟨_, visited, fails_iff, breaks, _⟩ := inTokens (by decide) (by decide) (by decide)
  cases visited
  obtain ⟨failure, failed⟩ := fails_iff.mpr (by decide)
  obtain ⟨octet, fault, rfl⟩ := breaks failure failed
  obtain ⟨_, _, validBody⟩ := reading .body (.first 3) rfl rfl
  obtain ⟨_, inBody⟩ := validBody (by decide)
  obtain ⟨_, _, _, _, kept⟩ := inBody (by decide) (by decide) (by decide)
  obtain ⟨variant, rendered⟩ := kept (by decide)
  exact ⟨tree, error, octet, fault, variant, rfl, noText, refused, offset, ceases, failed,
    rendered⟩

end CodePrint
