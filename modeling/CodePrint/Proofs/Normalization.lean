import CodePrint.Proofs.Alike
import CodePrint.Proofs.Decoding
import CodePrint.Proofs.Spacing
import CodePrint.Variant.Render

/-! # What normalization keeps

Normalized text is made from the texts of tokens: each is trimmed, layout inside it is collapsed,
what is blank is left out and the rest is joined by spaces. Every one of these steps changes blanks
only. Comment stripping keeps the bytes of the same tokens and of the trivia between them, so where
trivia is blank the two differ in blanks only.
-/

namespace CodePrint

namespace LeafSpan

/-- The kept spans are those of neither layout nor comments. -/
theorem isKept_iff {span : LeafSpan} :
    span.isKept = true ↔ span.role ≠ .trivia ∧ span.role ≠ .comment := by
  rw [isKept, Bool.and_eq_true, bne_iff_ne, bne_iff_ne]

private theorem render_solid (span : LeafSpan) (text : List Char) :
    Text.solid (span.render text) = Text.solid text := by
  unfold render
  split
  · rw [Text.solid_collapse, Text.solid_trim]
  · exact Text.solid_trim text

/-- A token neither begins nor ends with a blank. -/
theorem render_trimmed (span : LeafSpan) (text : List Char) : Text.Trimmed (span.render text) := by
  unfold render
  split
  · exact Text.trimmed_collapse _
  · exact Text.trimmed_trim text

end LeafSpan

private theorem decodeToken_eq_ok_iff {bytes : List UInt8} {text : List Char} :
    decodeToken bytes = .ok text ↔ Utf8.decode bytes = .ok text := by
  unfold decodeToken
  cases Utf8.decode bytes with
  | ok read => simp
  | error fault => simp

/-- Reading bytes for a variant decodes them. -/
theorem decodeFor_eq_ok_iff {kind : VariantKind} {base : Nat} {bytes : List UInt8}
    {text : List Char} : decodeFor kind base bytes = .ok text ↔ Utf8.decode bytes = .ok text := by
  unfold decodeFor
  cases Utf8.decode bytes with
  | ok read => simp
  | error fault => simp

/-- Bytes that cannot be read for a variant are refused with the name of its kind and the place in
the source at which decoding failed. -/
theorem decodeFor_eq_error_iff {kind : VariantKind} {base : Nat} {bytes : List UInt8}
    {error : ScanError} : decodeFor kind base bytes = .error error ↔
      ∃ fault, Utf8.decode bytes = .error fault ∧
        error = .invalidUtf8 kind.name (base + fault.offset : Nat) fault.cause.reason := by
  unfold decodeFor
  cases Utf8.decode bytes with
  | ok read => simp
  | error fault => simp [eq_comm]

private theorem decodeToken_eq_error_iff {bytes : List UInt8} {breakdown : Breakdown} :
    decodeToken bytes = .error breakdown ↔
      ∃ fault, Utf8.decode bytes = .error fault ∧
        breakdown = .cutCharacter (bytes.getD fault.offset 0) fault := by
  unfold decodeToken
  cases Utf8.decode bytes with
  | ok read => simp
  | error fault => simp [eq_comm]

namespace SyntaxTree

variable {tree : SyntaxTree} {span : LeafSpan} {spans : List LeafSpan}
  {tokens : List (List Char)}

/-- The texts of the spans that normalized text shows, in order. -/
def keptTexts (tree : SyntaxTree) (spans : List LeafSpan) :
    Except Utf8.Fault (List (List Char)) :=
  (spans.filter (·.isKept)).mapM fun span => Utf8.decode (tree.bytes span.range)

private theorem keptTexts_skip (hidden : span.isKept = false) :
    tree.keptTexts (span :: spans) = tree.keptTexts spans := by
  rw [keptTexts, keptTexts, List.filter_cons, hidden, if_neg Bool.false_ne_true]

private theorem keptTexts_keep (kept : span.isKept = true) {texts : List (List Char)} :
    tree.keptTexts (span :: spans) = .ok texts ↔
      ∃ text later, Utf8.decode (tree.bytes span.range) = .ok text ∧
        tree.keptTexts spans = .ok later ∧ texts = text :: later := by
  rw [keptTexts, List.filter_cons, if_pos kept, List.mapM_cons, bind_eq_ok]
  simp only [bind_eq_ok]
  constructor
  · rintro ⟨text, decoded, later, read, made⟩
    exact ⟨text, later, decoded, read, (Except.ok.inj made).symm⟩
  · rintro ⟨text, later, decoded, read, rfl⟩
    exact ⟨text, decoded, later, read, rfl⟩

/-- A span that is not kept gives no token. -/
theorem tokensOf_skip (hidden : span.isKept = false) :
    tree.tokensOf (span :: spans) = tree.tokensOf spans := by
  rw [tokensOf, hidden, if_neg Bool.false_ne_true]

/-- A kept span gives a token unless its text renders to nothing, and all of its bytes must be
readable. -/
theorem tokensOf_keep (kept : span.isKept = true) :
    tree.tokensOf (span :: spans) = .ok tokens ↔
      ∃ text later, Utf8.decode (tree.bytes span.range) = .ok text ∧
        tree.tokensOf spans = .ok later ∧
        tokens = if (span.render text).isEmpty then later else span.render text :: later := by
  rw [tokensOf, if_pos kept, bind_eq_ok]
  simp only [decodeToken_eq_ok_iff, bind_eq_ok]
  constructor
  · rintro ⟨text, decoded, later, read, made⟩
    exact ⟨text, later, decoded, read, (Except.ok.inj made).symm⟩
  · rintro ⟨text, later, decoded, read, rfl⟩
    exact ⟨text, decoded, later, read, rfl⟩

/-- Tokens cannot be read only because one of them is no text by itself. -/
theorem tokensOf_eq_error {breakdown : Breakdown}
    (failed : tree.tokensOf spans = .error breakdown) :
    ∃ span ∈ spans, span.isKept ∧ ∃ fault, Utf8.decode (tree.bytes span.range) = .error fault ∧
      breakdown = .cutCharacter ((tree.bytes span.range).getD fault.offset 0) fault := by
  induction spans with
  | nil => cases failed
  | cons span rest ih =>
      rw [tokensOf] at failed
      split at failed
      · rename_i kept
        rcases bind_eq_error.mp failed with broken | ⟨_, _, later⟩
        · exact ⟨span, List.mem_cons_self, kept, decodeToken_eq_error_iff.mp broken⟩
        · rcases bind_eq_error.mp later with failedLater | ⟨_, _, made⟩
          · obtain ⟨other, member, found⟩ := ih failedLater
            exact ⟨other, List.mem_cons_of_mem _ member, found⟩
          · cases made
      · obtain ⟨other, member, found⟩ := ih failed
        exact ⟨other, List.mem_cons_of_mem _ member, found⟩

/-- Tokens have characters, and neither begin nor end with a blank. -/
theorem mem_tokensOf (read : tree.tokensOf spans = .ok tokens) :
    ∀ token ∈ tokens, token ≠ [] ∧ Text.Trimmed token := by
  induction spans generalizing tokens with
  | nil =>
      cases read
      intro token impossible
      exact absurd impossible List.not_mem_nil
  | cons span rest ih =>
      cases kept : span.isKept with
      | false =>
          rw [tokensOf_skip kept] at read
          exact ih read
      | true =>
          obtain ⟨text, later, _, readLater, rfl⟩ := (tokensOf_keep kept).mp read
          intro token member
          split at member
          · exact ih readLater token member
          · rename_i filled
            rcases List.mem_cons.mp member with rfl | member
            · exact ⟨fun empty => filled (List.isEmpty_iff.mpr empty), span.render_trimmed text⟩
            · exact ih readLater token member

/-- Tokens differ from the texts they are made from in blanks only. -/
theorem solid_tokensOf (read : tree.tokensOf spans = .ok tokens) :
    ∃ texts, tree.keptTexts spans = .ok texts ∧
      Text.solid tokens.flatten = Text.solid texts.flatten := by
  induction spans generalizing tokens with
  | nil =>
      cases read
      exact ⟨[], rfl, rfl⟩
  | cons span rest ih =>
      cases kept : span.isKept with
      | false =>
          rw [tokensOf_skip kept] at read
          rw [keptTexts_skip kept]
          exact ih read
      | true =>
          obtain ⟨text, later, decoded, readLater, rfl⟩ := (tokensOf_keep kept).mp read
          obtain ⟨texts, readTexts, same⟩ := ih readLater
          refine ⟨text :: texts, (keptTexts_keep kept).mpr ⟨_, _, decoded, readTexts, rfl⟩, ?_⟩
          rw [List.flatten_cons, Text.solid_append, ← same, ← span.render_solid text]
          split
          · rename_i blank
            rw [List.isEmpty_iff.mp blank]
            rfl
          · rw [List.flatten_cons, Text.solid_append]

/-- A range is normalized if all of its bytes are text and its tokens can be read. -/
theorem normalized_eq_ok_iff {kind : VariantKind} {range : ByteRange} {text : List Char} :
    tree.normalized kind range = .ok text ↔
      (∃ whole, Utf8.decode (tree.bytes range) = .ok whole) ∧
        ∃ tokens, tree.tokens range = .ok tokens ∧ text = Text.joinSpaced tokens := by
  unfold normalized
  simp only [bind_eq_ok, mapError_eq_ok, decodeFor_eq_ok_iff]
  constructor
  · rintro ⟨whole, decoded, tokens, read, made⟩
    exact ⟨⟨whole, decoded⟩, tokens, read, (Except.ok.inj made).symm⟩
  · rintro ⟨⟨whole, decoded⟩, tokens, read, rfl⟩
    exact ⟨whole, decoded, tokens, read, rfl⟩

/-- A range cannot be normalized if some of its bytes are no text or its tokens cannot be read. -/
theorem normalized_eq_error_iff {kind : VariantKind} {range : ByteRange} {failure : Failure} :
    tree.normalized kind range = .error failure ↔
      (∃ error, decodeFor kind range.start (tree.bytes range) = .error error ∧
        failure = .error error) ∨
      (∃ whole, Utf8.decode (tree.bytes range) = .ok whole) ∧
        ∃ breakdown, tree.tokens range = .error breakdown ∧ failure = .breakdown breakdown := by
  unfold normalized
  simp only [bind_eq_error, mapError_eq_error, mapError_eq_ok, decodeFor_eq_ok_iff]
  constructor
  · rintro (⟨error, failed, rfl⟩ | ⟨whole, decoded, ⟨breakdown, failed, rfl⟩ | ⟨_, _, made⟩⟩)
    · exact .inl ⟨error, failed, rfl⟩
    · exact .inr ⟨⟨whole, decoded⟩, breakdown, failed, rfl⟩
    · cases made
  · rintro (⟨error, failed, rfl⟩ | ⟨⟨whole, decoded⟩, breakdown, failed, rfl⟩)
    · exact .inl ⟨error, failed, rfl⟩
    · exact .inr ⟨whole, decoded, .inl ⟨breakdown, failed, rfl⟩⟩

/-- The tokens of a range are those of its leaf spans. -/
theorem tokens_eq_ok_iff {range : ByteRange} :
    tree.tokens range = .ok tokens ↔
      ∃ spans, tree.leafSpans (some range) = .ok spans ∧ tree.tokensOf spans = .ok tokens := by
  unfold SyntaxTree.tokens
  cases tree.leafSpans (some range) with
  | ok spans => simp
  | error failure => simp

/-- Whether a span is text and all of it is blank. -/
def isBlank (tree : SyntaxTree) (span : LeafSpan) : Bool :=
  match Utf8.decode (tree.bytes span.range) with
  | .ok text => text.all Text.isBlank
  | .error _ => false

/-- A span is blank when its text has nothing but blanks. -/
theorem isBlank_iff : tree.isBlank span = true ↔
    ∃ text, Utf8.decode (tree.bytes span.range) = .ok text ∧ Text.solid text = [] := by
  unfold isBlank
  cases Utf8.decode (tree.bytes span.range) with
  | ok text => simp [Text.solid]
  | error fault => simp

/-- Where trivia is blank, the spans that are no comments make up a text that differs from the kept
texts in blanks only. -/
theorem decode_uncommented {texts : List (List Char)} (read : tree.keptTexts spans = .ok texts)
    (blank : ∀ span ∈ spans, span.role = .trivia → tree.isBlank span = true) :
    ∃ plain, Utf8.decode ((spans.filter (·.role != .comment)).flatMap
        fun span => tree.bytes span.range) = .ok plain ∧
      Text.solid plain = Text.solid texts.flatten := by
  induction spans generalizing texts with
  | nil =>
      cases read
      exact ⟨[], rfl, rfl⟩
  | cons span rest ih =>
      have later : ∀ span ∈ rest, span.role = .trivia → tree.isBlank span = true :=
        fun span member => blank span (.tail _ member)
      rw [List.filter_cons]
      by_cases comment : span.role = .comment
      · have hidden : span.isKept = false := by simp [LeafSpan.isKept, comment]
        rw [keptTexts_skip hidden] at read
        simpa [comment] using ih read later
      · rw [if_pos (bne_iff_ne.mpr comment), List.flatMap_cons]
        by_cases trivia : span.role = .trivia
        · have hidden : span.isKept = false := by simp [LeafSpan.isKept, trivia]
          rw [keptTexts_skip hidden] at read
          obtain ⟨plain, decoded, same⟩ := ih read later
          obtain ⟨blanks, decodedBlanks, nothing⟩ :=
            isBlank_iff.mp (blank span List.mem_cons_self trivia)
          refine ⟨blanks ++ plain, (Utf8.decode_append decodedBlanks).mpr ⟨_, decoded, rfl⟩, ?_⟩
          rw [Text.solid_append, nothing, same, List.nil_append]
        · have kept : span.isKept = true := by simp [LeafSpan.isKept, comment, trivia]
          obtain ⟨text, texts, decodedText, readLater, rfl⟩ := (keptTexts_keep kept).mp read
          obtain ⟨plain, decoded, same⟩ := ih readLater later
          refine ⟨text ++ plain, (Utf8.decode_append decodedText).mpr ⟨_, decoded, rfl⟩, ?_⟩
          rw [Text.solid_append, same, List.flatten_cons, Text.solid_append]

end SyntaxTree

/-- Once a kind has a range in a region, rendering fails only where the content of that range
fails. -/
theorem Region.render_failed_iff {region : Region} {tree : SyntaxTree} {kind : VariantKind}
    {range : ByteRange} {failure : Failure} (ranged : region.rangeFor kind = .ok range) :
    region.render tree kind = .error failure ↔
      Region.contentFor tree kind range = .error failure := by
  rw [Region.render, ranged]
  exact map_eq_error

/-- The normalized text, the signature and the body are made alike: the normalized text of their
range, encoded. -/
theorem Region.contentFor_tokens {tree : SyntaxTree} {kind : VariantKind} {range : ByteRange}
    (reads : kind ∈ [VariantKind.normalized, .signature, .body]) :
    Region.contentFor tree kind range =
      tree.normalized kind range >>= fun text => .ok (Utf8.encode text) := by
  cases kind with
  | normalized | signature | body => rfl
  | full | commentStripped | spaceCollapsed => simp at reads

/-- The kinds that read tokens are the normalized texts of their ranges. -/
theorem Region.render_tokens {region : Region} {tree : SyntaxTree} {kind : VariantKind}
    {variant : Variant} (reads : kind ∈ [VariantKind.normalized, .signature, .body])
    (rendered : region.render tree kind = .ok variant) :
    ∃ range text, region.rangeFor kind = .ok range ∧ tree.normalized kind range = .ok text ∧
      variant = ⟨kind, Utf8.encode text, range⟩ := by
  obtain ⟨range, found, rest⟩ := bind_eq_ok.mp rendered
  obtain ⟨content, made, whole⟩ := bind_eq_ok.mp rest
  rw [Region.contentFor_tokens reads] at made
  obtain ⟨text, normalized, encoded⟩ := bind_eq_ok.mp made
  cases encoded
  cases whole
  exact ⟨range, text, found, normalized, rfl⟩

/-- The content of a kind that reads tokens is the text of its tokens. -/
theorem Region.render_read {region : Region} {tree : SyntaxTree} {kind : VariantKind}
    {variant : Variant} (reads : kind ∈ [VariantKind.normalized, .signature, .body])
    (rendered : region.render tree kind = .ok variant) {range : ByteRange}
    (chosen : region.rangeFor kind = .ok range) :
    (∃ text, Utf8.decode (tree.bytes range) = .ok text) ∧
      ∃ tokens, tree.tokens range = .ok tokens ∧
        Utf8.decode variant.content = .ok (Text.joinSpaced tokens) := by
  obtain ⟨_, text, found, normalized, rfl⟩ := Region.render_tokens reads rendered
  obtain rfl := Except.ok.inj (chosen.symm.trans found)
  obtain ⟨decoded, tokens, read, rfl⟩ := SyntaxTree.normalized_eq_ok_iff.mp normalized
  exact ⟨decoded, tokens, read, Utf8.decode_encode _⟩

/-- Normalization neither reorders nor respells: the text of a region neither begins nor ends with a
blank, and it differs in blanks only from the texts of the region's tokens put together. Where all
trivia is blank, so it does from what comment stripping leaves, which then is text too. -/
theorem normalized_keeps_tokens {region : Region} {tree : SyntaxTree} {variant : Variant}
    (rendered : region.render tree .normalized = .ok variant) :
    ∃ text spans texts, Utf8.decode variant.content = .ok text ∧
      tree.leafSpans (some region.range) = .ok spans ∧ tree.keptTexts spans = .ok texts ∧
      Text.Trimmed text ∧ Text.solid text = Text.solid texts.flatten ∧
      ((∀ span ∈ spans, span.role = .trivia → tree.isBlank span = true) →
        ∃ stripped plain, region.render tree .commentStripped = .ok stripped ∧
          Utf8.decode stripped.content = .ok plain ∧ Text.solid text = Text.solid plain) := by
  obtain ⟨_, tokens, read, content⟩ := Region.render_read (by decide) rendered rfl
  obtain ⟨spans, made, readSpans⟩ := SyntaxTree.tokens_eq_ok_iff.mp read
  obtain ⟨texts, readTexts, same⟩ := SyntaxTree.solid_tokensOf readSpans
  have trimmed : Text.Trimmed (Text.joinSpaced tokens) :=
    Text.trimmed_joinSpaced (fun token member => (SyntaxTree.mem_tokensOf readSpans token member).1)
      (fun token member => (SyntaxTree.mem_tokensOf readSpans token member).2)
  have kept : Text.solid (Text.joinSpaced tokens) = Text.solid texts.flatten := by
    rw [Text.solid_joinSpaced, same]
  refine ⟨_, spans, texts, content, made, readTexts, trimmed, kept, ?_⟩
  intro blank
  obtain ⟨plain, decoded, alike⟩ := SyntaxTree.decode_uncommented readTexts blank
  refine ⟨⟨.commentStripped, _, region.range⟩, plain, ?_, decoded, kept.trans alike.symm⟩
  change tree.uncommented region.range >>= _ = _
  rw [SyntaxTree.uncommented, made]
  rfl

/-- A literal with layout inside, a comment, blanks and a token that ends with a blank. -/
def Document.sampleSpaced : Document where
  source := ⟨.c, Utf8.encodeString "a \u00a0b/*c*/\n d\u2003", none⟩
  parsed := some (.node ⟨"translation_unit", none, 0, 16, 0, 0, true, false⟩
    [.node ⟨"preproc_arg", none, 0, 5, 0, 0, true, false⟩ [],
      .node ⟨"comment", none, 5, 10, 0, 5, true, false⟩ [],
      .node ⟨"identifier", none, 12, 16, 1, 1, true, false⟩ []])

/-- A source with a comment and a token that ends with a blank: its normalized text has three
tokens, and the same characters as the source without the comment, blanks apart. -/
theorem normalized_keeps_tokens_sampleSpaced :
    ∃ tree variant stripped plain, Document.sampleSpaced.tree = .ok tree ∧
      Region.render ⟨.function, .first 16, none, none, 0, none⟩ tree .normalized = .ok variant ∧
      variant.content = Utf8.encodeString "a b d" ∧
      Region.render ⟨.function, .first 16, none, none, 0, none⟩ tree .commentStripped =
        .ok stripped ∧
      Utf8.decode stripped.content = .ok plain ∧
      Text.solid ['a', ' ', 'b', ' ', 'd'] = Text.solid plain := by
  let tree := Document.sampleSpaced.tree.toOption.get rfl
  let region : Region := ⟨.function, .first 16, none, none, 0, none⟩
  let variant := (region.render tree .normalized).toOption.get rfl
  have rendered : region.render tree .normalized = .ok variant := rfl
  obtain ⟨text, spans, _, decoded, made, _, _, _, agree⟩ := normalized_keeps_tokens rendered
  cases made
  cases decoded
  obtain ⟨stripped, plain, strippedOk, plainOk, same⟩ := agree (by decide)
  exact ⟨tree, variant, stripped, plain, rfl, rendered, by decide, strippedOk, plainOk, same⟩

end CodePrint
