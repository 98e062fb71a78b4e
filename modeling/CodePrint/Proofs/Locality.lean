import CodePrint.Proofs.ContentAddress

/-! # What a variant depends on

A variant is made from a range of the source. Renderings that read the bytes of the range as they
are see nothing else. Renderings that read leaf spans take them from a window, and a window with
bytes is tiled by spans that stay inside it; so these too see only their range, provided that it has
bytes. A window without bytes stands for the whole source, and there the rendering sees all of it.
-/

namespace CodePrint

/-- The same tree over another buffer. -/
def SyntaxTree.withContent (tree : SyntaxTree) (content : List UInt8) : SyntaxTree :=
  { tree with content := content }

/-- Whether the content of a kind is made from leaf spans. -/
def VariantKind.readsSpans : VariantKind → Bool
  | .full | .spaceCollapsed => false
  | _ => true

private theorem ByteRange.MovedBy.refl (range : ByteRange) : range.MovedBy 0 range :=
  ⟨(Int.add_zero _).symm, (Int.add_zero _).symm⟩

private theorem ScanError.movedBy_zero (error : ScanError) : error.movedBy 0 = error := by
  cases error <;> simp only [ScanError.movedBy, Int.add_zero]

/-- A failure that is moved nowhere is the same failure. -/
theorem Failure.movedBy_zero (failure : Failure) : failure.movedBy 0 = failure := by
  cases failure with
  | error cause => exact congrArg Failure.error cause.movedBy_zero
  | breakdown cause => rfl

/-- Computations that are the same up to no offset are equal. -/
theorem SameUpTo.eq {α : Type} {left right : Except Failure α} (same : SameUpTo 0 left right) :
    right = left := by
  match left, right, same with
  | .ok _, .ok _, same => exact congrArg Except.ok same.symm
  | .error failure, .error _, same =>
      exact congrArg Except.error (same.trans failure.movedBy_zero)

namespace SyntaxTree

variable {tree : SyntaxTree} {content : List UInt8} {range : ByteRange}

private theorem bounds_withContent (occupied : range.start < range.stop) :
    (tree.withContent content).bounds (some range) = tree.bounds (some range) := by
  have inhabited : range.isEmpty = false := beq_false_of_ne (Nat.ne_of_lt occupied)
  simp only [bounds, inhabited, Bool.false_eq_true, ↓reduceIte]

/-- The spans of a window with bytes stay inside it. -/
theorem leafSpans_inside {spans : List LeafSpan} (occupied : range.start < range.stop)
    (made : tree.leafSpans (some range) = .ok spans) {span : LeafSpan} (member : span ∈ spans) :
    range.start ≤ span.range.start ∧ span.range.stop ≤ range.stop := by
  have inhabited : range.isEmpty = false := beq_false_of_ne (Nat.ne_of_lt occupied)
  simp only [leafSpans, leafSpansFrom, bounds, inhabited, Bool.false_eq_true, ↓reduceIte] at made
  split at made
  · cases made
  · cases made
    obtain ⟨after, _, before⟩ := (tree.root.tile_tiles range).mem_bounds member
    exact ⟨after, before⟩

/-- Over two buffers that agree on a window with bytes, renderings see the same. -/
theorem sameView_withContent (occupied : range.start < range.stop)
    (agree : range.slice content = tree.bytes range) :
    SameView 0 tree (tree.withContent content) range range := by
  refine ⟨.refl range, agree, ?_⟩
  have spans : (tree.withContent content).leafSpans (some range) = tree.leafSpans (some range) := by
    rw [leafSpans, leafSpansFrom, bounds_withContent occupied]
    rfl
  rw [spans]
  cases made : tree.leafSpans (some range) with
  | error cause => exact trivial
  | ok spans =>
      refine List.forall₂_same.mpr fun span member => ⟨rfl, rfl, ?_⟩
      obtain ⟨begins, ends⟩ := leafSpans_inside occupied made member
      exact (ByteRange.MovedBy.refl range).slice_eq (.refl span.range) agree begins ends

private theorem contentFor_withContent {kind : VariantKind}
    (agree : range.slice content = tree.bytes range)
    (occupied : kind.readsSpans = true → range.start < range.stop) :
    Region.contentFor (tree.withContent content) kind range =
      Region.contentFor tree kind range := by
  have bytes : (tree.withContent content).bytes range = tree.bytes range := agree
  have seen (reads : kind.readsSpans = true) :=
    ((sameView_withContent (occupied reads) agree).content kind).eq
  cases kind with
  | full => exact congrArg Except.ok bytes
  | spaceCollapsed =>
      simp only [Region.contentFor, bytes]
  | normalized | signature | body | commentStripped => exact seen rfl

end SyntaxTree

/-- A variant and its fingerprint do not depend on bytes outside the range that the variant is made
from, if the kind reads that range only as bytes or the range has any. -/
theorem render_eq_of_bytes_eq {tree : SyntaxTree} {content : List UInt8} {region : Region}
    {kind : VariantKind}
    (agree : ∀ range, region.rangeFor kind = .ok range → range.slice content = tree.bytes range)
    (occupied : kind.readsSpans = true → ∀ range, region.rangeFor kind = .ok range →
      range.start < range.stop) :
    region.render (tree.withContent content) kind = region.render tree kind ∧
      ∀ algorithm,
        (region.render (tree.withContent content) kind).map
            (fun variant => Fingerprint.ofContent algorithm variant.content) =
          (region.render tree kind).map
            fun variant => Fingerprint.ofContent algorithm variant.content := by
  have same : region.render (tree.withContent content) kind = region.render tree kind := by
    unfold Region.render
    cases made : region.rangeFor kind with
    | error failure => rfl
    | ok range =>
        have contents := SyntaxTree.contentFor_withContent (agree range made)
          fun reads => occupied reads range made
        change Region.contentFor (tree.withContent content) kind range >>= _ = _
        rw [contents]
        rfl
  exact ⟨same, fun algorithm => by rw [same]⟩

/-- The first comment of a file can be changed without a trace in a variant of the function behind
it. -/
theorem render_eq_of_bytes_eq_sample :
    ∃ tree region, Document.sampleBetween.tree = .ok tree ∧
      tree.regionAt .c (tree.root.sites.getD 2 ⟨tree.root, []⟩) = .ok region ∧
      (tree.withContent (Utf8.encodeString "//b\nint f(void)\x7b/*c*/\x7d\n;")).content ≠
        tree.content ∧
      region.render (tree.withContent (Utf8.encodeString "//b\nint f(void)\x7b/*c*/\x7d\n;"))
          .signature =
        region.render tree .signature := by
  let tree := Document.sampleBetween.tree.toOption.get rfl
  let region := (tree.regionAt .c (tree.root.sites.getD 2 ⟨tree.root, []⟩)).toOption.get rfl
  refine ⟨tree, region, rfl, rfl, by decide, (render_eq_of_bytes_eq ?_ ?_).1⟩
  · rintro range ⟨⟩
    decide
  · rintro - range ⟨⟩
    decide

/-- A source of one byte, all of it one token. -/
def SyntaxTree.sampleToken : SyntaxTree where
  root := .node ⟨"identifier", .token, .first 1, none, true, false, 0, 0⟩ []
  content := Utf8.encodeString "a"
  language := .c

/-- A region without bytes, and so are its parts. -/
def Region.sampleEmpty : Region where
  kind := .function
  range := .first 0
  signature := some (.first 0)
  body := some (.first 0)

/-- Every kind that reads spans tells from a region without bytes whether the source is blank. -/
theorem render_sampleEmpty_ne {kind : VariantKind} (reads : kind.readsSpans = true) :
    Region.sampleEmpty.render (SyntaxTree.sampleToken.withContent (Utf8.encodeString " ")) kind ≠
      Region.sampleEmpty.render .sampleToken kind := by
  have apart : ∀ {content other : List UInt8} {range : ByteRange}, content ≠ other →
      (.ok ⟨kind, content, range⟩ : Except Failure Variant) ≠ .ok ⟨kind, other, range⟩ := by
    intro content other range differ same
    injection same with same
    exact differ (congrArg Variant.content same)
  cases kind with
  | full | spaceCollapsed => cases reads
  | normalized | signature | body => exact @apart [] [97] _ (by decide)
  | commentStripped => exact @apart [32] [97] _ (by decide)

/-- A variant of a region without bytes depends on bytes outside of it. -/
theorem render_not_local_of_empty :
    ¬∀ (tree : SyntaxTree) (content : List UInt8) (region : Region) (kind : VariantKind),
      content.length = tree.content.length →
      (∀ range, region.rangeFor kind = .ok range → range.slice content = tree.bytes range) →
        region.render (tree.withContent content) kind = region.render tree kind := by
  intro always
  refine @render_sampleEmpty_ne .normalized rfl (always _ _ _ _ (by decide) ?_)
  rintro range ⟨⟩
  decide

end CodePrint
