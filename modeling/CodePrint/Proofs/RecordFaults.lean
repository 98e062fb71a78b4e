import CodePrint.Proofs.Assembly
import CodePrint.Proofs.Checks
import CodePrint.Proofs.Normalization
import CodePrint.Proofs.Tiling
import CodePrint.Settings
import CodePrint.Stream

/-! # What a record can fail with

Options that were checked ask for kinds in order, none of them twice, and one variant is made for
each kind that is asked for, so assembly accepts what was made. The record of a region with all its
parts then fails only where a variant cannot be made: bytes that are read as text are none, a token
of a range that is text is no text by itself, or a range is longer than positions can be counted.
-/

namespace CodePrint

/-! ## Checked options -/

namespace Check

/-- Accepted transforms are in order, and there is at least one. -/
theorem transforms_inOrder {given : Value} {kinds : List VariantKind}
    (found : transforms given = .valid kinds) :
    kinds ≠ [] ∧ VariantKind.inOrder kinds = kinds := by
  obtain ⟨listed, _, ordered⟩ := Checked.andThen_eq_valid.mp found
  split at ordered
  · cases ordered
  · rename_i inhabited
    split at ordered
    · rename_i distinct
      rw [VariantKind.sort_eq_inOrder distinct] at ordered
      cases ordered
      rw [List.isEmpty_iff] at inhabited
      exact ⟨VariantKind.inOrder_ne_nil inhabited, VariantKind.inOrder_inOrder listed⟩
    · cases ordered

/-- Options that were checked ask for some kinds, and these are in order. -/
theorem options_inOrder {fields : Fields} {options : Options}
    (validated : Check.options fields = .valid options) :
    options.transforms ≠ [] ∧ VariantKind.inOrder options.transforms = options.transforms := by
  obtain ⟨given, joined, rfl⟩ := Checked.map_eq_valid.mp validated
  obtain ⟨kinds, _⟩ := Checked.join_eq_valid.mp joined
  rcases field_eq_valid kinds with same | ⟨value, found⟩
  · dsimp only
    rw [same]
    decide
  · exact transforms_inOrder found

/-- Options that were checked ask for no kind twice. -/
theorem options_nodup {fields : Fields} {options : Options}
    (validated : Check.options fields = .valid options) : options.transforms.Nodup := by
  rw [← (options_inOrder validated).2]
  exact VariantKind.inOrder_nodup _

end Check

/-! ## Variants -/

/-- The tokens of a range cannot be read: one of them is no text, though the whole range is, or the
range is longer than positions can be counted. -/
inductive SyntaxTree.BreaksDown (tree : SyntaxTree) (range : ByteRange) : Prop
  | cut {text : List Char} {spans : List LeafSpan} {span : LeafSpan} {fault : Utf8.Fault}
      (whole : Utf8.decode (tree.bytes range) = .ok text)
      (visited : tree.leafSpans (some range) = .ok spans) (member : span ∈ spans)
      (uncommented : span.role ≠ .comment) (solid : span.role ≠ .trivia)
      (broken : Utf8.decode (tree.bytes span.range) = .error fault)
  | uncountable (long : ByteRange.indexLimit < range.length)

namespace SyntaxTree

variable {tree : SyntaxTree} {range : ByteRange}

private theorem leafSpans_eq_error {failure : Uncountable}
    (failed : tree.leafSpans (some range) = .error failure) :
    ByteRange.indexLimit < range.length := by
  refine Nat.not_le.mp fun short => ?_
  have countable : ∀ window ∈ some range, window.length ≤ ByteRange.indexLimit := by
    rintro window ⟨⟩
    exact short
  rw [leafSpans, leafSpansFrom, tree.bounds_eq countable] at failed
  cases failed

private theorem breaksDown_of_tokens {text : List Char} {breakdown : Breakdown}
    (whole : Utf8.decode (tree.bytes range) = .ok text)
    (failed : tree.tokens range = .error breakdown) : tree.BreaksDown range := by
  unfold tokens at failed
  split at failed
  · rename_i visited
    obtain ⟨span, member, kept, fault, broken, _⟩ := tokensOf_eq_error failed
    obtain ⟨solid, uncommented⟩ := LeafSpan.isKept_iff.mp kept
    exact .cut whole visited member uncommented solid broken
  · exact .uncountable (leafSpans_eq_error ‹_›)

end SyntaxTree

/-- A rendering that fails found bytes that are no text, or it broke down. -/
inductive RenderFault (tree : SyntaxTree) (kind : VariantKind) (range : ByteRange) : Failure → Prop
  | noText (transform : String) (offset : Int) (reason : String) :
      RenderFault tree kind range (.error (.invalidUtf8 transform offset reason))
  | tokens (reads : kind ∈ [VariantKind.normalized, .signature, .body])
      (broken : tree.BreaksDown range) (cause : Breakdown) :
      RenderFault tree kind range (.breakdown cause)
  /-- Taking comments out reads no text, so only the length can be in the way. -/
  | comments (strips : kind = .commentStripped) (long : ByteRange.indexLimit < range.length)
      (cause : Breakdown) : RenderFault tree kind range (.breakdown cause)

namespace RenderFault

variable {tree : SyntaxTree} {kind : VariantKind} {range : ByteRange} {failure : Failure}

private theorem of_decodeFor {base : Nat} {bytes : List UInt8} {error : ScanError}
    (failed : decodeFor kind base bytes = .error error) :
    RenderFault tree kind range (.error error) := by
  obtain ⟨fault, _, rfl⟩ := decodeFor_eq_error_iff.mp failed
  exact .noText _ _ _

private theorem of_normalized (reads : kind ∈ [VariantKind.normalized, .signature, .body])
    (failed : tree.normalized kind range = .error failure) :
    RenderFault tree kind range failure := by
  rcases SyntaxTree.normalized_eq_error_iff.mp failed with
    ⟨error, undecoded, rfl⟩ | ⟨⟨text, whole⟩, cause, unread, rfl⟩
  · exact of_decodeFor undecoded
  · exact .tokens reads (SyntaxTree.breaksDown_of_tokens whole unread) cause

/-- A content that cannot be made fails in one of the ways that rendering may. -/
theorem of_contentFor (failed : Region.contentFor tree kind range = .error failure) :
    RenderFault tree kind range failure := by
  -- The three kinds that read tokens differ only in the range they are given.
  have fromTokens (reads : kind ∈ [VariantKind.normalized, .signature, .body]) :
      RenderFault tree kind range failure := by
    rw [Region.contentFor_tokens reads] at failed
    rcases bind_eq_error.mp failed with unread | ⟨_, _, made⟩
    · exact of_normalized reads unread
    · cases made
  cases kind with
  | full => cases failed
  | commentStripped =>
      dsimp only [Region.contentFor] at failed
      unfold SyntaxTree.uncommented at failed
      split at failed
      · cases failed
      · cases failed
        exact .comments rfl (SyntaxTree.leafSpans_eq_error ‹_›) _
  | spaceCollapsed =>
      rcases bind_eq_error.mp failed with refused | ⟨_, _, made⟩
      · obtain ⟨error, undecoded, rfl⟩ := mapError_eq_error.mp refused
        exact of_decodeFor undecoded
      · cases made
  | normalized => exact fromTokens (by decide)
  | signature => exact fromTokens (by decide)
  | body => exact fromTokens (by decide)

end RenderFault

namespace Region

variable {region : Region} {tree : SyntaxTree}

/-- A region with all its parts has a range for every kind. -/
theorem rangeFor_ok (signed : region.signature.isSome) (embodied : region.body.isSome)
    (kind : VariantKind) : ∃ range, region.rangeFor kind = .ok range := by
  obtain ⟨signature, hasSignature⟩ := Option.isSome_iff_exists.mp signed
  obtain ⟨body, hasBody⟩ := Option.isSome_iff_exists.mp embodied
  cases kind with
  | signature => exact ⟨signature, by simp only [rangeFor, hasSignature]⟩
  | body => exact ⟨body, by simp only [rangeFor, hasBody]⟩
  | full | normalized | commentStripped | spaceCollapsed => exact ⟨region.range, rfl⟩

/-- Variants that are rendered for a list of kinds have those kinds, in the order of the list. -/
theorem renderAll_kinds {kinds : List VariantKind} {variants : List Variant}
    (rendered : region.renderAll tree kinds = .ok variants) : variants.map (·.kind) = kinds := by
  induction kinds generalizing variants with
  | nil =>
      cases rendered
      rfl
  | cons kind rest ih =>
      obtain ⟨variant, first, others⟩ := bind_eq_ok.mp rendered
      obtain ⟨later, renderedRest, made⟩ := bind_eq_ok.mp others
      obtain ⟨_, _, content⟩ := bind_eq_ok.mp first
      obtain ⟨_, _, madeFirst⟩ := bind_eq_ok.mp content
      cases made
      cases madeFirst
      rw [List.map_cons, ih renderedRest]

/-- Rendering all kinds fails as one of them does. -/
theorem renderAll_eq_error {kinds : List VariantKind} {failure : Failure}
    (failed : region.renderAll tree kinds = .error failure) :
    ∃ kind ∈ kinds, region.render tree kind = .error failure := by
  induction kinds with
  | nil => cases failed
  | cons kind rest ih =>
      rcases bind_eq_error.mp failed with here | ⟨_, _, later⟩
      · exact ⟨kind, List.mem_cons_self, here⟩
      · rcases bind_eq_error.mp later with failedRest | ⟨_, _, made⟩
        · obtain ⟨other, member, found⟩ := ih failedRest
          exact ⟨other, List.mem_cons_of_mem _ member, found⟩
        · cases made

/-- The record of a region with all its parts fails only where a requested kind cannot be
rendered. -/
theorem record_eq_error {source : Source} {options : Options} {error : ScanError}
    (distinct : options.transforms.Nodup) (signed : region.signature.isSome)
    (embodied : region.body.isSome)
    (failed : region.record tree source options = .error error) :
    ∃ kind ∈ options.transforms, ∃ range failure, region.rangeFor kind = .ok range ∧
      RenderFault tree kind range failure ∧ error = failure.toError region.range := by
  rcases bind_eq_error.mp failed with reported | ⟨variants, rendered, assembled⟩
  · obtain ⟨failure, unrendered, rfl⟩ := mapError_eq_error.mp reported
    obtain ⟨kind, requested, failedKind⟩ := renderAll_eq_error unrendered
    obtain ⟨range, ranged⟩ := rangeFor_ok signed embodied kind
    refine ⟨kind, requested, range, failure, ranged, ?_, rfl⟩
    exact .of_contentFor ((render_failed_iff ranged).mp failedKind)
  · have kinds := renderAll_kinds (mapError_eq_ok.mp rendered)
    rw [Record.assemble_ok source region distinct (by rw [List.map_map]; exact kinds)] at assembled
    cases assembled

end Region

end CodePrint
