import CodePrint.Proofs.Draining
import CodePrint.Proofs.RecordFaults

/-! # Records and their kinds

Where kinds are asked for in the order of all kinds, as checked options do, the record of a region
has one variant for each of them, in that order, and each variant has the fingerprint of its own
content.
-/

namespace CodePrint

/-! ## Records of ordered kinds -/

/-- Assembly keeps variants whose kinds are in order as they are. -/
theorem Record.assemble_inOrder {kinds : List VariantKind}
    (ordered : VariantKind.inOrder kinds = kinds) (source : Source) (region : Region)
    {pairs : List (Variant × Fingerprint)} (produced : pairs.map (·.1.kind) = kinds) :
    assemble source region kinds pairs = .ok ⟨source, region, pairs⟩ := by
  have distinct := VariantKind.inOrder_nodup kinds
  have ranked := VariantKind.inOrder_ranked kinds
  rw [ordered] at distinct ranked
  rw [← produced, List.pairwise_map] at ranked
  rw [assemble_ok source region distinct produced, sortVariants, List.mergeSort_of_pairwise]
  simpa only [decide_eq_true_eq] using ranked

/-- A variant with the fingerprint of its content. -/
def Variant.fingerprinted (algorithm : HashAlgorithm) (variant : Variant) : Variant × Fingerprint :=
  (variant, .ofContent algorithm variant.content)

namespace Region

variable {region : Region} {tree : SyntaxTree} {source : Source} {options : Options}

/-- All kinds of a list are rendered exactly when each of them is by itself. -/
theorem renderAll_eq_ok_iff {kinds : List VariantKind} {variants : List Variant} :
    region.renderAll tree kinds = .ok variants ↔
      List.Forall₂ (fun kind variant => region.render tree kind = .ok variant) kinds variants := by
  induction kinds generalizing variants with
  | nil =>
      rw [renderAll, List.forall₂_nil_left_iff]
      constructor
      · intro same
        cases same
        rfl
      · rintro rfl
        rfl
  | cons kind rest ih =>
      rw [renderAll, List.forall₂_cons_left_iff, bind_eq_ok]
      constructor
      · rintro ⟨variant, first, others⟩
        obtain ⟨later, renderedRest, made⟩ := bind_eq_ok.mp others
        cases made
        exact ⟨variant, later, first, ih.mp renderedRest, rfl⟩
      · rintro ⟨variant, later, first, renderedRest, rfl⟩
        exact ⟨variant, first, bind_eq_ok.mpr ⟨later, ih.mpr renderedRest, rfl⟩⟩

/-- A variant has the kind it was rendered for. -/
theorem render_kind {kind : VariantKind} {variant : Variant}
    (rendered : region.render tree kind = .ok variant) : variant.kind = kind := by
  obtain ⟨_, _, content⟩ := bind_eq_ok.mp rendered
  obtain ⟨_, _, made⟩ := bind_eq_ok.mp content
  cases made
  rfl

private theorem fingerprinted_kinds {kinds : List VariantKind} {variants : List Variant}
    (rendered : region.renderAll tree kinds = .ok variants) (algorithm : HashAlgorithm) :
    (variants.map (·.fingerprinted algorithm)).map (·.1.kind) = kinds := by
  rw [List.map_map]
  exact renderAll_kinds rendered

/-- A record of kinds in order holds what every kind is rendered to, in that order, each with the
fingerprint of its own content. -/
theorem record_eq_ok_iff (ordered : VariantKind.inOrder options.transforms = options.transforms)
    {record : Record} :
    region.record tree source options = .ok record ↔
      ∃ variants, region.renderAll tree options.transforms = .ok variants ∧
        record = ⟨source, region, variants.map (·.fingerprinted options.algorithm)⟩ := by
  constructor
  · intro made
    obtain ⟨variants, reported, assembled⟩ := bind_eq_ok.mp made
    have rendered := mapError_eq_ok.mp reported
    have accepted := Record.assemble_inOrder ordered source region
      (fingerprinted_kinds rendered options.algorithm)
    exact ⟨variants, rendered, Except.ok.inj (assembled.symm.trans accepted)⟩
  · rintro ⟨variants, rendered, rfl⟩
    have accepted := Record.assemble_inOrder ordered source region
      (fingerprinted_kinds rendered options.algorithm)
    exact bind_eq_ok.mpr ⟨variants, mapError_eq_ok.mpr rendered, accepted⟩

end Region

/-- A record has a variant of every requested kind, in the order of the kinds and each once, and
each variant has the digest of its own content. -/
structure Record.Complete (record : Record) (kinds : List VariantKind) (algorithm : HashAlgorithm) :
    Prop where
  ordered : record.kinds = VariantKind.inOrder kinds
  once : record.kinds.Nodup
  digests : ∀ (place : Nat) (variant : Variant) (fingerprint : Fingerprint),
    record.variants[place]? = some (variant, fingerprint) →
      fingerprint = ⟨algorithm, algorithm.digest variant.content⟩

namespace Region

variable {region : Region} {tree : SyntaxTree} {source : Source} {options : Options}

/-- A record has each requested kind once, in order, with the fingerprint of its content. -/
theorem record_complete (ordered : VariantKind.inOrder options.transforms = options.transforms)
    {record : Record} (made : region.record tree source options = .ok record) :
    record.Complete options.transforms options.algorithm := by
  obtain ⟨variants, rendered, rfl⟩ := (record_eq_ok_iff ordered).mp made
  have kinds := fingerprinted_kinds rendered options.algorithm
  refine ⟨kinds.trans ordered.symm, ?_, fun place variant fingerprint found => ?_⟩
  · rw [Record.kinds, kinds, ← ordered]
    exact VariantKind.inOrder_nodup _
  · obtain ⟨_, _, made⟩ := List.mem_map.mp (List.mem_of_getElem? found)
    cases made
    rfl

end Region

/-! ## Records of a stream -/

/-- A record of an outcome is one that settling gave. -/
theorem Outcome.under_record {results : List (Except ScanError Record)}
    {policy : RegionErrorPolicy} {record : Record}
    (member : record ∈ (Outcome.under results policy).records) : .ok record ∈ results := by
  have emitted {some : List (Except ScanError Record)}
      (member : record ∈ some.filterMap Except.toOption) : .ok record ∈ some := by
    obtain ⟨result, inside, kept⟩ := List.mem_filterMap.mp member
    cases result with
    | error error => cases kept
    | ok made =>
        cases kept
        exact inside
  cases policy with
  | skip => exact emitted member
  | abort => exact List.takeWhile_subset _ (emitted member)

/-- Every record of a stream is the record of a region that was located in the parsed source. -/
theorem Stream.drain_record {stream : Stream} {record : Record}
    (unopened : stream.state = .unopened) (member : record ∈ stream.drain.1.records) :
    ∃ tree region, stream.document.parse stream.options.allowErrors = .ok tree ∧
      .ok region ∈ tree.locate stream.profile ∧
      region.record tree stream.document.source stream.options = .ok record := by
  by_cases empty : stream.document.source.content = []
  · rw [drain_empty unopened empty] at member
    exact absurd member List.not_mem_nil
  · cases parsed : stream.document.parse stream.options.allowErrors with
    | error failure =>
        rw [drain_unparsed unopened empty parsed] at member
        exact absurd member List.not_mem_nil
    | ok tree =>
        rw [drain_parsed unopened empty parsed] at member
        obtain ⟨item, inside, settled⟩ := List.mem_map.mp (Outcome.under_record member)
        obtain ⟨region, located, made⟩ := bind_eq_ok.mp settled
        exact ⟨tree, region, rfl, located ▸ inside, made⟩

end CodePrint
