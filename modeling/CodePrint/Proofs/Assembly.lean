import CodePrint.Proofs.KindOrder
import CodePrint.Record
import Mathlib.Data.List.Sort

/-! # Assembly

Assembly compares the pairs it is given with the requested kinds by number alone: how many pairs
have a variant of each kind. The order in which the pairs come is therefore of no account. A record
is made if every requested kind comes once and no other kind comes at all; its pairs stand in the
order of their kinds, and looking a kind up gives the two halves of one pair.
-/

namespace CodePrint

namespace Record

variable {requested : List VariantKind} {pairs others : List (Variant × Fingerprint)}

/-- How many pairs have a variant of a kind. -/
def occurrences (pairs : List (Variant × Fingerprint)) (kind : VariantKind) : Nat :=
  pairs.countP (·.1.kind == kind)

/-- The pairs are what was requested: one variant of every requested kind and nothing else. -/
structure Answers (requested : List VariantKind) (pairs : List (Variant × Fingerprint)) :
    Prop where
  once : ∀ kind ∈ requested, occurrences pairs kind = 1
  only : ∀ pair ∈ pairs, pair.1.kind ∈ requested

/-- A kind that comes without a request or more than once. -/
def IsSurplus (requested : List VariantKind) (pairs : List (Variant × Fingerprint))
    (kind : VariantKind) : Prop :=
  0 < occurrences pairs kind ∧ (kind ∉ requested ∨ 1 < occurrences pairs kind)

/-! ## Counting -/

private theorem count_kinds (pairs : List (Variant × Fingerprint)) (kind : VariantKind) :
    (pairs.map (·.1.kind)).count kind = occurrences pairs kind := by
  rw [List.count, List.countP_map]
  rfl

private theorem occurrences_pos {kind : VariantKind} :
    0 < occurrences pairs kind ↔ ∃ pair ∈ pairs, pair.1.kind = kind := by
  simp only [occurrences, List.countP_pos_iff, beq_iff_eq]

private theorem occurrences_perm (permuted : others.Perm pairs) (kind : VariantKind) :
    occurrences others kind = occurrences pairs kind :=
  permuted.countP_eq _

private theorem missing_eq (requested : List VariantKind) (pairs : List (Variant × Fingerprint)) :
    missing requested (pairs.map (·.1.kind)) =
      requested.filter fun kind => occurrences pairs kind = 0 := by
  refine List.filter_congr fun kind _ => ?_
  simp only [← count_kinds, List.count_eq_zero, List.contains_eq_mem, decide_not]

private theorem missing_eq_nil :
    missing requested (pairs.map (·.1.kind)) = [] ↔
      ∀ kind ∈ requested, 0 < occurrences pairs kind := by
  simp only [missing_eq, List.filter_eq_nil_iff, decide_eq_true_iff, Nat.pos_iff_ne_zero]

private theorem mem_unexpected {kind : VariantKind} :
    kind ∈ unexpected requested (pairs.map (·.1.kind)) ↔ IsSurplus requested pairs kind := by
  simp only [unexpected, IsSurplus, ← count_kinds, List.count_pos_iff, List.mem_filter,
    VariantKind.mem_all, true_and, List.contains_eq_mem, Bool.and_eq_true, Bool.or_eq_true,
    Bool.not_eq_true', decide_eq_true_iff, decide_eq_false_iff_not]

private theorem unexpected_nodup (requested produced : List VariantKind) :
    (unexpected requested produced).Nodup :=
  VariantKind.all_nodup.sublist List.filter_sublist

/-- Pairs answer a request if nothing is missing and nothing is left over. -/
theorem answers_iff :
    Answers requested pairs ↔ (∀ kind ∈ requested, 0 < occurrences pairs kind) ∧
      ∀ kind, ¬IsSurplus requested pairs kind := by
  constructor
  · intro answers
    refine ⟨fun kind asked => ?_, ?_⟩
    · rw [answers.once kind asked]
      exact Nat.one_pos
    · rintro kind ⟨present, unasked | again⟩
      · obtain ⟨pair, member, rfl⟩ := occurrences_pos.mp present
        exact unasked (answers.only pair member)
      · obtain ⟨pair, member, rfl⟩ := occurrences_pos.mp present
        have once := answers.once _ (answers.only pair member)
        omega
  · rintro ⟨complete, spare⟩
    constructor
    · intro kind asked
      have present := complete kind asked
      have notAgain : ¬1 < occurrences pairs kind := fun again => spare kind ⟨present, .inr again⟩
      omega
    · intro pair member
      by_contra unasked
      exact spare _ ⟨occurrences_pos.mpr ⟨pair, member, rfl⟩, .inl unasked⟩

/-- Pairs answer a request, or they lack some of it, or they hold all of it and more. -/
theorem answers_cases (requested : List VariantKind) (pairs : List (Variant × Fingerprint)) :
    Answers requested pairs ∨ (∃ kind ∈ requested, occurrences pairs kind = 0) ∨
      (∀ kind ∈ requested, 0 < occurrences pairs kind) ∧ ¬Answers requested pairs := by
  by_cases answers : Answers requested pairs
  · exact .inl answers
  · by_cases complete : ∀ kind ∈ requested, 0 < occurrences pairs kind
    · exact .inr (.inr ⟨complete, answers⟩)
    · refine .inr (.inl ?_)
      simpa only [not_forall, Nat.not_lt, Nat.le_zero, exists_prop] using complete

private theorem Answers.distinct (answers : Answers requested pairs) :
    (pairs.map (·.1.kind)).Nodup := by
  rw [List.nodup_iff_count_le_one]
  intro kind
  rw [count_kinds]
  by_cases absent : occurrences pairs kind = 0
  · omega
  · obtain ⟨pair, member, rfl⟩ := occurrences_pos.mp (Nat.pos_of_ne_zero absent)
    exact (answers.once _ (answers.only pair member)).le

private theorem Answers.perm (answers : Answers requested pairs) (permuted : others.Perm pairs) :
    Answers requested others where
  once kind asked := (occurrences_perm permuted kind).trans (answers.once kind asked)
  only pair member := answers.only pair (permuted.mem_iff.mp member)

/-! ## Sorting -/

private theorem sortVariants_perm (pairs : List (Variant × Fingerprint)) :
    (sortVariants pairs).Perm pairs :=
  List.mergeSort_perm pairs _

/-- Pairs with distinct kinds are put in strict order. -/
theorem sortVariants_ordered (distinct : (pairs.map (·.1.kind)).Nodup) :
    (sortVariants pairs).Pairwise fun pair later => pair.1.kind.rank < later.1.kind.rank := by
  have ranked : (sortVariants pairs).Pairwise fun pair later =>
      pair.1.kind.rank ≤ later.1.kind.rank := pairwise_mergeSort_rank (·.1.kind.rank) pairs
  have apart : (sortVariants pairs).Pairwise fun pair later => pair.1.kind ≠ later.1.kind := by
    rw [← List.pairwise_map]
    exact ((sortVariants_perm pairs).map _).nodup_iff.mpr distinct
  refine (ranked.and apart).imp fun {pair later} both => ?_
  exact Nat.lt_of_le_of_ne both.1 fun same => both.2 (VariantKind.rank_injective same)

/-- The order in which pairs with distinct kinds come does not show once they are sorted. -/
theorem sortVariants_eq_of_perm (distinct : (pairs.map (·.1.kind)).Nodup)
    (permuted : others.Perm pairs) : sortVariants others = sortVariants pairs := by
  have distinct' := (permuted.map (·.1.kind)).nodup_iff.mpr distinct
  have same := (sortVariants_perm others).trans (permuted.trans (sortVariants_perm pairs).symm)
  refine same.eq_of_pairwise (fun pair later _ _ below above => ?_) (sortVariants_ordered distinct')
    (sortVariants_ordered distinct)
  exact absurd below (Nat.lt_asymm above)

private theorem sortedNames_perm (kinds : List VariantKind) :
    (sortedNames kinds).Perm (kinds.map (·.name)) :=
  List.mergeSort_perm _ _

/-- The names of distinct kinds are put in strict alphabetical order. -/
theorem sortedNames_ordered {kinds : List VariantKind} (distinct : kinds.Nodup) :
    (sortedNames kinds).Pairwise (· < ·) := by
  have sorted : (sortedNames kinds).Pairwise (· ≤ ·) := List.pairwise_mergeSort' _ _
  have apart : (sortedNames kinds).Nodup :=
    (sortedNames_perm kinds).nodup_iff.mpr (distinct.map VariantKind.name_injective)
  refine (sorted.and apart).imp fun {name later} both => ?_
  exact String.not_le.mp fun back => both.2 (String.le_antisymm both.1 back)

/-! ## Looking kinds up -/

/-- A record whose kinds are distinct finds each of its pairs. -/
theorem pair_eq_some {record : Record} (distinct : record.kinds.Nodup)
    {pair : Variant × Fingerprint} (member : pair ∈ record.variants) :
    record.pair? pair.1.kind = some pair := by
  unfold pair?
  cases look : record.variants.find? (·.1.kind == pair.1.kind) with
  | none => exact absurd (beq_self_eq_true _) (List.find?_eq_none.mp look pair member)
  | some found =>
      have same : found.1.kind = pair.1.kind := by simpa using List.find?_some look
      have among := List.mem_of_find?_eq_some look
      rw [List.inj_on_of_nodup_map distinct among member same]

private theorem pair_eq_none {record : Record} {kind : VariantKind} :
    record.pair? kind = none ↔ ∀ pair ∈ record.variants, pair.1.kind ≠ kind := by
  simp only [pair?, List.find?_eq_none, beq_iff_eq, ne_eq]

/-! ## The three results -/

variable (source : Source) (region : Region)

/-- Pairs that answer a request make a record of themselves, put in order. -/
theorem assemble_answers (answers : Answers requested pairs) :
    assemble source region requested pairs = .ok ⟨source, region, sortVariants pairs⟩ := by
  obtain ⟨complete, spare⟩ := answers_iff.mp answers
  have nothingMissing := missing_eq_nil.mpr complete
  have nothingSpare : unexpected requested (pairs.map (·.1.kind)) = [] :=
    List.eq_nil_iff_forall_not_mem.mpr fun kind member => spare kind (mem_unexpected.mp member)
  simp only [assemble, nothingMissing, nothingSpare]

/-- Assembly accepts what was made for distinct kinds, one by one. -/
theorem assemble_ok (distinct : requested.Nodup) (produced : pairs.map (·.1.kind) = requested) :
    assemble source region requested pairs = .ok ⟨source, region, sortVariants pairs⟩ := by
  refine assemble_answers source region ⟨fun kind asked => ?_, fun pair member => ?_⟩
  · rw [← count_kinds, produced]
    exact List.count_eq_one_of_mem distinct asked
  · rw [← produced]
    exact List.mem_map_of_mem member

/-- A request with a kind that no pair has is refused with the names of all such kinds, as often as
they were requested. -/
theorem assemble_lacking (lacking : ∃ kind ∈ requested, occurrences pairs kind = 0) :
    assemble source region requested pairs =
      .error (.variantMissing
        ((requested.filter fun kind => occurrences pairs kind = 0).map (·.name))
        region.range.start region.range.stop) := by
  have somethingMissing : missing requested (pairs.map (·.1.kind)) ≠ [] := by
    obtain ⟨kind, asked, absent⟩ := lacking
    intro nothing
    have present := missing_eq_nil.mp nothing kind asked
    omega
  rw [← missing_eq, assemble]
  split
  · exact absurd ‹_› somethingMissing
  · exact absurd ‹_› somethingMissing
  · rfl

/-- Pairs with every requested kind that still do not answer the request are refused with the names
of the kinds that are too many. -/
theorem assemble_surplus (complete : ∀ kind ∈ requested, 0 < occurrences pairs kind)
    (unanswered : ¬Answers requested pairs) :
    assemble source region requested pairs =
      .error (.variantUnexpected (sortedNames (unexpected requested (pairs.map (·.1.kind))))
        region.range.start region.range.stop) := by
  have nothingMissing := missing_eq_nil.mpr complete
  have somethingSpare : unexpected requested (pairs.map (·.1.kind)) ≠ [] := by
    intro nothing
    refine unanswered (answers_iff.mpr ⟨complete, fun kind surplus => ?_⟩)
    exact List.eq_nil_iff_forall_not_mem.mp nothing kind (mem_unexpected.mpr surplus)
  rw [assemble, nothingMissing]
  split
  · exact absurd ‹_› somethingSpare
  · rfl
  · exact absurd rfl ‹_›

/-- The same pairs in another order are assembled to the same record or refused for the same
reason. -/
theorem assemble_perm (permuted : others.Perm pairs) :
    assemble source region requested others = assemble source region requested pairs := by
  have counted := occurrences_perm permuted
  -- Only the accepted case looks at more than numbers, and there the kinds are distinct.
  rcases answers_cases requested pairs with answers | lacking | ⟨complete, unanswered⟩
  · rw [assemble_answers source region answers,
      assemble_answers source region (answers.perm permuted),
      sortVariants_eq_of_perm answers.distinct permuted]
  · have lacking' : ∃ kind ∈ requested, occurrences others kind = 0 := by
      simpa only [counted] using lacking
    rw [assemble_lacking source region lacking, assemble_lacking source region lacking']
    simp only [counted]
  · have complete' : ∀ kind ∈ requested, 0 < occurrences others kind := by
      simpa only [counted] using complete
    have unanswered' : ¬Answers requested others :=
      fun answers => unanswered (answers.perm permuted.symm)
    have spare : unexpected requested (others.map (·.1.kind)) =
        unexpected requested (pairs.map (·.1.kind)) := by
      simp only [unexpected, (permuted.map _).contains_eq, (permuted.map _).count_eq]
    rw [assemble_surplus source region complete unanswered,
      assemble_surplus source region complete' unanswered', spare]

/-- In a record of pairs that answer a request, looking a requested kind up gives the two halves of
one pair; no other kind is found. -/
theorem Answers.lookups (answers : Answers requested pairs) (kind : VariantKind) :
    let record : Record := ⟨source, region, sortVariants pairs⟩
    (kind ∈ requested → ∃ pair ∈ pairs, pair.1.kind = kind ∧
      record.variant? kind = some pair.1 ∧ record.fingerprint? kind = some pair.2) ∧
    (kind ∉ requested → record.variant? kind = none ∧ record.fingerprint? kind = none) := by
  intro record
  have permuted : record.variants.Perm pairs := sortVariants_perm pairs
  constructor
  · intro asked
    have present : 0 < occurrences pairs kind := (answers_iff.mp answers).1 kind asked
    obtain ⟨pair, member, rfl⟩ := occurrences_pos.mp present
    have distinct : record.kinds.Nodup := (permuted.map _).nodup_iff.mpr answers.distinct
    have found := pair_eq_some distinct (permuted.mem_iff.mpr member)
    refine ⟨pair, member, rfl, ?_, ?_⟩
    · rw [variant?, found, Option.map_some]
    · rw [fingerprint?, found, Option.map_some]
  · intro unasked
    have absent : record.pair? kind = none := by
      rw [pair_eq_none]
      rintro pair member rfl
      exact unasked (answers.only pair (permuted.mem_iff.mp member))
    constructor
    · rw [variant?, absent, Option.map_none]
    · rw [fingerprint?, absent, Option.map_none]

end Record

open Record in
/-- Assembly accepts exactly one variant of every requested kind and nothing else. The record then
holds the pairs in the order of their kinds, and a requested kind is found with its own fingerprint.
Otherwise the requested kinds that are missing are reported or, if there are none, the names of the
kinds that come without a request or again, in alphabetical order. In no case does it matter in
which order the pairs come. -/
theorem assembly_exact (source : Source) (region : Region) (requested : List VariantKind)
    (pairs : List (Variant × Fingerprint)) :
    let result := assemble source region requested pairs
    ((∃ record, result = .ok record) ↔ Answers requested pairs) ∧
    (∀ record, result = .ok record →
      record.source = source ∧ record.region = region ∧ record.variants.Perm pairs ∧
      (record.variants.Pairwise fun pair later => pair.1.kind.rank < later.1.kind.rank) ∧
      ∀ kind,
        (kind ∈ requested → ∃ pair ∈ pairs, pair.1.kind = kind ∧
          record.variant? kind = some pair.1 ∧ record.fingerprint? kind = some pair.2) ∧
        (kind ∉ requested → record.variant? kind = none ∧ record.fingerprint? kind = none)) ∧
    ((∃ kind ∈ requested, occurrences pairs kind = 0) →
      result = .error (.variantMissing
        ((requested.filter fun kind => occurrences pairs kind = 0).map (·.name))
        region.range.start region.range.stop)) ∧
    ((∀ kind ∈ requested, 0 < occurrences pairs kind) → ¬Answers requested pairs →
      ∃ names, result = .error (.variantUnexpected names region.range.start region.range.stop) ∧
        names.Pairwise (· < ·) ∧
        ∀ name, name ∈ names ↔ ∃ kind, IsSurplus requested pairs kind ∧ kind.name = name) ∧
    ∀ others, others.Perm pairs → assemble source region requested others = result := by
  intro result
  have accepted (record : Record) (made : result = .ok record) : Answers requested pairs := by
    rcases answers_cases requested pairs with answers | lacking | ⟨complete, unanswered⟩
    · exact answers
    · cases made.symm.trans (assemble_lacking source region lacking)
    · cases made.symm.trans (assemble_surplus source region complete unanswered)
  refine ⟨⟨?_, fun answers => ⟨_, assemble_answers source region answers⟩⟩, ?_,
    assemble_lacking source region, ?_, fun others permuted => assemble_perm source region permuted⟩
  · rintro ⟨record, made⟩
    exact accepted record made
  · intro record made
    have answers := accepted record made
    obtain rfl := Except.ok.inj (made.symm.trans (assemble_answers source region answers))
    exact ⟨rfl, rfl, sortVariants_perm pairs, sortVariants_ordered answers.distinct,
      answers.lookups source region⟩
  · intro complete unanswered
    refine ⟨_, assemble_surplus source region complete unanswered,
      sortedNames_ordered (unexpected_nodup requested _), fun name => ?_⟩
    rw [(sortedNames_perm _).mem_iff, List.mem_map]
    simp only [mem_unexpected]

/-- The signature of a region and then its bytes, each with a fingerprint of its own. -/
def Record.samplePairs : List (Variant × Fingerprint) :=
  [(⟨.signature, [0x66], .first 1⟩, ⟨.sha256, [1]⟩),
    (⟨.full, [0x66, 0x3B], .first 2⟩, ⟨.sha256, [2]⟩)]

open Record in
/-- Two variants answer a request that names one of them twice, and are found again in the record.
Made twice over they lack a kind, or are too many, depending on what is requested. -/
theorem assembly_exact_samplePairs :
    let source : Source := ⟨.c, [0x66, 0x3B], none⟩
    let region : Region := ⟨.function, .first 2, none, none, 0, none⟩
    let twice := samplePairs ++ samplePairs
    (∃ record, Answers [.signature, .full, .signature] samplePairs ∧
      assemble source region [.signature, .full, .signature] samplePairs.reverse = .ok record ∧
      record.fingerprint? .full = some ⟨.sha256, [2]⟩ ∧ record.variant? .body = none) ∧
    assemble source region [.body, .full, .body] twice =
      .error (.variantMissing ["body", "body"] 0 2) ∧
    ∃ names, assemble source region [.full] twice = .error (.variantUnexpected names 0 2) ∧
      "full" ∈ names ∧ "signature" ∈ names := by
  intro source region twice
  obtain ⟨accepts, holds, _, _, reordered⟩ :=
    assembly_exact source region [.signature, .full, .signature] samplePairs
  have answers : Answers [.signature, .full, .signature] samplePairs := ⟨by decide, by decide⟩
  obtain ⟨record, made⟩ := accepts.mpr answers
  obtain ⟨_, _, _, _, lookups⟩ := holds record made
  obtain ⟨pair, member, full, _, found⟩ := (lookups .full).1 (by decide)
  obtain rfl : pair = (⟨.full, [0x66, 0x3B], .first 2⟩, ⟨.sha256, [2]⟩) := by
    rcases List.mem_cons.mp member with rfl | behind
    · cases full
    · exact List.mem_singleton.mp behind
  obtain ⟨_, _, lacking, _, _⟩ := assembly_exact source region [.body, .full, .body] twice
  obtain ⟨_, _, _, surplus, _⟩ := assembly_exact source region [.full] twice
  have unanswered : ¬Answers [.full] twice := fun answers =>
    absurd (answers.once .full List.mem_cons_self) (by decide)
  obtain ⟨names, refused, _, named⟩ := surplus (by decide) unanswered
  refine ⟨⟨record, answers, ?_, found, ((lookups .body).2 (by decide)).1⟩,
    lacking ⟨.body, List.mem_cons_self, rfl⟩, names, refused, ?_, ?_⟩
  · exact (reordered _ samplePairs.reverse_perm).trans made
  · exact (named _).mpr ⟨.full, ⟨by decide, .inr (by decide)⟩, rfl⟩
  · exact (named _).mpr ⟨.signature, ⟨by decide, .inl (by decide)⟩, rfl⟩

end CodePrint
