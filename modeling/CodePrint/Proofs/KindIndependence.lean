import CodePrint.Proofs.RequestOrder

/-! # Adding kinds to a request

A region has a record exactly if all requested kinds can be rendered, so a request for more kinds
has records of fewer regions. What a kind is rendered to does not depend on the others, so a region
with a record under both requests has the same variants and fingerprints of the kinds they share.
-/

namespace CodePrint

namespace Region

variable {region : Region} {tree : SyntaxTree} {source : Source} {options : Options}

/-- All kinds of a list can be rendered exactly when each of them can. -/
theorem renderAll_isOk_iff {kinds : List VariantKind} :
    (∃ variants, region.renderAll tree kinds = .ok variants) ↔
      ∀ kind ∈ kinds, ∃ variant, region.render tree kind = .ok variant := by
  simp only [renderAll_eq_ok_iff]
  induction kinds with
  | nil => simp
  | cons kind rest ih =>
      simp only [List.forall₂_cons_left_iff, List.forall_mem_cons, ← ih]
      constructor
      · rintro ⟨_, variant, later, first, others, rfl⟩
        exact ⟨⟨variant, first⟩, later, others⟩
      · rintro ⟨⟨variant, first⟩, later, others⟩
        exact ⟨_, variant, later, first, others, rfl⟩

/-- The record of a region has, for each requested kind, what that kind is rendered to. -/
theorem record_pair (ordered : VariantKind.inOrder options.transforms = options.transforms)
    {record : Record} (made : region.record tree source options = .ok record) {kind : VariantKind}
    (requested : kind ∈ options.transforms) :
    ∃ variant, region.render tree kind = .ok variant ∧
      record.pair? kind = some (variant.fingerprinted options.algorithm) := by
  obtain ⟨variants, rendered, rfl⟩ := (record_eq_ok_iff ordered).mp made
  rw [Record.pair?]
  dsimp only
  rw [renderAll_eq_ok_iff] at rendered
  clear made ordered
  generalize options.transforms = kinds at *
  induction rendered with
  | nil => exact absurd requested List.not_mem_nil
  | @cons first variant rest later renderedFirst _ ih =>
      have named := render_kind renderedFirst
      by_cases same : first = kind
      · subst same
        refine ⟨variant, renderedFirst, ?_⟩
        rw [List.map_cons, List.find?_cons_of_pos]
        simpa [Variant.fingerprinted] using named
      · have behind : kind ∈ rest := (List.mem_cons.mp requested).resolve_left (Ne.symm same)
        obtain ⟨found, renderedKind, pair⟩ := ih behind
        refine ⟨found, renderedKind, ?_⟩
        rw [List.map_cons, List.find?_cons_of_neg]
        · exact pair
        · simpa [Variant.fingerprinted, named] using same

private theorem record_region
    (ordered : VariantKind.inOrder options.transforms = options.transforms) {record : Record}
    (made : region.record tree source options = .ok record) :
    record.region = region := by
  obtain ⟨_, _, rfl⟩ := (record_eq_ok_iff ordered).mp made
  rfl

/-- A region with a record of many kinds has one of fewer kinds. -/
theorem record_of_subset {few many : List VariantKind} (ordered : VariantKind.inOrder few = few)
    (ordered' : VariantKind.inOrder many = many) (fewer : few ⊆ many) {record : Record}
    (made : region.record tree source { options with transforms := many } = .ok record) :
    ∃ lesser, region.record tree source { options with transforms := few } = .ok lesser ∧
      lesser.region = record.region := by
  have same := record_region ordered' made
  obtain ⟨variants, rendered, _⟩ := (record_eq_ok_iff ordered').mp made
  have all := renderAll_isOk_iff.mp ⟨variants, rendered⟩
  obtain ⟨chosen, renderedFew⟩ := renderAll_isOk_iff.mpr fun kind member => all kind (fewer member)
  exact ⟨_, (record_eq_ok_iff ordered).mpr ⟨chosen, renderedFew, rfl⟩, same.symm⟩

end Region

namespace Outcome

/-- The regions that have a record, in order. -/
def regions (outcome : Outcome) : List Region :=
  outcome.records.map Record.region

/-- Where the second result is a record, the first is a record of the same region. -/
def Covers (first second : Except ScanError Record) : Prop :=
  ∀ record, second = .ok record → ∃ lesser, first = .ok lesser ∧ lesser.region = record.region

variable {results results' : List (Except ScanError Record)}

/-- Under skip, results that fail more often lose regions and change none. -/
theorem under_skip_sublist (covered : List.Forall₂ Covers results results') :
    (under results' .skip).regions.Sublist (under results .skip).regions := by
  induction covered with
  | nil => exact .slnil
  | @cons result result' _ _ covers _ ih =>
      cases result' with
      | ok record =>
          obtain ⟨lesser, rfl, same⟩ := covers record rfl
          simp only [under_ok, regions, prepend, List.map_cons, same]
          exact ih.cons_cons _
      | error error =>
          cases result with
          | ok lesser => exact ih.cons _
          | error error' => exact ih

/-- Under abort, results that fail more often stop earlier. -/
theorem under_abort_prefix (covered : List.Forall₂ Covers results results') :
    (under results' .abort).regions <+: (under results .abort).regions := by
  induction covered with
  | nil => exact List.nil_prefix
  | @cons result result' _ _ covers _ ih =>
      cases result' with
      | ok record =>
          obtain ⟨lesser, rfl, same⟩ := covers record rfl
          simp only [under_ok, regions, prepend, List.map_cons, same]
          exact (List.prefix_cons_inj _).mpr ih
      | error error => exact List.nil_prefix

end Outcome

namespace Stream

variable {document : Document} {profile : Profile} {options : Options} {id id' : String}
  {few many : List VariantKind}

/-- Item by item, a stream of fewer kinds has a record where one of more kinds has. -/
theorem settle_covers (ordered : VariantKind.inOrder few = few)
    (ordered' : VariantKind.inOrder many = many) (fewer : few ⊆ many) (tree : SyntaxTree)
    (item : LocatedItem) :
    Outcome.Covers
      ((Stream.mk document profile { options with transforms := few } id .unopened).settle tree
        item)
      ((Stream.mk document profile { options with transforms := many } id' .unopened).settle tree
        item) := by
  intro record settled
  obtain ⟨region, located, made⟩ := bind_eq_ok.mp settled
  obtain ⟨lesser, madeFew, same⟩ := Region.record_of_subset ordered ordered' fewer made
  exact ⟨lesser, bind_eq_ok.mpr ⟨region, located, madeFew⟩, same⟩

/-- Two drains are empty, or they come from results that cover one another. -/
theorem drain_covers (ordered : VariantKind.inOrder few = few)
    (ordered' : VariantKind.inOrder many = many) (fewer : few ⊆ many) :
    ∃ results results', List.Forall₂ Outcome.Covers results results' ∧
      (Stream.mk document profile { options with transforms := few } id .unopened).drain.1.records =
        (Outcome.under results options.policy).records ∧
      (Stream.mk document profile { options with transforms := many } id'
        .unopened).drain.1.records = (Outcome.under results' options.policy).records := by
  by_cases empty : document.source.content = []
  · refine ⟨[], [], .nil, ?_, ?_⟩
    · rw [drain_empty rfl empty, Outcome.under_nil]
    · rw [drain_empty rfl empty, Outcome.under_nil]
  · cases parsed : document.parse options.allowErrors with
    | error error =>
        refine ⟨[], [], .nil, ?_, ?_⟩
        · rw [drain_unparsed rfl empty parsed, Outcome.under_nil]
        · rw [drain_unparsed rfl empty parsed, Outcome.under_nil]
    | ok tree =>
        refine ⟨_, _, ?_, congrArg _ (drain_parsed rfl empty parsed),
          congrArg _ (drain_parsed rfl empty parsed)⟩
        rw [List.forall₂_map_left_iff, List.forall₂_map_right_iff, List.forall₂_same]
        exact fun item _ => settle_covers ordered ordered' fewer tree item

end Stream

/-- Of two requests for a document that differ only in the kinds, the one for more kinds is accepted
where the other is. If failing regions are left out, its regions with a record are some of the
other's, in their order; if a failing region ends the stream, they are the first of them. A region
with a record of both has the same variant and fingerprint of each kind that both ask for. -/
theorem added_kinds_keep_fingerprints {fields fields' : Fields} {options : Options}
    {few many : List VariantKind}
    (validated : Check.options fields = .valid { options with transforms := few })
    (validated' : Check.options fields' = .valid { options with transforms := many })
    (fewer : few ⊆ many) {session : Session} {document : Document} {registry : Option Registry}
    {scanId : Option String} {narrow : Stream}
    (extracted : (session.extract document { options with transforms := few } registry scanId).1 =
      .ok narrow) :
    (∃ wide, (session.extract document { options with transforms := many } registry scanId).1 =
      .ok wide) ∧
    ∀ session' registry' scanId' wide,
      (Session.extract session' document { options with transforms := many } registry' scanId').1 =
        .ok wide →
      (options.policy = .skip → wide.drain.1.regions.Sublist narrow.drain.1.regions) ∧
      (options.policy = .abort → wide.drain.1.regions <+: narrow.drain.1.regions) ∧
      ∀ record ∈ narrow.drain.1.records, ∀ record' ∈ wide.drain.1.records,
        record'.region = record.region → ∀ kind ∈ few, ∃ variant fingerprint,
          record.pair? kind = some (variant, fingerprint) ∧
          record'.pair? kind = some (variant, fingerprint) := by
  obtain ⟨_, ordered⟩ := Check.options_inOrder validated
  obtain ⟨inhabited', ordered'⟩ := Check.options_inOrder validated'
  refine ⟨⟨_, Session.extract_withOptions extracted inhabited' rfl⟩, ?_⟩
  intro session' registry' scanId' wide extracted'
  obtain ⟨id, rfl⟩ := Session.extract_eq_ok extracted
  obtain ⟨id', rfl⟩ := Session.extract_eq_ok extracted'
  obtain ⟨results, results', covered, drained, drained'⟩ :=
    @Stream.drain_covers document document.source.language.profile options id id' _ _ ordered
      ordered' fewer
  refine ⟨fun skips => ?_, fun aborts => ?_, ?_⟩
  · rw [Outcome.regions, Outcome.regions, drained, drained', skips]
    exact Outcome.under_skip_sublist covered
  · rw [Outcome.regions, Outcome.regions, drained, drained', aborts]
    exact Outcome.under_abort_prefix covered
  · intro record member record' member' same kind requested
    obtain ⟨tree, region, parsed, _, made⟩ := Stream.drain_record rfl member
    obtain ⟨tree', region', parsed', _, made'⟩ := Stream.drain_record rfl member'
    have sameTree : tree' = tree := Except.ok.inj (parsed'.symm.trans parsed)
    have sameRegion : region' = region := by
      rw [← Region.record_region ordered made, ← Region.record_region ordered' made', same]
    subst sameTree sameRegion
    obtain ⟨variant, rendered, pair⟩ := Region.record_pair ordered made requested
    obtain ⟨variant', rendered', pair'⟩ := Region.record_pair ordered' made' (fewer requested)
    have sameVariant : variant' = variant := Except.ok.inj (rendered'.symm.trans rendered)
    subst sameVariant
    exact ⟨_, _, pair, pair'⟩

/-- Two functions, the first with a body that is one character of two bytes in two tokens. -/
def Document.sampleHalfCut : Document where
  source := ⟨.c, Utf8.encodeString "f()ég()x", none⟩
  parsed := some (.node ⟨"translation_unit", none, 0, 9, 0, 0, true, false⟩
    [.node ⟨"function_definition", none, 0, 5, 0, 0, true, false⟩
        [.node ⟨"function_declarator", some "declarator", 0, 3, 0, 0, true, false⟩
            [.node ⟨"parameter_list", some "parameters", 1, 3, 0, 1, true, false⟩ []],
          .node ⟨"compound_statement", some "body", 3, 5, 0, 3, true, false⟩
            [.node ⟨"name", none, 3, 4, 0, 3, true, false⟩ [],
              .node ⟨"name", none, 4, 5, 0, 4, true, false⟩ []]],
      .node ⟨"function_definition", none, 5, 9, 0, 5, true, false⟩
        [.node ⟨"function_declarator", some "declarator", 5, 8, 0, 5, true, false⟩
            [.node ⟨"parameter_list", some "parameters", 6, 8, 0, 6, true, false⟩ []],
          .node ⟨"compound_statement", some "body", 8, 9, 0, 8, true, false⟩ []]])

/-- The region of the second function. -/
def Region.sampleUncut : Region where
  kind := .function
  range := ⟨5, 9, by decide⟩
  signature := some ⟨5, 8, by decide⟩
  body := some ⟨8, 9, by decide⟩

def SyntaxTree.sampleHalfCut : SyntaxTree :=
  Document.sampleHalfCut.tree.toOption.get rfl

private theorem SyntaxTree.sampleHalfCut_locate :
    SyntaxTree.sampleHalfCut.locate Language.c.profile =
      [.ok .sampleCut, .ok .sampleUncut] := by
  have found : SyntaxTree.sampleHalfCut.findings Language.c.profile =
      [⟨Region.sampleCut.sortKey, .located .sampleCut⟩,
        ⟨Region.sampleUncut.sortKey, .located .sampleUncut⟩] := rfl
  unfold SyntaxTree.locate
  rw [found, List.mergeSort_of_pairwise (by decide)]
  rfl

section

variable (id : String)

private theorem Document.sampleHalfCut_drain (options : Options) (policy : options.policy = .skip) :
    (Stream.mk .sampleHalfCut Document.sampleHalfCut.source.language.profile options id
      .unopened).drain.1.records =
      [Region.sampleCut, Region.sampleUncut].filterMap fun region =>
        (region.record .sampleHalfCut Document.sampleHalfCut.source options).toOption := by
  have inhabited : Document.sampleHalfCut.source.content ≠ [] := by decide
  have parsed : Document.sampleHalfCut.parse options.allowErrors = .ok .sampleHalfCut := by
    cases options.allowErrors <;> rfl
  rw [@Stream.drain_parsed (.mk .sampleHalfCut _ options id .unopened) rfl inhabited _ parsed]
  change (Outcome.under ((SyntaxTree.sampleHalfCut.locate Language.c.profile).map _)
    options.policy).records = _
  rw [SyntaxTree.sampleHalfCut_locate, policy]
  rfl

/-- Both functions have a record of their full text. -/
theorem Document.sampleHalfCut_full :
    ∃ first second, (Stream.mk .sampleHalfCut Document.sampleHalfCut.source.language.profile
        { transforms := [.full], policy := .skip } id .unopened).drain.1.records =
          [first, second] ∧
      first.region = .sampleCut ∧ second.region = .sampleUncut := by
  let options : Options := { transforms := [.full], policy := .skip }
  have ordered : VariantKind.inOrder options.transforms = options.transforms := by decide
  obtain ⟨first, madeFirst⟩ : ∃ first,
    Region.sampleCut.record .sampleHalfCut Document.sampleHalfCut.source options = .ok first :=
      ⟨_, (Region.record_eq_ok_iff ordered).mpr ⟨_, rfl, rfl⟩⟩
  obtain ⟨second, madeSecond⟩ : ∃ second,
    Region.sampleUncut.record .sampleHalfCut Document.sampleHalfCut.source options = .ok second :=
      ⟨_, (Region.record_eq_ok_iff ordered).mpr ⟨_, rfl, rfl⟩⟩
  refine ⟨first, second, ?_, Region.record_region ordered madeFirst,
    Region.record_region ordered madeSecond⟩
  rw [Document.sampleHalfCut_drain id options rfl]
  simp only [List.filterMap_cons, madeFirst, madeSecond, Except.toOption, List.filterMap_nil]

/-- The first function has no record with its body, whose tokens cannot be read. -/
theorem Document.sampleHalfCut_body :
    ∃ second, (Stream.mk .sampleHalfCut Document.sampleHalfCut.source.language.profile
        { transforms := [.full, .body], policy := .skip } id .unopened).drain.1.records =
          [second] ∧
      second.region = .sampleUncut := by
  let options : Options := { transforms := [.full, .body], policy := .skip }
  have ordered : VariantKind.inOrder options.transforms = options.transforms := by decide
  obtain ⟨error, failed⟩ : ∃ error,
    Region.sampleCut.record .sampleHalfCut Document.sampleHalfCut.source options = .error error :=
      ⟨_, rfl⟩
  obtain ⟨second, made⟩ : ∃ second,
    Region.sampleUncut.record .sampleHalfCut Document.sampleHalfCut.source options = .ok second :=
      ⟨_, (Region.record_eq_ok_iff ordered).mpr ⟨_, rfl, rfl⟩⟩
  refine ⟨second, ?_, Region.record_region ordered made⟩
  rw [Document.sampleHalfCut_drain id options rfl]
  simp only [List.filterMap_cons, failed, made, Except.toOption, List.filterMap_nil]

end

/-- Asking for the body too loses the function whose body cannot be read. The other function keeps
its variant and its fingerprint. -/
theorem added_kinds_keep_fingerprints_sampleHalfCut :
    let narrowed : Options := { transforms := [.full], policy := .skip }
    let widened : Options := { transforms := [.full, .body], policy := .skip }
    ∃ narrow wide record record' variant fingerprint,
      Check.options (requestFields [.full] [("on_region_error", .text "skip")]) =
        .valid narrowed ∧
      Check.options (requestFields [.full, .body] [("on_region_error", .text "skip")]) =
        .valid widened ∧
      (Session.sample.extract .sampleHalfCut narrowed none none).1 = .ok narrow ∧
      (Session.sample.extract .sampleHalfCut widened none none).1 = .ok wide ∧
      narrow.drain.1.regions = [.sampleCut, .sampleUncut] ∧
      wide.drain.1.regions = [.sampleUncut] ∧
      wide.drain.1.regions.Sublist narrow.drain.1.regions ∧
      record ∈ narrow.drain.1.records ∧ record' ∈ wide.drain.1.records ∧
      record'.region = record.region ∧ record.pair? .full = some (variant, fingerprint) ∧
      record'.pair? .full = some (variant, fingerprint) := by
  intro narrowed widened
  have accepted : Check.options [("on_region_error", .text "skip")] =
    .valid { policy := .skip } := rfl
  have validated := @Check.options_request [.full] (by decide) (by decide) _ _ accepted
  have validated' := @Check.options_request [.full, .body] (by decide) (by decide) _ _ accepted
  obtain ⟨narrow, extracted⟩ : ∃ narrow,
    (Session.sample.extract .sampleHalfCut narrowed none none).1 = .ok narrow := ⟨_, rfl⟩
  obtain ⟨wide, extracted'⟩ : ∃ wide,
    (Session.sample.extract .sampleHalfCut widened none none).1 = .ok wide := ⟨_, rfl⟩
  obtain ⟨_, compared⟩ := @added_kinds_keep_fingerprints _ _ { policy := .skip } _ _ validated
    validated' (by decide) _ _ _ _ _ extracted
  obtain ⟨part, _, alike⟩ := compared _ _ _ _ extracted'
  obtain ⟨first, record, drained, cut, uncut⟩ : ∃ first record,
      narrow.drain.1.records = [first, record] ∧ first.region = .sampleCut ∧
        record.region = .sampleUncut := by
    obtain ⟨id, rfl⟩ := Session.extract_eq_ok extracted
    exact Document.sampleHalfCut_full id
  obtain ⟨record', drained', uncut'⟩ : ∃ record',
      wide.drain.1.records = [record'] ∧ record'.region = .sampleUncut := by
    obtain ⟨id, rfl⟩ := Session.extract_eq_ok extracted'
    exact Document.sampleHalfCut_body id
  have member : record ∈ narrow.drain.1.records := by simp [drained]
  have member' : record' ∈ wide.drain.1.records := by simp [drained']
  have same := uncut'.trans uncut.symm
  obtain ⟨variant, fingerprint, pair, pair'⟩ :=
    alike record member record' member' same .full (by decide)
  refine ⟨narrow, wide, record, record', variant, fingerprint, validated, validated', extracted,
    extracted', ?_, ?_, part rfl, member, member', same, pair, pair'⟩
  · simp [Outcome.regions, drained, cut, uncut]
  · simp [Outcome.regions, drained', uncut']

end CodePrint
