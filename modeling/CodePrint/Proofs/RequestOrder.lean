import CodePrint.Batch
import CodePrint.Proofs.Containment
import CodePrint.Proofs.Delivery
import CodePrint.Proofs.Fields
import CodePrint.Proofs.RecordKinds

/-! # The order of a request

The kinds of a request are put in order when the request is checked, so the order in which they are
listed is lost before anything is rendered, and with it any influence on which failure is met first.
-/

namespace CodePrint

/-! ## Checking a request -/

/-- The fields of a request for kinds, by their names, beside other fields. -/
def requestFields (kinds : List VariantKind) (others : Fields) : Fields :=
  others.put "transforms" (.ofTexts (kinds.map (·.name)))

namespace Check

private theorem member_name (kind : VariantKind) :
    member (VariantKind.all.map (·.name)) VariantKind.ofName? (.text kind.name) = .valid kind := by
  cases kind <;> rfl

private theorem each_names (kinds : List VariantKind) (place : Nat) :
    each (member (VariantKind.all.map (·.name)) VariantKind.ofName?) place
      ((kinds.map (·.name)).map .text) = .valid kinds := by
  rw [List.map_map]
  exact each_written (fun kind _ => member_name kind) place

/-- What the kinds of a request are checked to. -/
theorem transforms_names (kinds : List VariantKind) :
    transforms (.ofTexts (kinds.map (·.name))) =
      if kinds = [] then .halted .noTransforms
      else if kinds.Nodup then .valid (VariantKind.inOrder kinds)
      else .complain (.refused "transform kinds must not repeat")
        (.ofTexts (kinds.map (·.name))) := by
  simp only [transforms, Value.ofTexts, listOf, each_names, Checked.andThen, List.isEmpty_iff]
  split
  · rfl
  · split
    · rename_i distinct
      rw [VariantKind.sort_eq_inOrder distinct]
    · rfl

private theorem field_requested {α : Type} (kinds : List VariantKind) (others : Fields)
    (check : Check α) (default : α) :
    field (requestFields kinds others) "transforms" check default =
      (check (.ofTexts (kinds.map (·.name)))).under (.field "transforms") := by
  rw [field, requestFields, Fields.get_put_self]

private theorem field_beside {α : Type} (kinds : List VariantKind) (others : Fields) {name : String}
    (different : Scalar.sameKey "transforms" name = false) (check : Check α) (default : α) :
    field (requestFields kinds others) name check default = field others name check default := by
  rw [field, field, requestFields, Fields.get_put_of_ne different]

/-- The fields of the options beside the kinds. -/
def besideKinds (fields : Fields) :
    Checked (HashAlgorithm × HashBackend × Bool × RegionErrorPolicy) :=
  let defaults : Options := {}
  let algorithm :=
    field fields "hash_algorithm" (member (HashAlgorithm.all.map (·.name)) HashAlgorithm.ofName?)
      defaults.algorithm
  let backend :=
    field fields "hash_backend" (member (HashBackend.all.map (·.name)) HashBackend.ofName?)
      defaults.backend
  let allowErrors := field fields "allow_partial_parse" bool defaults.allowErrors
  let policy :=
    field fields "on_region_error"
      (member (RegionErrorPolicy.all.map (·.name)) RegionErrorPolicy.ofName?) defaults.policy
  algorithm.join (backend.join (allowErrors.join policy))

private theorem options_eq (fields : Fields) :
    options fields =
      ((field fields "transforms" transforms ({} : Options).transforms).join
        (besideKinds fields)).map fun (kinds, algorithm, backend, allowErrors, policy) =>
          ⟨kinds, algorithm, backend, allowErrors, policy⟩ :=
  rfl

private theorem besideKinds_request (kinds : List VariantKind) (others : Fields) :
    besideKinds (requestFields kinds others) = besideKinds others := by
  simp only [besideKinds]
  rw [field_beside kinds others (by decide), field_beside kinds others (by decide),
    field_beside kinds others (by decide), field_beside kinds others (by decide)]

/-- A request for distinct kinds is accepted where its other fields are, and its kinds are put in
order. -/
theorem options_request {kinds : List VariantKind} (inhabited : kinds ≠ []) (distinct : kinds.Nodup)
    {others : Fields} {options : Options} (accepted : Check.options others = .valid options) :
    Check.options (requestFields kinds others) =
      .valid { options with transforms := VariantKind.inOrder kinds } := by
  rw [options_eq] at accepted ⊢
  obtain ⟨given, joined, rfl⟩ := Checked.map_eq_valid.mp accepted
  obtain ⟨_, beside⟩ := Checked.join_eq_valid.mp joined
  rw [field_requested, transforms_names, if_neg inhabited, if_pos distinct, besideKinds_request,
    beside]
  rfl

/-- A request without kinds is refused before anything else in it is. -/
theorem options_request_nil (others : Fields) :
    Check.options (requestFields [] others) = .halted .noTransforms := by
  rw [options_eq, field_requested, transforms_names, if_pos rfl]
  rfl

end Check

namespace Checked

variable {α β : Type}

/-- Whether a check comes to an end without being halted. -/
def Ends (checked : Checked α) : Prop :=
  ∀ cause, checked ≠ .halted cause

private theorem Ends.join {left : Checked α} {right : Checked β} (leftEnds : left.Ends)
    (rightEnds : right.Ends) : (left.join right).Ends := by
  cases left with
  | halted cause => exact absurd rfl (leftEnds cause)
  | valid value =>
      cases right with
      | halted cause => exact absurd rfl (rightEnds cause)
      | valid other => exact nofun
      | invalid first others => exact nofun
  | invalid first others =>
      cases right with
      | halted cause => exact absurd rfl (rightEnds cause)
      | valid other => exact nofun
      | invalid next later => exact nofun

private theorem Ends.under {checked : Checked α} (ends : checked.Ends) (step : LocationStep) :
    (checked.under step).Ends := by
  cases checked with
  | halted cause => exact absurd rfl (ends cause)
  | valid value => exact nofun
  | invalid first others => exact nofun

private theorem join_invalid {first : Issue} {others : List Issue} {right : Checked β}
    (ends : right.Ends) :
    ∃ more, (Checked.invalid first others : Checked α).join right = .invalid first more := by
  cases right with
  | halted cause => exact absurd rfl (ends cause)
  | valid value => exact ⟨others, rfl⟩
  | invalid next later => exact ⟨others ++ next :: later, rfl⟩

end Checked

namespace Check

private theorem field_ends {α : Type} {fields : Fields} {name : String} {check : Check α}
    {default : α} (ends : ∀ value, (check value).Ends) :
    (field fields name check default).Ends := by
  unfold field
  split
  · exact (ends _).under _
  · exact nofun

private theorem member_ends {α : Type} (choices : List String) (ofName? : String → Option α)
    (value : Value) : (member choices ofName? value).Ends := by
  unfold member named
  split
  · split <;> exact nofun
  · exact nofun

private theorem bool_ends (value : Value) : (bool value).Ends := by
  unfold bool
  repeat' split
  all_goals exact nofun

private theorem besideKinds_ends (fields : Fields) : (besideKinds fields).Ends :=
  (field_ends (member_ends _ _)).join <| (field_ends (member_ends _ _)).join <|
    (field_ends bool_ends).join (field_ends (member_ends _ _))

/-- A request that repeats a kind is refused for that first, whatever else is wrong with it. -/
theorem options_request_repeated {kinds : List VariantKind} (repeated : ¬kinds.Nodup)
    (others : Fields) :
    ∃ more, Check.options (requestFields kinds others) =
      .invalid ⟨[.field "transforms"], .refused "transform kinds must not repeat",
        .ofTexts (kinds.map (·.name))⟩ more := by
  have inhabited : kinds ≠ [] := by
    rintro rfl
    exact repeated List.nodup_nil
  rw [options_eq, field_requested, transforms_names, if_neg inhabited, if_neg repeated]
  obtain ⟨more, joined⟩ := @Checked.join_invalid (List VariantKind) _ ⟨[.field "transforms"],
    .refused "transform kinds must not repeat", .ofTexts (kinds.map (·.name))⟩ []
    _ (besideKinds_ends (requestFields kinds others))
  exact ⟨more, congrArg (Checked.map _) joined⟩

end Check

/-- In whatever order distinct kinds are listed, a request for them is accepted where its other
fields are, and it has the same outcome, errors included. Every record that is delivered, however
the stream is asked, is complete. A request without kinds is refused at once, and so is one that
repeats a kind, by an issue with its kinds. -/
theorem request_order_irrelevant (others : Fields) :
    (∀ kinds kinds' : List VariantKind, kinds ≠ [] → kinds.Nodup → kinds'.Perm kinds →
      ∀ options, Check.options others = .valid options →
        ∃ checked checked', Check.options (requestFields kinds others) = .valid checked ∧
          Check.options (requestFields kinds' others) = .valid checked' ∧
          (∀ session document registry scanId,
            Session.extractWhole session document checked' registry scanId =
              Session.extractWhole session document checked registry scanId) ∧
          ∀ session document registry scanId stream,
            (Session.extract session document checked registry scanId).1 = .ok stream →
            ∀ requests, ∀ record ∈ stream.delivered requests,
              record.Complete kinds options.algorithm) ∧
    Check.options (requestFields [] others) = .halted .noTransforms ∧
    ∀ kinds : List VariantKind, ¬kinds.Nodup →
      ∃ more, Check.options (requestFields kinds others) =
        .invalid ⟨[.field "transforms"], .refused "transform kinds must not repeat",
          .ofTexts (kinds.map (·.name))⟩ more := by
  refine ⟨fun kinds kinds' inhabited distinct permuted options accepted => ?_,
    Check.options_request_nil others,
    fun kinds repeated => Check.options_request_repeated repeated others⟩
  have inhabited' : kinds' ≠ [] := by
    rintro rfl
    exact inhabited permuted.nil_eq.symm
  have accepted' := Check.options_request inhabited' (permuted.nodup_iff.mpr distinct) accepted
  rw [VariantKind.inOrder_congr fun _ => permuted.mem_iff] at accepted'
  have accepted := Check.options_request inhabited distinct accepted
  refine ⟨_, _, accepted, accepted', fun _ _ _ _ => rfl, ?_⟩
  intro session document registry scanId stream extracted requests record delivered
  obtain ⟨id, rfl⟩ := Session.extract_eq_ok extracted
  obtain ⟨tree, region, _, _, made⟩ :=
    Stream.drain_record rfl ((Stream.delivered_first _ requests).subset delivered)
  have complete := Region.record_complete (VariantKind.inOrder_inOrder kinds) made
  exact ⟨complete.ordered.trans (VariantKind.inOrder_inOrder kinds), complete.once,
    complete.digests⟩

/-- The tree of the function whose body is one character in two tokens. -/
def SyntaxTree.sampleCut : SyntaxTree :=
  Document.sampleCut.tree.toOption.get rfl

/-- The region of that function. -/
def Region.sampleCut : Region where
  kind := .function
  range := ⟨0, 5, by decide⟩
  signature := some ⟨0, 3, by decide⟩
  body := some ⟨3, 5, by decide⟩

private theorem SyntaxTree.sampleCut_locate :
    SyntaxTree.sampleCut.locate Language.c.profile = [.ok .sampleCut] := by
  have found : SyntaxTree.sampleCut.findings Language.c.profile =
    [⟨Region.sampleCut.sortKey, .located .sampleCut⟩] := rfl
  exact locate_single found

/-- The function has a record if the requested kinds can be rendered. -/
theorem Document.sampleCut_drain {options : Options} {id : String} {variants : List Variant}
    (ordered : VariantKind.inOrder options.transforms = options.transforms)
    (rendered : Region.sampleCut.renderAll .sampleCut options.transforms = .ok variants) :
    ∃ record, (Stream.mk .sampleCut Document.sampleCut.source.language.profile options id
      .unopened).drain.1 = ⟨[record], none⟩ := by
  let stream := Stream.mk .sampleCut Document.sampleCut.source.language.profile options id .unopened
  obtain ⟨record, settled⟩ : ∃ record,
      stream.settle .sampleCut (.ok .sampleCut) = .ok record :=
    ⟨_, (Region.record_eq_ok_iff ordered).mpr ⟨variants, rendered, rfl⟩⟩
  have inhabited : Document.sampleCut.source.content ≠ [] := by decide
  have parsed : Document.sampleCut.parse options.allowErrors = .ok .sampleCut := by
    cases options.allowErrors <;> rfl
  refine ⟨record, ?_⟩
  rw [@Stream.drain_parsed stream rfl inhabited _ parsed]
  change Outcome.under ((SyntaxTree.sampleCut.locate Language.c.profile).map _) _ = _
  rw [SyntaxTree.sampleCut_locate, List.map_cons, settled, List.map_nil, Outcome.under_ok,
    Outcome.under_nil]
  rfl

/-- Two kinds requested in either order are checked to one request with one outcome, and the record
that is delivered is complete for both. -/
theorem request_order_irrelevant_sampleCut :
    ∃ (checked checked' : Options) (stream : Stream) (record : Record),
      Check.options (requestFields [.commentStripped, .full]
        [("hash_algorithm", .text "sha_512")]) = .valid checked ∧
      Check.options (requestFields [.full, .commentStripped]
        [("hash_algorithm", .text "sha_512")]) = .valid checked' ∧
      Session.sample.extractWhole .sampleCut checked' none none =
        Session.sample.extractWhole .sampleCut checked none none ∧
      (Session.sample.extract .sampleCut checked none none).1 = .ok stream ∧
      record ∈ stream.delivered [.drain] ∧ record.Complete [.commentStripped, .full] .sha512 := by
  let options : Options := { algorithm := .sha512, transforms := [.full, .commentStripped] }
  have accepted : Check.options [("hash_algorithm", .text "sha_512")] =
      .valid { algorithm := .sha512 } := rfl
  obtain ⟨checked, checked', valid, valid', same, complete⟩ :=
    (request_order_irrelevant [("hash_algorithm", .text "sha_512")]).1 [.commentStripped, .full]
      [.full, .commentStripped] (by decide) (by decide) (List.Perm.swap _ _ _) _ accepted
  have ordered : checked = options :=
    Checked.valid.inj (valid.symm.trans (Check.options_request (by decide) (by decide) accepted))
  subst ordered
  obtain ⟨stream, extracted⟩ : ∃ stream,
    (Session.sample.extract .sampleCut options none none).1 = .ok stream := ⟨_, rfl⟩
  obtain ⟨record, delivered⟩ : ∃ record, record ∈ stream.delivered [.drain] := by
    obtain ⟨id, rfl⟩ := Session.extract_eq_ok extracted
    obtain ⟨record, drained⟩ := @Document.sampleCut_drain options id _ (by decide) rfl
    refine ⟨record, ?_⟩
    refine List.mem_append_left _ ?_
    change record ∈ Outcome.records (Stream.drain _).1
    rw [drained]
    exact List.mem_singleton_self record
  exact ⟨options, checked', stream, record, valid, valid', same _ _ _ _, extracted, delivered,
    complete _ _ _ _ stream extracted [.drain] _ delivered⟩

end CodePrint
