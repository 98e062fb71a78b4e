import CodePrint.Proofs.Alike
import CodePrint.Proofs.Fields
import CodePrint.Settings.Load

/-! # Settings decided above the settings file

The caller, and after the caller the environment, decide a setting against the settings file. Once
one of them gives a value that is no mapping, what the file has for the setting is of no account,
with one exception: an extraction section of the file that names its transforms but gives none is
refused before the environment is asked.
-/

namespace CodePrint

/-! ## Checks read fields by name -/

/-- Two values that no check of a section tells apart: they are the same, or mappings that hold the
same under every name. -/
inductive Value.SameFields : Option Value → Option Value → Prop
  | refl (value : Option Value) : SameFields value value
  | mapping {fields fields' : Fields} (same : ∀ name, fields.get? name = fields'.get? name) :
      SameFields (some (.mapping fields)) (some (.mapping fields'))

namespace Check

variable {fields fields' : Fields}

private theorem logSettings_congr (homes : Homes)
    (same : ∀ name, fields.get? name = fields'.get? name) :
    logSettings homes fields = logSettings homes fields' := by
  unfold logSettings field
  simp only [same]

private theorem options_congr (same : ∀ name, fields.get? name = fields'.get? name) :
    options fields = options fields' := by
  unfold options field
  simp only [same]

private theorem field_section {α : Type} {name label : String} {check : Fields → Checked α}
    (reads : ∀ {given given' : Fields}, (∀ key, given.get? key = given'.get? key) →
      check given = check given')
    (alike : Value.SameFields (fields.get? name) (fields'.get? name)) (default : α) :
    field fields name (sectionOf label check) default =
      field fields' name (sectionOf label check) default := by
  unfold field
  generalize fields.get? name = value at alike ⊢
  generalize fields'.get? name = value' at alike ⊢
  cases alike with
  | refl => rfl
  | mapping same => exact congrArg (Checked.under _) (reads same)

/-- The checks of settings read fields by lookup alone. -/
theorem settings_congr (homes : Homes)
    (logging : Value.SameFields (fields.get? "logging") (fields'.get? "logging"))
    (extraction : Value.SameFields (fields.get? "extraction") (fields'.get? "extraction"))
    (languages : fields.get? "languages" = fields'.get? "languages") :
    settings homes fields = settings homes fields' := by
  unfold settings
  rw [field_section (logSettings_congr homes) logging, field_section options_congr extraction]
  unfold field
  rw [languages]

end Check

/-! ## Names that are no setting -/

private theorem Fields.sameKey_text {key : Scalar} {name : String} :
    key.sameKey (.text name) = true ↔ key = .text name := by
  rw [sameKey_iff]
  constructor
  · intro same
    cases key with
    | text other => exact same
    | float x =>
        rw [Scalar.standard] at same
        split at same <;> cases same
    | _ => cases same
  · rintro rfl
    rfl

namespace Fields

private theorem named_cons_text (name : String) (value : Value) (rest : Fields) :
    named? ((.text name, value) :: rest) = (named? rest).map ((name, value) :: ·) := by
  rw [named?, List.mapM_cons]
  change (named? rest).bind (fun later => some ((name, value) :: later)) = _
  cases named? rest <;> rfl

private theorem named_cons_other {key : Scalar} (unnamed : ∀ name, key ≠ .text name) (value : Value)
    (rest : Fields) : named? ((key, value) :: rest) = none := by
  unfold named?
  rw [List.mapM_cons]
  cases key with
  | text name => exact absurd rfl (unnamed name)
  | _ => rfl

end Fields

/-- The fields whose names are no setting. -/
def unknownSettings (named : List (String × Value)) : List (String × Value) :=
  named.filter fun field => !settingNames.contains field.1

private theorem unknownSettings_cons (name : String) (value : Value)
    (rest : List (String × Value)) : unknownSettings ((name, value) :: rest) =
      (if settingNames.contains name then [] else [(name, value)]) ++ unknownSettings rest := by
  unfold unknownSettings
  cases known : settingNames.contains name with
  | true => exact List.filter_cons_of_neg (by simp only [known]; decide)
  | false => exact List.filter_cons_of_pos (by simp only [known]; decide)

private theorem Check.knownOnly_congr {named named' : List (String × Value)}
    (same : unknownSettings named = unknownSettings named') :
    knownOnly named = knownOnly named' := by
  unfold knownOnly
  change (named.filter _) = named'.filter _ at same
  rw [same]

/-- The names that are no setting are found without the fields of a setting. -/
theorem Fields.named_unknown {name : String} (known : settingNames.contains name = true)
    (fields : Fields) :
    fields.named?.map unknownSettings = (fields.erase name).named?.map unknownSettings := by
  induction fields with
  | nil => rfl
  | cons field rest ih =>
      obtain ⟨key, value⟩ := field
      have added (other : String) (later : Option (List (String × Value))) :
          (later.map ((other, value) :: ·)).map unknownSettings =
            (later.map unknownSettings).map
              ((if settingNames.contains other then [] else [(other, value)]) ++ ·) := by
        rw [Option.map_map, Option.map_map]
        exact congrArg (later.map ·) (funext fun named => unknownSettings_cons other value named)
      by_cases same : key = .text name
      · subst same
        rw [named_cons_text, erase_cons_same (sameKey_text.mpr rfl), ← ih, added, if_pos known]
        exact Option.map_id'
      · have kept : key.sameKey (.text name) = false :=
          Bool.eq_false_iff.mpr fun found => same (sameKey_text.mp found)
        rw [erase_cons_other kept]
        cases key with
        | text other => rw [named_cons_text, named_cons_text, added, added, ih]
        | _ =>
            rw [named_cons_other (fun _ => Scalar.noConfusion),
              named_cons_other (fun _ => Scalar.noConfusion)]

/-! ## What the settings are made of -/

/-- What is gathered does not depend on more of the stored fields than the checks of what they make
together with the updates, and the names in it that are no setting. -/
theorem Settings.gather_congr {homes : Homes} {environment : Variables}
    {stored stored' overrides : Fields}
    (checked : ∀ named, settingsFromEnvironment environment = .ok named →
      let updates := Fields.merge named (recaseSettings overrides)
      Check.settings homes (Fields.merge stored updates) =
        Check.settings homes (Fields.merge stored' updates) ∧
      (Fields.merge stored updates).named?.map unknownSettings =
        (Fields.merge stored' updates).named?.map unknownSettings) :
    gather homes environment stored overrides = gather homes environment stored' overrides := by
  unfold gather
  cases read : settingsFromEnvironment environment with
  | error error => rfl
  | ok named =>
      obtain ⟨settings, unknown⟩ := checked named read
      have served : ((.ok named : Except UnreadableVariable Fields).mapError fun error =>
          LoadError.unreadableVariable error.setting) = .ok named := mapError_eq_ok.mpr rfl
      simp only [served, bind, Except.bind, settings]
      generalize (Fields.merge stored _).named? = first at unknown ⊢
      generalize (Fields.merge stored' _).named? = second at unknown ⊢
      cases first with
      | none =>
          cases second with
          | none => rfl
          | some names => cases unknown
      | some names =>
          cases second with
          | none => cases unknown
          | some names' =>
              dsimp only
              rw [Check.knownOnly_congr (Option.some.inj unknown)]

/-- The settings depend on the stored fields by the check of their transforms and by what is
gathered. -/
theorem Settings.resolve_congr {homes : Homes} {environment : Variables}
    {stored stored' overrides : Fields}
    (lacking : lacksTransforms ((overrides.get? "extraction").or (stored.get? "extraction")) =
      lacksTransforms ((overrides.get? "extraction").or (stored'.get? "extraction")))
    (checked : ∀ named, settingsFromEnvironment environment = .ok named →
      let updates := Fields.merge named (recaseSettings overrides)
      Check.settings homes (Fields.merge stored updates) =
        Check.settings homes (Fields.merge stored' updates) ∧
      (Fields.merge stored updates).named?.map unknownSettings =
        (Fields.merge stored' updates).named?.map unknownSettings) :
    resolve homes environment stored overrides = resolve homes environment stored' overrides := by
  rw [resolve, resolve, lacking, gather_congr checked]

/-! ## Values put over others -/

namespace Value

/-- Whether a value is a mapping. -/
def isMapping : Value → Bool
  | .mapping _ => true
  | _ => false

/-- The fields of a mapping; anything else has none. -/
def inner : Option Value → Fields
  | some (.mapping fields) => fields
  | _ => []

private theorem over_plain {value : Value} (plain : value.isMapping = false) (old : Option Value) :
    value.over old = value := by
  cases value with
  | mapping fields => cases plain
  | scalar s => simp [Value.over]
  | list items => simp [Value.over]

private theorem over_none (value : Value) : value.over none = value := by
  cases value <;> simp [Value.over]

/-- A mapping put over anything is a mapping that holds under every name what its own value makes of
the older one. -/
theorem over_mapping {updates : Fields} (distinct : updates.Distinct) (old : Option Value) :
    ∃ merged, (Value.mapping updates).over old = .mapping merged ∧
      (∀ name, Fields.get? merged name =
        ((updates.get? name).map (·.over ((inner old).get? name))).or ((inner old).get? name)) ∧
      ((inner old).Distinct → Fields.Distinct merged) := by
  have alone (name : Scalar) : updates.get? name =
      ((updates.get? name).map (·.over (Fields.get? [] name))).or (Fields.get? [] name) := by
    change _ = ((updates.get? name).map (·.over none)).or none
    simp only [over_none, Option.map_id', Option.or_none]
  cases old with
  | none => exact ⟨updates, over_none _, alone, fun _ => distinct⟩
  | some value =>
      cases value with
      | mapping fields =>
          have laid : (Value.mapping updates).over (some (.mapping fields)) =
              .mapping (Fields.merge fields updates) := by
            rw [Value.over]
          exact ⟨_, laid, Fields.get_merge distinct fields,
            fun base => Fields.merge_distinct base updates⟩
      | scalar s => exact ⟨updates, by simp [Value.over], alone, fun _ => distinct⟩
      | list items => exact ⟨updates, by simp [Value.over], alone, fun _ => distinct⟩

private theorem eq_inner {value : Option Value} {name : Scalar} {held : Value}
    (found : (inner value).get? name = some held) : value = some (.mapping (inner value)) := by
  unfold inner at found ⊢
  split at found
  · rfl
  · cases found

end Value

private theorem Fields.get_merge_plain {updates : Fields} {name : Scalar} {value : Value}
    (distinct : updates.Distinct) (given : updates.get? name = some value)
    (plain : value.isMapping = false) (fields : Fields) :
    (Fields.merge fields updates).get? name = some value := by
  rw [get_merge distinct, given, Option.map_some, Value.over_plain plain]
  rfl

/-! ## What the updates are made of -/

private theorem SectionShape.recase_distinct (shape : SectionShape) (fields : Fields) :
    (shape.recase fields).Distinct := by
  unfold recase
  refine List.foldlRecOn fields _ List.Pairwise.nil fun acc distinct field _ => ?_
  exact Fields.put_distinct distinct ..

private theorem SectionShape.fromVariables_distinct {shape : SectionShape} {bindings : Variables}
    {fields : Fields} (given : shape.fromVariables bindings = .ok (some (.mapping fields))) :
    fields.Distinct := by
  unfold fromVariables at given
  dsimp only at given
  split at given
  case' h_2 => split at given
  -- Whatever is found, a mapping is returned under the declared names.
  all_goals
    obtain ⟨found, -, returned⟩ := bind_eq_ok.mp given
    split at returned
    · cases returned
      exact shape.recase_distinct _
    next other =>
      cases returned
      exact absurd rfl (other _)

/-- What variables set comes from the sections, in their order. -/
theorem sectionsFromVariables_listed {bindings : Variables} {shapes : List SectionShape}
    {sections : Fields} (read : sectionsFromVariables bindings shapes = .ok sections) :
    (sections.map (·.1)).Sublist (shapes.map fun shape => .text shape.name) ∧
      ∀ field ∈ sections, ∃ shape ∈ shapes, shape.fromVariables bindings = .ok (some field.2) := by
  induction shapes generalizing sections with
  | nil =>
      obtain rfl := Except.ok.inj read
      exact ⟨.slnil, fun field member => nomatch member⟩
  | cons shape rest ih =>
      obtain ⟨value, given, next⟩ := bind_eq_ok.mp read
      obtain ⟨later, tail, returned⟩ := bind_eq_ok.mp next
      obtain rfl := Except.ok.inj returned
      obtain ⟨keys, origin⟩ := ih tail
      have inherited {field : Scalar × Value} (member : field ∈ later) :
          ∃ other ∈ shape :: rest, other.fromVariables bindings = .ok (some field.2) := by
        obtain ⟨other, listed, made⟩ := origin field member
        exact ⟨other, List.mem_cons_of_mem _ listed, made⟩
      cases value with
      | none => exact ⟨keys.cons _, fun field => inherited⟩
      | some value =>
          refine ⟨keys.cons_cons _, fun field member => ?_⟩
          rcases List.mem_cons.mp member with rfl | later
          · exact ⟨shape, List.mem_cons_self, given⟩
          · exact inherited later

/-- No section or setting is set twice by the environment, and no field of a section. -/
theorem settingsFromEnvironment_distinct {environment : Variables} {named : Fields}
    (read : settingsFromEnvironment environment = .ok named) :
    named.Distinct ∧
      ∀ name, name ≠ "languages" → (Value.inner (named.get? (.text name))).Distinct := by
  obtain ⟨sections, listed, rest⟩ := bind_eq_ok.mp read
  obtain ⟨languages, -, returned⟩ := bind_eq_ok.mp rest
  obtain rfl := Except.ok.inj returned
  obtain ⟨keys, origin⟩ := sectionsFromVariables_listed listed
  constructor
  · have last : ((languages.toList.map (Scalar.text "languages", ·)).map Prod.fst).Sublist
        [.text "languages"] := by
      cases languages with
      | none => exact List.nil_sublist _
      | some value => exact List.Sublist.refl _
    have names := keys.append last
    rw [← List.map_append] at names
    have apart : [Scalar.text "logging", .text "extraction", .text "languages"].Pairwise
        fun key other => key.sameKey other = false := by
      decide
    exact List.pairwise_map.mp (apart.sublist names)
  · intro name different
    unfold Value.inner
    split
    rotate_left
    · exact List.Pairwise.nil
    next fields found =>
    obtain ⟨key, member, same⟩ := Fields.mem_of_get found
    rcases List.mem_append.mp member with inside | last
    · obtain ⟨shape, -, given⟩ := origin _ inside
      exact shape.fromVariables_distinct given
    · obtain ⟨value, -, pair⟩ := List.mem_map.mp last
      rw [← (Prod.mk.inj pair).1] at same
      exact absurd (Scalar.text.inj (Fields.sameKey_text.mp same)).symm different

private theorem recaseSettings_distinct (overrides : Fields) :
    (recaseSettings overrides).Distinct := by
  unfold recaseSettings
  refine List.foldlRecOn overrides _ List.Pairwise.nil fun acc distinct field _ => ?_
  dsimp only
  split
  · split
    · exact distinct
    · exact Fields.put_distinct distinct ..
  · exact Fields.put_distinct distinct ..

/-- Every value under a recased name is one that the caller gave. -/
theorem recaseSettings_given {overrides : Fields} :
    ∀ field ∈ recaseSettings overrides, ∃ key, (key, field.2) ∈ overrides := by
  unfold recaseSettings
  refine List.foldlRecOn
    (motive := fun acc : Fields => ∀ field ∈ acc, ∃ key, (key, field.2) ∈ overrides) overrides _
    (fun field member => absurd member List.not_mem_nil) fun acc given override listed => ?_
  have put (name : Scalar) :
      ∀ field ∈ acc.put name override.2, ∃ key, (key, field.2) ∈ overrides := by
    intro field member
    obtain old | ⟨same, -⟩ := Fields.mem_put member
    · exact given field old
    · exact ⟨override.1, same ▸ listed⟩
  dsimp only
  split
  · split
    · exact given
    · exact put _
  · exact put _

/-! ## A setting and its value -/

/-- A setting by its place: a key of a section, or the languages. -/
inductive Setting where
  | logging (key : String)
  | extraction (key : String)
  | languages
deriving DecidableEq, Repr

namespace Setting

/-- The name at the top that a setting stands under. -/
def top : Setting → String
  | .logging _ => "logging"
  | .extraction _ => "extraction"
  | .languages => "languages"

/-- The key of a setting in its section. -/
def key? : Setting → Option String
  | .logging key | .extraction key => some key
  | .languages => none

/-- The value that fields give to a setting. -/
def value? (setting : Setting) (fields : Fields) : Option Value :=
  match setting.key? with
  | some key => (Value.inner (fields.get? setting.top)).get? key
  | none => fields.get? setting.top

/-- Whether the caller, or else the environment, gives a setting a value that is no mapping. Where
the environment cannot be read there is nothing to decide. -/
def isDecided (setting : Setting) (environment : Variables) (overrides : Fields) : Bool :=
  match settingsFromEnvironment environment with
  | .ok named =>
    ((setting.value? (recaseSettings overrides)).or (setting.value? named)).any (!·.isMapping)
  | .error _ => true

/-- Stored fields that are the same beside what they give to a setting. A section that is not there,
or is no mapping, is one without keys. -/
structure Beside (setting : Setting) (stored stored' : Fields) : Prop where
  others : stored.erase setting.top = stored'.erase setting.top
  within : ∀ key, setting.key? = some key →
    (Value.inner (stored.get? setting.top)).erase (.text key) =
      (Value.inner (stored'.get? setting.top)).erase (.text key)

/-- Updates that settle a setting whatever they are merged into: they have a plain value for all of
it, or for its key in its section. -/
inductive Settled (setting : Setting) (updates : Fields) : Prop
  | whole {value : Value} (given : updates.get? setting.top = some value)
      (plain : value.isMapping = false)
  | within {key : String} {fields : Fields} {winner : Value} (keyed : setting.key? = some key)
      (given : updates.get? setting.top = some (.mapping fields)) (distinct : fields.Distinct)
      (found : fields.get? key = some winner) (plain : winner.isMapping = false)

variable {setting : Setting}

namespace Beside

variable {stored stored' : Fields} (beside : setting.Beside stored stored')

include beside

private theorem get {name : Scalar} (different : name.sameKey (.text setting.top) = false) :
    stored.get? name = stored'.get? name := by
  rw [← Fields.get_erase_of_ne different stored, beside.others, Fields.get_erase_of_ne different]

private theorem get_within {key : String} (keyed : setting.key? = some key) {name : Scalar}
    (different : name.sameKey (.text key) = false) :
    (Value.inner (stored.get? setting.top)).get? name =
      (Value.inner (stored'.get? setting.top)).get? name := by
  rw [← Fields.get_erase_of_ne different (Value.inner (stored.get? _)), beside.within key keyed,
    Fields.get_erase_of_ne different]

end Beside

private theorem Settled.merge_whole {updates : Fields} (settled : setting.Settled updates)
    (distinct : updates.Distinct) (keyless : setting.key? = none) (stored stored' : Fields) :
    (Fields.merge stored updates).get? setting.top =
      (Fields.merge stored' updates).get? setting.top := by
  cases settled with
  | whole given plain =>
      rw [Fields.get_merge_plain distinct given plain, Fields.get_merge_plain distinct given plain]
  | within keyed =>
      rw [keyless] at keyed
      cases keyed

/-- Once updates settle a setting, fields that differ in it alone merge to sections with the same
fields. -/
theorem Settled.merge {updates stored stored' : Fields} (settled : setting.Settled updates)
    (distinct : updates.Distinct) (beside : setting.Beside stored stored') :
    Value.SameFields ((Fields.merge stored updates).get? setting.top)
      ((Fields.merge stored' updates).get? setting.top) := by
  cases settled with
  | whole given plain =>
      rw [Fields.get_merge_plain distinct given plain, Fields.get_merge_plain distinct given plain]
      exact .refl _
  | @within key fields winner keyed given once found plain =>
      obtain ⟨merged, laid, held, -⟩ := Value.over_mapping once (stored.get? setting.top)
      obtain ⟨merged', laid', held', -⟩ := Value.over_mapping once (stored'.get? setting.top)
      rw [Fields.get_merge distinct, Fields.get_merge distinct, given, Option.map_some,
        Option.map_some, laid, laid']
      refine .mapping fun name => ?_
      rw [held, held']
      cases same : name.sameKey (.text key) with
      | true =>
          rw [(Fields.get_congr same fields).trans found, Option.map_some, Option.map_some,
            Value.over_plain plain, Value.over_plain plain]
          rfl
      | false => rw [beside.get_within keyed same]

/-- Checks cannot tell what stored fields had for a setting that is settled. -/
theorem Settled.settings {updates stored stored' : Fields} (settled : setting.Settled updates)
    (distinct : updates.Distinct) (beside : setting.Beside stored stored') (homes : Homes) :
    Check.settings homes (Fields.merge stored updates) =
      Check.settings homes (Fields.merge stored' updates) := by
  have here := settled.merge distinct beside
  have elsewhere {name : String}
      (different : Scalar.sameKey (.text name) (.text setting.top) = false) :
      (Fields.merge stored updates).get? name = (Fields.merge stored' updates).get? name := by
    rw [Fields.get_merge distinct, Fields.get_merge distinct, beside.get different]
  cases setting with
  | logging key =>
      refine Check.settings_congr homes here ?_ (elsewhere rfl)
      rw [elsewhere rfl]
      exact .refl _
  | extraction key =>
      refine Check.settings_congr homes ?_ here (elsewhere rfl)
      rw [elsewhere rfl]
      exact .refl _
  | languages =>
      refine Check.settings_congr homes ?_ ?_ ?_
      · rw [elsewhere rfl]
        exact .refl _
      · rw [elsewhere rfl]
        exact .refl _
      · exact settled.merge_whole distinct rfl stored stored'

/-- Fields that differ in one setting alone have the same unknown settings after every merge. -/
theorem Beside.unknown {updates stored stored' : Fields} (beside : setting.Beside stored stored') :
    (Fields.merge stored updates).named?.map unknownSettings =
      (Fields.merge stored' updates).named?.map unknownSettings := by
  have known : settingNames.contains setting.top = true := by
    cases setting <;> rfl
  rw [Fields.named_unknown known, Fields.erase_merge, beside.others, ← Fields.erase_merge,
    ← Fields.named_unknown known]

private theorem top_ne_languages {key : String} (keyed : setting.key? = some key) :
    setting.top ≠ "languages" := by
  cases setting with
  | logging _ => exact show "logging" ≠ "languages" by decide
  | extraction _ => exact show "extraction" ≠ "languages" by decide
  | languages => cases keyed

/-- A section put over an older one settles what it gives to a key, or else what that one gives. -/
theorem Settled.of_mapping {updates fields : Fields} {old : Option Value} {key : String}
    {winner : Value} (keyed : setting.key? = some key)
    (given : updates.get? setting.top = some ((Value.mapping fields).over old))
    (distinct : fields.Distinct) (base : (Value.inner old).Distinct)
    (chosen : (fields.get? key).or ((Value.inner old).get? key) = some winner)
    (plain : winner.isMapping = false) : setting.Settled updates := by
  obtain ⟨merged, laid, held, kept⟩ := Value.over_mapping distinct old
  refine .within keyed (given.trans (congrArg some laid)) (kept base) ?_ plain
  rw [held]
  cases own : fields.get? key with
  | none =>
      rw [own] at chosen
      exact chosen
  | some mine =>
      rw [own, Option.some_or] at chosen
      obtain rfl := Option.some.inj chosen
      rw [Option.map_some, Value.over_plain plain]
      rfl

/-- What the caller, or else the environment, decides is settled by the two together. -/
theorem settled_of_decided {environment : Variables} {named overrides : Fields}
    (read : settingsFromEnvironment environment = .ok named)
    (distinct : ∀ key given, (key, .mapping given) ∈ overrides → Fields.Distinct given)
    (decided : setting.isDecided environment overrides = true) :
    setting.Settled (Fields.merge named (recaseSettings overrides)) := by
  obtain ⟨winner, chosen, plain⟩ : ∃ winner, (setting.value? (recaseSettings overrides)).or
      (setting.value? named) = some winner ∧ winner.isMapping = false := by
    unfold isDecided at decided
    rw [read] at decided
    simpa [Option.any_eq_true] using decided
  have merged := Fields.get_merge (recaseSettings_distinct overrides) named (.text setting.top)
  cases given : (recaseSettings overrides).get? setting.top with
  | none =>
      rw [given] at merged
      cases keyed : setting.key? with
      | none =>
          simp only [value?, keyed, given, Option.none_or] at chosen
          exact .whole (merged.trans chosen) plain
      | some key =>
          simp only [value?, keyed, given] at chosen
          have mapping := Value.eq_inner (show (Value.inner (named.get? _)).get? _ = _ from chosen)
          refine .within keyed (merged.trans mapping) ?_ chosen plain
          exact (settingsFromEnvironment_distinct read).2 _ (top_ne_languages keyed)
  | some value =>
      rw [given] at merged
      cases value with
      | scalar s => exact .whole (merged.trans (congrArg some (Value.over_plain rfl _))) rfl
      | list items => exact .whole (merged.trans (congrArg some (Value.over_plain rfl _))) rfl
      | mapping fields =>
          cases keyed : setting.key? with
          | none =>
              simp only [value?, keyed, given, Option.some_or, Option.some.injEq] at chosen
              rw [← chosen] at plain
              cases plain
          | some key =>
              obtain ⟨_, member, -⟩ := Fields.mem_of_get given
              obtain ⟨source, listed⟩ := recaseSettings_given _ member
              have base := (settingsFromEnvironment_distinct read).2 _ (top_ne_languages keyed)
              simp only [value?, keyed, given] at chosen
              exact .of_mapping keyed merged (distinct source fields listed) base chosen plain

end Setting

private theorem lacksTransforms_eq (stored : Fields) :
    lacksTransforms (stored.get? "extraction") =
      ((Value.inner (stored.get? "extraction")).get? "transforms").any (·.isVoid) := by
  cases stored.get? "extraction" with
  | none => rfl
  | some value =>
      cases value with
      | mapping fields =>
          change lacksTransforms (some (.mapping fields)) = (Fields.get? fields "transforms").any _
          unfold lacksTransforms
          rw [Option.bind_some, Value.field?]
          cases Fields.get? fields "transforms" <;> rfl
      | scalar s => rfl
      | list items => rfl

/-- Beside the transforms, whether a file is refused for them does not depend on a setting. -/
theorem Setting.Beside.lacksTransforms {setting : Setting} {stored stored' : Fields}
    (beside : setting.Beside stored stored') (other : setting ≠ .extraction "transforms") :
    lacksTransforms (stored.get? "extraction") = lacksTransforms (stored'.get? "extraction") := by
  cases setting with
  | logging key => rw [beside.get (by rfl)]
  | languages => rw [beside.get (by rfl)]
  | extraction key =>
      have apart : Scalar.sameKey (.text "transforms") (.text key) = false :=
        Bool.eq_false_iff.mpr fun same =>
          other (congrArg _ (Scalar.text.inj (Fields.sameKey_text.mp same)).symm)
      rw [lacksTransforms_eq, lacksTransforms_eq]
      exact congrArg (Option.any _) (beside.get_within rfl apart)

/-- A setting that the caller or the environment decides does not depend on what the settings file
has for it, and neither does anything else that is loaded. The transforms are an exception unless
the caller gives the extraction section, or the file lacks transforms in both cases or in none. -/
theorem settings_decided_above {setting : Setting} {homes : Homes} {environment : Variables}
    {stored stored' overrides : Fields} (beside : setting.Beside stored stored')
    (distinct : ∀ key given, (key, .mapping given) ∈ overrides → Fields.Distinct given)
    (decided : setting.isDecided environment overrides = true)
    (spared : setting = .extraction "transforms" → (overrides.get? "extraction").isSome = true ∨
      lacksTransforms (stored.get? "extraction") = lacksTransforms (stored'.get? "extraction")) :
    Settings.resolve homes environment stored overrides =
      Settings.resolve homes environment stored' overrides ∧
    ∀ files files' path path',
      readSettingsFile ⟨homes, environment, files⟩ path = .ok stored →
      readSettingsFile ⟨homes, environment, files'⟩ path' = .ok stored' →
      Settings.load ⟨homes, environment, files⟩ (some path) overrides =
        Settings.load ⟨homes, environment, files'⟩ (some path') overrides := by
  have resolved : Settings.resolve homes environment stored overrides =
      Settings.resolve homes environment stored' overrides := by
    refine Settings.resolve_congr ?_ fun named read => ?_
    · cases given : overrides.get? "extraction" with
      | some value => rfl
      | none =>
          rw [Option.none_or, Option.none_or]
          by_cases transforms : setting = .extraction "transforms"
          · refine (spared transforms).resolve_left ?_
            rw [given]
            decide
          · exact beside.lacksTransforms transforms
    · have once := Fields.merge_distinct (settingsFromEnvironment_distinct read).1
        (recaseSettings overrides)
      have settled := Setting.settled_of_decided read distinct decided
      exact ⟨settled.settings once beside homes, beside.unknown⟩
  refine ⟨resolved, fun files files' path path' read read' => ?_⟩
  rw [Settings.load, Settings.load, read, read']
  exact resolved

/-- An environment that names the transforms. -/
def Variables.sample : Variables :=
  [("SNIPSCAN__EXTRACTION__TRANSFORMS", "[\"full\"]")]

private theorem Setting.transforms_decided_sample :
    (Setting.extraction "transforms").isDecided .sample [] = true := by
  decide +kernel

/-- The environment names the transforms, so two files that differ in them alone resolve to the same
settings. -/
theorem settings_decided_above_sample :
    let setting : Setting := .extraction "transforms"
    let stored : Fields := [("extraction",
      .mapping [("transforms", .ofTexts ["body"]), ("hash_algorithm", .text "sha_512")])]
    let stored' : Fields := [("extraction", .mapping [("hash_algorithm", .text "sha_512")])]
    setting.Beside stored stored' ∧ setting.isDecided .sample [] = true ∧
    lacksTransforms (stored.get? "extraction") = lacksTransforms (stored'.get? "extraction") ∧
    Settings.resolve ⟨"/root", []⟩ .sample stored [] =
      Settings.resolve ⟨"/root", []⟩ .sample stored' [] := by
  intro setting stored stored'
  have beside : setting.Beside stored stored' := by
    refine ⟨rfl, ?_⟩
    rintro _ ⟨⟩
    rfl
  have decided : setting.isDecided .sample [] = true := Setting.transforms_decided_sample
  have distinct (key : Scalar) (given : Fields) (member : (key, .mapping given) ∈ ([] : Fields)) :
      given.Distinct := absurd member List.not_mem_nil
  refine ⟨beside, decided, rfl, ?_⟩
  exact (settings_decided_above beside distinct decided fun _ => .inr rfl).1

/-- A file that lists no transforms is refused although the environment lists them. -/
theorem transforms_not_decided_above :
    ¬∀ (setting : Setting) (homes : Homes) (environment : Variables)
      (stored stored' overrides : Fields), setting.Beside stored stored' →
      (∀ key given, (key, .mapping given) ∈ overrides → Fields.Distinct given) →
      setting.isDecided environment overrides = true →
        Settings.resolve homes environment stored overrides =
          Settings.resolve homes environment stored' overrides := by
  intro always
  have beside : (Setting.extraction "transforms").Beside
      [("extraction", .mapping [("transforms", .list [])])] [] := by
    refine ⟨rfl, ?_⟩
    rintro _ ⟨⟩
    rfl
  have same := always _ ⟨"/root", []⟩ .sample _ _ [] beside
    (fun _ _ member => absurd member List.not_mem_nil) Setting.transforms_decided_sample
  have loaded : (Settings.resolve ⟨"/root", []⟩ .sample [] []).isOk = true := by
    decide +kernel
  rw [← same] at loaded
  cases loaded

end CodePrint
