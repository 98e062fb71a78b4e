import CodePrint.Proofs.PathText
import CodePrint.Proofs.RequestOrder
import CodePrint.Settings.Load

/-! # Checking settings again

Settings that were accepted are written as values and checked a second time. Two of them are not
kept as they were given: the destination of a log output is expanded and written as a path, and the
transforms are put in order. What comes out of the first check is left alone by the second one: an
absolute path is read back from its text and has no home directory to replace, and kinds in order
stay in order.
-/

namespace CodePrint

/-! ## Destinations -/

/-- A destination that is read back from its name. -/
def LogDestination.ReadBack (homes : Homes) (destination : LogDestination) : Prop :=
  Check.logDestination homes (.text destination.text) = .valid destination

namespace Check

variable {homes : Homes}

/-- What is accepted as a destination: the two streams, and the paths that start at a root once
their home directory is replaced. -/
theorem logDestination_eq_valid {given : Value} {destination : LogDestination}
    (accepted : logDestination homes given = .valid destination) :
    destination = .stderr ∨ destination = .stdout ∨
      ∃ name path, (Path.ofString name).expandHome? homes = some path ∧
        path.isAbsolute = true ∧ destination = .file path := by
  unfold logDestination at accepted
  split at accepted
  · rename_i name
    split at accepted
    · cases accepted
      exact .inl rfl
    · split at accepted
      · cases accepted
        exact .inr (.inl rfl)
      · split at accepted
        · cases accepted
        · rename_i path expanded
          split at accepted
          · rename_i rooted
            cases accepted
            exact .inr (.inr ⟨name, path, expanded, rooted, rfl⟩)
          · cases accepted
  · cases accepted

/-- A path that starts at a root is a destination under its text. -/
theorem logDestination_file {path : Path} (wellFormed : path.WellFormed)
    (rooted : path.isAbsolute = true) : (LogDestination.file path).ReadBack homes := by
  -- The names of the streams begin with a letter, the text of the path with a slash.
  have noStream {name : String} (letter : name.toList.head? ≠ some '/') : path.text ≠ name :=
    fun same => letter (same ▸ Path.text_head rooted)
  change logDestination homes (.text path.text) = .valid (.file path)
  rw [logDestination, if_neg (noStream (by decide)), if_neg (noStream (by decide)),
    Path.ofString_text wellFormed rooted, Path.expandHome_absolute rooted homes]
  exact if_pos rooted

/-- A destination that was accepted is accepted again under its name. -/
theorem logDestination_readBack {given : Value} {destination : LogDestination}
    (accepted : logDestination homes given = .valid destination) :
    destination.ReadBack homes := by
  rcases logDestination_eq_valid accepted with rfl | rfl | ⟨name, path, expanded, rooted, rfl⟩
  · rfl
  · rfl
  · exact logDestination_file ((Path.ofString_wellFormed name).expandHome expanded) rooted

/-! ## Sections -/

private theorem logLevel_written (level : LogLevel) :
    logLevel (.text level.setting) = .valid level :=
  named_written (fun level => by cases level <;> rfl) level

private theorem logOutput_written {output : LogOutput} (kept : output.destination.ReadBack homes) :
    logOutput homes output.fields = .valid output := by
  have format : field output.fields "format" logFormat .console = .valid output.format :=
    field_written rfl (named_written (fun format => by cases format <;> rfl) _)
  have destination : field output.fields "destination" (logDestination homes) .stderr =
      .valid output.destination := field_written rfl kept
  have level : field output.fields "level" (optional logLevel) none = .valid output.level :=
    field_written rfl (optional_written logLevel_written _)
  rw [logOutput, format, destination, level]
  rfl

private theorem logOutput_readBack {fields : Fields} {output : LogOutput}
    (accepted : logOutput homes fields = .valid output) : output.destination.ReadBack homes := by
  obtain ⟨given, joined, rfl⟩ := Checked.map_eq_valid.mp accepted
  obtain ⟨_, later⟩ := Checked.join_eq_valid.mp joined
  obtain ⟨destination, _⟩ := Checked.join_eq_valid.mp later
  rcases field_eq_valid destination with same | ⟨value, found⟩
  · dsimp only
    rw [same]
    rfl
  · exact logDestination_readBack found

/-- Settings of the log are read back from their fields when their destinations are. -/
theorem logSettings_written {settings : LogSettings}
    (kept : ∀ output ∈ settings.outputs, output.destination.ReadBack homes) :
    logSettings homes settings.fields = .valid settings := by
  have level : field settings.fields "level" logLevel .info = .valid settings.level :=
    field_written rfl (logLevel_written _)
  have outputs : field settings.fields "outputs"
      (listOf .notList (sectionOf "LogOutputConfig" (logOutput homes))) [{}] =
        .valid settings.outputs := by
    refine field_written rfl (listOf_written fun output member => ?_)
    exact logOutput_written (kept output member)
  rw [logSettings, level, outputs]
  rfl

/-- Every destination of accepted settings of the log is read back. -/
theorem logSettings_readBack {fields : Fields} {settings : LogSettings}
    (accepted : logSettings homes fields = .valid settings) :
    ∀ output ∈ settings.outputs, output.destination.ReadBack homes := by
  intro output member
  obtain ⟨given, joined, rfl⟩ := Checked.map_eq_valid.mp accepted
  obtain ⟨_, outputs⟩ := Checked.join_eq_valid.mp joined
  rcases field_eq_valid outputs with same | ⟨value, found⟩
  · dsimp only at member
    rw [same] at member
    obtain rfl := List.mem_singleton.mp member
    rfl
  · obtain ⟨item, accepted⟩ := listOf_eq_valid found member
    obtain ⟨inner, accepted⟩ := sectionOf_eq_valid accepted
    exact logOutput_readBack accepted

private theorem transforms_written {kinds : List VariantKind} (inhabited : kinds ≠ [])
    (ordered : VariantKind.inOrder kinds = kinds) :
    transforms (.ofTexts (kinds.map (·.name))) = .valid kinds := by
  have distinct : kinds.Nodup := ordered ▸ VariantKind.inOrder_nodup kinds
  rw [transforms_names, if_neg inhabited, if_pos distinct, ordered]

/-- Options with transforms in order are read back from their fields. -/
theorem options_written {options : Options} (inhabited : options.transforms ≠ [])
    (ordered : VariantKind.inOrder options.transforms = options.transforms) :
    Check.options options.fields = .valid options := by
  have kinds : field options.fields "transforms" transforms ({} : Options).transforms =
      .valid options.transforms := field_written rfl (transforms_written inhabited ordered)
  have algorithm : field options.fields "hash_algorithm"
      (member (HashAlgorithm.all.map (·.name)) HashAlgorithm.ofName?) ({} : Options).algorithm =
        .valid options.algorithm :=
    field_written rfl (named_written (fun algorithm => by cases algorithm <;> rfl) _)
  have backend : field options.fields "hash_backend"
      (member (HashBackend.all.map (·.name)) HashBackend.ofName?) ({} : Options).backend =
        .valid options.backend :=
    field_written rfl (named_written (fun backend => by cases backend <;> rfl) _)
  have allowErrors : field options.fields "allow_partial_parse" bool ({} : Options).allowErrors =
      .valid options.allowErrors := field_written rfl rfl
  have policy : field options.fields "on_region_error"
      (member (RegionErrorPolicy.all.map (·.name)) RegionErrorPolicy.ofName?)
      ({} : Options).policy = .valid options.policy :=
    field_written rfl (named_written (fun policy => by cases policy <;> rfl) _)
  rw [Check.options, kinds, algorithm, backend, allowErrors, policy]
  rfl

private theorem languages_written (enabled : Option (List Language)) :
    languages (languagesValue enabled) = .valid enabled := by
  cases enabled with
  | none => rfl
  | some listed =>
      have read : listOf .notList (member (Language.all.map (·.tag)) Language.ofTag?)
          (.ofTexts (listed.map (·.tag))) = .valid listed := by
        rw [Value.ofTexts, List.map_map]
        exact listOf_written fun language _ =>
          named_written (fun language => by cases language <;> rfl) language
      change (listOf .notList _ (.ofTexts (listed.map (·.tag)))).map some = _
      rw [read]
      rfl

end Check

/-! ## All settings -/

/-- Settings that are read back from the values that write them. -/
structure Settings.Canonical (homes : Homes) (settings : Settings) : Prop where
  destinations : ∀ output ∈ settings.logging.outputs, output.destination.ReadBack homes
  inhabited : settings.extraction.transforms ≠ []
  ordered : VariantKind.inOrder settings.extraction.transforms = settings.extraction.transforms

namespace Check

variable {homes : Homes} {settings : Settings}

/-- Canonical settings are read back from their fields. -/
theorem settings_written (canonical : settings.Canonical homes) :
    Check.settings homes settings.fields = .valid settings := by
  have logging : field settings.fields "logging"
      (sectionOf "LoggingConfig" (logSettings homes)) {} = .valid settings.logging :=
    field_written rfl (logSettings_written canonical.destinations)
  have extraction : field settings.fields "extraction" (sectionOf "ExtractionOptions" options) {} =
      .valid settings.extraction :=
    field_written rfl (options_written canonical.inhabited canonical.ordered)
  have enabled : field settings.fields "languages" languages none = .valid settings.languages :=
    field_written rfl (languages_written _)
  rw [Check.settings, logging, extraction, enabled]
  rfl

/-- Settings that were accepted are canonical, whatever they were made from. -/
theorem settings_canonical {fields : Fields}
    (accepted : Check.settings homes fields = .valid settings) : settings.Canonical homes := by
  obtain ⟨given, joined, rfl⟩ := Checked.map_eq_valid.mp accepted
  obtain ⟨logging, later⟩ := Checked.join_eq_valid.mp joined
  obtain ⟨extraction, _⟩ := Checked.join_eq_valid.mp later
  have kinds : given.2.1.transforms ≠ [] ∧
      VariantKind.inOrder given.2.1.transforms = given.2.1.transforms := by
    rcases field_eq_valid extraction with same | ⟨value, found⟩
    · rw [same]
      decide
    · obtain ⟨inner, accepted⟩ := sectionOf_eq_valid found
      exact options_inOrder accepted
  refine ⟨?_, kinds.1, kinds.2⟩
  rcases field_eq_valid logging with same | ⟨value, found⟩
  · dsimp only
    rw [same]
    intro output member
    obtain rfl := List.mem_singleton.mp member
    rfl
  · obtain ⟨inner, accepted⟩ := sectionOf_eq_valid found
    exact logSettings_readBack accepted

end Check

private theorem Checked.report_eq_ok {α : Type} {checked : Checked α} {value : α} :
    checked.report = .ok value ↔ checked = .valid value := by
  constructor
  · intro reported
    cases checked with
    | valid given => exact congrArg _ (Except.ok.inj reported)
    | invalid first others => cases reported
    | halted cause => cases cause <;> cases reported
  · rintro rfl
    rfl

/-- Settings that were gathered were accepted as what some fields make. -/
theorem Settings.gather_eq_ok {homes : Homes} {environment : Variables} {stored overrides : Fields}
    {settings : Settings} (accepted : gather homes environment stored overrides = .ok settings) :
    ∃ fields, Check.settings homes fields = .valid settings := by
  obtain ⟨named, _, merged⟩ := bind_eq_ok.mp accepted
  dsimp only at merged
  split at merged
  · cases merged
  · obtain ⟨both, joined, rfl⟩ := Checked.map_eq_valid.mp (Checked.report_eq_ok.mp merged)
    exact ⟨_, (Checked.join_eq_valid.mp joined).1⟩

/-- Settings that were accepted, from whatever file, environment and caller, pass the second check
unchanged. The destination of each log output is accepted again as it is, and so are the transforms,
which are distinct and in order. So the settings that are loaded are those that were gathered. A
destination's name is accepted again in the form it was accepted in, whether it is part of settings
or not. -/
theorem settings_recheck_unchanged {homes : Homes} {environment : Variables}
    {stored overrides : Fields} {settings : Settings}
    (accepted : Settings.gather homes environment stored overrides = .ok settings) :
    settings.recheck homes = .ok settings ∧
    (∀ output ∈ settings.logging.outputs,
      Check.logDestination homes (.text output.destination.text) = .valid output.destination) ∧
    (settings.extraction.transforms.Nodup ∧
      (settings.extraction.transforms.Pairwise fun kind later => kind.rank ≤ later.rank) ∧
      Check.transforms (.ofTexts (settings.extraction.transforms.map (·.name))) =
        .valid settings.extraction.transforms) ∧
    Settings.resolve homes environment stored overrides =
      (if lacksTransforms ((overrides.get? "extraction").or (stored.get? "extraction")) then
        .error (.refused .noTransforms)
      else .ok settings) ∧
    ∀ (name : String) (destination : LogDestination),
      Check.logDestination homes (.text name) = .valid destination →
      Check.logDestination homes (.text destination.text) = .valid destination := by
  obtain ⟨fields, first⟩ := Settings.gather_eq_ok accepted
  have canonical := Check.settings_canonical first
  have second : settings.recheck homes = .ok settings :=
    Checked.report_eq_ok.mpr (Check.settings_written canonical)
  refine ⟨second, canonical.destinations, ⟨?_, ?_, ?_⟩, ?_, ?_⟩
  · rw [← canonical.ordered]
    exact VariantKind.inOrder_nodup _
  · rw [← canonical.ordered]
    exact VariantKind.inOrder_ranked _
  · exact Check.transforms_written canonical.inhabited canonical.ordered
  · rw [Settings.resolve]
    split
    · rfl
    · rw [accepted]
      exact second
  · intro name destination readable
    exact Check.logDestination_readBack readable

/-- Fields with destinations that are written in roundabout ways. -/
def Fields.sampleDestinations : Fields :=
  [("logging", .mapping [("outputs", .list
    [.mapping [("destination", .text "~/./log//x")],
      .mapping [("destination", .text "//host/../~"), ("level", .text "ERROR")],
      .mapping [("destination", .text "///a/"), ("format", .text "json")]])])]

/-- An environment that enables a language. -/
def Variables.sampleEnabling : Variables :=
  [("SNIPSCAN__LANGUAGES", "[\"cpp\"]")]

/-- A caller that names transforms out of order. -/
def Fields.sampleUnordered : Fields :=
  [("extraction", .mapping [("transforms", .ofTexts ["signature", "full"])])]

/-- The outputs of the log that these fields make. -/
def LogSettings.sampleExpanded : LogSettings where
  outputs :=
    [⟨.console, .file ⟨.single, ["home", "u", "log", "x"]⟩, none⟩,
      ⟨.console, .file ⟨.double, ["host", "..", "~"]⟩, some .error⟩,
      ⟨.json, .file ⟨.single, ["a"]⟩, none⟩]

/-- Destinations with homes and roundabout paths, a language from the environment and transforms out
of order: the settings gathered from them pass their own check unchanged. -/
theorem settings_recheck_unchanged_sampleExpanded :
    let homes : Homes := ⟨"/home/u/", []⟩
    let gathered := Settings.gather homes .sampleEnabling .sampleDestinations .sampleUnordered
    ∃ settings, gathered = .ok settings ∧ settings.logging = .sampleExpanded ∧
      settings.recheck homes = .ok settings ∧ settings.extraction.transforms.Nodup ∧
      Settings.resolve homes .sampleEnabling .sampleDestinations .sampleUnordered = .ok settings ∧
      ∀ output ∈ LogSettings.sampleExpanded.outputs,
        Check.logDestination homes (.text output.destination.text) = .valid output.destination := by
  intro homes gathered
  have expanded : gathered.toOption.map (·.logging) = some .sampleExpanded := by decide +kernel
  obtain ⟨settings, made, logging⟩ := Option.map_eq_some_iff.mp expanded
  have accepted := toOption_eq_some.mp made
  obtain ⟨second, destinations, ⟨distinct, _⟩, resolved, _⟩ := settings_recheck_unchanged accepted
  rw [logging] at destinations
  exact ⟨settings, accepted, logging, second, distinct, resolved, destinations⟩

end CodePrint
