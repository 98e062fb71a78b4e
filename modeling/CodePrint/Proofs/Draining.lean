import CodePrint.Proofs.Alike
import CodePrint.Stream

/-! # Draining streams

What a drain gives is decided by what the located items come to, in order: under one policy all the
records that can be made, under the other those before the first failure and that failure.
-/

namespace CodePrint

/-- The outcome that results in order have under a policy. -/
def Outcome.under (results : List (Except ScanError Record)) : RegionErrorPolicy → Outcome
  | .skip => ⟨results.filterMap Except.toOption, none⟩
  | .abort =>
    ⟨(results.takeWhile Except.isOk).filterMap Except.toOption, results.findSome? failure?⟩

namespace Outcome

variable {results : List (Except ScanError Record)} {policy : RegionErrorPolicy}

/-- Nothing to settle makes no record and no error. -/
theorem under_nil : under [] policy = ⟨[], none⟩ := by
  cases policy <;> rfl

/-- A record that could be made comes first, under both policies. -/
theorem under_ok (record : Record) : under (.ok record :: results) policy =
    (under results policy).prepend record := by
  cases policy <;> rfl

private theorem under_error_abort (error : ScanError) :
    under (.error error :: results) .abort = ⟨[], some error⟩ :=
  rfl

/-- Stopping at a failure gives a first part of what leaving failures out gives. -/
theorem under_abort_prefix_skip :
    (under results .abort).records <+: (under results .skip).records := by
  have initial := List.takeWhile_prefix (l := results) (·.isOk)
  exact initial.filterMap _

/-- A failure stops a stream exactly if there is a failure to be left out. -/
theorem under_abort_error_eq_none_iff :
    (under results .abort).error = none ↔ results.countP (!·.isOk) = 0 := by
  induction results with
  | nil => exact iff_of_true rfl rfl
  | cons result results ih =>
      cases result with
      | ok record => exact ih
      | error error =>
          rw [under_error_abort, List.countP_cons_of_pos rfl]
          exact iff_of_false nofun (Nat.succ_ne_zero _)

/-- Where aborting ends without an error, skipping gives the same. -/
theorem under_skip_eq_abort (clean : (under results .abort).error = none) :
    under results .skip = under results .abort := by
  induction results with
  | nil => rfl
  | cons result results ih =>
      cases result with
      | ok record => rw [under_ok, under_ok, ih clean]
      | error error => cases clean

end Outcome

/-- An event that tells of a region left out. -/
def Event.isSkip : Event → Bool
  | .extraction _ (.regionSkipped _) => true
  | _ => false

namespace Stream

variable (stream : Stream) (tree : SyntaxTree)

/-- The outcome of the pending items is the one that their results have under the policy. -/
theorem drainItems_outcome (pending : List LocatedItem) (emitted skipped : Nat) :
    (stream.drainItems tree pending emitted skipped).1 =
      Outcome.under (pending.map (stream.settle tree)) stream.options.policy := by
  induction pending generalizing emitted skipped with
  | nil => exact Outcome.under_nil.symm
  | cons item rest ih =>
      rw [drainItems, List.map_cons]
      cases settled : stream.settle tree item with
      | ok record => rw [Outcome.under_ok, ← ih (emitted + 1) skipped]
      | error error =>
          cases policy : stream.options.policy with
          | abort => rfl
          | skip =>
              have later := ih emitted (skipped + 1)
              rw [policy] at later
              exact later

/-- As many regions are reported left out as there are failures, unless a failure stops the
stream. -/
theorem drainItems_skips (policy : stream.options.policy = .skip) (pending : List LocatedItem)
    (emitted skipped : Nat) :
    (stream.drainItems tree pending emitted skipped).2.countP Event.isSkip =
      (pending.map (stream.settle tree)).countP (!·.isOk) := by
  induction pending generalizing emitted skipped with
  | nil => rfl
  | cons item rest ih =>
      rw [drainItems, List.map_cons, policy]
      cases settled : stream.settle tree item with
      | ok record =>
          rw [List.countP_cons_of_neg Bool.noConfusion]
          exact ih (emitted + 1) skipped
      | error error =>
          rw [List.countP_cons_of_pos rfl, List.countP_cons_of_pos rfl]
          exact congrArg (· + 1) (ih emitted (skipped + 1))

end Stream

/-- A stream that an extraction gives is about the document, under the options, and has not been
opened. Only its identifier depends on the session. -/
theorem Session.extract_eq_ok {session : Session} {document : Document} {options : Options}
    {registry : Option Registry} {scanId : Option String} {stream : Stream}
    (extracted : (session.extract document options registry scanId).1 = .ok stream) :
    ∃ id, stream = ⟨document, document.source.language.profile, options, id, .unopened⟩ := by
  unfold Session.extract at extracted
  split at extracted
  · cases extracted
  · dsimp only at extracted
    split at extracted
    · cases extracted
    · rename_i served checked
      cases extracted
      obtain ⟨_, _, rest⟩ := bind_eq_ok.mp checked
      obtain ⟨_, found, rest⟩ := bind_eq_ok.mp rest
      obtain ⟨_, _, made⟩ := bind_eq_ok.mp rest
      cases made
      have profile : served = document.source.language.profile := by
        unfold Registry.profile at found
        split at found
        · cases found
          rfl
        · split at found <;> cases found
      rw [profile]
      exact ⟨_, rfl⟩

/-- Where a stream is given, one is given for all options with some kinds and the same backend. -/
theorem Session.extract_withOptions {session : Session} {document : Document}
    {options options' : Options} {registry : Option Registry} {scanId : Option String}
    {stream : Stream}
    (extracted : (session.extract document options registry scanId).1 = .ok stream)
    (inhabited : options'.transforms ≠ []) (backend : options'.backend = options.backend) :
    (session.extract document options' registry scanId).1 =
      .ok { stream with options := options' } := by
  unfold Session.extract at extracted ⊢
  rw [List.isEmpty_eq_false_iff.mpr inhabited, backend]
  split at extracted
  · cases extracted
  · dsimp only [Bool.false_eq_true, ↓reduceIte] at extracted ⊢
    split at extracted
    · cases extracted
    · cases extracted
      rfl

namespace Stream

variable {stream : Stream}

/-- A drain of a stream that is under way settles all that is pending. -/
theorem drain_running {tree : SyntaxTree} {pending : List LocatedItem} {emitted skipped : Nat}
    (running : stream.state = .running tree pending emitted skipped) :
    stream.drain.1 =
      Outcome.under (pending.map (stream.settle tree)) stream.options.policy := by
  rw [← stream.drainItems_outcome tree pending emitted skipped, drain, start, running]

/-- A drain of a finished stream gives nothing. -/
theorem drain_finished (finished : stream.state = .finished) : stream.drain.1 = ⟨[], none⟩ := by
  rw [drain, start, finished]

/-- A stream over an empty source finishes at once and says that the source is empty. -/
theorem start_empty (unopened : stream.state = .unopened)
    (empty : stream.document.source.content = []) :
    stream.start = (.ok .finished, [stream.report .emptySource]) := by
  rw [start, unopened, empty]
  rfl

/-- A source that is refused at parsing stops a stream at its start, with nothing reported. -/
theorem start_unparsed (unopened : stream.state = .unopened)
    (inhabited : stream.document.source.content ≠ []) {error : ScanError}
    (refused : stream.document.parse stream.options.allowErrors = .error error) :
    stream.start = (.error error, []) := by
  rw [start, unopened, List.isEmpty_eq_false_iff.mpr inhabited, refused]
  rfl

/-- A source that parses starts a stream with everything located in it pending, and reports the
parse and then the locating. -/
theorem start_parsed (unopened : stream.state = .unopened)
    (inhabited : stream.document.source.content ≠ []) {tree : SyntaxTree}
    (parsed : stream.document.parse stream.options.allowErrors = .ok tree) :
    stream.start = (.ok (.running tree (tree.locate stream.profile) 0 0),
      tree.events stream.document.source.path ++ tree.locateEvents stream.profile) := by
  rw [start, unopened, List.isEmpty_eq_false_iff.mpr inhabited, parsed]
  rfl

/-- A drain over an empty source gives no record and no error. -/
theorem drain_empty (unopened : stream.state = .unopened)
    (empty : stream.document.source.content = []) : stream.drain.1 = ⟨[], none⟩ := by
  rw [drain, start_empty unopened empty]

/-- A drain over a source that is refused gives no record and the error of the refusal. -/
theorem drain_unparsed (unopened : stream.state = .unopened)
    (inhabited : stream.document.source.content ≠ []) {error : ScanError}
    (refused : stream.document.parse stream.options.allowErrors = .error error) :
    stream.drain.1 = ⟨[], some error⟩ := by
  rw [drain, start_unparsed unopened inhabited refused]

/-- A drain over a source that parses settles everything located in it, in order and under the
policy. -/
theorem drain_parsed (unopened : stream.state = .unopened)
    (inhabited : stream.document.source.content ≠ []) {tree : SyntaxTree}
    (parsed : stream.document.parse stream.options.allowErrors = .ok tree) :
    stream.drain.1 =
      Outcome.under ((tree.locate stream.profile).map (stream.settle tree))
        stream.options.policy := by
  rw [← stream.drainItems_outcome tree _ 0 0, drain, start_parsed unopened inhabited parsed]

end Stream

/-- Locating reports regions that were found and regions that were not. -/
theorem SyntaxTree.mem_locateEvents {tree : SyntaxTree} {profile : Profile} {event : Event}
    (member : event ∈ tree.locateEvents profile) :
    (∃ region, event = .regionLocated region) ∨
      ∃ nodeType error, event = .regionRejected nodeType error := by
  obtain ⟨keyed, _, reported⟩ := List.mem_flatMap.mp member
  cases found : keyed.finding with
  | located region =>
      rw [found] at reported
      exact .inl ⟨region, List.mem_singleton.mp reported⟩
  | rejected nodeType error =>
      rw [found] at reported
      exact .inr ⟨nodeType, error, List.mem_singleton.mp reported⟩
  | repeated region =>
      rw [found] at reported
      exact absurd reported List.not_mem_nil

/-- Neither parsing nor locating reports a region left out. -/
theorem SyntaxTree.events_skips (tree : SyntaxTree) (path : Option String) (profile : Profile) :
    (tree.events path ++ tree.locateEvents profile).countP Event.isSkip = 0 := by
  refine List.countP_eq_zero.mpr fun event member => ?_
  rcases List.mem_append.mp member with parsing | locating
  · rcases List.mem_append.mp parsing with recovered | last
    · obtain ⟨node, _, rfl⟩ := List.mem_map.mp recovered
      exact Bool.noConfusion
    · rw [List.mem_singleton.mp last]
      exact Bool.noConfusion
  · obtain ⟨region, rfl⟩ | ⟨nodeType, error, rfl⟩ := mem_locateEvents locating
    · exact Bool.noConfusion
    · exact Bool.noConfusion

private theorem Stream.drain_parsed_skips {stream : Stream} (unopened : stream.state = .unopened)
    (inhabited : stream.document.source.content ≠ []) {tree : SyntaxTree}
    (parsed : stream.document.parse stream.options.allowErrors = .ok tree)
    (policy : stream.options.policy = .skip) :
    stream.drain.2.1.countP Event.isSkip =
      ((tree.locate stream.profile).map (stream.settle tree)).countP (!·.isOk) := by
  rw [← stream.drainItems_skips tree policy _ 0 0, drain, start_parsed unopened inhabited parsed]
  dsimp only
  rw [List.countP_append, tree.events_skips, Nat.zero_add]

/-- Two streams of one document have options that differ only in the policy. An empty source gives
neither records nor an error, and a source that does not parse gives the same error to both.
Otherwise skipping never ends with an error; aborting gives the records of the items before the
first that fails, which is a first part of what skipping gives, and ends with the error of that
item; and aborting ends without an error exactly if skipping left nothing out, and then both give
the same records. -/
theorem skip_and_abort_drains {session session' : Session} {document : Document}
    {options : Options} {registry registry' : Option Registry} {scanId scanId' : Option String}
    {aborting skipping : Stream}
    (extracted : (session.extract document { options with policy := .abort } registry scanId).1 =
      .ok aborting)
    (extracted' : (session'.extract document { options with policy := .skip } registry' scanId').1 =
      .ok skipping) :
    (document.source.content = [] →
      aborting.drain.1 = ⟨[], none⟩ ∧ skipping.drain.1 = ⟨[], none⟩) ∧
    (document.source.content ≠ [] → ∀ error,
      document.parse options.allowErrors = .error error →
        aborting.drain.1 = ⟨[], some error⟩ ∧ skipping.drain.1 = ⟨[], some error⟩) ∧
    (document.source.content ≠ [] → ∀ tree, document.parse options.allowErrors = .ok tree →
      let results := (tree.locate document.source.language.profile).map (aborting.settle tree)
      skipping.drain.1.error = none ∧
      aborting.drain.1.records = (results.takeWhile Except.isOk).filterMap Except.toOption ∧
      aborting.drain.1.records <+: skipping.drain.1.records ∧
      aborting.drain.1.error = results.findSome? failure? ∧
      (aborting.drain.1.error = none ↔ skipping.drain.2.1.countP Event.isSkip = 0) ∧
      (aborting.drain.1.error = none → skipping.drain.1.records = aborting.drain.1.records)) := by
  obtain ⟨id, rfl⟩ := Session.extract_eq_ok extracted
  obtain ⟨id', rfl⟩ := Session.extract_eq_ok extracted'
  refine ⟨fun empty => ?_, fun inhabited error refused => ?_, fun inhabited tree parsed => ?_⟩
  · exact ⟨Stream.drain_empty rfl empty, Stream.drain_empty rfl empty⟩
  · exact ⟨Stream.drain_unparsed rfl inhabited refused, Stream.drain_unparsed rfl inhabited refused⟩
  · rw [Stream.drain_parsed rfl inhabited parsed, Stream.drain_parsed rfl inhabited parsed,
      Stream.drain_parsed_skips rfl inhabited parsed rfl]
    -- What an item comes to does not depend on the policy, so both drains are about one list.
    exact ⟨rfl, rfl, Outcome.under_abort_prefix_skip, rfl, Outcome.under_abort_error_eq_none_iff,
      fun clean => congrArg Outcome.records (Outcome.under_skip_eq_abort clean)⟩

/-- A function with all its parts, and behind it a function with none. -/
def Document.sampleWithFault : Document where
  source := ⟨.c, Utf8.encodeString "int f(void)\x7b\x7dg", none⟩
  parsed := some (.node ⟨"translation_unit", none, 0, 14, 0, 0, true, false⟩
    [.node ⟨"function_definition", none, 0, 13, 0, 0, true, false⟩
        [.node ⟨"function_declarator", some "declarator", 4, 11, 0, 4, true, false⟩
            [.node ⟨"parameter_list", some "parameters", 5, 11, 0, 5, true, false⟩ []],
          .node ⟨"compound_statement", some "body", 11, 13, 0, 11, true, false⟩ []],
      .node ⟨"function_definition", none, 13, 14, 0, 13, true, false⟩ []])

/-- A session with everything installed, whose fresh identifiers are all alike. -/
def Session.sample : Session where
  freshId _ := "fresh"

/-- A function and behind it one without parts: skipping goes past the fault, aborting stops there,
and both deliver the function before it. -/
theorem skip_and_abort_drains_sample :
    ∃ aborting skipping tree,
      (Session.sample.extract .sampleWithFault { policy := .abort } none none).1 = .ok aborting ∧
      (Session.sample.extract .sampleWithFault { policy := .skip } none none).1 = .ok skipping ∧
      Document.sampleWithFault.parse false = .ok tree ∧
      skipping.drain.1.error = none ∧
      aborting.drain.1.records <+: skipping.drain.1.records ∧
      (aborting.drain.1.error = none ↔ skipping.drain.2.1.countP Event.isSkip = 0) := by
  obtain ⟨aborting, extracted⟩ : ∃ aborting,
    (Session.sample.extract .sampleWithFault { policy := .abort } none none).1 = .ok aborting :=
      ⟨_, rfl⟩
  obtain ⟨skipping, extracted'⟩ : ∃ skipping,
    (Session.sample.extract .sampleWithFault { policy := .skip } none none).1 = .ok skipping :=
      ⟨_, rfl⟩
  obtain ⟨tree, parsed⟩ : ∃ tree, Document.sampleWithFault.parse false = .ok tree := ⟨_, rfl⟩
  obtain ⟨_, _, compared⟩ :=
    @skip_and_abort_drains _ _ _ {} _ _ _ _ _ _ extracted extracted'
  obtain ⟨ended, _, first, _, stopped, _⟩ := compared (by decide) tree parsed
  exact ⟨aborting, skipping, tree, extracted, extracted', parsed, ended, first, stopped⟩

/-- There is nothing to put in order where there is one finding. -/
theorem SyntaxTree.locate_single {tree : SyntaxTree} {profile : Profile} {keyed : KeyedFinding}
    (single : tree.findings profile = [keyed]) : tree.locate profile = [keyed.finding.item] := by
  unfold SyntaxTree.locate
  rw [single, List.mergeSort_singleton]
  rfl

/-- An empty source that a parser reports a function in. -/
def Document.sampleEmpty : Document where
  source := ⟨.c, [], none⟩
  parsed := some (.node ⟨"function_definition", none, 0, 0, 0, 0, true, false⟩ [])

/-- An empty source is never parsed, so what would fail in its tree does not end the stream. -/
theorem abort_error_not_always_first_failure :
    ¬∀ (session : Session) (document : Document) (options : Options) (stream : Stream)
      (tree : SyntaxTree),
      (session.extract document { options with policy := .abort } none none).1 = .ok stream →
      document.parse options.allowErrors = .ok tree →
        stream.drain.1.error =
          ((tree.locate document.source.language.profile).map (stream.settle tree)).findSome?
            failure? := by
  intro always
  let tree := Document.sampleEmpty.tree.toOption.get rfl
  have located : tree.locate Document.sampleEmpty.source.language.profile =
      [.error (.malformed "function_definition" 0 0 "no body")] :=
    (SyntaxTree.locate_single (show tree.findings _ = [_] from rfl)).trans rfl
  obtain ⟨stream, extracted⟩ : ∃ stream,
    (Session.sample.extract .sampleEmpty { policy := .abort } none none).1 = .ok stream := ⟨_, rfl⟩
  have ended := always .sample .sampleEmpty {} stream tree extracted rfl
  obtain ⟨id, rfl⟩ := Session.extract_eq_ok extracted
  rw [Stream.drain_empty rfl rfl, located] at ended
  exact Option.some_ne_none _ ended.symm

end CodePrint
