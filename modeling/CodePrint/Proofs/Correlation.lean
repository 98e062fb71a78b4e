import CodePrint.Log.Entry
import CodePrint.Proofs.Draining
import CodePrint.Proofs.Fields
import CodePrint.Proofs.Reports
import Mathlib.Data.List.Induction

/-! # Lines of one scan

Streams of one session are asked in any order, and the identifier that is set may change between
two requests. What a stream reports of its own is logged under the identifier of the stream. What is
reported of its tree is logged under the identifier that is set at that moment, if there is one.
-/

namespace CodePrint

/-! ## Entries -/

/-- An identifier among the fields stays, and for want of one the identifier that is set is added,
if it has characters. -/
theorem LogEntry.complete_scanId (level : LogLevel) (event time : String) (context : Option String)
    (fields : Fields) :
    (LogEntry.complete level event time context fields).fields.get? "scan_id" =
      (fields.get? "scan_id").or ((Session.chosen? context).map .text) := by
  have timed : (((fields.put "event" (.text event)).put "level" (.text level.name)).put "timestamp"
      (.text time)).get? "scan_id" = fields.get? "scan_id" := by
    rw [Fields.get_put_of_ne rfl, Fields.get_put_of_ne rfl, Fields.get_put_of_ne rfl]
  unfold complete
  dsimp only
  rw [timed]
  cases Session.chosen? context with
  | none => rw [Option.map_none, Option.or_none, timed]
  | some id =>
      cases found : fields.get? "scan_id" with
      | none => exact Fields.get_put_self _ _ _
      | some value => rw [timed, found]; rfl

namespace Event

/-- The log entry of an event, at a time and with the identifier that is set. -/
def entry (event : Event) (time : String) (context : Option String) : LogEntry :=
  .ofCall (some event.logger) [] event.level event.name event.values time context

/-- A line of the log carries the last identifier its event has, and else the one that is set, if it
has characters. -/
theorem entry_scanId (event : Event) (time : String) (context : Option String) :
    (event.entry time context).fields.get? "scan_id" =
      (Fields.get? event.values.reverse "scan_id").or ((Session.chosen? context).map .text) := by
  have named (name : String) :
      Fields.get? (if name.isEmpty then [] else [("logger", .text name)]) "scan_id" = none := by
    split <;> rfl
  unfold entry LogEntry.ofCall
  rw [LogEntry.complete_scanId, Fields.get_putAll]
  congr 1
  exact (congrArg (Option.or _) (named event.logger)).trans (Option.or_none ..)

private theorem OfTree.entry_scanId {event : Event} (told : event.OfTree) (time : String)
    (context : Option String) :
    (event.entry time context).fields.get? "scan_id" = (Session.chosen? context).map .text := by
  rw [Event.entry_scanId]
  cases told <;> rfl

end Event

/-- A line of what a stream reports carries the identifier of the stream, whatever is set when it is
written. -/
theorem Stream.report_scanId (stream : Stream) (own : ExtractionEvent) (time : String)
    (context : Option String) :
    ((stream.report own).entry time context).fields.get? "scan_id" =
      some (.text stream.scanId) := by
  rw [Event.entry_scanId]
  cases own <;> rfl

/-! ## Streams side by side -/

/-- A line of the log: the place of the stream at work, the identifier that was set, and what was
reported. -/
structure Line where
  place : Nat
  context : Option String
  event : Event

/-- The entry of a line. -/
def Line.entry (line : Line) (time : String) : LogEntry :=
  line.event.entry time line.context

/-- A session with the streams extracted in it, by their places, and the lines logged so far. -/
structure Scans where
  session : Session
  streams : List Stream := []
  lines : List Line := []

/-- What may be done between two lines: a stream is extracted or asked, or the identifier that is
set changes. -/
inductive ScanAction where
  | extract (document : Document) (options : Options) (registry : Option Registry)
      (scanId : Option String)
  | ask (place : Nat) (request : StreamRequest)
  | setScanId (given : Option String)
  | clearScanId

namespace Scans

/-- The lines with those of events that the stream at a place reports now. -/
def log (scans : Scans) (place : Nat) (events : List Event) : List Line :=
  scans.lines ++ events.map (⟨place, scans.session.scanId, ·⟩)

/-- One action. A stream that is extracted takes the next place. -/
def step (scans : Scans) : ScanAction → Scans
  | .extract document options registry scanId =>
    let (extracted, events, session) := scans.session.extract document options registry scanId
    { session
      streams := scans.streams ++ extracted.toOption.toList
      lines := scans.log scans.streams.length events }
  | .ask place request =>
    match scans.streams[place]? with
    | none => scans
    | some stream =>
      let (_, events, stream) := stream.serve request
      { scans with
        streams := scans.streams.set place stream
        lines := scans.log place events }
  | .setScanId given => { scans with session := (scans.session.setScanId given).2 }
  | .clearScanId => { scans with session := scans.session.clearScanId }

/-- Actions one after the other. -/
def run (scans : Scans) (actions : List ScanAction) : Scans :=
  actions.foldl step scans

private theorem run_append (scans : Scans) (actions later : List ScanAction) :
    scans.run (actions ++ later) = (scans.run actions).run later :=
  List.foldl_append

end Scans

/-- A line tells of a registry or of a tree, or it is the own report of the stream at its place. -/
inductive Line.Placed (streams : List Stream) : Line → Prop
  | registry (place : Nat) (context : Option String) (languages : List Language) :
      Placed streams ⟨place, context, .registryReady languages⟩
  | tree {place : Nat} (context : Option String) {event : Event} (told : event.OfTree) :
      Placed streams ⟨place, context, event⟩
  | own {place : Nat} (context : Option String) {stream : Stream}
      (placed : streams[place]? = some stream) (own : ExtractionEvent) :
      Placed streams ⟨place, context, stream.report own⟩

private theorem Stream.serve_label (stream : Stream) (request : StreamRequest) :
    (stream.serve request).2.2.label = stream.label :=
  (congrArg Stream.label (stream.serve_frame request)).trans rfl

/-- Every stream has a successor at its place, with the same label. -/
def Stream.Kept (streams later : List Stream) : Prop :=
  ∀ (place : Nat) (stream : Stream), streams[place]? = some stream →
    ∃ successor, later[place]? = some successor ∧ successor.label = stream.label

private theorem Line.Placed.keep {streams later : List Stream} {line : Line}
    (placed : line.Placed streams) (kept : Stream.Kept streams later) : line.Placed later := by
  cases placed with
  | registry place context languages => exact .registry place context languages
  | tree context told => exact .tree context told
  | @own place context stream placed own =>
      obtain ⟨successor, found, labelled⟩ := kept place stream placed
      have same : stream.report own = successor.report own := by
        rw [Stream.report, Stream.report, labelled]
      rw [same]
      exact .own context found own

namespace Scans

variable {scans : Scans}

/-- Every line is placed. -/
def Accounted (scans : Scans) : Prop :=
  ∀ line ∈ scans.lines, line.Placed scans.streams

private theorem Accounted.log (accounted : scans.Accounted) {later : List Stream} {place : Nat}
    {events : List Event} (kept : Stream.Kept scans.streams later)
    (fresh : ∀ event ∈ events, Line.Placed later ⟨place, scans.session.scanId, event⟩) :
    ∀ line ∈ scans.log place events, line.Placed later := by
  intro line member
  rcases List.mem_append.mp member with old | new
  · exact (accounted line old).keep kept
  · obtain ⟨event, reported, rfl⟩ := List.mem_map.mp new
    exact fresh event reported

private theorem step_extract (document : Document) (options : Options) (registry : Option Registry)
    (scanId : Option String) :
    (scans.step (.extract document options registry scanId)).streams = scans.streams ++
      (scans.session.extract document options registry scanId).1.toOption.toList :=
  rfl

/-- Extracting a stream keeps every line placed. -/
theorem Accounted.extract (accounted : scans.Accounted) (document : Document) (options : Options)
    (registry : Option Registry) (scanId : Option String) :
    (scans.step (.extract document options registry scanId)).Accounted := by
  refine accounted.log (fun place stream placed => ⟨stream, ?_, rfl⟩)
    fun event (reported : event ∈
      (scans.session.extract document options registry scanId).2.1) => ?_
  · rw [step_extract, List.getElem?_append_left (List.getElem?_eq_some_iff.mp placed).1, placed]
  · obtain ⟨languages, rfl⟩ | ⟨stream, extracted, rfl⟩ := scans.session.extract_reports reported
    · exact .registry _ _ languages
    · refine .own _ ?_ _
      rw [step_extract, extracted]
      exact List.getElem?_concat_length

/-- Asking a stream keeps every line placed. -/
theorem Accounted.ask (accounted : scans.Accounted) (place : Nat) (request : StreamRequest) :
    (scans.step (.ask place request)).Accounted := by
  rw [step]
  split
  · exact accounted
  next stream found =>
    have inside := (List.getElem?_eq_some_iff.mp found).1
    have successor : (scans.streams.set place (stream.serve request).2.2)[place]? =
        some (stream.serve request).2.2 := List.getElem?_set_self inside
    have labelled := stream.serve_label request
    refine accounted.log (fun other before placed => ?_) fun event reported => ?_
    · by_cases here : place = other
      · subst here
        obtain rfl := Option.some.inj (found.symm.trans placed)
        exact ⟨_, successor, labelled⟩
      · exact ⟨before, (List.getElem?_set_ne here).trans placed, rfl⟩
    · obtain told | ⟨own, rfl⟩ := stream.serve_reports reported
      · exact .tree _ told
      · have same : stream.report own = (stream.serve request).2.2.report own := by
          rw [Stream.report, Stream.report, labelled]
        rw [same]
        exact .own _ successor own

/-- Whatever is done, every line has its place. -/
theorem Accounted.step (accounted : scans.Accounted) (action : ScanAction) :
    (scans.step action).Accounted := by
  cases action with
  | extract document options registry scanId =>
      exact accounted.extract document options registry scanId
  | ask place request => exact accounted.ask place request
  | setScanId given => exact accounted
  | clearScanId => exact accounted

/-- Every line stays placed however the streams are extracted and asked. -/
theorem Accounted.run (accounted : scans.Accounted) (actions : List ScanAction) :
    (scans.run actions).Accounted := by
  induction actions generalizing scans with
  | nil => exact accounted
  | cons action rest ih => exact ih (accounted.step action)

/-- A stream is the one that was extracted last, or bears the label of one that was there. -/
theorem step_streams {action : ScanAction} {stream : Stream}
    (member : stream ∈ (scans.step action).streams) :
    (∃ old ∈ scans.streams, stream.label = old.label) ∨
      ∃ document options registry scanId, action = .extract document options registry scanId ∧
        (scans.session.extract document options registry scanId).1 = .ok stream := by
  cases action with
  | extract document options registry scanId =>
      rw [step_extract] at member
      rcases List.mem_append.mp member with old | new
      · exact .inl ⟨stream, old, rfl⟩
      · refine .inr ⟨document, options, registry, scanId, rfl, ?_⟩
        generalize (scans.session.extract document options registry scanId).1 = extracted at new ⊢
        cases extracted with
        | error error => cases new
        | ok fresh => rw [List.mem_singleton.mp new]
  | ask place request =>
      rw [step] at member
      split at member
      · exact .inl ⟨stream, member, rfl⟩
      next asked found =>
        rcases List.mem_or_eq_of_mem_set member with old | rfl
        · exact .inl ⟨stream, old, rfl⟩
        · exact .inl ⟨asked, List.mem_of_getElem? found, asked.serve_label request⟩
  | setScanId given => exact .inl ⟨stream, member, rfl⟩
  | clearScanId => exact .inl ⟨stream, member, rfl⟩

/-- A stream bears the identifier that there was for it when it was extracted in a run. -/
def Drawn (session : Session) (actions : List ScanAction) (stream : Stream) : Prop :=
  ∃ before document options registry scanId after,
    actions = before ++ .extract document options registry scanId :: after ∧
    stream.scanId = ((run { session } before).session.resolveScanId scanId).1

/-- Every stream of a run was extracted in it and bears the identifier there was for it then. -/
theorem run_drawn (session : Session) (actions : List ScanAction) :
    ∀ stream ∈ (run { session } actions).streams, Drawn session actions stream := by
  induction actions using List.reverseRecOn with
  | nil => exact fun stream member => nomatch member
  | append_singleton before action ih =>
      intro stream member
      rw [run, List.foldl_append] at member
      obtain ⟨old, listed, labelled⟩ | ⟨document, options, registry, scanId, rfl, extracted⟩ :=
        step_streams member
      · obtain ⟨first, document, options, registry, scanId, after, rfl, drawn⟩ := ih old listed
        refine ⟨first, document, options, registry, scanId, after ++ [action], ?_, ?_⟩
        · rw [List.append_assoc, List.cons_append]
        · exact (congrArg ScanLabel.scanId labelled).trans drawn
      · exact ⟨before, document, options, registry, scanId, [], rfl,
          (run { session } before).session.extract_scanId extracted⟩

end Scans

/-- In any run every line that is a stream's own carries the identifier of that stream, which is the
one given for it, else the one set when it was extracted, else a fresh one. Every other line carries
the identifier that is set when it is logged, and none if none is set or the one set is empty. -/
theorem own_lines_correlated (session : Session) (actions : List ScanAction) (time : String) :
    let scans := Scans.run { session } actions
    (∀ line ∈ scans.lines,
      (line.event.logger = "snippets.ops" → ∃ stream, scans.streams[line.place]? = some stream ∧
        (line.entry time).fields.get? "scan_id" = some (.text stream.scanId)) ∧
      (line.event.logger ≠ "snippets.ops" →
        (line.entry time).fields.get? "scan_id" = (Session.chosen? line.context).map .text)) ∧
    ∀ stream ∈ scans.streams, ∃ before document options registry scanId after,
      actions = before ++ .extract document options registry scanId :: after ∧
      let reached := (Scans.run { session } before).session
      stream.scanId = ((Session.chosen? scanId).or (Session.chosen? reached.scanId)).getD
        (reached.freshId reached.issued) := by
  intro scans
  have accounted : scans.Accounted :=
    Scans.Accounted.run (fun line member => absurd member List.not_mem_nil) actions
  refine ⟨fun line member => ?_, fun stream member => ?_⟩
  · cases accounted line member with
    | registry place context languages =>
        refine ⟨fun own => ?_, fun _ => ?_⟩
        · simp [Event.logger] at own
        · exact Event.entry_scanId ..
    | tree context told =>
        refine ⟨fun own => ?_, fun _ => told.entry_scanId time context⟩
        cases told <;> simp [Event.logger] at own
    | own context placed own =>
        exact ⟨fun _ => ⟨_, placed, Stream.report_scanId _ own time context⟩,
          fun other => absurd rfl other⟩
  · obtain ⟨before, document, options, registry, scanId, after, split, drawn⟩ :=
      Scans.run_drawn session actions stream member
    exact ⟨before, document, options, registry, scanId, after, split,
      drawn.trans (Session.resolveScanId_fst _ _)⟩

/-- What is reported when a stream is opened is logged by the request that opens it. -/
theorem Scans.opening_logged {scans : Scans} {place : Nat} {stream : Stream} {event : Event}
    (found : scans.streams[place]? = some stream) (reported : event ∈ stream.start.2) :
    ⟨place, scans.session.scanId, event⟩ ∈ (scans.step (.ask place .next)).lines := by
  have served : event ∈ (stream.serve .next).2.1 := by
    change event ∈ stream.next.2.1
    unfold Stream.next
    generalize stream.start = started at reported
    split
    · exact reported
    · exact List.mem_append_left _ reported
    · exact reported
  rw [step, found]
  exact List.mem_append_right _ (List.mem_map_of_mem served)

/-- Two streams with identifiers of their own, the second with the one that is set when it is
extracted. -/
def ScanAction.samples : List ScanAction :=
  [.extract .sampleWithFault {} none (some "a"), .setScanId (some "b"),
    .extract .sampleEmpty {} none none, .clearScanId]

/-- The streams before they are asked. -/
def Scans.sample : Scans :=
  Scans.run { session := .sample } ScanAction.samples

/-- Of two streams asked in turn after the context is cleared, a line of the second carries its own
identifier, and what is told of the first one's tree carries none. -/
theorem own_lines_correlated_sample :
    let scans := Scans.run { session := .sample }
      (ScanAction.samples ++ [.ask 1 .next, .ask 0 .next])
    let own : Line := ⟨1, none, .extraction ⟨"b", .c, none⟩ .emptySource⟩
    let told : Line := ⟨0, none, .sourceParsed .c 14 0⟩
    own ∈ scans.lines ∧ own.event.logger = "snippets.ops" ∧
    told ∈ scans.lines ∧ told.event.logger ≠ "snippets.ops" ∧
    (∃ stream, scans.streams[1]? = some stream ∧
      (own.entry "now").fields.get? "scan_id" = some (.text stream.scanId)) ∧
    (told.entry "now").fields.get? "scan_id" = none := by
  intro scans own told
  have correlated := (own_lines_correlated .sample
    (ScanAction.samples ++ [.ask 1 .next, .ask 0 .next]) "now").1
  have reached : scans = (Scans.sample.step (.ask 1 .next)).step (.ask 0 .next) :=
    Scans.run_append ..
  have opened : own ∈ (Scans.sample.step (.ask 1 .next)).lines :=
    Scans.opening_logged (show Scans.sample.streams[1]? = _ from rfl) (List.mem_singleton_self _)
  have logged : own ∈ scans.lines := by
    rw [reached]
    exact List.mem_append_left _ opened
  have logged' : told ∈ scans.lines := by
    rw [reached]
    exact Scans.opening_logged (show (Scans.sample.step (.ask 1 .next)).streams[0]? = _ from rfl)
      (List.mem_append_left _ (List.mem_singleton_self _))
  have aside : told.event.logger ≠ "snippets.ops" := by decide
  exact ⟨logged, rfl, logged', aside, (correlated own logged).1 rfl,
    (correlated told logged').2 aside⟩

/-- A line that tells of a tree may not carry the identifier of the stream at work. -/
theorem tree_lines_not_correlated :
    ¬∀ (session : Session) (actions : List ScanAction) (time : String),
      let scans := Scans.run { session } actions
      ∀ line ∈ scans.lines,
        line.event.logger ∈ ["snippets.ops", "snippets.syntax", "snippets.locator"] →
        ∃ stream, scans.streams[line.place]? = some stream ∧
          (line.entry time).fields.get? "scan_id" = some (.text stream.scanId) := by
  intro always
  have reached : Scans.run { session := .sample } (ScanAction.samples ++ [.ask 0 .next]) =
      Scans.sample.step (.ask 0 .next) := Scans.run_append ..
  have logged : (⟨0, none, .sourceParsed .c 14 0⟩ : Line) ∈
      (Scans.run { session := .sample } (ScanAction.samples ++ [.ask 0 .next])).lines := by
    rw [reached]
    exact Scans.opening_logged (show Scans.sample.streams[0]? = _ from rfl)
      (List.mem_append_left _ (List.mem_singleton_self _))
  obtain ⟨stream, -, carried⟩ := always _ _ "now" _ logged (by simp [Event.logger])
  have absent := (Event.OfTree.parsed .c 14 0).entry_scanId "now" none
  exact absurd (absent.symm.trans carried) (by simp [Session.chosen?])

end CodePrint
