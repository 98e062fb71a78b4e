import CodePrint.Proofs.Reports

/-! # The protocol of a stream

A stream parses its document for the first request, if that asks for records and there is anything
to parse, and never again. With what it delivers, this says how it behaves whatever is asked of it.
-/

namespace CodePrint

namespace Stream

/-- The stream of the same document as another parser would read it. -/
def withParsed (stream : Stream) (parsed : Option RawTree) : Stream :=
  { stream with document := { stream.document with parsed := parsed } }

/-- A request consults the parser if what it does depends on what the parser reads. -/
def Consults (stream : Stream) (request : StreamRequest) : Prop :=
  ∃ parsed, (stream.withParsed parsed).serve request ≠
    ((stream.serve request).1, (stream.serve request).2.1,
      (stream.serve request).2.2.withParsed parsed)

private theorem advance_withParsed (stream : Stream) (parsed : Option RawTree) (tree : SyntaxTree)
    (pending : List LocatedItem) (emitted skipped : Nat) :
    (stream.withParsed parsed).advance tree pending emitted skipped =
      stream.advance tree pending emitted skipped := by
  induction pending generalizing emitted skipped with
  | nil => rfl
  | cons item rest ih =>
      rw [advance, advance, ih]
      rfl

private theorem drainItems_withParsed (stream : Stream) (parsed : Option RawTree)
    (tree : SyntaxTree) (pending : List LocatedItem) (emitted skipped : Nat) :
    (stream.withParsed parsed).drainItems tree pending emitted skipped =
      stream.drainItems tree pending emitted skipped := by
  induction pending generalizing emitted skipped with
  | nil => rfl
  | cons item rest ih =>
      rw [drainItems, drainItems, ih, ih]
      rfl

private theorem next_withParsed {stream : Stream} {parsed : Option RawTree}
    (same : (stream.withParsed parsed).start = stream.start) :
    (stream.withParsed parsed).next =
      (stream.next.1, stream.next.2.1, stream.next.2.2.withParsed parsed) := by
  unfold next
  rw [same]
  split
  · rfl
  · dsimp only
    rw [advance_withParsed]
    rfl
  · rfl

private theorem drain_withParsed {stream : Stream} {parsed : Option RawTree}
    (same : (stream.withParsed parsed).start = stream.start) :
    (stream.withParsed parsed).drain =
      (stream.drain.1, stream.drain.2.1, stream.drain.2.2.withParsed parsed) := by
  unfold drain
  rw [same]
  split
  · rfl
  · dsimp only
    rw [drainItems_withParsed]
    rfl
  · rfl

private theorem start_opened {stream : Stream} (opened : stream.state ≠ .unopened) :
    stream.start = (.ok stream.state, []) := by
  unfold start
  split
  · exact absurd ‹_› opened
  · rfl

/-- A request consults the parser only to open the stream. -/
theorem not_consults_of_start {stream : Stream}
    (same : ∀ parsed, (stream.withParsed parsed).start = stream.start)
    (request : StreamRequest) : ¬stream.Consults request := by
  rintro ⟨parsed, differs⟩
  refine differs ?_
  cases request with
  | next =>
      unfold serve
      rw [next_withParsed (same parsed)]
  | drain =>
      unfold serve
      rw [drain_withParsed (same parsed)]
  | close => rfl
  | nextAndClose =>
      unfold serve
      rw [next_withParsed (same parsed)]
      rfl

private theorem close_not_consults (stream : Stream) : ¬stream.Consults .close :=
  fun ⟨_, differs⟩ => differs rfl

/-- A stream that is open consults the parser no more. -/
theorem not_consults_of_opened {stream : Stream} (opened : stream.state ≠ .unopened)
    (request : StreamRequest) : ¬stream.Consults request := by
  refine not_consults_of_start (fun parsed => ?_) request
  have opened' : (stream.withParsed parsed).state ≠ .unopened := opened
  rw [start_opened opened, start_opened opened']
  rfl

/-- A stream over an empty source is opened without consulting the parser. -/
theorem not_consults_of_empty {stream : Stream} (unopened : stream.state = .unopened)
    (empty : stream.document.source.content = []) (request : StreamRequest) :
    ¬stream.Consults request := by
  refine not_consults_of_start (fun parsed => ?_) request
  have unopened' : (stream.withParsed parsed).state = .unopened := unopened
  rw [start_empty unopened empty, start_empty unopened' empty]
  rfl

private theorem advance_opened (stream : Stream) (tree : SyntaxTree) (pending : List LocatedItem)
    (emitted skipped : Nat) :
    (stream.advance tree pending emitted skipped).2.2 ≠ .unopened := by
  induction pending generalizing emitted skipped with
  | nil => exact StreamState.noConfusion
  | cons item rest ih =>
      rw [advance]
      cases stream.settle tree item with
      | ok record => exact StreamState.noConfusion
      | error error =>
          cases stream.options.policy with
          | abort => exact StreamState.noConfusion
          | skip => exact ih emitted (skipped + 1)

/-- Once a stream was asked for anything, it is open or over. -/
theorem serve_opened (stream : Stream) (request : StreamRequest) :
    (stream.serve request).2.2.state ≠ .unopened := by
  cases request with
  | next =>
      change stream.next.2.2.state ≠ _
      unfold next
      split
      · exact nofun
      · exact stream.advance_opened _ _ _ _
      · exact nofun
  | drain =>
      change stream.drain.2.2.state ≠ _
      rw [stream.drain_state]
      exact nofun
  | close => exact nofun
  | nextAndClose => exact nofun

/-- A stream that is open stays so. -/
theorem after_opened {stream : Stream} (opened : stream.state ≠ .unopened)
    (requests : List StreamRequest) : (stream.after requests).state ≠ .unopened := by
  induction requests generalizing stream with
  | nil => exact opened
  | cons request rest ih => exact ih (stream.serve_opened request)

end Stream

/-- An event that tells of a parsed source. -/
def Event.isParse : Event → Bool
  | .sourceParsed _ _ _ => true
  | _ => false

/-- Parsing is reported once, locating reports no more of it. -/
theorem SyntaxTree.events_parses (tree : SyntaxTree) (path : Option String) (profile : Profile) :
    (tree.events path ++ tree.locateEvents profile).countP Event.isParse = 1 := by
  have recovered : ((tree.errors.map fun node =>
      Event.syntaxErrorRecovered tree.language path node.info.faultSite).countP
        Event.isParse) = 0 := by
    refine List.countP_eq_zero.mpr fun event member => ?_
    obtain ⟨node, _, rfl⟩ := List.mem_map.mp member
    exact Bool.noConfusion
  have located : (tree.locateEvents profile).countP Event.isParse = 0 := by
    refine List.countP_eq_zero.mpr fun event member => ?_
    obtain ⟨region, rfl⟩ | ⟨nodeType, error, rfl⟩ := mem_locateEvents member
    · exact Bool.noConfusion
    · exact Bool.noConfusion
  rw [List.countP_append, located, SyntaxTree.events, List.countP_append, recovered]
  rfl

/-- A node that every language reads without errors. -/
def RawTree.plainLeaf : RawTree :=
  .node ⟨"identifier", none, 0, 0, 0, 0, true, false⟩ []

private theorem Document.parse_plainLeaf (source : Source) (allowErrors : Bool) :
    ∃ tree, Document.parse ⟨source, some .plainLeaf⟩ allowErrors = .ok tree := by
  obtain ⟨language, content, path⟩ := source
  cases language <;> exact ⟨_, rfl⟩

namespace Stream

private theorem start_parses (stream : Stream) : stream.start.2.countP Event.isParse ≤ 1 := by
  unfold start
  split
  · split
    · exact Nat.zero_le 1
    · split
      · exact Nat.zero_le 1
      · exact Nat.le_of_eq (SyntaxTree.events_parses _ _ _)
  · exact Nat.zero_le 1

private theorem own_parses {stream : Stream} {events : List Event}
    (reports : ∀ event ∈ events, ∃ own, event = stream.report own) :
    events.countP Event.isParse = 0 := by
  refine List.countP_eq_zero.mpr fun event member => ?_
  obtain ⟨own, rfl⟩ := reports event member
  exact Bool.noConfusion

private theorem next_parses (stream : Stream) :
    stream.next.2.1.countP Event.isParse = stream.start.2.countP Event.isParse := by
  unfold next
  generalize stream.start = opening
  split
  · rfl
  · dsimp only
    rw [List.countP_append, own_parses fun _ => stream.advance_reports _ _ _ _, Nat.add_zero]
  · rfl

private theorem drain_parses (stream : Stream) :
    stream.drain.2.1.countP Event.isParse = stream.start.2.countP Event.isParse := by
  unfold drain
  generalize stream.start = opening
  split
  · rfl
  · dsimp only
    rw [List.countP_append, own_parses fun _ => stream.drainItems_reports _ _ _ _, Nat.add_zero]
  · rfl

/-- Every request but one to close reports parsing as opening the stream does. -/
theorem serve_parses {request : StreamRequest} (asking : request ≠ .close) (stream : Stream) :
    (stream.serve request).2.1.countP Event.isParse = stream.start.2.countP Event.isParse := by
  cases request with
  | next => exact stream.next_parses
  | drain => exact stream.drain_parses
  | close => exact absurd rfl asking
  | nextAndClose => exact stream.next_parses

/-- An answer reports no more parses than the start of its stream. -/
theorem serve_parses_le (stream : Stream) (request : StreamRequest) :
    (stream.serve request).2.1.countP Event.isParse ≤ stream.start.2.countP Event.isParse := by
  by_cases closing : request = .close
  · rw [closing]
    exact Nat.zero_le _
  · exact Nat.le_of_eq (serve_parses closing stream)

/-- A stream that is open reports no parse. -/
theorem reported_parses_of_opened {stream : Stream} (opened : stream.state ≠ .unopened)
    (requests : List StreamRequest) :
    (stream.reported requests).countP Event.isParse = 0 := by
  induction requests generalizing stream with
  | nil => rfl
  | cons request rest ih =>
      have now := stream.serve_parses_le request
      rw [start_opened opened] at now
      rw [reported, List.countP_append, ih (stream.serve_opened request)]
      exact Nat.le_zero.mp now

/-- Whatever is asked of a stream, parsing is reported at most once. -/
theorem reported_parses (stream : Stream) (requests : List StreamRequest) :
    (stream.reported requests).countP Event.isParse ≤ 1 := by
  cases requests with
  | nil => exact Nat.zero_le 1
  | cons request rest =>
      rw [reported, List.countP_append,
        reported_parses_of_opened (stream.serve_opened request) rest]
      exact Nat.le_trans (stream.serve_parses_le request) stream.start_parses

/-- What a stream has to give does not depend on its identifier. -/
theorem drain_scanId (document : Document) (profile : Profile) (options : Options)
    (id id' : String) :
    (Stream.mk document profile options id .unopened).drain.1 =
      (Stream.mk document profile options id' .unopened).drain.1 := by
  by_cases empty : document.source.content = []
  · rw [drain_empty rfl empty, drain_empty rfl empty]
  · cases read : document.parse options.allowErrors with
    | error error => rw [drain_unparsed rfl empty read, drain_unparsed rfl empty read]
    | ok tree =>
        rw [drain_parsed rfl empty read, drain_parsed rfl empty read]
        rfl

/-- The first request consults the parser, unless it closes the stream or the source is empty. -/
theorem consults_of_unopened {stream : Stream} (unopened : stream.state = .unopened)
    (inhabited : stream.document.source.content ≠ []) {request : StreamRequest}
    (asking : request ≠ .close) : stream.Consults request := by
  refine Classical.byContradiction fun indifferent => ?_
  have same (parsed : Option RawTree) : (stream.withParsed parsed).start.2.countP Event.isParse =
      (stream.serve request).2.1.countP Event.isParse := by
    have served := Classical.not_not.mp (not_exists.mp indifferent parsed)
    rw [← serve_parses asking, served]
  -- A parser that gives no tree has nothing to report, one that gives a sound tree has.
  have without : (stream.withParsed none).start.2.countP Event.isParse = 0 := by
    rw [@start_unparsed (stream.withParsed none) unopened inhabited _ rfl]
    rfl
  have within : (stream.withParsed (some .plainLeaf)).start.2.countP Event.isParse = 1 := by
    obtain ⟨tree, read⟩ :=
      Document.parse_plainLeaf stream.document.source stream.options.allowErrors
    rw [@start_parsed (stream.withParsed (some .plainLeaf)) unopened inhabited tree read,
      tree.events_parses]
  rw [same] at without within
  rw [without] at within
  cases within

end Stream

namespace Session

variable (session : Session) (document : Document) (options : Options)
  (registry : Option Registry) (scanId : Option String)

/-- An extraction does not look at what the parser reads. -/
theorem extract_withParsed (parsed : Option RawTree) :
    session.extract { document with parsed := parsed } options registry scanId =
      ((session.extract document options registry scanId).1.map (·.withParsed parsed),
        (session.extract document options registry scanId).2) := by
  unfold extract
  split
  · rfl
  · dsimp only
    split <;> rfl

/-- An extraction does not report that it parsed: all it tells of is a registry and the beginning of
its stream. -/
theorem extract_parses :
    (session.extract document options registry scanId).2.1.countP Event.isParse = 0 := by
  refine List.countP_eq_zero.mpr fun event member => ?_
  obtain ⟨languages, rfl⟩ | ⟨stream, -, rfl⟩ := session.extract_reports member
  · exact Bool.noConfusion
  · exact Bool.noConfusion

end Session

/-- How a stream behaves that has a given outcome to give, whatever is asked of it. -/
structure FollowsProtocol (whole : Outcome) (stream : Stream) : Prop where
  /-- The records come in order, from the first on, and none comes twice. -/
  first : ∀ requests, stream.delivered requests <+: whole.records
  /-- As long as the stream is open, it still has what it did not deliver. -/
  lossless : ∀ requests, stream.endedBy requests = false →
    whole = ⟨stream.delivered requests ++ (stream.after requests).drain.1.records,
      (stream.after requests).drain.1.error⟩
  /-- An error comes after all records, and no error comes after it. -/
  last : ∀ before request error,
    ((stream.after before).serve request).1.error? = some error →
      whole = ⟨stream.delivered before ++ ((stream.after before).serve request).1.records,
        some error⟩ ∧
      ∀ later, ∀ reply ∈ ((stream.after before).serve request).2.2.replies later,
        reply.error? = none
  /-- A stream that was not ended before is exhausted only when all records were delivered and there
  is no error. -/
  exhausted : ∀ before request, stream.endedBy before = false →
    ((stream.after before).serve request).1 = .pulled .exhausted →
      whole = ⟨stream.delivered before, none⟩
  /-- Once the stream was exhausted, failed or was closed, it has nothing to say. -/
  ended : ∀ before request,
    request.ends ((stream.after before).serve request).1 = true → ∀ later,
      ((stream.after before).serve request).2.2.replies later =
        later.map StreamRequest.idleReply
  /-- Only the first request consults the parser, and not if it closes the stream or the source is
  empty. -/
  consults : ∀ before request, (stream.after before).Consults request ↔
    before = [] ∧ request ≠ .close ∧ stream.document.source.content ≠ []
  /-- Parsing is reported at most once. -/
  parsesOnce : ∀ requests, (stream.reported requests).countP Event.isParse ≤ 1
  /-- Parsing is not reported if the stream is closed first. -/
  parsesLazily : ∀ requests,
    (stream.reported (.close :: requests)).countP Event.isParse = 0

namespace Stream

/-- A fresh stream consults the parser for its first request alone, unless that closes it or the
source is empty. -/
theorem consults_iff {stream : Stream} (unopened : stream.state = .unopened)
    (before : List StreamRequest) (request : StreamRequest) :
    (stream.after before).Consults request ↔
      before = [] ∧ request ≠ .close ∧ stream.document.source.content ≠ [] := by
  refine ⟨fun consults => ?_, ?_⟩
  · cases before with
    | nil =>
        refine ⟨rfl, ?_, fun empty => not_consults_of_empty unopened empty request consults⟩
        rintro rfl
        exact stream.close_not_consults consults
    | cons asked rest =>
        have opened := after_opened (stream.serve_opened asked) rest
        exact absurd consults (not_consults_of_opened opened request)
  · rintro ⟨rfl, asking, inhabited⟩
    exact consults_of_unopened unopened inhabited asking

/-- A stream that is not opened follows the protocol for what its own drain would give. -/
theorem followsProtocol {stream : Stream} (unopened : stream.state = .unopened) :
    FollowsProtocol stream.drain.1 stream where
  first := stream.delivered_first
  lossless _ := drain_eq_delivered_append
  last before request error failed := by
    refine ⟨drain_eq_of_error failed, fun later reply member => ?_⟩
    have finished := ((stream.after before).serve_served request).finished_of_ends
      (StreamRequest.ends_of_error failed)
    rw [replies_finished finished] at member
    obtain ⟨asked, _, rfl⟩ := List.mem_map.mp member
    exact asked.idleReply_error
  exhausted _ _ := drain_eq_of_exhausted
  ended before request ending :=
    replies_finished (((stream.after before).serve_served request).finished_of_ends ending)
  consults := consults_iff unopened
  parsesOnce := stream.reported_parses
  parsesLazily requests := reported_parses_of_opened (stream.serve_opened .close) requests

end Stream

/-- Whatever is asked of an extracted stream, it follows the protocol for what another stream of the
same document and options gives when it is drained at once. The extraction itself neither looks at
what the parser reads nor reports that it parsed. -/
theorem extract_followsProtocol {session session' : Session} {document : Document}
    {options : Options} {registry registry' : Option Registry} {scanId scanId' : Option String}
    {stream fresh : Stream}
    (extracted : (session.extract document options registry scanId).1 = .ok stream)
    (extracted' : (session'.extract document options registry' scanId').1 = .ok fresh) :
    FollowsProtocol fresh.drain.1 stream ∧
    (∀ parsed, session.extract { document with parsed := parsed } options registry scanId =
      (.ok (stream.withParsed parsed),
        (session.extract document options registry scanId).2)) ∧
    (session.extract document options registry scanId).2.1.countP Event.isParse = 0 := by
  refine ⟨?_, fun parsed => ?_, session.extract_parses document options registry scanId⟩
  · obtain ⟨id, rfl⟩ := Session.extract_eq_ok extracted
    obtain ⟨id', rfl⟩ := Session.extract_eq_ok extracted'
    rw [Stream.drain_scanId document _ options id' id]
    exact Stream.followsProtocol rfl
  · rw [session.extract_withParsed, extracted]
    rfl

/-- A stream over a function and a fault, under abort: it follows the protocol that a fresh drain
sets, and its first request consults the parser. -/
theorem extract_followsProtocol_sample :
    ∃ stream fresh,
      (Session.sample.extract .sampleWithFault { policy := .abort } none none).1 = .ok stream ∧
      (Session.sample.extract .sampleWithFault { policy := .abort } none (some "again")).1 =
        .ok fresh ∧
      FollowsProtocol fresh.drain.1 stream ∧ stream.Consults .nextAndClose := by
  obtain ⟨stream, extracted⟩ : ∃ stream,
    (Session.sample.extract .sampleWithFault { policy := .abort } none none).1 = .ok stream :=
      ⟨_, rfl⟩
  obtain ⟨fresh, extracted'⟩ : ∃ fresh,
    (Session.sample.extract .sampleWithFault { policy := .abort } none (some "again")).1 =
      .ok fresh := ⟨_, rfl⟩
  obtain ⟨follows, _⟩ := extract_followsProtocol extracted extracted'
  have inhabited : Document.sampleWithFault.source.content ≠ [] := by decide
  refine ⟨stream, fresh, extracted, extracted', follows, (follows.consults [] _).mpr ?_⟩
  obtain ⟨id, rfl⟩ := Session.extract_eq_ok extracted
  exact ⟨rfl, nofun, inhabited⟩

end CodePrint
