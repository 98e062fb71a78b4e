import CodePrint.Proofs.Locating
import CodePrint.Proofs.Reports

/-! # The account of a stream

A stream logs each region that it leaves out and the error that stops it. Where it comes to the end
of its items it logs, once, how many records it gave and how many regions it left out. However it is
asked, what it logs once its source is parsed has one of three shapes (`Stream.Account`), and the
numbers it logs add up to the functions of its source.
-/

namespace CodePrint

/-- Whether a reply came to the end of a stream without an error. -/
def StreamReply.reachesEnd : StreamReply → Bool
  | .pulled .exhausted => true
  | .drained outcome => outcome.error.isNone
  | _ => false

namespace Stream

/-- One of several requests came to the end of the stream, which nothing had ended before. -/
def PulledToEnd (stream : Stream) (requests : List StreamRequest) : Prop :=
  ∃ before request later, requests = before ++ request :: later ∧
    stream.endedBy before = false ∧ ((stream.after before).serve request).1.reachesEnd = true

/-- One of several requests was answered with an error. -/
def Raises (stream : Stream) (requests : List StreamRequest) : Prop :=
  ∃ reply ∈ stream.replies requests, reply.error?.isSome = true

private theorem not_pulledToEnd_nil (stream : Stream) : ¬stream.PulledToEnd [] := by
  rintro ⟨before, request, later, split, _⟩
  cases before <;> cases split

private theorem pulledToEnd_cons {stream : Stream} {request : StreamRequest}
    {requests : List StreamRequest} :
    stream.PulledToEnd (request :: requests) ↔
      (stream.serve request).1.reachesEnd = true ∨
        request.ends (stream.serve request).1 = false ∧
          (stream.serve request).2.2.PulledToEnd requests := by
  constructor
  · rintro ⟨before, last, later, split, open', reached⟩
    cases before with
    | nil =>
        cases split
        exact .inl reached
    | cons first before =>
        cases split
        obtain ⟨going, open'⟩ := Bool.or_eq_false_iff.mp open'
        exact .inr ⟨going, before, last, later, rfl, open', reached⟩
  · rintro (reached | ⟨going, before, last, later, rfl, open', reached⟩)
    · exact ⟨[], request, requests, rfl, rfl, reached⟩
    · exact ⟨request :: before, last, later, rfl, Bool.or_eq_false_iff.mpr ⟨going, open'⟩, reached⟩

private theorem not_raises_nil (stream : Stream) : ¬stream.Raises [] := by
  rintro ⟨reply, member, _⟩
  cases member

private theorem raises_cons {stream : Stream} {request : StreamRequest}
    {requests : List StreamRequest} : stream.Raises (request :: requests) ↔
      (stream.serve request).1.error?.isSome = true ∨
        (stream.serve request).2.2.Raises requests := by
  simp only [Raises, replies, List.mem_cons, exists_eq_or_imp]

private theorem not_raises_finished {stream : Stream} (finished : stream.state = .finished)
    (requests : List StreamRequest) : ¬stream.Raises requests := by
  rintro ⟨reply, member, raised⟩
  rw [replies_finished finished] at member
  obtain ⟨request, _, rfl⟩ := List.mem_map.mp member
  rw [request.idleReply_error] at raised
  cases raised

/-! ## A stream that is over -/

private theorem reported_cons (stream : Stream) (request : StreamRequest)
    (requests : List StreamRequest) : stream.reported (request :: requests) =
      (stream.serve request).2.1 ++ (stream.serve request).2.2.reported requests :=
  rfl

/-- What a stream reports over two stretches of requests is what it reports over the first and then
what the stream that is left reports over the second. -/
theorem reported_append (stream : Stream) (before later : List StreamRequest) :
    stream.reported (before ++ later) =
      stream.reported before ++ (stream.after before).reported later := by
  induction before generalizing stream with
  | nil => rfl
  | cons request before ih =>
      rw [List.cons_append, reported_cons, reported_cons, ih, List.append_assoc]
      rfl

private theorem serve_silent {stream : Stream} (finished : stream.state = .finished)
    (request : StreamRequest) : (stream.serve request).2.1 = [] := by
  have opened : stream.start = (.ok .finished, []) := by rw [start, finished]
  cases request with
  | next | nextAndClose =>
      change stream.next.2.1 = []
      rw [next, opened]
  | drain =>
      change stream.drain.2.1 = []
      rw [drain, opened]
  | close => rfl

/-- A finished stream reports nothing. -/
theorem reported_finished {stream : Stream} (finished : stream.state = .finished)
    (requests : List StreamRequest) : stream.reported requests = [] := by
  induction requests generalizing stream with
  | nil => rfl
  | cons request rest ih =>
      rw [reported_cons, serve_silent finished, ih (serve_finished finished request).2]
      rfl

/-- Closing a stream logs nothing, and neither does anything that is asked afterwards. -/
theorem reported_close (stream : Stream) (before later : List StreamRequest) :
    stream.reported (before ++ .close :: later) = stream.reported before := by
  have silent : (stream.after before).reported (.close :: later) = [] :=
    @reported_finished (stream.after before).close rfl later
  rw [reported_append, silent, List.append_nil]

private theorem reported_nextAndClose (stream : Stream) (before later : List StreamRequest) :
    stream.reported (before ++ .nextAndClose :: later) =
      stream.reported (before ++ [.nextAndClose]) := by
  have silent : ((stream.after before).serve .nextAndClose).2.2.reported later = [] :=
    reported_finished rfl later
  rw [reported_append, reported_append, reported_cons, reported_cons, silent]
  rfl

/-! ## What a request logs -/

/-- The reports of regions that were left out, by the errors in their place. -/
def skips (stream : Stream) (errors : List ScanError) : List Event :=
  errors.map fun error => stream.report (.regionSkipped error)

/-- What a stream with pending items logs for a request, by its reply, and the state it comes to.
Regions are left out only where the policy says so, and no item is passed over without being
counted. -/
inductive Worked (stream : Stream) (request : StreamRequest) (tree : SyntaxTree)
    (pending : List LocatedItem) (emitted skipped : Nat) :
    StreamReply → List Event → StreamState → Prop
  | going (passed : List ScanError) (record : Record) (rest : List LocatedItem)
      (single : request = .next) (lenient : passed = [] ∨ stream.options.policy = .skip)
      (count : rest.length + 1 + passed.length = pending.length) :
      Worked stream request tree pending emitted skipped (.pulled (.record record))
        (stream.skips passed) (.running tree rest (emitted + 1) (skipped + passed.length))
  | closed {reply : StreamReply} (passed : List ScanError) (ended : request.ends reply = true)
      (lenient : passed = [] ∨ stream.options.policy = .skip)
      (short : reply.reachesEnd = false) (unraised : reply.error? = none) :
      Worked stream request tree pending emitted skipped reply (stream.skips passed) .finished
  | stopped {reply : StreamReply} (error : ScanError) (aborts : stream.options.policy = .abort)
      (short : reply.reachesEnd = false) (raised : reply.error? = some error) :
      Worked stream request tree pending emitted skipped reply
        [stream.report (.regionFailed error)] .finished
  | completed {reply : StreamReply} (passed : List ScanError)
      (lenient : passed = [] ∨ stream.options.policy = .skip)
      (reached : reply.reachesEnd = true) (unraised : reply.error? = none)
      (count : reply.records.length + passed.length = pending.length) :
      Worked stream request tree pending emitted skipped reply
        (stream.skips passed ++
          [stream.report (.complete (emitted + reply.records.length) (skipped + passed.length))])
        .finished

namespace Worked

variable {stream : Stream} {request : StreamRequest} {tree : SyntaxTree}
  {rest : List LocatedItem} {emitted skipped : Nat} {reply : StreamReply} {events : List Event}
  {state : StreamState}

/-- An item is left out in front of the others. -/
theorem pass (worked : Worked stream request tree rest emitted (skipped + 1) reply events state)
    (skipping : stream.options.policy = .skip) (item : LocatedItem) (error : ScanError) :
    Worked stream request tree (item :: rest) emitted skipped reply
      (stream.report (.regionSkipped error) :: events) state := by
  have moved (passed : List ScanError) :
      skipped + 1 + passed.length = skipped + (error :: passed).length := by
    rw [List.length_cons]
    omega
  cases worked with
  | going passed record later single _ count =>
      rw [moved]
      refine .going (error :: passed) record later single (.inr skipping) ?_
      rw [List.length_cons, List.length_cons, ← count]
      rfl
  | closed passed ended _ short unraised =>
      exact .closed (error :: passed) ended (.inr skipping) short unraised
  | stopped _ aborts _ _ =>
      rw [skipping] at aborts
      cases aborts
  | completed passed _ reached unraised count =>
      rw [moved]
      refine .completed (error :: passed) (.inr skipping) reached unraised ?_
      rw [List.length_cons, List.length_cons, ← count]
      rfl

/-- A drain gives a record in front of the others. -/
theorem give {outcome : Outcome}
    (worked : Worked stream .drain tree rest (emitted + 1) skipped (.drained outcome) events
      .finished) (item : LocatedItem) (record : Record) :
    Worked stream .drain tree (item :: rest) emitted skipped (.drained (outcome.prepend record))
      events .finished := by
  generalize given : StreamReply.drained outcome = reply at worked
  generalize last : StreamState.finished = state at worked
  cases worked with
  | going _ _ _ single _ _ => cases single
  | closed passed ended lenient short unraised =>
      subst given
      exact .closed passed ended lenient short unraised
  | stopped error aborts short raised =>
      subst given
      exact .stopped error aborts short raised
  | completed passed lenient reached unraised count =>
      subst given
      have moved : emitted + 1 + outcome.records.length =
          emitted + (StreamReply.drained (outcome.prepend record)).records.length := by
        change _ = emitted + (outcome.records.length + 1)
        omega
      change Worked _ _ _ _ _ _ _ (_ ++ [stream.report (.complete (emitted + 1 +
        outcome.records.length) _)]) _
      rw [moved]
      refine .completed passed lenient reached unraised ?_
      change outcome.records.length + passed.length = rest.length at count
      change outcome.records.length + 1 + passed.length = rest.length + 1
      omega

/-- Whatever state one record leaves a stream in, it can be closed after it. -/
theorem close (worked : Worked stream .next tree rest emitted skipped reply events state) :
    Worked stream .nextAndClose tree rest emitted skipped reply events .finished := by
  cases worked with
  | going passed record later _ lenient _ => exact .closed passed rfl lenient rfl rfl
  | closed passed _ lenient short unraised => exact .closed passed rfl lenient short unraised
  | stopped error aborts short raised => exact .stopped error aborts short raised
  | completed passed lenient reached unraised count =>
      exact .completed passed lenient reached unraised count

end Worked

/-- One pull logs what its reply calls for, and counts every item it passes over. -/
theorem advance_worked (stream : Stream) (tree : SyntaxTree) (pending : List LocatedItem)
    (emitted skipped : Nat) :
    Worked stream .next tree pending emitted skipped
      (.pulled (stream.advance tree pending emitted skipped).1)
      (stream.advance tree pending emitted skipped).2.1
      (stream.advance tree pending emitted skipped).2.2 := by
  induction pending generalizing emitted skipped with
  | nil => exact .completed [] (.inl rfl) rfl rfl rfl
  | cons item rest ih =>
      rw [advance]
      cases stream.settle tree item with
      | ok record => exact .going [] record rest rfl (.inl rfl) rfl
      | error error =>
          cases policy : stream.options.policy with
          | abort => exact .stopped error policy rfl rfl
          | skip => exact (ih emitted (skipped + 1)).pass policy item error

/-- A drain logs what its reply calls for, with everything pending counted. -/
theorem drainItems_worked (stream : Stream) (tree : SyntaxTree) (pending : List LocatedItem)
    (emitted skipped : Nat) :
    Worked stream .drain tree pending emitted skipped
      (.drained (stream.drainItems tree pending emitted skipped).1)
      (stream.drainItems tree pending emitted skipped).2 .finished := by
  induction pending generalizing emitted skipped with
  | nil => exact .completed [] (.inl rfl) rfl rfl rfl
  | cons item rest ih =>
      rw [drainItems]
      cases stream.settle tree item with
      | ok record => exact (ih (emitted + 1) skipped).give item record
      | error error =>
          cases policy : stream.options.policy with
          | abort => exact .stopped error policy rfl rfl
          | skip => exact (ih emitted (skipped + 1)).pass policy item error

/-- What is logged when a stream is opened comes before the work for the request. -/
theorem serve_worked {stream : Stream} {tree : SyntaxTree} {pending : List LocatedItem}
    {emitted skipped : Nat} {opening : List Event}
    (started : stream.start = (.ok (.running tree pending emitted skipped), opening))
    (request : StreamRequest) :
    ∃ first events, (first = [] ∨ first = opening) ∧
      (stream.serve request).2.1 = first ++ events ∧
      Worked stream request tree pending emitted skipped (stream.serve request).1 events
        (stream.serve request).2.2.state := by
  have advanced := stream.advance_worked tree pending emitted skipped
  cases request with
  | next =>
      simp only [serve, next, started]
      exact ⟨opening, _, .inr rfl, rfl, advanced⟩
  | drain =>
      simp only [serve, drain, started]
      exact ⟨opening, _, .inr rfl, rfl, stream.drainItems_worked tree pending emitted skipped⟩
  | close => exact ⟨[], [], .inl rfl, rfl, .closed [] rfl (.inl rfl) rfl rfl⟩
  | nextAndClose =>
      simp only [serve, next, started]
      exact ⟨opening, _, .inr rfl, rfl, advanced.close⟩

/-! ## What several requests log -/

/-- What several requests to a stream with pending items log, one of three: some regions were left
out and the end was not reached, an error stopped the stream, or the end was reached and all items
are accounted for. -/
inductive Account (stream : Stream) (due emitted skipped : Nat) (requests : List StreamRequest)
    (log : List Event) : Prop
  | unsettled (passed : List ScanError) (lenient : passed = [] ∨ stream.options.policy = .skip)
      (logged : log = stream.skips passed)
      (short : ¬stream.PulledToEnd requests) (unraised : ¬stream.Raises requests)
  | stopped (error : ScanError) (aborts : stream.options.policy = .abort)
      (logged : log = [stream.report (.regionFailed error)])
      (short : ¬stream.PulledToEnd requests) (raised : stream.Raises requests)
  | settled (passed : List ScanError) (lenient : passed = [] ∨ stream.options.policy = .skip)
      (logged : log = stream.skips passed ++
        [stream.report (.complete (emitted + (stream.delivered requests).length)
          (skipped + passed.length))])
      (balance : (stream.delivered requests).length + passed.length = due)
      (reached : stream.PulledToEnd requests) (unraised : ¬stream.Raises requests)

private theorem skips_append (stream : Stream) (first second : List ScanError) :
    stream.skips (first ++ second) = stream.skips first ++ stream.skips second :=
  List.map_append

namespace Account

variable {stream following : Stream} {request : StreamRequest} {requests : List StreamRequest}
  {due emitted skipped : Nat}

/-- A record that is asked for by itself goes in front of the account of what follows. -/
theorem prepend {passed : List ScanError} {record : Record} {state : StreamState}
    {events log : List Event}
    (account : Account { stream with state := state } due (emitted + 1) (skipped + passed.length)
      requests log)
    (lenient : passed = [] ∨ stream.options.policy = .skip)
    (served : stream.serve .next =
      (.pulled (.record record), events, { stream with state := state })) :
    Account stream (due + 1 + passed.length) emitted skipped (.next :: requests)
      (stream.skips passed ++ log) := by
  have given : stream.delivered (.next :: requests) =
      record :: Stream.delivered { stream with state := state } requests := by
    rw [delivered_cons, served]
    rfl
  have pulled : stream.PulledToEnd (.next :: requests) ↔
      Stream.PulledToEnd { stream with state := state } requests := by
    rw [pulledToEnd_cons, served]
    simp only [StreamReply.reachesEnd, StreamRequest.ends, Bool.false_eq_true, true_and, false_or]
  have raises : stream.Raises (.next :: requests) ↔
      Stream.Raises { stream with state := state } requests := by
    rw [raises_cons, served]
    simp only [StreamReply.error?, Option.isSome_none, Bool.false_eq_true, false_or]
  -- The regions left out on the way to the record come before those left out later.
  have join {later : List ScanError} (others : later = [] ∨ stream.options.policy = .skip) :
      passed ++ later = [] ∨ stream.options.policy = .skip := by
    rcases lenient with rfl | skipping
    · exact others
    · exact .inr skipping
  cases account with
  | unsettled later others logged short unraised =>
      refine .unsettled (passed ++ later) (join others) ?_ (pulled.not.mpr short)
        (raises.not.mpr unraised)
      rw [logged, skips_append]
      rfl
  | stopped error aborts logged short raised =>
      refine .stopped error aborts ?_ (pulled.not.mpr short) (raises.mpr raised)
      rcases lenient with rfl | skipping
      · rw [logged]
        rfl
      · change stream.options.policy = .abort at aborts
        rw [skipping] at aborts
        cases aborts
  | settled later others logged balance reached unraised =>
      refine .settled (passed ++ later) (join others) ?_ ?_ (pulled.mpr reached)
        (raises.not.mpr unraised)
      · have records (count : Nat) : emitted + 1 + count = emitted + (count + 1) := by omega
        rw [logged, given, List.length_cons, List.length_append, ← Nat.add_assoc skipped,
          records, skips_append, List.append_assoc]
        rfl
      · rw [given, List.length_cons, List.length_append]
        omega

/-- The account of a request and all that are asked after it. -/
theorem of_worked {tree : SyntaxTree} {pending : List LocatedItem} {reply : StreamReply}
    {reported events : List Event}
    (served : stream.serve request = (reply, reported, following))
    (worked : Worked stream request tree pending emitted skipped reply events following.state)
    (onward : ∀ {pending : List LocatedItem} {emitted skipped : Nat},
      following.state = .running tree pending emitted skipped →
        Account following pending.length emitted skipped requests (following.reported requests)) :
    Account stream pending.length emitted skipped (request :: requests)
      (events ++ following.reported requests) := by
  have frame := stream.serve_frame request
  have pulled := @pulledToEnd_cons stream request requests
  have raises := @raises_cons stream request requests
  have given := stream.delivered_cons request requests
  rw [served] at frame pulled raises given
  dsimp only at frame pulled raises given
  have silent (finished : following.state = .finished) :
      events ++ following.reported requests = events := by
    rw [reported_finished finished, List.append_nil]
  generalize landed : following.state = state at worked frame silent
  cases worked with
  | going passed record later single lenient count =>
      have account := onward landed
      rw [← count]
      subst single
      subst frame
      exact prepend account lenient served
  | closed passed ends lenient short unraised =>
      refine .unsettled passed lenient (silent rfl) ?_ ?_
      · rw [pulled, short, ends]
        exact nofun
      · rw [raises, unraised]
        exact fun raised => raised.elim nofun (not_raises_finished landed requests)
  | stopped error aborts short raised =>
      refine .stopped error aborts (silent rfl) ?_ ?_
      · rw [pulled, short, StreamRequest.ends_of_error raised]
        exact nofun
      · rw [raises, raised]
        exact .inl rfl
  | completed passed lenient reached unraised count =>
      rw [delivered_finished landed, List.append_nil] at given
      rw [← given] at count
      refine .settled passed lenient ?_ count (pulled.mpr (.inl reached)) ?_
      · rw [silent rfl, given]
      · rw [raises, unraised]
        exact fun raised => raised.elim nofun (not_raises_finished landed requests)

end Account

/-- However a stream with pending items is asked, all that it logs is accounted for. -/
theorem account {stream : Stream} {tree : SyntaxTree} {pending : List LocatedItem}
    {emitted skipped : Nat} (running : stream.state = .running tree pending emitted skipped)
    (requests : List StreamRequest) :
    Account stream pending.length emitted skipped requests (stream.reported requests) := by
  induction requests generalizing stream pending emitted skipped with
  | nil =>
      exact .unsettled [] (.inl rfl) rfl stream.not_pulledToEnd_nil stream.not_raises_nil
  | cons request rest ih =>
      have started : stream.start = (.ok (.running tree pending emitted skipped), []) := by
        rw [start, running]
      obtain ⟨first, events, opened, logged, worked⟩ := serve_worked started request
      have nothing : first = [] := opened.elim id id
      rw [reported_cons, logged, nothing]
      exact Account.of_worked rfl worked ih

/-- The same holds of a stream that its first request opens, but for what it then logs first. -/
theorem account_opening {stream : Stream} {tree : SyntaxTree} {pending : List LocatedItem}
    {emitted skipped : Nat} {opening : List Event}
    (started : stream.start = (.ok (.running tree pending emitted skipped), opening))
    (requests : List StreamRequest) :
    ∃ first log, (first = [] ∨ first = opening) ∧ stream.reported requests = first ++ log ∧
      Account stream pending.length emitted skipped requests log := by
  cases requests with
  | nil =>
      exact ⟨[], [], .inl rfl, rfl,
        .unsettled [] (.inl rfl) rfl stream.not_pulledToEnd_nil stream.not_raises_nil⟩
  | cons request rest =>
      obtain ⟨first, events, opened, logged, worked⟩ := serve_worked started request
      refine ⟨first, events ++ (stream.serve request).2.2.reported rest, opened, ?_, ?_⟩
      · rw [reported_cons, logged, List.append_assoc]
      · exact Account.of_worked rfl worked fun running => account running rest

end Stream

/-! ## The balance -/

/-- The names under which a stream logs how it goes. -/
def accountNames : List String :=
  ["region_skipped", "region_failed", "extraction_complete"]

/-- The log of several requests to a stream, against what they delivered and against the functions
that there are. -/
structure Balanced (stream : Stream) (functions : Nat) (requests : List StreamRequest)
    (log : List Event) : Prop where
  once : timesLogged "extraction_complete" log ≤ 1
  /-- The completion is logged if the end was reached without an error, and only then. -/
  completed : timesLogged "extraction_complete" log = 1 ↔ stream.PulledToEnd requests
  counted : ∀ event ∈ log, event.name = "extraction_complete" →
    Fields.get? event.values "records" = some (.ofNat (stream.delivered requests).length) ∧
    Fields.get? event.values "skipped" = some (.ofNat (timesLogged "region_skipped" log)) ∧
    (stream.delivered requests).length + timesLogged "region_skipped" log = functions
  aborting : stream.options.policy = .abort →
    timesLogged "region_skipped" log = 0 ∧
    (stream.Raises requests → timesLogged "region_failed" log = 1) ∧
    (¬stream.Raises requests → timesLogged "region_failed" log = 0)
  skipping : stream.options.policy = .skip → timesLogged "region_failed" log = 0

namespace Stream

private theorem timesLogged_report (stream : Stream) (name : String) (event : ExtractionEvent) :
    timesLogged name [stream.report event] = if event.name = name then 1 else 0 := by
  rw [timesLogged, List.countP_singleton]
  simp only [beq_iff_eq]
  rfl

private theorem timesLogged_skips (stream : Stream) (name : String) (passed : List ScanError) :
    timesLogged name (stream.skips passed) =
      if name = "region_skipped" then passed.length else 0 := by
  split
  · rename_i same
    rw [timesLogged, skips, List.countP_map, List.countP_eq_length]
    exact fun error _ => beq_iff_eq.mpr same.symm
  · rename_i different
    refine timesLogged_eq_zero fun event member same => different ?_
    obtain ⟨error, _, rfl⟩ := List.mem_map.mp member
    exact same.symm

private theorem Account.balanced {stream : Stream} {functions : Nat} {requests : List StreamRequest}
    {others log : List Event} (account : Account stream functions 0 0 requests log)
    (unrelated : ∀ event ∈ others, event.name ∉ accountNames) :
    Balanced stream functions requests (others ++ log) := by
  have times (name : String) (known : name ∈ accountNames) :
      timesLogged name (others ++ log) = timesLogged name log := by
    rw [timesLogged_append, timesLogged_eq_zero, Nat.zero_add]
    rintro event member rfl
    exact unrelated event member known
  have skips := times "region_skipped" (by decide)
  have failures := times "region_failed" (by decide)
  have completions := times "extraction_complete" (by decide)
  have strict {passed : List ScanError} (lenient : passed = [] ∨ stream.options.policy = .skip)
      (aborts : stream.options.policy = .abort) : passed.length = 0 := by
    rcases lenient with rfl | skipping
    · rfl
    · rw [skipping] at aborts
      cases aborts
  have incomplete (none : timesLogged "extraction_complete" (others ++ log) = 0) {event : Event}
      (member : event ∈ others ++ log) : event.name ≠ "extraction_complete" := by
    intro named
    exact Nat.ne_of_gt (timesLogged_pos member named) none
  cases account with
  | unsettled passed lenient logged short unraised =>
      subst logged
      simp only [timesLogged_skips, String.reduceEq, ↓reduceIte] at skips failures completions
      refine ⟨by omega, iff_of_false (by omega) short, ?_, ?_, fun _ => failures⟩
      · exact fun event member named => absurd named (incomplete completions member)
      · intro aborts
        rw [skips]
        exact ⟨strict lenient aborts, fun raised => absurd raised unraised, fun _ => failures⟩
  | stopped error aborts logged short raised =>
      subst logged
      simp only [timesLogged_report, ExtractionEvent.name, String.reduceEq,
        ↓reduceIte] at skips failures completions
      refine ⟨by omega, iff_of_false (by omega) short, ?_, ?_, fun skipping => ?_⟩
      · exact fun event member named => absurd named (incomplete completions member)
      · exact fun _ => ⟨skips, fun _ => failures, fun unraised => absurd raised unraised⟩
      · rw [skipping] at aborts
        cases aborts
  | settled passed lenient logged balance reached unraised =>
      subst logged
      simp only [timesLogged_append _ (stream.skips passed), timesLogged_skips, timesLogged_report,
        ExtractionEvent.name, String.reduceEq, ↓reduceIte] at skips failures completions
      refine ⟨by omega, iff_of_true completions reached, ?_, ?_, fun _ => failures⟩
      · intro event member named
        rcases List.mem_append.mp member with other | member
        · exact absurd (named ▸ by decide) (unrelated event other)
        rcases List.mem_append.mp member with skip | last
        · obtain ⟨error, _, rfl⟩ := List.mem_map.mp skip
          exact absurd named (show "region_skipped" ≠ "extraction_complete" by decide)
        · rw [List.mem_singleton.mp last, skips, Nat.zero_add, Nat.zero_add]
          exact ⟨rfl, rfl, balance⟩
      · intro aborts
        rw [skips]
        exact ⟨strict lenient aborts, fun raised => absurd raised unraised, fun _ => failures⟩

end Stream

private theorem Event.OfTree.unrelated {event : Event} (ofTree : event.OfTree) :
    event.name ∉ accountNames := by
  cases ofTree with
  | recovered => exact show "syntax_error_recovered" ∉ accountNames by decide
  | parsed => exact show "source_parsed" ∉ accountNames by decide
  | located => exact show "region_located" ∉ accountNames by decide
  | rejected => exact show "region_rejected" ∉ accountNames by decide

/-- Nothing that extracting reports has a name that the account counts. -/
theorem Session.extract_unrelated {session : Session} {document : Document} {options : Options}
    {registry : Option Registry} {scanId : Option String} {event : Event}
    (member : event ∈ (session.extract document options registry scanId).2.1) :
    event.name ∉ accountNames := by
  obtain ⟨languages, rfl⟩ | ⟨stream, _, rfl⟩ := session.extract_reports member
  · exact show "grammar_registry_ready" ∉ accountNames by decide
  · exact show "extraction_started" ∉ accountNames by decide

/-- Locating gives one item, a region or a fault, for each function node that is not bodiless. -/
theorem SyntaxTree.locate_length (tree : SyntaxTree) (profile : Profile) :
    (tree.locate profile).length = (tree.root.walk.filter fun node =>
      node.role == .function && !node.isBodiless profile).length := by
  have found := tree.findings_length profile
  rw [List.length_zipIdx] at found
  rw [← tree.functionSites_node, List.length_map, found, locate, List.length_map,
    List.length_mergeSort]

/-- A source that is not empty parses, and its stream is asked for anything, any number of times.
What was logged since the extraction balances: the completion is logged once if the end was reached
without an error, and not at all otherwise; it tells how many records were delivered and how many
regions were reported left out, which together are the functions with a body of their own. The
policy decides which failures are logged. Once it is closed, the stream logs nothing more. -/
theorem log_balances {session : Session} {document : Document} {options : Options}
    {registry : Option Registry} {scanId : Option String} {stream : Stream} {tree : SyntaxTree}
    (extracted : (session.extract document options registry scanId).1 = .ok stream)
    (inhabited : document.source.content ≠ [])
    (parsed : document.parse options.allowErrors = .ok tree) (requests : List StreamRequest) :
    Balanced stream
      (tree.root.walk.filter fun node =>
        node.role == .function && !node.isBodiless document.source.language.profile).length
      requests
      ((session.extract document options registry scanId).2.1 ++ stream.reported requests) ∧
    (∀ later, stream.reported (requests ++ .close :: later) = stream.reported requests) ∧
    ∀ later, stream.reported (requests ++ .nextAndClose :: later) =
      stream.reported (requests ++ [.nextAndClose]) := by
  refine ⟨?_, stream.reported_close requests, stream.reported_nextAndClose requests⟩
  have unrelated := @session.extract_unrelated document options registry scanId
  generalize (session.extract document options registry scanId).2.1 = begun at unrelated
  obtain ⟨id, rfl⟩ := Session.extract_eq_ok extracted
  have started := @Stream.start_parsed
    ⟨document, document.source.language.profile, options, id, .unopened⟩ rfl inhabited tree parsed
  obtain ⟨first, log, opened, reported, account⟩ := Stream.account_opening started requests
  rw [reported, ← List.append_assoc, ← tree.locate_length]
  refine account.balanced fun event member => ?_
  rcases List.mem_append.mp member with before | opening
  · exact unrelated before
  · rcases opened with rfl | rfl
    · cases opening
    · exact (SyntaxTree.events_ofTree opening).unrelated

/-- A scan that skips a fault, first asked for one record and then drained: its log balances with
two functions found. -/
theorem log_balances_sample :
    ∃ stream tree,
      (Session.sample.extract .sampleWithFault { policy := .skip } none none).1 = .ok stream ∧
      Document.sampleWithFault.source.content ≠ [] ∧
      Document.sampleWithFault.parse false = .ok tree ∧
      Balanced stream 2 [.next, .drain]
        ((Session.sample.extract .sampleWithFault { policy := .skip } none none).2.1 ++
          stream.reported [.next, .drain]) := by
  obtain ⟨stream, extracted⟩ : ∃ stream,
    (Session.sample.extract .sampleWithFault { policy := .skip } none none).1 = .ok stream :=
      ⟨_, rfl⟩
  let tree := Document.sampleWithFault.tree.toOption.get rfl
  have inhabited : Document.sampleWithFault.source.content ≠ [] := by decide
  have parsed : Document.sampleWithFault.parse false = .ok tree := rfl
  exact ⟨stream, tree, extracted, inhabited, parsed,
    (log_balances extracted inhabited parsed [.next, .drain]).1⟩

end CodePrint
