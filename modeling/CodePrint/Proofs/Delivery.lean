import CodePrint.Proofs.Draining

/-! # Delivery of records

A stream can be asked for one record, for all it has left, or to close, any number of times and in
any order. What it still has to give is the outcome of draining it: each reply takes a first part of
that outcome away, until a reply ends the stream and nothing is left.
-/

namespace CodePrint

/-- What can be asked of a stream. -/
inductive StreamRequest where
  | next
  | drain
  | close
  /-- One record, after which the stream is closed. -/
  | nextAndClose
deriving DecidableEq, Repr

/-- What a stream replies. -/
inductive StreamReply where
  | pulled (pull : Pull)
  | drained (outcome : Outcome)
  | closed
deriving Repr

namespace StreamReply

/-- The records that a reply delivers. -/
def records : StreamReply → List Record
  | .pulled (.record record) => [record]
  | .drained outcome => outcome.records
  | _ => []

/-- The error that a reply delivers. -/
def error? : StreamReply → Option ScanError
  | .pulled (.failure error) => some error
  | .drained outcome => outcome.error
  | _ => none

end StreamReply

namespace StreamRequest

/-- What a stream that is over replies to a request. -/
def idleReply : StreamRequest → StreamReply
  | .next | .nextAndClose => .pulled .exhausted
  | .drain => .drained ⟨[], none⟩
  | .close => .closed

private theorem idleReply_records (request : StreamRequest) : request.idleReply.records = [] := by
  cases request <;> rfl

/-- A finished stream never answers with an error. -/
theorem idleReply_error (request : StreamRequest) : request.idleReply.error? = none := by
  cases request <;> rfl

/-- Whether a reply to a request ends the stream: it was exhausted, it failed or it was closed. Only
a record that was asked for by itself leaves the stream open. -/
def ends : StreamRequest → StreamReply → Bool
  | .next, .pulled (.record _) => false
  | _, _ => true

/-- An answer with an error ends a stream. -/
theorem ends_of_error {request : StreamRequest} {reply : StreamReply} {error : ScanError}
    (failed : reply.error? = some error) : request.ends reply = true := by
  unfold ends
  split
  · cases failed
  · rfl

end StreamRequest

namespace Stream

/-- The reply to a request, what is reported meanwhile, and the stream after it. -/
def serve (stream : Stream) : StreamRequest → StreamReply × List Event × Stream
  | .next => (.pulled stream.next.1, stream.next.2.1, stream.next.2.2)
  | .drain => (.drained stream.drain.1, stream.drain.2.1, stream.drain.2.2)
  | .close => (.closed, [], stream.close)
  | .nextAndClose => (.pulled stream.next.1, stream.next.2.1, stream.next.2.2.close)

/-- The stream after several requests. -/
def after (stream : Stream) : List StreamRequest → Stream
  | [] => stream
  | request :: rest => (stream.serve request).2.2.after rest

/-- The replies to several requests. -/
def replies (stream : Stream) : List StreamRequest → List StreamReply
  | [] => []
  | request :: rest => (stream.serve request).1 :: (stream.serve request).2.2.replies rest

/-- What is reported during several requests. -/
def reported (stream : Stream) : List StreamRequest → List Event
  | [] => []
  | request :: rest => (stream.serve request).2.1 ++ (stream.serve request).2.2.reported rest

/-- The records that several requests deliver, in order. -/
def delivered (stream : Stream) (requests : List StreamRequest) : List Record :=
  (stream.replies requests).flatMap (·.records)

/-- Whether one of several requests ended the stream. -/
def endedBy (stream : Stream) : List StreamRequest → Bool
  | [] => false
  | request :: rest =>
    request.ends (stream.serve request).1 || (stream.serve request).2.2.endedBy rest

/-- What one pull takes from what a stream had to give, and what the stream after it has left. -/
inductive Pulled (whole : Outcome) : Pull → Stream → Prop
  | record {record : Record} {rest : Stream} (taken : whole = rest.drain.1.prepend record) :
      Pulled whole (.record record) rest
  | failure {error : ScanError} {rest : Stream} (last : whole = ⟨[], some error⟩)
      (finished : rest.state = .finished) : Pulled whole (.failure error) rest
  | exhausted {rest : Stream} (nothing : whole = ⟨[], none⟩) (finished : rest.state = .finished) :
      Pulled whole .exhausted rest

/-- One pull of a running stream gives the first of what its drain would give. -/
theorem advance_pulled (stream : Stream) (tree : SyntaxTree) (pending : List LocatedItem)
    (emitted skipped : Nat) :
    Pulled (Outcome.under (pending.map (stream.settle tree)) stream.options.policy)
      (stream.advance tree pending emitted skipped).1
      { stream with state := (stream.advance tree pending emitted skipped).2.2 } := by
  induction pending generalizing emitted skipped with
  | nil => exact .exhausted Outcome.under_nil rfl
  | cons item rest ih =>
      rw [advance, List.map_cons]
      cases settled : stream.settle tree item with
      | ok record =>
          refine .record ?_
          rw [Outcome.under_ok, drain_running rfl]
          rfl
      | error error =>
          cases policy : stream.options.policy with
          | abort => exact .failure rfl rfl
          | skip =>
              have later := ih emitted (skipped + 1)
              rw [policy] at later
              exact later

/-- Asking for one record takes the first of what a drain would give. -/
theorem next_pulled (stream : Stream) :
    Pulled stream.drain.1 stream.next.1 stream.next.2.2 := by
  unfold drain next
  split
  · exact .failure rfl rfl
  · rename_i tree pending emitted skipped _ _
    dsimp only
    rw [drainItems_outcome]
    exact stream.advance_pulled tree pending emitted skipped
  · exact .exhausted rfl rfl

namespace Pulled

variable {whole : Outcome} {pull : Pull} {rest : Stream}

private theorem records_first (pulled : Pulled whole pull rest) :
    (StreamReply.pulled pull).records <+: whole.records := by
  cases pulled with
  | record taken =>
      rw [taken]
      exact ⟨_, rfl⟩
  | failure _ _ => exact List.nil_prefix
  | exhausted _ _ => exact List.nil_prefix

private theorem eq_of_error {error : ScanError} (pulled : Pulled whole pull rest)
    (failed : (StreamReply.pulled pull).error? = some error) :
    whole = ⟨(StreamReply.pulled pull).records, some error⟩ := by
  cases pulled with
  | record _ => cases failed
  | failure last _ =>
      cases failed
      exact last
  | exhausted _ _ => cases failed

/-- A pull that finds no record finds nothing left: a drain would have given no record and no
error. -/
theorem eq_of_exhausted (pulled : Pulled whole .exhausted rest) : whole = ⟨[], none⟩ := by
  cases pulled with
  | exhausted nothing _ => exact nothing

end Pulled

/-- Draining a stream finishes it. -/
theorem drain_state (stream : Stream) : stream.drain.2.2.state = .finished := by
  unfold drain
  split <;> rfl

/-- What one request takes from what a stream had to give. -/
inductive Served (whole : Outcome) (request : StreamRequest) : StreamReply → Stream → Prop
  | going {record : Record} {rest : Stream} (single : request = .next)
      (taken : whole = rest.drain.1.prepend record) :
      Served whole request (.pulled (.record record)) rest
  | ending {reply : StreamReply} {rest : Stream} (ended : request.ends reply = true)
      (finished : rest.state = .finished) (first : reply.records <+: whole.records)
      (last : ∀ error, reply.error? = some error → whole = ⟨reply.records, some error⟩)
      (nothing : reply = .pulled .exhausted → whole = ⟨[], none⟩) :
      Served whole request reply rest

/-- A stream is finished once an answer ended it. -/
theorem Served.finished_of_ends {whole : Outcome} {request : StreamRequest} {reply : StreamReply}
    {rest : Stream} (served : Served whole request reply rest)
    (ended : request.ends reply = true) : rest.state = .finished := by
  cases served with
  | going single _ =>
      rw [single] at ended
      cases ended
  | ending _ finished _ _ _ => exact finished

private theorem Served.eq_of_error {whole : Outcome} {request : StreamRequest} {reply : StreamReply}
    {rest : Stream} {error : ScanError} (served : Served whole request reply rest)
    (failed : reply.error? = some error) : whole = ⟨reply.records, some error⟩ := by
  cases served with
  | going _ _ => cases failed
  | ending _ _ _ last _ => exact last error failed

/-- A stream that says it is exhausted had nothing left to give. -/
theorem Served.eq_of_exhausted {whole : Outcome} {request : StreamRequest} {rest : Stream}
    (served : Served whole request (.pulled .exhausted) rest) : whole = ⟨[], none⟩ := by
  cases served with
  | ending _ _ _ _ nothing => exact nothing rfl

/-- Every request either takes the first record of what was left, or ends the stream. -/
theorem serve_served (stream : Stream) (request : StreamRequest) :
    Served stream.drain.1 request (stream.serve request).1 (stream.serve request).2.2 := by
  have pulled := stream.next_pulled
  cases request with
  | next =>
      change Served _ _ (.pulled stream.next.1) stream.next.2.2
      generalize stream.next.1 = pull at pulled
      cases pulled with
      | record taken => exact .going rfl taken
      | failure last finished =>
          exact .ending rfl finished List.nil_prefix
            (fun _ => (Pulled.failure last finished).eq_of_error) nofun
      | exhausted nothing finished =>
          exact .ending rfl finished List.nil_prefix nofun fun _ => nothing
  | drain =>
      refine .ending rfl stream.drain_state List.prefix_rfl (fun error failed => ?_) nofun
      rw [← failed]
      rfl
  | close => exact .ending rfl rfl List.nil_prefix nofun nofun
  | nextAndClose =>
      refine .ending rfl rfl pulled.records_first (fun _ => pulled.eq_of_error) fun exhausted => ?_
      rw [StreamReply.pulled.inj exhausted] at pulled
      exact pulled.eq_of_exhausted

/-- Nothing but the state of a stream changes when it is asked. -/
theorem serve_frame (stream : Stream) (request : StreamRequest) :
    (stream.serve request).2.2 =
      { stream with state := (stream.serve request).2.2.state } := by
  have pulled : stream.next.2.2 = { stream with state := stream.next.2.2.state } := by
    unfold next
    split <;> rfl
  cases request with
  | next => exact pulled
  | drain =>
      change stream.drain.2.2 = { stream with state := stream.drain.2.2.state }
      unfold drain
      split <;> rfl
  | close => rfl
  | nextAndClose =>
      change stream.next.2.2.close = { stream with state := .finished }
      rw [pulled]
      rfl

/-- A stream that is over says so to every request and stays over. -/
theorem serve_finished {stream : Stream} (finished : stream.state = .finished)
    (request : StreamRequest) :
    (stream.serve request).1 = request.idleReply ∧
      (stream.serve request).2.2.state = .finished := by
  have pulled : stream.next.1 = .exhausted ∧ stream.next.2.2.state = .finished := by
    rw [next, start, finished]
    exact ⟨rfl, rfl⟩
  cases request with
  | next => exact ⟨congrArg _ pulled.1, pulled.2⟩
  | drain => exact ⟨congrArg _ (drain_finished finished), stream.drain_state⟩
  | close => exact ⟨rfl, rfl⟩
  | nextAndClose => exact ⟨congrArg _ pulled.1, rfl⟩

/-- A finished stream answers every request idly, whatever came before. -/
theorem replies_finished {stream : Stream} (finished : stream.state = .finished)
    (requests : List StreamRequest) :
    stream.replies requests = requests.map StreamRequest.idleReply := by
  induction requests generalizing stream with
  | nil => rfl
  | cons request rest ih =>
      obtain ⟨idle, still⟩ := serve_finished finished request
      rw [replies, idle, ih still, List.map_cons]

private theorem after_finished {stream : Stream} (finished : stream.state = .finished)
    (requests : List StreamRequest) : (stream.after requests).state = .finished := by
  induction requests generalizing stream with
  | nil => exact finished
  | cons request rest ih => exact ih (serve_finished finished request).2

/-- A finished stream delivers nothing. -/
theorem delivered_finished {stream : Stream} (finished : stream.state = .finished)
    (requests : List StreamRequest) : stream.delivered requests = [] := by
  rw [delivered, replies_finished finished, List.flatMap_map]
  exact List.flatMap_eq_nil_iff.mpr fun request _ => request.idleReply_records

/-- What a stream delivers is what the first answer holds and then what the stream that is left
delivers. -/
theorem delivered_cons (stream : Stream) (request : StreamRequest)
    (requests : List StreamRequest) :
    stream.delivered (request :: requests) =
      (stream.serve request).1.records ++ (stream.serve request).2.2.delivered requests :=
  List.flatMap_cons

/-- However a stream is asked, what it delivers comes in order, from the first record on. -/
theorem delivered_first (stream : Stream) (requests : List StreamRequest) :
    stream.delivered requests <+: stream.drain.1.records := by
  -- Each request takes a first part of what was left, so the stream is general in the induction.
  induction requests generalizing stream with
  | nil => exact List.nil_prefix
  | cons request rest ih =>
      have served := stream.serve_served request
      have later := ih (stream.serve request).2.2
      rw [delivered_cons]
      generalize (stream.serve request).1 = reply at served
      generalize (stream.serve request).2.2 = remaining at served later
      cases served with
      | going _ taken =>
          rw [taken]
          exact List.cons_prefix_cons.mpr ⟨rfl, later⟩
      | ending _ finished first _ _ => rwa [delivered_finished finished, List.append_nil]

/-- A stream that was not ended still has all that it did not deliver. -/
theorem drain_eq_delivered_append {stream : Stream} {requests : List StreamRequest}
    (going : stream.endedBy requests = false) :
    stream.drain.1 =
      ⟨stream.delivered requests ++ (stream.after requests).drain.1.records,
        (stream.after requests).drain.1.error⟩ := by
  induction requests generalizing stream with
  | nil => rfl
  | cons request rest ih =>
      obtain ⟨unended, going⟩ := Bool.or_eq_false_iff.mp going
      have served := stream.serve_served request
      have later := ih going
      rw [delivered_cons, after]
      generalize (stream.serve request).1 = reply at served unended
      generalize (stream.serve request).2.2 = remaining at served later
      cases served with
      | going _ taken =>
          rw [taken, later]
          rfl
      | ending ended _ _ _ _ =>
          rw [ended] at unended
          cases unended

/-- A stream that an answer ended is finished and stays so. -/
theorem after_ended {stream : Stream} {requests : List StreamRequest}
    (ended : stream.endedBy requests = true) : (stream.after requests).state = .finished := by
  induction requests generalizing stream with
  | nil => cases ended
  | cons request rest ih =>
      rcases Bool.or_eq_true_iff.mp ended with now | later
      · exact after_finished ((stream.serve_served request).finished_of_ends now) rest
      · exact ih later

/-- An error comes with the last of all records. -/
theorem drain_eq_of_error {stream : Stream} {before : List StreamRequest}
    {request : StreamRequest} {error : ScanError}
    (failed : ((stream.after before).serve request).1.error? = some error) :
    stream.drain.1 =
      ⟨stream.delivered before ++ ((stream.after before).serve request).1.records,
        some error⟩ := by
  -- A stream that was ended before has no error to give, so the lossless case is the only one.
  cases ended : stream.endedBy before with
  | true =>
      rw [(serve_finished (after_ended ended) request).1, request.idleReply_error] at failed
      cases failed
  | false =>
      have last := ((stream.after before).serve_served request).eq_of_error failed
      rw [drain_eq_delivered_append ended, last]

/-- A stream that was not ended before says that it is exhausted only after it delivered all records
of a drain that ends without an error. -/
theorem drain_eq_of_exhausted {stream : Stream} {before : List StreamRequest}
    {request : StreamRequest} (going : stream.endedBy before = false)
    (exhausted : ((stream.after before).serve request).1 = .pulled .exhausted) :
    stream.drain.1 = ⟨stream.delivered before, none⟩ := by
  have served := (stream.after before).serve_served request
  rw [exhausted] at served
  rw [drain_eq_delivered_append going, served.eq_of_exhausted, List.append_nil]

end Stream

end CodePrint
