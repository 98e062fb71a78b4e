import CodePrint.Record
import CodePrint.Session
import CodePrint.Variant.Render

/-! # Streams of records

An extraction checks what can be checked without parsing and then gives a stream. The source is
parsed and its regions are located when the first record is asked for; a region is rendered when its
turn comes. A failing region is left out or ends the stream, as the options say.
-/

namespace CodePrint

/-- How far a stream has come. -/
inductive StreamState where
  | unopened
  | running (tree : SyntaxTree) (pending : List LocatedItem) (emitted skipped : Nat)
  | finished
deriving Repr

/-- A stream of the records of one document. -/
structure Stream where
  document : Document
  profile : Profile
  options : Options
  scanId : String
  state : StreamState := .unopened

/-- What asking a stream for a record gives. -/
inductive Pull where
  | record (record : Record)
  | failure (error : ScanError)
  | exhausted
deriving Repr

/-- All that a stream had to give, and the error that ended it. -/
structure Outcome where
  records : List Record
  error : Option ScanError
deriving Repr

namespace Outcome

/-- Whether no error ended the stream. -/
def isOk (outcome : Outcome) : Bool :=
  outcome.error.isNone

/-- The outcome with a record in front. -/
def prepend (record : Record) (outcome : Outcome) : Outcome :=
  { outcome with records := record :: outcome.records }

end Outcome

/-- The record of a region: every requested kind is rendered and fingerprinted. -/
def Region.record (region : Region) (tree : SyntaxTree) (source : Source) (options : Options) :
    Except ScanError Record := do
  let variants ← (region.renderAll tree options.transforms).mapError (·.toError region.range)
  let pairs := variants.map fun variant =>
    (variant, Fingerprint.ofContent options.algorithm variant.content)
  Record.assemble source region options.transforms pairs

namespace Stream

/-- Whose work the stream reports. -/
def label (stream : Stream) : ScanLabel :=
  ⟨stream.scanId, stream.document.source.language, stream.document.source.path⟩

/-- An event that the stream reports. -/
def report (stream : Stream) (event : ExtractionEvent) : Event :=
  .extraction stream.label event

/-- The record of a located item, or the error in its place. -/
def settle (stream : Stream) (tree : SyntaxTree) (item : LocatedItem) :
    Except ScanError Record := do
  let region ← item
  region.record tree stream.document.source stream.options

/-- Parses the document and locates its regions, unless that was done before. An empty source ends
the stream, and so does a document that does not parse. -/
def start (stream : Stream) : Except ScanError StreamState × List Event :=
  match stream.state with
  | .unopened =>
    if stream.document.source.content.isEmpty then (.ok .finished, [stream.report .emptySource])
    else
      match stream.document.parse stream.options.allowErrors with
      | .error error => (.error error, [])
      | .ok tree =>
        (.ok (.running tree (tree.locate stream.profile) 0 0),
          tree.events stream.document.source.path ++ tree.locateEvents stream.profile)
  | state => (.ok state, [])

/-- The next record of the pending items, what is reported on the way to it, and the state after
it. -/
def advance (stream : Stream) (tree : SyntaxTree) :
    (pending : List LocatedItem) → (emitted skipped : Nat) → Pull × List Event × StreamState
  | [], emitted, skipped => (.exhausted, [stream.report (.complete emitted skipped)], .finished)
  | item :: rest, emitted, skipped =>
    match stream.settle tree item, stream.options.policy with
    | .ok record, _ => (.record record, [], .running tree rest (emitted + 1) skipped)
    | .error error, .abort => (.failure error, [stream.report (.regionFailed error)], .finished)
    | .error error, .skip =>
      let (pull, events, state) := stream.advance tree rest emitted (skipped + 1)
      (pull, stream.report (.regionSkipped error) :: events, state)

/-- Asks the stream for its next record. -/
def next (stream : Stream) : Pull × List Event × Stream :=
  match stream.start with
  | (.error error, events) => (.failure error, events, { stream with state := .finished })
  | (.ok (.running tree pending emitted skipped), events) =>
    let (pull, later, state) := stream.advance tree pending emitted skipped
    (pull, events ++ later, { stream with state := state })
  | (.ok _, events) => (.exhausted, events, { stream with state := .finished })

/-- All records of the pending items up to an error that ends the stream. -/
def drainItems (stream : Stream) (tree : SyntaxTree) :
    (pending : List LocatedItem) → (emitted skipped : Nat) → Outcome × List Event
  | [], emitted, skipped => (⟨[], none⟩, [stream.report (.complete emitted skipped)])
  | item :: rest, emitted, skipped =>
    match stream.settle tree item, stream.options.policy with
    | .ok record, _ =>
      let (outcome, events) := stream.drainItems tree rest (emitted + 1) skipped
      (outcome.prepend record, events)
    | .error error, .abort => (⟨[], some error⟩, [stream.report (.regionFailed error)])
    | .error error, .skip =>
      let (outcome, events) := stream.drainItems tree rest emitted (skipped + 1)
      (outcome, stream.report (.regionSkipped error) :: events)

/-- Closes the stream: it has no more records. -/
def close (stream : Stream) : Stream :=
  { stream with state := .finished }

/-- Asks the stream for all records it still has. -/
def drain (stream : Stream) : Outcome × List Event × Stream :=
  match stream.start with
  | (.error error, events) => (⟨[], some error⟩, events, stream.close)
  | (.ok (.running tree pending emitted skipped), events) =>
    let (outcome, later) := stream.drainItems tree pending emitted skipped
    (outcome, events ++ later, stream.close)
  | (.ok _, events) => (⟨[], none⟩, events, stream.close)

end Stream

/-- The stream of a document. A request without transforms, a language that the registry does not
serve and a backend that is not there are refused at once, in this order. Without a registry the one
of all installed languages is used. -/
def Session.extract (session : Session) (document : Document) (options : Options)
    (registry : Option Registry) (scanId : Option String) :
    Except ScanError Stream × List Event × Session :=
  if options.transforms.isEmpty then (.error .noTransforms, [], session)
  else
    let (registry, events, session) := session.resolveRegistry registry
    let language := document.source.language
    let checked : Except ScanError Profile := do
      let registry ← registry
      let profile ← registry.profile session.installation language
      session.installation.requireBackend options.backend
      return profile
    match checked with
    | .error error => (.error error, events, session)
    | .ok profile =>
      let (id, session) := session.resolveScanId scanId
      let stream : Stream := ⟨document, profile, options, id, .unopened⟩
      let begun := stream.report (.started document.source.size options)
      (.ok stream, events ++ [begun], session)

end CodePrint
