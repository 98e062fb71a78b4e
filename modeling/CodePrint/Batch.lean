import CodePrint.Stream

/-! # Batches

Several documents are extracted under one scan identifier. A document that fails has an outcome with
its error and does not touch the others.
-/

namespace CodePrint

/-- What the extraction of one document of a batch gave and reported. -/
structure BatchResult where
  source : Source
  outcome : Outcome
  events : List Event
deriving Repr

namespace Session

/-- The outcome of one document under a scan identifier, with all that was reported. -/
def extractWhole (session : Session) (document : Document) (options : Options)
    (registry : Option Registry) (scanId : Option String) : BatchResult × Session :=
  match session.extract document options registry scanId with
  | (.error error, events, session) => (⟨document.source, ⟨[], some error⟩, events⟩, session)
  | (.ok stream, events, session) =>
    let (outcome, later, _) := stream.drain
    (⟨document.source, outcome, events ++ later⟩, session)

end Session

end CodePrint
