import CodePrint.Batch
import CodePrint.Proofs.Reports
import CodePrint.Proofs.StreamProtocol

/-! # Batches

What a document of a batch comes to is what it comes to alone. The documents share a session, and
all that one leaves behind for the next is the registry of the installed languages, which comes out
the same whenever it is built, and the count of identifiers handed out.
-/

namespace CodePrint

namespace Session

/-- Two sessions serve the same languages from the same registry, whether it is built or not. -/
structure ServesAs (session origin : Session) : Prop where
  installation : session.installation = origin.installation
  registry : ∀ given, (session.resolveRegistry given).1 = (origin.resolveRegistry given).1

namespace ServesAs

variable {session origin third : Session}

private theorem trans (first : third.ServesAs session) (second : session.ServesAs origin) :
    third.ServesAs origin :=
  ⟨first.installation.trans second.installation,
    fun given => (first.registry given).trans (second.registry given)⟩

private theorem symm (alike : session.ServesAs origin) : origin.ServesAs session :=
  ⟨alike.installation.symm, fun given => (alike.registry given).symm⟩

end ServesAs

variable (session : Session)

/-- Sessions that serve alike find the same profile for a document. -/
theorem ServesAs.profileFor {session origin : Session} (alike : session.ServesAs origin)
    (document : Document) (options : Options) (registry : Option Registry) :
    session.profileFor document options registry = origin.profileFor document options registry := by
  unfold Session.profileFor
  rw [alike.installation, alike.registry registry]

end Session

namespace Event.OfScan

variable {id : String} {event : Event}

end Event.OfScan

namespace Session

variable (session : Session)

section Run

variable {options : Options} {registry : Option Registry} {id : String} {session}

end Run

end Session

end CodePrint
