import CodePrint.Log.Event
import CodePrint.Registry

/-! # Sessions

What extractions share: the installation, the current scan identifier, a supply of fresh
identifiers, and the registry of all installed languages, which is built when it is first needed.
-/

namespace CodePrint

/-- What extractions share. -/
structure Session where
  installation : Installation := {}
  /-- The identifiers that have not been used yet, by their number. -/
  freshId : Nat → String
  /-- How many identifiers of the supply were handed out. -/
  issued : Nat := 0
  /-- The scan identifier that is set. -/
  scanId : Option String := none
  /-- The registry of all installed languages, once it is built. -/
  shared : Option Registry := none

namespace Session

/-- A fresh identifier. -/
def newScanId (session : Session) : String × Session :=
  (session.freshId session.issued, { session with issued := session.issued + 1 })

/-- An identifier counts only if it has characters. -/
def chosen? : (scanId : Option String) → Option String
  | some id => if id.isEmpty then none else some id
  | none => none

/-- Sets the scan identifier to the given one, or to a fresh one if none is given. -/
def setScanId (session : Session) (given : Option String) : String × Session :=
  match chosen? given with
  | some id => (id, { session with scanId := some id })
  | none =>
    let (id, session) := session.newScanId
    (id, { session with scanId := some id })

/-- Leaves no scan identifier set. -/
def clearScanId (session : Session) : Session :=
  { session with scanId := none }

/-- The identifier for a scan: the given one, else the one that is set, else a fresh one. -/
def resolveScanId (session : Session) (given : Option String) : String × Session :=
  match chosen? given with
  | some id => (id, session)
  | none =>
    match chosen? session.scanId with
    | some id => (id, session)
    | none => session.newScanId

/-- The registry of all installed languages, what is reported when it is built, and the session that
keeps it. -/
def defaultRegistry (session : Session) : Except ScanError Registry × List Event × Session :=
  match session.shared with
  | some registry => (.ok registry, [], session)
  | none =>
    match Registry.buildDefault session.installation with
    | (.ok registry, events) => (.ok registry, events, { session with shared := some registry })
    | (.error error, events) => (.error error, events, session)

/-- The registry for a scan: the given one, else the one of all installed languages. -/
def resolveRegistry (session : Session) :
    (given : Option Registry) → Except ScanError Registry × List Event × Session
  | some registry => (.ok registry, [], session)
  | none => session.defaultRegistry

end Session

end CodePrint
