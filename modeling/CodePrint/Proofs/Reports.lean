import CodePrint.Proofs.Delivery

/-! # What is reported, and by whom

An extraction reports the registry that it had to build and its own beginning. A stream reports
what it finds in its tree when it is opened; all else that it reports is its own and bears its
label.
-/

namespace CodePrint

/-- How many events of a name a log holds. -/
def timesLogged (name : String) (log : List Event) : Nat :=
  log.countP fun event => event.name == name

/-- Counting the lines of a log may be done in two parts. -/
theorem timesLogged_append (name : String) (first second : List Event) :
    timesLogged name (first ++ second) = timesLogged name first + timesLogged name second :=
  List.countP_append

/-- A name that no event has is logged zero times. -/
theorem timesLogged_eq_zero {name : String} {log : List Event}
    (absent : ∀ event ∈ log, event.name ≠ name) : timesLogged name log = 0 := by
  refine List.countP_eq_zero.mpr fun event member => ?_
  rw [beq_iff_eq]
  exact absent event member

/-- A name that some event has is logged at least once. -/
theorem timesLogged_pos {event : Event} {log : List Event} {name : String}
    (member : event ∈ log) (named : event.name = name) : 0 < timesLogged name log :=
  List.countP_pos_iff.mpr ⟨event, member, beq_iff_eq.mpr named⟩

/-- Events that tell of a tree: its errors, its size, and the functions found in it. They bear no
label. -/
inductive Event.OfTree : Event → Prop
  | recovered (language : Language) (path : Option String) (info : NodeInfo) :
      OfTree (.syntaxErrorRecovered language path info.faultSite)
  | parsed (language : Language) (size errorCount : Nat) :
      OfTree (.sourceParsed language size errorCount)
  | located (region : Region) : OfTree (.regionLocated region)
  | rejected (nodeType : String) (error : ScanError) : OfTree (.regionRejected nodeType error)

/-- All that is told of parsing and locating tells of the tree. -/
theorem SyntaxTree.events_ofTree {tree : SyntaxTree} {path : Option String} {profile : Profile}
    {event : Event} (member : event ∈ tree.events path ++ tree.locateEvents profile) :
    event.OfTree := by
  rcases List.mem_append.mp member with parsing | locating
  · rcases List.mem_append.mp parsing with recovered | last
    · obtain ⟨node, _, rfl⟩ := List.mem_map.mp recovered
      exact .recovered _ _ _
    · rw [List.mem_singleton.mp last]
      exact .parsed _ _ _
  · obtain ⟨region, rfl⟩ | ⟨nodeType, error, rfl⟩ := mem_locateEvents locating
    · exact .located region
    · exact .rejected nodeType error

namespace Stream

variable (stream : Stream)

/-- A start reports what is told of the tree or the stream's own events. -/
theorem start_reports {event : Event} (member : event ∈ stream.start.2) :
    event.OfTree ∨ ∃ own, event = stream.report own := by
  unfold start at member
  split at member
  · split at member
    · exact .inr ⟨_, List.mem_singleton.mp member⟩
    · split at member
      · cases member
      · exact .inl (SyntaxTree.events_ofTree member)
  · cases member

/-- Everything reported while pending items are advanced over is the stream's own. -/
theorem advance_reports (tree : SyntaxTree) (pending : List LocatedItem)
    (emitted skipped : Nat) {event : Event}
    (member : event ∈ (stream.advance tree pending emitted skipped).2.1) :
    ∃ own, event = stream.report own := by
  induction pending generalizing emitted skipped with
  | nil => exact ⟨_, List.mem_singleton.mp member⟩
  | cons item rest ih =>
      rw [advance] at member
      split at member
      · cases member
      · exact ⟨_, List.mem_singleton.mp member⟩
      · rcases List.mem_cons.mp member with rfl | later
        · exact ⟨_, rfl⟩
        · exact ih emitted (skipped + 1) later

/-- Everything reported while pending items are drained is the stream's own. -/
theorem drainItems_reports (tree : SyntaxTree) (pending : List LocatedItem)
    (emitted skipped : Nat) {event : Event}
    (member : event ∈ (stream.drainItems tree pending emitted skipped).2) :
    ∃ own, event = stream.report own := by
  induction pending generalizing emitted skipped with
  | nil => exact ⟨_, List.mem_singleton.mp member⟩
  | cons item rest ih =>
      rw [drainItems] at member
      split at member
      · exact ih (emitted + 1) skipped member
      · exact ⟨_, List.mem_singleton.mp member⟩
      · rcases List.mem_cons.mp member with rfl | later
        · exact ⟨_, rfl⟩
        · exact ih emitted (skipped + 1) later

/-- A pull reports what is told of the tree or the stream's own events. -/
theorem next_reports {event : Event} (member : event ∈ stream.next.2.1) :
    event.OfTree ∨ ∃ own, event = stream.report own := by
  have opening := @stream.start_reports event
  unfold next at member
  generalize stream.start = started at member opening
  split at member
  · exact opening member
  · rcases List.mem_append.mp member with first | later
    · exact opening first
    · exact .inr (stream.advance_reports _ _ _ _ later)
  · exact opening member

/-- A drain reports what is told of the tree and the stream's own events, nothing else. -/
theorem drain_reports {event : Event} (member : event ∈ stream.drain.2.1) :
    event.OfTree ∨ ∃ own, event = stream.report own := by
  have opening := @stream.start_reports event
  unfold drain at member
  generalize stream.start = started at member opening
  split at member
  · exact opening member
  · rcases List.mem_append.mp member with first | later
    · exact opening first
    · exact .inr (stream.drainItems_reports _ _ _ _ later)
  · exact opening member

/-- Whatever a stream is asked, it reports on a tree or under its own label. -/
theorem serve_reports {request : StreamRequest} {event : Event}
    (member : event ∈ (stream.serve request).2.1) :
    event.OfTree ∨ ∃ own, event = stream.report own := by
  cases request with
  | next => exact stream.next_reports member
  | drain => exact stream.drain_reports member
  | close => cases member
  | nextAndClose => exact stream.next_reports member

end Stream

namespace Session

variable (session : Session)

/-- Resolving a registry changes no more of a session than the one that it keeps. -/
theorem resolveRegistry_frame (given : Option Registry) :
    (session.resolveRegistry given).2.2 =
      { session with shared := (session.resolveRegistry given).2.2.shared } := by
  unfold resolveRegistry defaultRegistry
  split
  · rfl
  · split
    · rfl
    · split <;> rfl

/-- The profile for a document, if its language is served and the backend is there. -/
def profileFor (document : Document) (options : Options) (registry : Option Registry) :
    Except ScanError Profile := do
  let registry ← (session.resolveRegistry registry).1
  let profile ← registry.profile session.installation document.source.language
  session.installation.requireBackend options.backend
  return profile

section Extraction

variable {session} {document : Document} {options : Options} {registry : Option Registry}
  {scanId : Option String}

/-- A request without transforms is refused before anything is read, and the session stays as it
was. -/
theorem extract_bare (bare : options.transforms = []) :
    session.extract document options registry scanId = (.error .noTransforms, [], session) := by
  rw [extract, if_pos (List.isEmpty_iff.mpr bare)]

/-- A request that gets no profile is refused, with what resolving the registry reported and left in
the session. -/
theorem extract_refused (requested : options.transforms ≠ []) {error : ScanError}
    (refused : session.profileFor document options registry = .error error) :
    session.extract document options registry scanId =
      (.error error, (session.resolveRegistry registry).2) := by
  have installed := congrArg Session.installation (session.resolveRegistry_frame registry)
  unfold profileFor at refused
  rw [← installed] at refused
  rw [extract, if_neg (requested ∘ List.isEmpty_iff.mp)]
  dsimp only
  rw [refused]

/-- A request with transforms and a profile makes a stream that is not opened yet, and the only
thing reported is how the registry was resolved. -/
theorem extract_admitted (requested : options.transforms ≠ []) {profile : Profile}
    (admitted : session.profileFor document options registry = .ok profile) :
    session.extract document options registry scanId =
      let identified := (session.resolveRegistry registry).2.2.resolveScanId scanId
      let stream : Stream := ⟨document, profile, options, identified.1, .unopened⟩
      (.ok stream, (session.resolveRegistry registry).2.1 ++
        [stream.report (.started document.source.size options)], identified.2) := by
  have installed := congrArg Session.installation (session.resolveRegistry_frame registry)
  unfold profileFor at admitted
  rw [← installed] at admitted
  rw [extract, if_neg (requested ∘ List.isEmpty_iff.mp)]
  dsimp only
  rw [admitted]

end Extraction

/-- Resolving the registry reports nothing but that the registry is ready. -/
theorem resolveRegistry_reports {registry : Option Registry} {event : Event}
    (member : event ∈ (session.resolveRegistry registry).2.1) :
    ∃ languages, event = .registryReady languages := by
  have built (among : event ∈ (Registry.buildDefault session.installation).2) :
      ∃ languages, event = .registryReady languages := by
    rw [Registry.buildDefault, Registry.build_reports, Option.mem_toList] at among
    obtain ⟨registry, -, rfl⟩ := Option.map_eq_some_iff.mp among
    exact ⟨registry.languages, rfl⟩
  unfold resolveRegistry defaultRegistry at member
  generalize Registry.buildDefault session.installation = building at built member
  split at member
  · cases member
  · split at member
    · cases member
    · split at member <;> exact built member

/-- An extraction reports a registry, and the beginning of the stream that it gives. -/
theorem extract_reports {document : Document} {options : Options} {registry : Option Registry}
    {scanId : Option String} {event : Event}
    (member : event ∈ (session.extract document options registry scanId).2.1) :
    (∃ languages, event = .registryReady languages) ∨
      ∃ stream, (session.extract document options registry scanId).1 = .ok stream ∧
        event = stream.report (.started document.source.size options) := by
  by_cases bare : options.transforms = []
  · rw [extract_bare bare] at member
    cases member
  · cases admitted : session.profileFor document options registry with
    | error error =>
        rw [extract_refused bare admitted] at member
        exact .inl (session.resolveRegistry_reports member)
    | ok profile =>
        rw [extract_admitted bare admitted] at member ⊢
        rcases List.mem_append.mp member with first | last
        · exact .inl (session.resolveRegistry_reports first)
        · exact .inr ⟨_, rfl, List.mem_singleton.mp last⟩

/-- The identifier of a scan: the given one, else the one that is set, else a fresh one. -/
theorem resolveScanId_fst (given : Option String) :
    (session.resolveScanId given).1 =
      ((chosen? given).or (chosen? session.scanId)).getD (session.freshId session.issued) := by
  unfold resolveScanId
  cases chosen? given with
  | some id => rfl
  | none => cases chosen? session.scanId <;> rfl

/-- A stream bears the identifier that its session had for the scan. -/
theorem extract_scanId {document : Document} {options : Options} {registry : Option Registry}
    {scanId : Option String} {stream : Stream}
    (extracted : (session.extract document options registry scanId).1 = .ok stream) :
    stream.scanId = (session.resolveScanId scanId).1 := by
  by_cases bare : options.transforms = []
  · rw [extract_bare bare] at extracted
    cases extracted
  · cases admitted : session.profileFor document options registry with
    | error error =>
        rw [extract_refused bare admitted] at extracted
        cases extracted
    | ok profile =>
        rw [extract_admitted bare admitted] at extracted
        obtain rfl := Except.ok.inj extracted
        dsimp only
        rw [resolveScanId_fst, resolveScanId_fst, session.resolveRegistry_frame registry]

end Session

end CodePrint
