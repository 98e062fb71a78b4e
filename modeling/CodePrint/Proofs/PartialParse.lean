import CodePrint.Proofs.Containment
import CodePrint.Proofs.RecordKinds
import CodePrint.Proofs.Reports

/-! # Parsing with errors allowed

Whether syntax errors are allowed matters only for a tree that has some. Not allowed, they are all
that an extraction gives; allowed, each is reported and the regions of the same tree are extracted.
How many errors there are, and where, is read from the rows that the parser reports.
-/

namespace CodePrint

namespace RawNode

/-- The parser could not place the text of the node, or it put the node in. -/
def isFault (node : RawNode) : Bool :=
  node.type == "ERROR" || node.missing

/-- Where a reported node stands, counted from one. -/
def faultSite (node : RawNode) : FaultSite where
  line := node.row + 1
  column := node.column + 1
  facts := [("byte", .int node.start), ("missing", .bool node.missing)]

end RawNode

namespace RawTree

/-- The reported nodes that stand for syntax errors, in pre-order. -/
def faults (raw : RawTree) : List RawNode :=
  (raw.rows.map (·.node)).filter (·.isFault)

/-- The field of the root has no part in its errors. -/
theorem faults_withField (raw : RawTree) (field : Option String) :
    (raw.withField field).faults.map (·.faultSite) = raw.faults.map (·.faultSite) := by
  obtain ⟨data, children⟩ := raw
  have same : ({ data with field := field } : RawNode).isFault = data.isFault := rfl
  simp only [withField, faults, rows, List.map_cons, List.filter_cons, same]
  split <;> rfl

end RawTree

/-- The error nodes of a mirroring tree stand where the faults of the reported tree do. -/
theorem Mirrors.faultSites {raw : RawTree} {tree : SyntaxTree} (mirrors : Mirrors raw tree) :
    tree.errors.map (·.info.faultSite) = raw.faults.map (·.faultSite) := by
  rw [← raw.faults_withField none, RawTree.faults, ← mirrors.rows, mirrors.errors, List.map_map,
    List.filter_map, List.map_map]
  rfl

namespace Document

variable {source : Source} {raw : RawTree} {tree : SyntaxTree}

/-- A tree without faults is parsed, with errors allowed or not. -/
theorem parse_clean (adapted : (⟨source, some raw⟩ : Document).tree = .ok tree)
    (clean : raw.faults = []) (allowErrors : Bool) :
    (⟨source, some raw⟩ : Document).parse allowErrors = .ok tree := by
  have errors := (tree_mirrors adapted).faultSites
  rw [clean, List.map_nil, List.map_eq_nil_iff] at errors
  refine bind_eq_ok.mpr ⟨tree, adapted, ?_⟩
  rw [errors]
  rfl

/-- A tree with faults is refused when errors are not allowed, with their number and the place of
the first. -/
theorem parse_faulty (adapted : (⟨source, some raw⟩ : Document).tree = .ok tree) {first : RawNode}
    {rest : List RawNode} (faulty : raw.faults = first :: rest) :
    (⟨source, some raw⟩ : Document).parse false =
      .error (.syntaxErrors source.language.tag raw.faults.length first.faultSite) := by
  have sites := (tree_mirrors adapted).faultSites
  rw [faulty, List.map_cons, List.map_eq_cons_iff] at sites
  obtain ⟨firstError, otherErrors, errors, site, others⟩ := sites
  have count : otherErrors.length = rest.length := by
    simpa only [List.length_map] using congrArg List.length others
  refine bind_eq_error.mpr (.inr ⟨tree, adapted, ?_⟩)
  rw [errors, faulty, List.length_cons, ← count, ← site, ← (tree_eq_ok adapted).2.1]
  rfl

end Document

/-! ## What is reported -/

/-- Only parsing reports a recovered error: an extraction has events of its own. -/
theorem ExtractionEvent.name_ne_recovered (event : ExtractionEvent) :
    event.name ≠ "syntax_error_recovered" := by
  cases event <;> simp [name]

namespace Stream

/-- The errors of the tree are reported first, one by one, and no more of them afterwards. -/
theorem drain_parsed_events {stream : Stream} (unopened : stream.state = .unopened)
    (inhabited : stream.document.source.content ≠ []) {tree : SyntaxTree}
    (parsed : stream.document.parse stream.options.allowErrors = .ok tree) :
    ∃ later, stream.drain.2.1 =
        (tree.errors.map (·.info.faultSite)).map
          (.syntaxErrorRecovered tree.language stream.document.source.path) ++ later ∧
      ∀ event ∈ later, event.name ≠ "syntax_error_recovered" := by
  refine ⟨.sourceParsed tree.language tree.content.length tree.errors.length ::
    (tree.locateEvents stream.profile ++
      (stream.drainItems tree (tree.locate stream.profile) 0 0).2), ?_, ?_⟩
  · rw [drain, start_parsed unopened inhabited parsed]
    simp [SyntaxTree.events]
  · intro event member
    rcases List.mem_cons.mp member with rfl | member
    · simp [Event.name]
    rcases List.mem_append.mp member with locating | settling
    · obtain ⟨region, rfl⟩ | ⟨nodeType, error, rfl⟩ := SyntaxTree.mem_locateEvents locating
      · simp [Event.name]
      · simp [Event.name]
    · obtain ⟨reported, rfl⟩ := stream.drainItems_reports tree _ 0 0 settling
      exact reported.name_ne_recovered

/-- Once a source is parsed, what ends its stream is no error of parsing. -/
theorem drain_parsed_error {stream : Stream} (unopened : stream.state = .unopened)
    (distinct : stream.options.transforms.Nodup) {tree : SyntaxTree}
    (parsed : stream.document.parse stream.options.allowErrors = .ok tree) {error : ScanError}
    (ended : stream.drain.1.error = some error) : error.family ≠ .parsing := by
  rcases drain_error unopened ended with refused | ⟨tree', _, failing⟩
  · rw [parsed] at refused
    cases refused
  rcases failing with rejected | ⟨region, located, failed⟩
  · have fault := SyntaxTree.locate_error rejected
    cases fault <;> simp [ScanError.family]
  · obtain ⟨signed, embodied, _⟩ := SyntaxTree.locate_region located
    obtain ⟨kind, _, range, failure, _, fault, rfl⟩ :=
      Region.record_eq_error distinct signed embodied failed
    cases fault <;> simp [Failure.toError, Breakdown.toError, ScanError.family]

end Stream

/-- A source whose reported rows are in order is asked for twice under checked options, once with
syntax errors allowed and once without. If there are none, both have the same outcome. If there are
some, the strict request has no record and fails with their number and the place of the first. The
lenient one reports each of them, before anything else, and has the outcome of the regions of the
same tree, which is never an error of parsing. -/
theorem partial_parse_conservative {fields : Fields} {options : Options}
    (validated : Check.options fields = .valid options) {source : Source}
    (inhabited : source.content ≠ []) {raw : RawTree}
    (ordered : ∀ row ∈ raw.rows, row.node.Ordered) {session : Session}
    {registry : Option Registry} {scanId : Option String} {strict : Stream}
    (extracted : (session.extract ⟨source, some raw⟩ { options with allowErrors := false }
      registry scanId).1 = .ok strict) :
    (∃ lenient, (session.extract ⟨source, some raw⟩ { options with allowErrors := true }
      registry scanId).1 = .ok lenient) ∧
    ∀ session' registry' scanId' lenient,
      (Session.extract session' ⟨source, some raw⟩ { options with allowErrors := true }
        registry' scanId').1 = .ok lenient →
      (raw.faults = [] → lenient.drain.1 = strict.drain.1) ∧
      ∀ first rest, raw.faults = first :: rest →
        strict.drain.1 = ⟨[], some (.syntaxErrors source.language.tag raw.faults.length
          first.faultSite)⟩ ∧
        (∀ error, lenient.drain.1.error = some error → error.family ≠ .parsing) ∧
        (∃ later, lenient.drain.2.1 =
            (raw.faults.map (·.faultSite)).map
              (.syntaxErrorRecovered source.language source.path) ++ later ∧
          ∀ event ∈ later, event.name ≠ "syntax_error_recovered") ∧
        ∃ tree, (⟨source, some raw⟩ : Document).tree = .ok tree ∧ Mirrors raw tree ∧
          lenient.drain.1 = Outcome.under
            ((tree.locate source.language.profile).map (lenient.settle tree)) options.policy := by
  obtain ⟨requested, _⟩ := Check.options_inOrder validated
  have distinct := Check.options_nodup validated
  refine ⟨⟨_, Session.extract_withOptions extracted requested rfl⟩, ?_⟩
  intro session' registry' scanId' lenient extracted'
  obtain ⟨id, rfl⟩ := Session.extract_eq_ok extracted
  obtain ⟨id', rfl⟩ := Session.extract_eq_ok extracted'
  obtain ⟨tree, adapted⟩ := @Document.tree_of_ordered source raw ordered
  obtain ⟨_, language, _⟩ := Document.tree_eq_ok adapted
  have mirrors := Document.tree_mirrors adapted
  have parsed' := (Document.parse_allowing ⟨source, some raw⟩).trans adapted
  have drained' := @Stream.drain_parsed
    ⟨⟨source, some raw⟩, source.language.profile, { options with allowErrors := true }, id',
      .unopened⟩ rfl inhabited tree parsed'
  constructor
  · intro clean
    have parsed := Document.parse_clean adapted clean false
    rw [drained', Stream.drain_parsed rfl inhabited parsed]
    rfl
  · intro first rest faulty
    refine ⟨?_, ?_, ?_, tree, adapted, mirrors, drained'⟩
    · have refused := Document.parse_faulty adapted faulty
      exact Stream.drain_unparsed rfl inhabited refused
    · intro error ended
      exact Stream.drain_parsed_error rfl distinct parsed' ended
    · have reported := @Stream.drain_parsed_events
        ⟨⟨source, some raw⟩, source.language.profile, { options with allowErrors := true }, id',
          .unopened⟩ rfl inhabited tree parsed'
      rw [mirrors.faultSites, language] at reported
      exact reported

/-- A function, and behind it text that could not be placed with a semicolon that was put in. -/
def RawTree.sampleFaulty : RawTree :=
  .node ⟨"translation_unit", none, 0, 7, 0, 0, true, false⟩
    [.node ⟨"function_definition", none, 0, 5, 0, 0, true, false⟩
        [.node ⟨"function_declarator", some "declarator", 0, 3, 0, 0, true, false⟩
            [.node ⟨"parameter_list", some "parameters", 1, 3, 0, 1, true, false⟩ []],
          .node ⟨"compound_statement", some "body", 3, 5, 0, 3, true, false⟩ []],
      .node ⟨"ERROR", none, 6, 7, 1, 0, true, false⟩
        [.node ⟨";", none, 7, 7, 1, 1, false, true⟩ []]]

/-- A source with text that could not be placed and a semicolon put in: a strict drain is refused
with the first of them, a lenient one reports both and then settles the function. -/
theorem partial_parse_conservative_sampleFaulty :
    let source : Source := ⟨.c, Utf8.encodeString "f()\x7b\x7d\n@", none⟩
    let error : FaultSite := ⟨2, 1, [("byte", .int 6), ("missing", .bool false)]⟩
    let missing : FaultSite := ⟨2, 2, [("byte", .int 7), ("missing", .bool true)]⟩
    ∃ strict lenient later tree,
      Check.options [] = .valid {} ∧
      (Session.sample.extract ⟨source, some .sampleFaulty⟩ { allowErrors := false } none none).1 =
        .ok strict ∧
      (Session.sample.extract ⟨source, some .sampleFaulty⟩ { allowErrors := true } none none).1 =
        .ok lenient ∧
      strict.drain.1 = ⟨[], some (.syntaxErrors "c" 2 error)⟩ ∧
      lenient.drain.2.1 =
        [.syntaxErrorRecovered .c none error, .syntaxErrorRecovered .c none missing] ++ later ∧
      (∀ event ∈ later, event.name ≠ "syntax_error_recovered") ∧
      (⟨source, some .sampleFaulty⟩ : Document).tree = .ok tree ∧
      lenient.drain.1 =
        Outcome.under ((tree.locate Language.c.profile).map (lenient.settle tree)) .abort := by
  intro source error missing
  have validated : Check.options [] = .valid {} := rfl
  have inhabited : source.content ≠ [] := by decide
  have ordered : ∀ row ∈ RawTree.sampleFaulty.rows, row.node.Ordered := by decide
  obtain ⟨strict, extracted⟩ : ∃ strict,
    (Session.sample.extract ⟨source, some .sampleFaulty⟩ { allowErrors := false } none none).1 =
      .ok strict := ⟨_, rfl⟩
  obtain ⟨⟨lenient, extracted'⟩, compared⟩ :=
    partial_parse_conservative validated inhabited ordered extracted
  obtain ⟨refused, _, ⟨later, reported, silent⟩, tree, adapted, _, drained⟩ :=
    (compared _ _ _ lenient extracted').2 _ _ rfl
  exact ⟨strict, lenient, later, tree, validated, extracted, extracted', refused, reported, silent,
    adapted, drained⟩

end CodePrint
