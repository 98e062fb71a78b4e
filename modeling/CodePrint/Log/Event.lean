import CodePrint.Log.Level
import CodePrint.Options
import CodePrint.Region.Locate

/-! # Events of a scan

What a scan reports while it works. An event has a level, a name, the part of the work that reports
it, and values. Only what the extraction itself reports carries the scan identifier.
-/

namespace CodePrint

/-- Whose work an event of an extraction belongs to. -/
structure ScanLabel where
  scanId : String
  language : Language
  path : Option String
deriving DecidableEq, Repr

/-- The label as named values. -/
def ScanLabel.fields (label : ScanLabel) : Fields :=
  [("scan_id", .text label.scanId), ("language", .text label.language.tag),
    ("path", .ofText? label.path)]

/-- An event of the extraction from one source. -/
inductive ExtractionEvent where
  | started (size : Nat) (options : Options)
  | emptySource
  | regionSkipped (error : ScanError)
  | regionFailed (error : ScanError)
  | complete (records skipped : Nat)
deriving Repr

namespace ExtractionEvent

/-- The level of an event. -/
def level : ExtractionEvent → LogLevel
  | .started _ _ | .emptySource => .debug
  | .regionSkipped _ | .regionFailed _ => .warning
  | .complete _ _ => .info

/-- The name of an event. -/
def name : ExtractionEvent → String
  | .started _ _ => "extraction_started"
  | .emptySource => "empty_source"
  | .regionSkipped _ => "region_skipped"
  | .regionFailed _ => "region_failed"
  | .complete _ _ => "extraction_complete"

/-- The values of an event. -/
def values : ExtractionEvent → Fields
  | .started size options =>
    [("size", .ofNat size), ("transforms", .ofTexts (options.transforms.map (·.name))),
      ("algorithm", .text options.algorithm.name), ("backend", .text options.backend.name)]
  | .emptySource => []
  | .regionSkipped error | .regionFailed error =>
    [("error", .text error.code.name), ("reason", .text error.message)]
  | .complete records skipped => [("records", .ofNat records), ("skipped", .ofNat skipped)]

end ExtractionEvent

/-- Something that a scan reports. -/
inductive Event where
  | registryReady (languages : List Language)
  | syntaxErrorRecovered (language : Language) (path : Option String) (site : FaultSite)
  | sourceParsed (language : Language) (size errorCount : Nat)
  | regionRejected (nodeType : String) (error : ScanError)
  | regionLocated (region : Region)
  | extraction (label : ScanLabel) (event : ExtractionEvent)
  | batchComplete (scanId : String) (files failed : Nat)
deriving Repr

namespace Event

/-- The level of an event. -/
def level : Event → LogLevel
  | .syntaxErrorRecovered _ _ _ => .warning
  | .extraction _ event => event.level
  | .batchComplete _ _ _ => .info
  | _ => .debug

/-- The name of an event. -/
def name : Event → String
  | .registryReady _ => "grammar_registry_ready"
  | .syntaxErrorRecovered _ _ _ => "syntax_error_recovered"
  | .sourceParsed _ _ _ => "source_parsed"
  | .regionRejected _ _ => "region_rejected"
  | .regionLocated _ => "region_located"
  | .extraction _ event => event.name
  | .batchComplete _ _ _ => "batch_complete"

/-- The part of the work that reports an event. -/
def logger : Event → String
  | .registryReady _ => "snippets.grammars"
  | .syntaxErrorRecovered _ _ _ | .sourceParsed _ _ _ => "snippets.syntax"
  | .regionRejected _ _ | .regionLocated _ => "snippets.locator"
  | .extraction _ _ | .batchComplete _ _ _ => "snippets.ops"

/-- The values of an event. -/
def values : Event → Fields
  | .registryReady languages => [("languages", .ofTexts (languages.map (·.tag)))]
  | .syntaxErrorRecovered language path site =>
    ("language", .text language.tag) :: ("path", .ofText? path) :: site.fields
  | .sourceParsed language size errorCount =>
    [("language", .text language.tag), ("size", .ofNat size), ("error_count", .ofNat errorCount)]
  | .regionRejected nodeType error =>
    [("node_type", .text nodeType), ("error", .text error.code.name)]
  | .regionLocated region =>
    [("kind", .text region.kind.name), ("name", .ofText? region.name),
      ("location", .text region.range.text), ("depth", .ofNat region.depth)]
  | .extraction label event => label.fields ++ event.values
  | .batchComplete scanId files failed =>
    [("scan_id", .text scanId), ("files", .ofNat files), ("failed", .ofNat failed)]

/-- The event as named values. -/
def fields (event : Event) : Fields :=
  ("level", .text event.level.name) :: ("event", .text event.name) ::
    ("logger", .text event.logger) :: event.values

end Event

/-- What is reported of a document that was parsed: every error that was let pass, then the
whole. -/
def SyntaxTree.events (tree : SyntaxTree) (path : Option String) : List Event :=
  let errors := tree.errors
  errors.map (fun node => .syntaxErrorRecovered tree.language path node.info.faultSite) ++
    [.sourceParsed tree.language tree.content.length errors.length]

/-- What is reported of a finding; a repeated region is not. -/
def Finding.events : Finding → List Event
  | .located region => [.regionLocated region]
  | .rejected nodeType error => [.regionRejected nodeType error]
  | .repeated _ => []

/-- What is reported while regions are located, in pre-order. -/
def SyntaxTree.locateEvents (tree : SyntaxTree) (profile : Profile) : List Event :=
  (tree.findings profile).flatMap (·.finding.events)

end CodePrint
