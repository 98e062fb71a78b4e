import CodePrint.Value

/-! # Errors of a scan

Every failure that a caller can meet is a cause with its data. From the cause come the code, the
message and the details that are reported.
-/

namespace CodePrint

/-- The stable code of an error. -/
inductive ErrorCode where
  | unsupportedLanguage
  | grammarUnavailable
  | configParseError
  | configInvalidValue
  | configNoTransforms
  | configFileNotFound
  | hashBackendUnavailable
  | parseNoTree
  | parseSyntaxError
  | regionOutOfBounds
  | regionDuplicate
  | regionMalformed
  | variantMissing
  | variantUnexpected
  | invalidUtf8
  | internalError
deriving DecidableEq, Repr

namespace ErrorCode

/-- All codes, in order of their numbers. -/
def all : List ErrorCode :=
  [.unsupportedLanguage, .grammarUnavailable, .configParseError, .configInvalidValue,
    .configNoTransforms, .configFileNotFound, .hashBackendUnavailable, .parseNoTree,
    .parseSyntaxError, .regionOutOfBounds, .regionDuplicate, .regionMalformed, .variantMissing,
    .variantUnexpected, .invalidUtf8, .internalError]

/-- The number of a code. -/
def number : ErrorCode → Nat
  | .unsupportedLanguage => 1001
  | .grammarUnavailable => 1002
  | .configParseError => 2001
  | .configInvalidValue => 2002
  | .configNoTransforms => 2003
  | .configFileNotFound => 2004
  | .hashBackendUnavailable => 2005
  | .parseNoTree => 3001
  | .parseSyntaxError => 3002
  | .regionOutOfBounds => 4001
  | .regionDuplicate => 4002
  | .regionMalformed => 4003
  | .variantMissing => 4004
  | .variantUnexpected => 4005
  | .invalidUtf8 => 5001
  | .internalError => 9001

/-- The name of a code. -/
def name : ErrorCode → String
  | .unsupportedLanguage => "UNSUPPORTED_LANGUAGE"
  | .grammarUnavailable => "GRAMMAR_UNAVAILABLE"
  | .configParseError => "CONFIG_PARSE_ERROR"
  | .configInvalidValue => "CONFIG_INVALID_VALUE"
  | .configNoTransforms => "CONFIG_NO_TRANSFORMS"
  | .configFileNotFound => "CONFIG_FILE_NOT_FOUND"
  | .hashBackendUnavailable => "HASH_BACKEND_UNAVAILABLE"
  | .parseNoTree => "PARSE_NO_TREE"
  | .parseSyntaxError => "PARSE_SYNTAX_ERROR"
  | .regionOutOfBounds => "REGION_OUT_OF_BOUNDS"
  | .regionDuplicate => "REGION_DUPLICATE"
  | .regionMalformed => "REGION_MALFORMED"
  | .variantMissing => "VARIANT_MISSING"
  | .variantUnexpected => "VARIANT_UNEXPECTED"
  | .invalidUtf8 => "INVALID_UTF8"
  | .internalError => "INTERNAL_ERROR"

end ErrorCode

/-- The part of the work that an error belongs to. -/
inductive ErrorFamily where
  | language
  | configuration
  | parsing
  | extraction
  | encoding
deriving DecidableEq, Repr

/-- Where a syntax error stands, counted from one, with further facts about it. -/
structure FaultSite where
  line : Int
  column : Int
  facts : Fields
deriving Repr

/-- The site as named values. -/
def FaultSite.fields (site : FaultSite) : Fields :=
  ("line", .int site.line) :: ("column", .int site.column) :: site.facts

/-- A failure, by its cause. -/
inductive ScanError where
  | unknownLanguage (name : String)
  | languageNotEnabled (language : String) (enabled : List String)
  | grammarUnavailable (language module : String) (package : Option String)
  | configUnreadable (path reason : String)
  | invalidSetting (field value reason : String)
  | noTransforms
  | configMissing (path : String)
  | backendUnavailable (backend module : String)
  | noTree (language : String)
  | syntaxErrors (language : String) (count : Int) (first : FaultSite)
  | outOfBounds (start stop length : Int)
  | duplicateRegion (kind : String) (start stop : Int)
  | malformed (subject : String) (start stop : Int) (reason : String)
  | variantMissing (kinds : List String) (start stop : Int)
  | variantUnexpected (kinds : List String) (start stop : Int)
  | invalidUtf8 (transform : String) (offset : Int) (reason : String)
  | internal (reason : String) (facts : Fields)
deriving Repr

namespace ScanError

/-- The code of an error. -/
def code : ScanError → ErrorCode
  | .unknownLanguage _ => .unsupportedLanguage
  | .languageNotEnabled _ _ => .unsupportedLanguage
  | .grammarUnavailable _ _ _ => .grammarUnavailable
  | .configUnreadable _ _ => .configParseError
  | .invalidSetting _ _ _ => .configInvalidValue
  | .noTransforms => .configNoTransforms
  | .configMissing _ => .configFileNotFound
  | .backendUnavailable _ _ => .hashBackendUnavailable
  | .noTree _ => .parseNoTree
  | .syntaxErrors _ _ _ => .parseSyntaxError
  | .outOfBounds _ _ _ => .regionOutOfBounds
  | .duplicateRegion _ _ _ => .regionDuplicate
  | .malformed _ _ _ _ => .regionMalformed
  | .variantMissing _ _ _ => .variantMissing
  | .variantUnexpected _ _ _ => .variantUnexpected
  | .invalidUtf8 _ _ _ => .invalidUtf8
  | .internal _ _ => .internalError

/-- The family of an error. -/
def family : ScanError → ErrorFamily
  | .unknownLanguage _ | .languageNotEnabled _ _ | .grammarUnavailable _ _ _ => .language
  | .configUnreadable _ _ | .invalidSetting _ _ _ | .noTransforms | .configMissing _
  | .backendUnavailable _ _ => .configuration
  | .noTree _ | .syntaxErrors _ _ _ => .parsing
  | .invalidUtf8 _ _ _ => .encoding
  | _ => .extraction

/-- What went wrong, in words. -/
def message : ScanError → String
  | .unknownLanguage name => s!"Unknown language: {name}"
  | .languageNotEnabled language _ => s!"Language '{language}' is not enabled in this registry"
  | .grammarUnavailable language module package =>
    let hint :=
      match package with
      | some name => if name.isEmpty then "" else s!"; install '{name}'"
      | none => ""
    s!"Grammar for '{language}' is not installed (module '{module}'){hint}"
  | .configUnreadable path reason => s!"Failed to parse config at {path}: {reason}"
  | .invalidSetting field _ reason => s!"Invalid value for '{field}': {reason}"
  | .noTransforms => "At least one transform kind must be requested"
  | .configMissing path => s!"Config file not found: {path}"
  | .backendUnavailable backend module =>
    s!"Hash backend '{backend}' requires the '{module}' module"
  | .noTree language => s!"Parser produced no tree for {language} input"
  | .syntaxErrors language count first =>
    let line := first.line
    let column := first.column
    s!"{count} syntax error(s) in {language} input, first at line {line}, column {column}"
  | .outOfBounds start stop length => s!"Range {start}..{stop} is outside source of length {length}"
  | .duplicateRegion kind start stop => s!"Duplicate {kind} region at {start}..{stop}"
  | .malformed subject start stop reason => s!"Malformed {subject} at {start}..{stop}: {reason}"
  | .variantMissing kinds start stop =>
    let names := ", ".intercalate kinds
    s!"Region {start}..{stop} is missing variant(s): {names}"
  | .variantUnexpected kinds start stop =>
    let names := ", ".intercalate kinds
    s!"Region {start}..{stop} has unrequested or repeated variant(s): {names}"
  | .invalidUtf8 transform offset _ =>
    s!"Transform '{transform}' requires UTF-8 text; invalid byte at {offset}"
  | .internal reason _ => s!"Internal error: {reason}"

/-- The data of the cause, as named values. -/
def details : ScanError → Fields
  | .unknownLanguage name => [("language", .text name)]
  | .languageNotEnabled language enabled =>
    [("language", .text language), ("enabled", .ofTexts enabled)]
  | .grammarUnavailable language module package =>
    [("language", .text language), ("module", .text module), ("package", .ofText? package)]
  | .configUnreadable path reason => [("path", .text path), ("reason", .text reason)]
  | .invalidSetting field value reason =>
    [("field", .text field), ("value", .text value), ("reason", .text reason)]
  | .noTransforms => [("field", .text "transforms")]
  | .configMissing path => [("path", .text path)]
  | .backendUnavailable backend module => [("backend", .text backend), ("module", .text module)]
  | .noTree language => [("language", .text language)]
  | .syntaxErrors language count first =>
    [("language", .text language), ("error_count", .int count), ("first", .mapping first.fields)]
  | .outOfBounds start stop length =>
    [("start", .int start), ("end", .int stop), ("length", .int length)]
  | .duplicateRegion kind start stop =>
    [("kind", .text kind), ("start", .int start), ("end", .int stop)]
  | .malformed subject start stop reason =>
    [("node_type", .text subject), ("start", .int start), ("end", .int stop),
      ("reason", .text reason)]
  | .variantMissing kinds start stop =>
    [("kinds", .ofTexts kinds), ("start", .int start), ("end", .int stop)]
  | .variantUnexpected kinds start stop =>
    [("kinds", .ofTexts kinds), ("start", .int start), ("end", .int stop)]
  | .invalidUtf8 transform offset reason =>
    [("transform", .text transform), ("offset", .int offset), ("reason", .text reason)]
  | .internal _ facts => facts

/-- The error as named values. -/
def fields (error : ScanError) : Fields :=
  [("error", .text error.code.name), ("code", .ofNat error.code.number),
    ("message", .text error.message), ("details", .mapping error.details)]

/-- The error on one line: number, name and message. -/
def text (error : ScanError) : String :=
  let number := error.code.number
  let name := error.code.name
  let message := error.message
  s!"[{number}] {name}: {message}"

end ScanError

end CodePrint
