import CodePrint.Path
import CodePrint.ScanError
import CodePrint.Text.Blank
import CodePrint.Text.Lower

/-! # Languages

The languages that snippets are taken from, and how one is found from a name or from the path of a
file.
-/

namespace CodePrint

/-- A language that snippets can be taken from. -/
inductive Language where
  | c
  | cpp
deriving DecidableEq, Repr

namespace Language

/-- All languages, in order. -/
def all : List Language :=
  [.c, .cpp]

/-- The tag of a language. -/
def tag : Language → String
  | .c => "c"
  | .cpp => "cpp"

/-- The language with its standard, as records show it. -/
def displayName : Language → String
  | .c => "c99_tc3"
  | .cpp => "cpp_98"

/-- The language with a tag. -/
def ofTag? (tag : String) : Option Language :=
  all.find? (·.tag == tag)

/-- The names a language goes by. -/
def aliases : List (String × Language) :=
  [("c", .c), ("c99", .c), ("c99_tc3", .c), ("cpp", .cpp), ("c++", .cpp), ("cxx", .cpp),
    ("cpp_98", .cpp)]

/-- The suffixes of source files. -/
def suffixes : List (String × Language) :=
  [(".c", .c), (".h", .c), (".cc", .cpp), (".cpp", .cpp), (".cxx", .cpp), (".hh", .cpp),
    (".hpp", .cpp), (".hxx", .cpp)]

/-- The language with a name, whatever its case and the blanks around it. -/
def ofName (name : String) : Except ScanError Language :=
  match aliases.lookup (Text.lower (String.ofList (Text.trim name.toList))) with
  | some language => .ok language
  | none => .error (.unknownLanguage name)

/-- The language of a file, by the suffix of its path. A path without a suffix is reported as a
whole. -/
def ofPath (path : String) : Except ScanError Language :=
  let suffix := Text.lower (Path.ofString path).suffix
  match suffixes.lookup suffix with
  | some language => .ok language
  | none => .error (.unknownLanguage (if suffix.isEmpty then path else suffix))

end Language

end CodePrint
