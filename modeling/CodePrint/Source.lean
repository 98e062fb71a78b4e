import CodePrint.Language
import CodePrint.Text.Quoted
import CodePrint.Text.Utf8

/-! # Sources

The bytes of one file with the language they are written in. The path only identifies the file;
nothing is read from it.
-/

namespace CodePrint

/-- The bytes of one file and their language. -/
structure Source where
  language : Language
  content : List UInt8
  path : Option String := none
deriving DecidableEq, Repr

/-- The source with the octets of a text. -/
def Source.ofText (language : Language) (text : String) (path : Option String) : Source :=
  ⟨language, Utf8.encodeString text, path⟩

/-- How many bytes a source has. -/
def Source.size (source : Source) : Nat :=
  source.content.length

/-- The source on one line: language and path. -/
def Source.text (source : Source) : String :=
  let tag := source.language.tag
  let member := tag.map Char.toUpper
  let path :=
    match source.path with
    | some path => Text.quoted path
    | none => "None"
  s!"SourceFile(language=<Language.{member}: '{tag}'>, path={path})"

end CodePrint
