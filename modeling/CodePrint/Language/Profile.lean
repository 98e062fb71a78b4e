import CodePrint.Language

/-! # Grammar profiles

What the rest of the library knows about the grammar of a language: which node types are functions,
class bodies, comments and literals, under which field names the parts of a function stand, and
which module provides the grammar.
-/

namespace CodePrint

/-- The grammar of a language, by the names of its node types and fields. -/
structure Profile where
  language : Language
  /-- The package that installs the grammar. -/
  package : String
  /-- The module that provides the grammar. -/
  module : String
  /-- The function of that module that loads the grammar. -/
  loader : String := "language"
  functionTypes : List String := ["function_definition"]
  classBodyTypes : List String := []
  /-- A function with a child of one of these types has no body of its own. -/
  bodilessTypes : List String := []
  declaratorField : String := "declarator"
  bodyField : String := "body"
  parametersType : String := "parameter_list"
  /-- Types whose text is the name that a declarator declares. -/
  nameTypes : List String := ["identifier", "field_identifier"]
  commentTypes : List String := ["comment"]
  /-- Types kept as one token although the grammar divides them. -/
  atomicTypes : List String :=
    ["string_literal", "char_literal", "system_lib_string", "preproc_arg"]
deriving DecidableEq, Repr

namespace Profile

/-- The profile of C. -/
def c : Profile where
  language := .c
  package := "tree-sitter-c"
  module := "tree_sitter_c"

/-- The profile of C++. -/
def cpp : Profile where
  language := .cpp
  package := "tree-sitter-cpp"
  module := "tree_sitter_cpp"
  classBodyTypes := ["field_declaration_list"]
  bodilessTypes := ["default_method_clause", "delete_method_clause", "pure_virtual_clause"]
  nameTypes :=
    ["identifier", "field_identifier", "qualified_identifier", "destructor_name", "operator_name",
      "template_function"]
  atomicTypes :=
    ["string_literal", "char_literal", "system_lib_string", "preproc_arg", "raw_string_literal"]

end Profile

/-- The profile of a language. -/
def Language.profile : Language → Profile
  | .c => .c
  | .cpp => .cpp

end CodePrint
