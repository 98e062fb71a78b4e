import CodePrint.Language.Profile
import CodePrint.Source
import CodePrint.Syntax.Node
import CodePrint.Syntax.RawTree

/-! # Syntax trees

The tree that a parser reports is adapted to a tree of syntax nodes: every range is checked and
every node gets its role from the profile of the language. Nodes are adapted in pre-order, so the
first bad range of that order is the one reported.
-/

namespace CodePrint

/-- The role of a node. Errors come first, and what the grammar says of the type comes before what
the node is in its parent. -/
def RawNode.role (profile : Profile) (node : RawNode) (parent : Option NodeRole)
    (field : Option String) (childless : Bool) : NodeRole :=
  if node.type = "ERROR" ∨ node.missing then .error
  else if node.type ∈ profile.commentTypes then .comment
  else if node.type ∈ profile.functionTypes then .function
  else if node.type ∈ profile.classBodyTypes then .classBody
  else if node.type = profile.parametersType then .parameters
  else if parent = some .function ∧ field = some profile.bodyField then .body
  else if parent = some .function ∧ field = some profile.declaratorField then .declarator
  else if node.type ∈ profile.atomicTypes then .atomic
  else if childless then .token
  else .other

/-- The syntax node of a reported node, without its children. -/
def RawNode.adapt (profile : Profile) (node : RawNode) (parent : Option NodeRole)
    (field : Option String) (childless : Bool) : Except ScanError NodeInfo := do
  let range ← ByteRange.ofBounds node.start node.stop
  return {
    type := node.type
    role := node.role profile parent field childless
    range := range
    field := field
    named := node.named
    missing := node.missing
    row := node.row
    column := node.column }

namespace RawTree

mutual

/-- The syntax nodes of a reported tree that stands in a field of a parent. -/
def adaptIn (profile : Profile) (parent : Option NodeRole) (field : Option String) :
    RawTree → Except ScanError SyntaxNode
  | .node data children => do
    let info ← data.adapt profile parent field children.isEmpty
    let children ← adaptAll profile info.role children
    return .node info children

/-- The syntax nodes of the children of a parent. -/
def adaptAll (profile : Profile) (parent : NodeRole) :
    List RawTree → Except ScanError (List SyntaxNode)
  | [] => .ok []
  | first :: rest => do
    let child ← adaptIn profile (some parent) first.data.field first
    let later ← adaptAll profile parent rest
    return child :: later

end

/-- The syntax nodes of a whole reported tree. The root stands in no field. -/
def adapt (profile : Profile) (tree : RawTree) : Except ScanError SyntaxNode :=
  tree.adaptIn profile none none

end RawTree

/-- A source file and what a parser made of it. No tree means that the parser gave none, or one
without a root. -/
structure Document where
  source : Source
  parsed : Option RawTree

/-- An adapted tree with the source it belongs to. -/
structure SyntaxTree where
  root : SyntaxNode
  content : List UInt8
  language : Language
deriving Repr

namespace SyntaxTree

/-- The nodes that stand for syntax errors, in pre-order. -/
def errors (tree : SyntaxTree) : List SyntaxNode :=
  tree.root.walk.filter fun node => node.role == .error

/-- The bytes of a range of the source. -/
def bytes (tree : SyntaxTree) (range : ByteRange) : List UInt8 :=
  range.slice tree.content

end SyntaxTree

/-- Where an error node stands, counted from one. -/
def NodeInfo.faultSite (info : NodeInfo) : FaultSite where
  line := info.row + 1
  column := info.column + 1
  facts := [("byte", .ofNat info.range.start), ("missing", .bool info.missing)]

namespace Document

/-- The adapted tree of a document, whatever errors it holds. -/
def tree (document : Document) : Except ScanError SyntaxTree :=
  let language := document.source.language
  match document.parsed with
  | none => .error (.noTree language.tag)
  | some raw => do
    let root ← raw.adapt language.profile
    return ⟨root, document.source.content, language⟩

/-- The adapted tree of a document. Unless errors are allowed, a tree with errors is refused with
their number and the place of the first. -/
def parse (document : Document) (allowErrors : Bool) : Except ScanError SyntaxTree := do
  let tree ← document.tree
  match tree.errors with
  | [] => return tree
  | first :: rest =>
    if allowErrors then return tree
    else
      throw (.syntaxErrors tree.language.tag (rest.length + 1 : Nat) first.info.faultSite)

end Document

end CodePrint
