import CodePrint.ByteRange
import CodePrint.Text.Quoted

/-! # Syntax nodes

A syntax node has a byte range and a role that does not depend on the grammar. A tree is walked in
pre-order; where a question goes upwards, the walk carries the ancestors along.
-/

namespace CodePrint

/-- What a node is for, whatever the grammar. -/
inductive NodeRole where
  | function
  | declarator
  | parameters
  | body
  | classBody
  | comment
  /-- A literal of several tokens that is kept whole. -/
  | atomic
  /-- Text the parser could not place, or a node it put in. -/
  | error
  /-- Any other node without children. -/
  | token
  | other
  /-- The bytes between tokens; a role of spans only. -/
  | trivia
deriving DecidableEq, Repr

namespace NodeRole

/-- All roles, in order. -/
def all : List NodeRole :=
  [.function, .declarator, .parameters, .body, .classBody, .comment, .atomic, .error, .token,
    .other, .trivia]

/-- The name of a role. -/
def name : NodeRole → String
  | .function => "function"
  | .declarator => "declarator"
  | .parameters => "parameters"
  | .body => "body"
  | .classBody => "class_body"
  | .comment => "comment"
  | .atomic => "atomic"
  | .error => "error"
  | .token => "token"
  | .other => "other"
  | .trivia => "trivia"

/-- The nodes of this role are taken whole, whatever is inside them. -/
def isWhole (role : NodeRole) : Bool :=
  role == .atomic || role == .comment

end NodeRole

/-- A node without its children. -/
structure NodeInfo where
  type : String
  role : NodeRole
  range : ByteRange
  field : Option String
  named : Bool
  missing : Bool
  row : Int
  column : Int
deriving DecidableEq, Repr

/-- The node on one line: type, role and range. -/
def NodeInfo.text (info : NodeInfo) : String :=
  let type := Text.quoted info.type
  let role := info.role.name
  let range := info.range.text
  s!"SyntaxNode({type}, {role}, {range})"

/-- A node with its children. -/
inductive SyntaxNode where
  | node (info : NodeInfo) (children : List SyntaxNode)
deriving Repr

namespace SyntaxNode

/-- The node without its children. -/
def info : SyntaxNode → NodeInfo
  | .node info _ => info

/-- The children in order. -/
def children : SyntaxNode → List SyntaxNode
  | .node _ children => children

/-- The role of a node. -/
def role (node : SyntaxNode) : NodeRole :=
  node.info.role

/-- The range of a node. -/
def range (node : SyntaxNode) : ByteRange :=
  node.info.range

/-- The type of a node. -/
def type (node : SyntaxNode) : String :=
  node.info.type

/-- The first child in a field. -/
def inField? (node : SyntaxNode) (field : String) : Option SyntaxNode :=
  node.children.find? fun child => child.info.field == some field

mutual

/-- The nodes of a tree in pre-order. -/
def walk : SyntaxNode → List SyntaxNode
  | .node info children => .node info children :: walkAll children

/-- The nodes of trees that stand one after the other, in pre-order. -/
def walkAll : List SyntaxNode → List SyntaxNode
  | [] => []
  | first :: rest => first.walk ++ walkAll rest

end

/-- The node that a path of child positions leads to. -/
def descend? (node : SyntaxNode) : (path : List Nat) → Option SyntaxNode
  | [] => some node
  | index :: path =>
    match node.children[index]? with
    | some child => child.descend? path
    | none => none

end SyntaxNode

/-- A node met on a walk, with its ancestors. -/
structure NodeSite where
  node : SyntaxNode
  /-- The enclosing nodes, nearest first. -/
  ancestors : List SyntaxNode
deriving Repr

namespace SyntaxNode

mutual

/-- The nodes of a tree in pre-order with their ancestors, below the given ones. -/
def sitesBelow (above : List SyntaxNode) : SyntaxNode → List NodeSite
  | .node info children =>
    ⟨.node info children, above⟩ :: sitesOfAll (.node info children :: above) children

/-- The nodes of neighbouring trees in pre-order with their ancestors. -/
def sitesOfAll (above : List SyntaxNode) : List SyntaxNode → List NodeSite
  | [] => []
  | first :: rest => first.sitesBelow above ++ sitesOfAll above rest

end

/-- The nodes of a tree in pre-order with their ancestors. -/
def sites (root : SyntaxNode) : List NodeSite :=
  root.sitesBelow []

/-- The node that a path of child positions leads to, with its ancestors. -/
def siteAt? (root : SyntaxNode) (path : List Nat) : Option NodeSite :=
  go root [] path
where
  go (node : SyntaxNode) (above : List SyntaxNode) : List Nat → Option NodeSite
    | [] => some ⟨node, above⟩
    | index :: path =>
      match node.children[index]? with
      | some child => go child (node :: above) path
      | none => none

end SyntaxNode

end CodePrint
