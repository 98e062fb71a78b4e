/-! # Trees as a parser reports them

A parser hands its tree over as rows in pre-order: the data of a node and how many children it has.
The trees are read back from the end of the rows: the trees of the later rows are there already, and
a row takes as many of them as it has children.
-/

namespace CodePrint

/-- What a parser says about a node. Nothing is assumed about its numbers. -/
structure RawNode where
  type : String
  /-- The field of the parent that the node stands in. -/
  field : Option String
  start : Int
  stop : Int
  /-- The line of the first byte, counted from zero. -/
  row : Int
  /-- The place of the first byte in its line, counted from zero. -/
  column : Int
  named : Bool
  /-- The parser put the node in where the source lacks it. -/
  missing : Bool
deriving DecidableEq, Repr

/-- A node and how many children it has. -/
structure RawRow where
  node : RawNode
  childCount : Nat
deriving DecidableEq, Repr

/-- A tree of nodes. -/
inductive RawTree where
  | node (data : RawNode) (children : List RawTree)
deriving Repr

namespace RawTree

/-- The node at the root. -/
def data : RawTree → RawNode
  | .node data _ => data

/-- The trees below the root. -/
def children : RawTree → List RawTree
  | .node _ children => children

/-- The trees that rows in pre-order write, one after the other. -/
def forestOf : List RawRow → List RawTree
  | [] => []
  | row :: rest =>
    let later := forestOf rest
    .node row.node (later.take row.childCount) :: later.drop row.childCount

/-- The tree that rows in pre-order write, if there is a first row. -/
def ofRows? (rows : List RawRow) : Option RawTree :=
  (forestOf rows).head?

mutual

/-- The rows of a tree in pre-order. -/
def rows : RawTree → List RawRow
  | .node data children => ⟨data, children.length⟩ :: rowsOfAll children

/-- The rows of trees that stand one after the other. -/
def rowsOfAll : List RawTree → List RawRow
  | [] => []
  | tree :: rest => tree.rows ++ rowsOfAll rest

end

end RawTree

end CodePrint
