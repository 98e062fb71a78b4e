import CodePrint.Proofs.Adaptation

/-! # Building a tree with a cursor

A parser lets its tree be visited by a cursor, which can move to the first child, the next sibling
and the parent of its place. A tree of syntax nodes can be built on the way without recursion: the
builder keeps the node of the cursor's place and the nodes that enclose it, enters a node when the
cursor moves down or sideways, and adds a node to its parent when the cursor leaves it. This loop
ends on every tree, never misses a parent, and gives what adapting the tree gives: the same tree
with its errors in pre-order, or the same first bad range.
-/

namespace CodePrint

/-- A place in a reported tree. -/
structure RawCursor where
  focus : RawTree
  /-- The siblings behind the place. -/
  later : List RawTree
  /-- The trees that enclose the place, nearest first, each with the siblings behind it. -/
  above : List (RawTree × List RawTree)

namespace RawCursor

def firstChild? (cursor : RawCursor) : Option RawCursor :=
  match cursor.focus.children with
  | [] => none
  | first :: rest => some ⟨first, rest, (cursor.focus, cursor.later) :: cursor.above⟩

def nextSibling? (cursor : RawCursor) : Option RawCursor :=
  match cursor.later with
  | [] => none
  | next :: rest => some ⟨next, rest, cursor.above⟩

def parent? (cursor : RawCursor) : Option RawCursor :=
  match cursor.above with
  | [] => none
  | (parent, later) :: above => some ⟨parent, later, above⟩

end RawCursor

/-- A node that can still be given children. -/
structure OpenNode where
  info : NodeInfo
  /-- The children it has, the last one first. -/
  added : List SyntaxNode

namespace OpenNode

def closed (node : OpenNode) : SyntaxNode :=
  .node node.info node.added.reverse

def add (node : OpenNode) (child : OpenNode) : OpenNode :=
  { node with added := child.closed :: node.added }

/-- The outermost of a node and the nodes that enclose it, nearest first. -/
def root (node : OpenNode) : (parents : List OpenNode) → SyntaxNode
  | [] => node.closed
  | parent :: parents => (parent.add node).root parents

end OpenNode

/-- How far a tree is built. -/
structure Builder where
  cursor : RawCursor
  /-- The node of the cursor's place. -/
  current : OpenNode
  /-- The nodes that enclose the current one, nearest first. -/
  parents : List OpenNode
  /-- The nodes met so far that stand for syntax errors. -/
  errors : List NodeInfo
  /-- The children of the current node have not been visited. -/
  fresh : Bool

/-- What a turn of the loop comes to. -/
inductive Turn where
  | working (builder : Builder)
  | done (root : SyntaxNode) (errors : List NodeInfo)
  | failed (error : ScanError)
  /-- The cursor is inside a tree, but the current node has no parent. -/
  | lost

namespace Builder

/-- The errors with a node, if it stands for one. -/
def note (errors : List NodeInfo) (info : NodeInfo) : List NodeInfo :=
  errors ++ [info].filter (·.role == .error)

/-- Begins with the root, which stands in no field. -/
def start (profile : Profile) (tree : RawTree) : Turn :=
  match tree.data.adapt profile none none tree.children.isEmpty with
  | .error error => .failed error
  | .ok info => .working ⟨⟨tree, [], []⟩, ⟨info, []⟩, [], note [] info, true⟩

/-- Begins with the node of a place, as a child of a parent. -/
def enter (profile : Profile) (cursor : RawCursor) (parent : OpenNode) (parents : List OpenNode)
    (errors : List NodeInfo) : Turn :=
  let data := cursor.focus.data
  match data.adapt profile (some parent.info.role) data.field cursor.focus.children.isEmpty with
  | .error error => .failed error
  | .ok info => .working ⟨cursor, ⟨info, []⟩, parent :: parents, note errors info, true⟩

/-- One move of the cursor. From a node whose children have not been visited it tries the first
child; from any other it tries the next sibling, then the parent. -/
def turn (profile : Profile) (builder : Builder) : Turn :=
  if builder.fresh then
    match builder.cursor.firstChild? with
    | some cursor => enter profile cursor builder.current builder.parents builder.errors
    | none => .working { builder with fresh := false }
  else
    match builder.cursor.nextSibling?, builder.cursor.parent?, builder.parents with
    | some cursor, _, parent :: parents =>
      enter profile cursor (parent.add builder.current) parents builder.errors
    | none, some cursor, parent :: parents =>
      .working { builder with
        cursor := cursor, current := parent.add builder.current, parents := parents }
    | none, none, parents => .done (builder.current.root parents) builder.errors
    | _, _, [] => .lost

end Builder

/-- The loop goes on from a turn and ends with a result, after finitely many moves. -/
inductive Turn.Ends (profile : Profile) :
    Turn → Except ScanError (SyntaxNode × List NodeInfo) → Prop
  | done (root : SyntaxNode) (errors : List NodeInfo) :
      Ends profile (.done root errors) (.ok (root, errors))
  | failed (error : ScanError) : Ends profile (.failed error) (.error error)
  | working {builder : Builder} {result : Except ScanError (SyntaxNode × List NodeInfo)}
      (later : Ends profile (builder.turn profile) result) :
      Ends profile (.working builder) result

namespace Turn

variable {profile : Profile}

/-- From any turn the building loop ends in one way only. -/
theorem Ends.unique {turn : Turn} {result other : Except ScanError (SyntaxNode × List NodeInfo)}
    (ends : turn.Ends profile result) (endsToo : turn.Ends profile other) : other = result := by
  induction ends with
  | done root errors =>
      cases endsToo
      rfl
  | failed error =>
      cases endsToo
      rfl
  | working _ ih =>
      cases endsToo with
      | working later => exact ih later

/-- The loop goes from a turn on to where a builder stands, or fails on the way. -/
def Reaches (profile : Profile) (turn : Turn) : Except ScanError Builder → Prop
  | .error error => turn.Ends profile (.error error)
  | .ok builder => ∀ result, (Turn.working builder).Ends profile result → turn.Ends profile result

private theorem Reaches.refl (builder : Builder) :
    (Turn.working builder).Reaches profile (.ok builder) :=
  fun _ ends => ends

private theorem Reaches.turn {builder : Builder} {reached : Except ScanError Builder}
    (later : (builder.turn profile).Reaches profile reached) :
    (Turn.working builder).Reaches profile reached := by
  cases reached with
  | error error => exact .working later
  | ok reached => exact fun result ends => .working (later result ends)

private theorem Reaches.trans {turn : Turn} {builder : Builder} {reached : Except ScanError Builder}
    (front : turn.Reaches profile (.ok builder))
    (back : (Turn.working builder).Reaches profile reached) : turn.Reaches profile reached := by
  cases reached with
  | error error => exact front _ back
  | ok reached => exact fun result ends => front result (back result ends)

end Turn

/-- The nodes among some that stand for syntax errors. -/
def errorInfos (nodes : List SyntaxNode) : List NodeInfo :=
  (nodes.filter (·.role == .error)).map (·.info)

private theorem errorInfos_append (front back : List SyntaxNode) :
    errorInfos (front ++ back) = errorInfos front ++ errorInfos back := by
  simp only [errorInfos, List.filter_append, List.map_append]

private theorem Builder.note_append (errors : List NodeInfo) (info : NodeInfo)
    (children : List SyntaxNode) :
    note errors info ++ errorInfos (SyntaxNode.walkAll children) =
      errors ++ errorInfos (SyntaxNode.node info children).walk := by
  have single : errorInfos [.node info children] = [info].filter (·.role == .error) := by
    by_cases faulty : info.role == .error
    · simp only [errorInfos, SyntaxNode.role, SyntaxNode.info, List.filter_cons, faulty, ↓reduceIte,
        List.filter_nil, List.map_cons, List.map_nil]
    · simp only [errorInfos, SyntaxNode.role, SyntaxNode.info, List.filter_cons, faulty, ↓reduceIte,
        List.filter_nil, List.map_nil, Bool.false_eq_true]
  rw [note, List.append_assoc, ← single, ← errorInfos_append, SyntaxNode.walk]
  rfl

namespace Builder

/-- The node of a place has all its children. -/
def visited (cursor : RawCursor) (node : SyntaxNode) (parents : List OpenNode)
    (errors : List NodeInfo) : Builder :=
  ⟨cursor, ⟨node.info, node.children.reverse⟩, parents, errors ++ errorInfos node.walk, false⟩

/-- The cursor is back at a node that was given further children. -/
def returned (cursor : RawCursor) (node : OpenNode) (parents : List OpenNode)
    (errors : List NodeInfo) (children : List SyntaxNode) : Builder :=
  ⟨cursor, ⟨node.info, children.reverse ++ node.added⟩, parents,
    errors ++ errorInfos (SyntaxNode.walkAll children), false⟩

private theorem returned_nil (cursor : RawCursor) (node : OpenNode) (parents : List OpenNode)
    (errors : List NodeInfo) :
    returned cursor node parents errors [] = ⟨cursor, node, parents, errors, false⟩ := by
  simp only [returned, SyntaxNode.walkAll, errorInfos, List.filter_nil, List.map_nil,
    List.append_nil, List.reverse_nil, List.nil_append]

private theorem returned_cons (cursor : RawCursor) (node : OpenNode) (parents : List OpenNode)
    (errors : List NodeInfo) (child : SyntaxNode) (children : List SyntaxNode) :
    returned cursor (node.add ⟨child.info, child.children.reverse⟩) parents
        (errors ++ errorInfos child.walk) children =
      returned cursor node parents errors (child :: children) := by
  have closed : OpenNode.closed ⟨child.info, child.children.reverse⟩ = child := by
    cases child
    simp only [OpenNode.closed, SyntaxNode.info, SyntaxNode.children, List.reverse_reverse]
  simp only [returned, OpenNode.add, closed, List.reverse_cons, List.append_assoc,
    List.singleton_append, SyntaxNode.walkAll, errorInfos_append]

private theorem returned_all (cursor : RawCursor) (info : NodeInfo) (parents : List OpenNode)
    (errors : List NodeInfo) (children : List SyntaxNode) :
    returned cursor ⟨info, []⟩ parents (note errors info) children =
      visited cursor (.node info children) parents errors := by
  rw [returned, note_append, List.append_nil]
  rfl

end Builder

/-- A tree is visited, then its siblings are. -/
theorem Turn.Reaches.cons {profile : Profile} {turn : Turn} {first : RawTree}
    {rest : List RawTree} {role : NodeRole} {between : SyntaxNode → Builder}
    {after : List SyntaxNode → Builder}
    (front : turn.Reaches profile
      ((first.adaptIn profile (some role) first.data.field).map between))
    (back : ∀ child, (Turn.working (between child)).Reaches profile
      ((RawTree.adaptAll profile role rest).map fun nodes => after (child :: nodes))) :
    turn.Reaches profile ((RawTree.adaptAll profile role (first :: rest)).map after) := by
  rw [RawTree.adaptAll]
  cases adapted : first.adaptIn profile (some role) first.data.field with
  | error error =>
      rw [adapted] at front
      exact front
  | ok child =>
      rw [adapted] at front
      have onward := front.trans (back child)
      cases later : RawTree.adaptAll profile role rest with
      | error error =>
          rw [later] at onward
          exact onward
      | ok nodes =>
          rw [later] at onward
          exact onward

namespace RawTree

open Builder

variable {profile : Profile}

mutual

/-- From entering a place the loop comes to where the node of the place has all its children. -/
theorem enter_reaches : ∀ (tree : RawTree) (later : List RawTree)
    (above : List (RawTree × List RawTree)) (parent : OpenNode) (parents : List OpenNode)
    (errors : List NodeInfo),
    (enter profile ⟨tree, later, above⟩ parent parents errors).Reaches profile
      ((tree.adaptIn profile (some parent.info.role) tree.data.field).map fun node =>
        visited ⟨tree, later, above⟩ node (parent :: parents) errors)
  | .node data children, later, above, parent, parents, errors => by
    rw [adaptIn, enter]
    dsimp only [RawTree.data, RawTree.children]
    cases data.adapt profile (some parent.info.role) data.field children.isEmpty with
    | error error => exact .failed error
    | ok info =>
        have explored := children_reach children data later above info (parent :: parents)
          (note errors info)
        change Turn.Reaches profile _ ((adaptAll profile info.role children >>= _).map _)
        cases adapted : adaptAll profile info.role children with
        | error error =>
            rw [adapted] at explored
            exact explored
        | ok nodes =>
            rw [adapted, Except.map, returned_all] at explored
            exact explored

/-- From a node that was just entered the loop visits its children and comes back to it. -/
theorem children_reach : ∀ (children : List RawTree) (data : RawNode) (later : List RawTree)
    (above : List (RawTree × List RawTree)) (info : NodeInfo) (parents : List OpenNode)
    (errors : List NodeInfo),
    (Turn.working ⟨⟨.node data children, later, above⟩, ⟨info, []⟩, parents, errors,
        true⟩).Reaches profile
      ((adaptAll profile info.role children).map
        (returned ⟨.node data children, later, above⟩ ⟨info, []⟩ parents errors))
  | [], data, later, above, info, parents, errors => by
    refine Turn.Reaches.turn ?_
    rw [adaptAll, Except.map, returned_nil]
    exact .refl _
  | first :: rest, data, later, above, info, parents, errors => by
    refine Turn.Reaches.turn (Turn.Reaches.cons (enter_reaches first rest _ _ _ _) fun child => ?_)
    exact siblings_reach rest first (.node data (first :: rest)) later above child ⟨info, []⟩
      parents errors

/-- From a child that has been visited the loop visits its later siblings and comes back to their
parent. -/
theorem siblings_reach : ∀ (siblings : List RawTree) (focus outer : RawTree)
    (later : List RawTree) (above : List (RawTree × List RawTree)) (child : SyntaxNode)
    (parent : OpenNode) (parents : List OpenNode) (errors : List NodeInfo),
    (Turn.working (visited ⟨focus, siblings, (outer, later) :: above⟩ child (parent :: parents)
        errors)).Reaches profile
      ((adaptAll profile parent.info.role siblings).map fun nodes =>
        returned ⟨outer, later, above⟩ parent parents errors (child :: nodes))
  | [], focus, outer, later, above, child, parent, parents, errors => by
    refine Turn.Reaches.turn ?_
    rw [adaptAll, Except.map, ← returned_cons, returned_nil]
    exact .refl _
  | next :: rest, focus, outer, later, above, child, parent, parents, errors => by
    refine Turn.Reaches.turn (Turn.Reaches.cons (enter_reaches next rest _ _ _ _) fun node => ?_)
    have onward := siblings_reach rest next outer later above node
      (parent.add ⟨child.info, child.children.reverse⟩) parents (errors ++ errorInfos child.walk)
    simp only [returned_cons] at onward
    exact onward

end

/-- The loop ends on every tree, with what adapting the tree gives. -/
theorem build_ends (profile : Profile) (tree : RawTree) :
    (Builder.start profile tree).Ends profile
      ((tree.adapt profile).map fun root => (root, errorInfos root.walk)) := by
  cases tree with
  | node data children =>
      rw [adapt, adaptIn, Builder.start]
      dsimp only [RawTree.data, RawTree.children]
      cases data.adapt profile none none children.isEmpty with
      | error error => exact .failed error
      | ok info =>
          have explored := @children_reach profile children data [] [] info [] (note [] info)
          change Turn.Ends profile _ ((adaptAll profile info.role children >>= _).map _)
          cases adapted : adaptAll profile info.role children with
          | error error =>
              rw [adapted] at explored
              exact explored
          | ok nodes =>
              rw [adapted, Except.map, returned_all] at explored
              refine explored _ (.working ?_)
              have closed : OpenNode.closed ⟨info, nodes.reverse⟩ = .node info nodes :=
                congrArg (SyntaxNode.node info) nodes.reverse_reverse
              change Turn.Ends profile (.done (OpenNode.closed ⟨info, nodes.reverse⟩) _) _
              rw [closed]
              exact .done _ _

end RawTree

end CodePrint
