import CodePrint.Proofs.CursorBuild
import Mathlib.Data.List.Chain

/-! # Adapted trees mirror reported trees

A reported tree is known by its rows: what the parser says of each node, and how many children the
node has. The adapted tree has one node for each row, with the same data and the same number of
children, and its nodes have the ancestors that the reported nodes have. Adapting fails only for a
row whose range is out of order, and then it is the first such row that is reported.
-/

namespace CodePrint

/-- The bounds of a node are the bounds of a range. -/
def RawNode.Ordered (node : RawNode) : Prop :=
  0 ≤ node.start ∧ node.start ≤ node.stop

instance (node : RawNode) : Decidable node.Ordered :=
  inferInstanceAs (Decidable (0 ≤ node.start ∧ node.start ≤ node.stop))

/-- The bounds of a node are not those of a range. -/
def RawNode.badRange (node : RawNode) : ScanError :=
  .malformed "range" node.start node.stop "start must be >= 0 and <= end"

/-- What a parser reports of an adapted node. -/
def SyntaxNode.row (node : SyntaxNode) : RawRow :=
  ⟨node.info.reported, node.children.length⟩

/-- What a parser reports of a node and of its ancestors, nearest first. -/
def NodeSite.lineage (site : NodeSite) : RawRow × List RawRow :=
  (site.node.row, site.ancestors.map SyntaxNode.row)

namespace RawTree

/-- The tree as if it stood in a field. -/
def withField (field : Option String) : RawTree → RawTree
  | .node data children => .node { data with field := field } children

mutual

/-- The rows of a tree in pre-order, each with the rows of its ancestors, nearest first. -/
def lineages (above : List RawRow) : RawTree → List (RawRow × List RawRow)
  | .node data children =>
    (⟨data, children.length⟩, above) ::
      lineagesOfAll (⟨data, children.length⟩ :: above) children

/-- The rows of neighbouring trees with the rows of their ancestors. -/
def lineagesOfAll (above : List RawRow) : List RawTree → List (RawRow × List RawRow)
  | [] => []
  | first :: rest => first.lineages above ++ lineagesOfAll above rest

end

private theorem withField_own (tree : RawTree) : tree.withField tree.data.field = tree := by
  cases tree
  rfl

mutual

private theorem lineages_row : ∀ (tree : RawTree) (above : List RawRow),
    (tree.lineages above).map Prod.fst = tree.rows
  | .node data children, above => by
    rw [lineages, rows, List.map_cons, lineagesOfAll_row children]

private theorem lineagesOfAll_row : ∀ (trees : List RawTree) (above : List RawRow),
    (lineagesOfAll above trees).map Prod.fst = rowsOfAll trees
  | [], _ => rfl
  | first :: rest, above => by
    rw [lineagesOfAll, rowsOfAll, List.map_append, lineages_row first, lineagesOfAll_row rest]

end

mutual

/-- The rows of a tree write that tree, whatever follows them. -/
theorem forestOf_rows : ∀ (tree : RawTree) (rest : List RawRow),
    forestOf (tree.rows ++ rest) = tree :: forestOf rest
  | .node data children, rest => by
    rw [rows, List.cons_append, forestOf, forestOf_rowsOfAll children rest]
    simp only [List.take_left, List.drop_left]

/-- Trees are rebuilt from their rows, whatever rows follow. -/
theorem forestOf_rowsOfAll : ∀ (trees : List RawTree) (rest : List RawRow),
    forestOf (rowsOfAll trees ++ rest) = trees ++ forestOf rest
  | [], _ => rfl
  | first :: others, rest => by
    rw [rowsOfAll, List.append_assoc, forestOf_rows first, forestOf_rowsOfAll others,
      List.cons_append]

end

/-- A tree can be read back from its rows. -/
theorem ofRows_rows (tree : RawTree) : ofRows? tree.rows = some tree := by
  have forest := tree.forestOf_rows []
  rw [List.append_nil] at forest
  rw [ofRows?, forest, List.head?_cons]

end RawTree

namespace ByteRange

private theorem ofBounds_eq_ok {start stop : Int} {range : ByteRange}
    (bounded : ofBounds start stop = .ok range) :
    (range.start : Int) = start ∧ (range.stop : Int) = stop := by
  unfold ofBounds ofBounds? at bounded
  by_cases inOrder : 0 ≤ start ∧ start ≤ stop
  · rw [dif_pos inOrder] at bounded
    cases bounded
    constructor
    · exact Int.toNat_of_nonneg inOrder.1
    · exact Int.toNat_of_nonneg (Int.le_trans inOrder.1 inOrder.2)
  · rw [dif_neg inOrder] at bounded
    cases bounded

/-- Bounds make a range unless the start is negative or behind the stop, and the refusal names
both. -/
theorem ofBounds_failure (start stop : Int) :
    failure? (ofBounds start stop) =
      if 0 ≤ start ∧ start ≤ stop then none
      else some (.malformed "range" start stop "start must be >= 0 and <= end") := by
  unfold ofBounds ofBounds?
  by_cases inOrder : 0 ≤ start ∧ start ≤ stop
  · rw [dif_pos inOrder, if_pos inOrder]
    rfl
  · rw [dif_neg inOrder, if_neg inOrder]
    rfl

end ByteRange

namespace RawNode

variable {profile : Profile} {node : RawNode} {parent : Option NodeRole} {field : Option String}
  {childless : Bool}

/-- An adapted node says what was reported of it, in the field it was told of. -/
theorem adapt_reported {info : NodeInfo}
    (adapted : node.adapt profile parent field childless = .ok info) :
    info.reported = { node with field := field } := by
  obtain ⟨range, bounded, made⟩ := bind_eq_ok.mp adapted
  cases made
  obtain ⟨start, stop⟩ := ByteRange.ofBounds_eq_ok bounded
  simp only [NodeInfo.reported, start, stop]

private theorem adapt_failure (profile : Profile) (node : RawNode) (parent : Option NodeRole)
    (field : Option String) (childless : Bool) :
    failure? (node.adapt profile parent field childless) =
      if node.Ordered then none else some node.badRange :=
  (failure_bind_ok _ _).trans (ByteRange.ofBounds_failure node.start node.stop)

end RawNode

namespace RawTree

variable {profile : Profile}

mutual

/-- Adapting a tree fails exactly for its first row whose range is out of order. -/
theorem adaptIn_failure : ∀ (tree : RawTree) (parent : Option NodeRole) (field : Option String),
    failure? (tree.adaptIn profile parent field) =
      (tree.rows.find? fun row => !decide row.node.Ordered).map (·.node.badRange)
  | .node data children, parent, field => by
    have adapted := data.adapt_failure profile parent field children.isEmpty
    rw [adaptIn, rows]
    by_cases ordered : data.Ordered
    · rw [if_pos ordered] at adapted
      obtain ⟨info, made⟩ := failure_eq_none.mp adapted
      rw [made, List.find?_cons_of_neg (by simpa using ordered),
        ← adaptAll_failure children info.role]
      exact failure_bind_ok _ _
    · rw [if_neg ordered] at adapted
      rw [failure_eq_some.mp adapted, List.find?_cons_of_pos (by simpa using ordered)]
      rfl

private theorem adaptAll_failure : ∀ (trees : List RawTree) (parent : NodeRole),
    failure? (adaptAll profile parent trees) =
      ((rowsOfAll trees).find? fun row => !decide row.node.Ordered).map (·.node.badRange)
  | [], _ => rfl
  | first :: rest, parent => by
    have adapted := adaptIn_failure first (some parent) first.data.field
    rw [adaptAll, rowsOfAll, List.find?_append]
    cases bad : first.rows.find? fun row => !decide row.node.Ordered with
    | some row =>
        rw [bad] at adapted
        rw [failure_eq_some.mp adapted]
        rfl
    | none =>
        rw [bad] at adapted
        obtain ⟨child, made⟩ := failure_eq_none.mp adapted
        rw [made, Option.none_or, ← adaptAll_failure rest parent]
        exact failure_bind_ok _ _

end

private theorem adaptAll_length :
    ∀ (trees : List RawTree) {parent : NodeRole} {nodes : List SyntaxNode},
    adaptAll profile parent trees = .ok nodes → nodes.length = trees.length
  | [], _, _, adapted => by
    cases adapted
    rfl
  | first :: rest, _, _, adapted => by
    obtain ⟨child, _, others⟩ := bind_eq_ok.mp adapted
    obtain ⟨later, adaptedRest, made⟩ := bind_eq_ok.mp others
    cases made
    exact congrArg (· + 1) (adaptAll_length rest adaptedRest)

mutual

/-- The nodes of an adapted tree and their ancestors are those of the reported tree. -/
theorem adaptIn_lineages : ∀ (tree : RawTree) (above : List SyntaxNode) {parent : Option NodeRole}
    {field : Option String} {root : SyntaxNode}, tree.adaptIn profile parent field = .ok root →
      (root.sitesBelow above).map NodeSite.lineage =
        (tree.withField field).lineages (above.map SyntaxNode.row)
  | .node data children, above, parent, field, root, adapted => by
    obtain ⟨info, adaptedInfo, rest⟩ := bind_eq_ok.mp adapted
    obtain ⟨nodes, adaptedAll, made⟩ := bind_eq_ok.mp rest
    cases made
    have row : (SyntaxNode.node info nodes).row =
        ⟨{ data with field := field }, children.length⟩ := by
      simp only [SyntaxNode.row, SyntaxNode.info, SyntaxNode.children,
        RawNode.adapt_reported adaptedInfo, adaptAll_length children adaptedAll]
    have below := adaptAll_lineages children (.node info nodes :: above) adaptedAll
    rw [List.map_cons, row] at below
    rw [SyntaxNode.sitesBelow, List.map_cons, below, withField, lineages, NodeSite.lineage, row]

private theorem adaptAll_lineages :
    ∀ (trees : List RawTree) (above : List SyntaxNode) {parent : NodeRole}
    {nodes : List SyntaxNode}, adaptAll profile parent trees = .ok nodes →
      (SyntaxNode.sitesOfAll above nodes).map NodeSite.lineage =
        lineagesOfAll (above.map SyntaxNode.row) trees
  | [], above, _, nodes, adapted => by
    cases adapted
    rfl
  | first :: rest, above, _, nodes, adapted => by
    obtain ⟨child, adaptedFirst, others⟩ := bind_eq_ok.mp adapted
    obtain ⟨later, adaptedRest, made⟩ := bind_eq_ok.mp others
    cases made
    rw [SyntaxNode.sitesOfAll, List.map_append, lineagesOfAll,
      adaptIn_lineages first above adaptedFirst, adaptAll_lineages rest above adaptedRest,
      withField_own]

end

end RawTree

namespace SyntaxNode

/-- A node met on a walk and its ancestors are linked from child to parent, down to what the walk
began with. -/
theorem sitesBelow_linked {root : SyntaxNode} {above : List SyntaxNode} {site : NodeSite}
    (met : site ∈ root.sitesBelow above)
    (linked : (root :: above).IsChain fun child parent => child ∈ parent.children) :
    (site.node :: site.ancestors).IsChain (fun child parent => child ∈ parent.children) ∧
      (root :: above) <:+ (site.node :: site.ancestors) := by
  induction root using childInduction generalizing above with
  | step info children ih =>
      rcases mem_sitesBelow.mp met with rfl | ⟨child, member, below⟩
      · exact ⟨linked, List.suffix_refl _⟩
      · obtain ⟨chain, ends⟩ := ih child member below (linked.cons_cons member)
        exact ⟨chain, (List.suffix_cons _ _).trans ends⟩

/-- A site and its ancestors are a chain of parents that ends with the root. -/
theorem sites_linked {root : SyntaxNode} {site : NodeSite} (met : site ∈ root.sites) :
    (site.node :: site.ancestors).IsChain (fun child parent => child ∈ parent.children) ∧
      (site.node :: site.ancestors).getLast? = some root := by
  obtain ⟨chain, front, ends⟩ := sitesBelow_linked met (List.isChain_singleton root)
  refine ⟨chain, ?_⟩
  rw [← ends, List.getLast?_append, List.getLast?_singleton, Option.some_or]

end SyntaxNode

/-- The errors of an adapted tree are told by what the parser reports of a node. -/
theorem Document.tree_errors {document : Document} {tree : SyntaxTree}
    (adapted : document.tree = .ok tree) :
    tree.errors = tree.root.walk.filter fun node => node.type == "ERROR" || node.info.missing := by
  refine List.filter_congr fun node met => ?_
  obtain ⟨profile, parent, role⟩ := tree_roleUnder adapted met
  have faulty := RawNode.role_eq_error_iff profile node.info.reported parent node.info.field
    node.children.isEmpty
  rw [Bool.eq_iff_iff, beq_iff_eq, role, SyntaxNode.roleUnder, faulty, Bool.or_eq_true, beq_iff_eq]
  rfl

/-- A syntax tree has the nodes of a reported tree, in their places. -/
structure Mirrors (raw : RawTree) (tree : SyntaxTree) : Prop where
  /-- The walk meets one node for each row, with its data and its number of children. -/
  rows : tree.root.walk.map SyntaxNode.row = (raw.withField none).rows
  /-- Each node has the ancestors that its row has. -/
  lineages : tree.root.sites.map NodeSite.lineage = (raw.withField none).lineages []
  nodes : tree.root.sites.map (·.node) = tree.root.walk
  /-- The ancestors of a node are its parent, the parent of that and so on, up to the root. -/
  parents : ∀ site ∈ tree.root.sites,
    (site.node :: site.ancestors).IsChain (fun child parent => child ∈ parent.children) ∧
      (site.node :: site.ancestors).getLast? = some tree.root
  errors : tree.errors = tree.root.walk.filter fun node => node.type == "ERROR" || node.info.missing

namespace Document

/-- The tree of a document mirrors the tree that the parser reported. -/
theorem tree_mirrors {source : Source} {raw : RawTree} {tree : SyntaxTree}
    (adapted : (⟨source, some raw⟩ : Document).tree = .ok tree) : Mirrors raw tree := by
  obtain ⟨_, _, _, parsed, adaptedRoot⟩ := tree_eq_ok adapted
  cases parsed
  have lineages : tree.root.sites.map NodeSite.lineage = (raw.withField none).lineages [] :=
    raw.adaptIn_lineages [] adaptedRoot
  refine ⟨?_, lineages, tree.root.sites_node, fun _ => SyntaxNode.sites_linked, tree_errors adapted⟩
  rw [← tree.root.sites_node, ← RawTree.lineages_row _ [], ← lineages, List.map_map, List.map_map]
  rfl

/-- A reported tree is refused for the first of its nodes, in preorder, whose range is out of
order. -/
theorem tree_failure (source : Source) (raw : RawTree) :
    failure? (⟨source, some raw⟩ : Document).tree =
      (raw.rows.find? fun row => !decide row.node.Ordered).map (·.node.badRange) :=
  (failure_bind_ok _ _).trans (raw.adaptIn_failure none none)

/-- A reported tree whose ranges are all in order is adapted. -/
theorem tree_of_ordered {source : Source} {raw : RawTree}
    (ordered : ∀ row ∈ raw.rows, row.node.Ordered) :
    ∃ tree, (⟨source, some raw⟩ : Document).tree = .ok tree := by
  have clean : (raw.rows.find? fun row => !decide row.node.Ordered) = none :=
    List.find?_eq_none.mpr fun row member => by simpa using ordered row member
  refine failure_eq_none.mp ?_
  rw [tree_failure, clean, Option.map_none]

/-- A reported tree is refused for the first node whose range is out of order. -/
theorem tree_of_disordered {source : Source} {raw : RawTree} {before after : List RawRow}
    {bad : RawRow} (split : raw.rows = before ++ bad :: after)
    (ordered : ∀ row ∈ before, row.node.Ordered) (disordered : ¬bad.node.Ordered) :
    (⟨source, some raw⟩ : Document).tree = .error bad.node.badRange := by
  have first : (raw.rows.find? fun row => !decide row.node.Ordered) = some bad := by
    rw [split]
    refine List.find?_eq_some_iff_append.mpr ⟨by simpa using disordered, before, after, rfl, ?_⟩
    exact fun row member => by simpa using ordered row member
  refine failure_eq_some.mp ?_
  rw [tree_failure, first, Option.map_some]

/-- The cursor loop ends with the tree of a document and its errors, or with what is wrong. -/
theorem tree_ends (source : Source) (raw : RawTree) :
    (Builder.start source.language.profile raw).Ends source.language.profile
      ((⟨source, some raw⟩ : Document).tree.map fun tree =>
        (tree.root, tree.errors.map (·.info))) := by
  have loop := raw.build_ends source.language.profile
  change Turn.Ends _ _ ((raw.adapt source.language.profile >>= _).map _)
  cases adapted : raw.adapt source.language.profile with
  | error error =>
      rw [adapted] at loop
      exact loop
  | ok root =>
      rw [adapted] at loop
      exact loop

/-- With errors allowed, a document gives its adapted tree. -/
theorem parse_allowing (document : Document) : document.parse true = document.tree := by
  cases adapted : document.tree with
  | error error =>
      rw [parse, adapted]
      rfl
  | ok tree =>
      refine bind_eq_ok.mpr ⟨tree, adapted, ?_⟩
      split <;> rfl

/-- A tree that is refused makes the parse refused, with errors allowed or not. -/
theorem parse_eq_error {document : Document} {error : ScanError}
    (failed : document.tree = .error error) (allowErrors : Bool) :
    document.parse allowErrors = .error error := by
  rw [parse, failed]
  rfl

end Document

private theorem Turn.Ends.iff_eq {profile : Profile} {turn : Turn}
    {result : Except ScanError (SyntaxNode × List NodeInfo)} (ends : turn.Ends profile result)
    (other : Except ScanError (SyntaxNode × List NodeInfo)) :
    turn.Ends profile other ↔ other = result := by
  refine ⟨ends.unique, fun same => ?_⟩
  rw [same]
  exact ends

/-- A document whose rows are all in order is adapted to a tree that mirrors them, and the cursor
loop ends with that tree and its errors. Otherwise the first row out of order is reported, by the
document and by the loop, and there is no tree. -/
theorem adapted_mirrors (source : Source) (raw : RawTree) :
    let document : Document := ⟨source, RawTree.ofRows? raw.rows⟩
    let profile := source.language.profile
    ((∀ row ∈ raw.rows, row.node.Ordered) →
      ∃ tree, document.tree = .ok tree ∧ document.parse true = .ok tree ∧
        (∀ result, (Builder.start profile raw).Ends profile result ↔
          result = .ok (tree.root, tree.errors.map (·.info))) ∧
        Mirrors raw tree) ∧
    ∀ before bad after, raw.rows = before ++ bad :: after → (∀ row ∈ before, row.node.Ordered) →
      ¬bad.node.Ordered →
      bad.node.badRange.code = .regionMalformed ∧ document.tree = .error bad.node.badRange ∧
        (∀ allowErrors, document.parse allowErrors = .error bad.node.badRange) ∧
        ∀ result, (Builder.start profile raw).Ends profile result ↔
          result = .error bad.node.badRange := by
  intro document profile
  have written : document = ⟨source, some raw⟩ := congrArg (Document.mk source) raw.ofRows_rows
  rw [written]
  have loop := Document.tree_ends source raw
  constructor
  · intro ordered
    obtain ⟨tree, adapted⟩ := @Document.tree_of_ordered source raw ordered
    rw [adapted] at loop
    exact ⟨tree, adapted, (Document.parse_allowing _).trans adapted, loop.iff_eq,
      Document.tree_mirrors adapted⟩
  · intro before bad after split ordered disordered
    have failed := @Document.tree_of_disordered source raw before after bad split ordered disordered
    rw [failed] at loop
    exact ⟨rfl, failed, Document.parse_eq_error failed, loop.iff_eq⟩

/-- A deep node that ends at the given place, and an error node behind its grandparent's child. -/
def RawTree.sampleDeep (stop : Int) : RawTree :=
  .node ⟨"translation_unit", some "unit", 0, 9, 0, 0, true, false⟩
    [.node ⟨"block", none, 0, 6, 0, 0, true, false⟩
      [.node ⟨"pair", some "left", 0, 6, 0, 0, true, false⟩
        [.node ⟨"name", none, 4, stop, 0, 4, true, false⟩ []]],
    .node ⟨"ERROR", none, 6, 9, 0, 6, true, false⟩ []]

/-- One tree with its deepest node in order is mirrored, its error node found. With that node ending
before it starts, the parse is refused with the node's bounds. -/
theorem adapted_mirrors_sample :
    (∃ tree, (⟨⟨.c, [], none⟩, RawTree.ofRows? (RawTree.sampleDeep 6).rows⟩ : Document).tree =
        .ok tree ∧ Mirrors (.sampleDeep 6) tree ∧ tree.errors.map (·.type) = ["ERROR"]) ∧
      (⟨⟨.c, [], none⟩, RawTree.ofRows? (RawTree.sampleDeep 2).rows⟩ : Document).parse false =
        .error (.malformed "range" 4 2 "start must be >= 0 and <= end") := by
  constructor
  · obtain ⟨tree, adapted, _, _, mirrors⟩ :=
      (adapted_mirrors ⟨.c, [], none⟩ (.sampleDeep 6)).1 (by decide)
    refine ⟨tree, adapted, mirrors, ?_⟩
    cases adapted
    rfl
  · exact ((adapted_mirrors ⟨.c, [], none⟩ (.sampleDeep 2)).2 ((RawTree.sampleDeep 2).rows.take 3)
      ⟨⟨"name", none, 4, 2, 0, 4, true, false⟩, 0⟩ ((RawTree.sampleDeep 2).rows.drop 4)
      rfl (by decide) (by decide)).2.2.1 false

end CodePrint
