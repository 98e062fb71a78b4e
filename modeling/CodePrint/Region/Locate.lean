import CodePrint.Region
import CodePrint.Syntax.Tree

/-! # Locating regions

Every function of a tree that has a body of its own is located. A function whose parts are not there
is kept as a failure in its place, and so is a second function of the same kind and range. What was
found is put in order at the end.
-/

namespace CodePrint

namespace NodeSite

/-- How many functions enclose a node. -/
def functionDepth (site : NodeSite) : Nat :=
  site.ancestors.countP fun ancestor => ancestor.role == .function

/-- The kind of a function: a method if a class body encloses it nearer than a function does. -/
def regionKind (site : NodeSite) : RegionKind :=
  let scope := site.ancestors.find? fun ancestor =>
    ancestor.role == .classBody || ancestor.role == .function
  match scope with
  | some node => if node.role == .classBody then .method else .function
  | none => .function

end NodeSite

namespace SyntaxNode

/-- Whether a parameter list stands at a node or below it. -/
def hasParameters (declarator : SyntaxNode) : Bool :=
  declarator.walk.any fun inner => inner.role == .parameters

/-- A function that has no body of its own. -/
def isBodiless (profile : Profile) (node : SyntaxNode) : Bool :=
  node.children.any fun child => child.type ∈ profile.bodilessTypes

mutual

/-- The node that names what a declarator declares: the declarator itself or the declarator inside
it. -/
def nameNode? (profile : Profile) : SyntaxNode → Option SyntaxNode
  | .node info children =>
    if info.type ∈ profile.nameTypes then some (.node info children)
    else nameNodeIn? profile children

/-- The name node of the first child that is a declarator. -/
def nameNodeIn? (profile : Profile) : List SyntaxNode → Option SyntaxNode
  | [] => none
  | first :: rest =>
    if first.info.field = some profile.declaratorField then nameNode? profile first
    else nameNodeIn? profile rest

end

end SyntaxNode

namespace SyntaxTree

/-- The name that a declarator declares. -/
def declaredName? (tree : SyntaxTree) (profile : Profile) (declarator : SyntaxNode) :
    Option String :=
  (declarator.nameNode? profile).map fun named =>
    String.ofList (Utf8.decodeLossy (tree.bytes named.range))

/-- The region of a function. -/
def regionAt (tree : SyntaxTree) (profile : Profile) (site : NodeSite) :
    Except ScanError Region := do
  let node := site.node
  let range := node.range
  if tree.content.length < range.stop then
    throw (.outOfBounds range.start range.stop tree.content.length)
  let lacks (reason : String) : ScanError := .malformed node.type range.start range.stop reason
  let some body := node.inField? profile.bodyField | throw (lacks "no body")
  let some declarator := node.inField? profile.declaratorField | throw (lacks "no declarator")
  if !declarator.hasParameters then throw (lacks "no parameter list")
  let signature ← ByteRange.ofBounds range.start declarator.range.stop
  return {
    kind := site.regionKind
    range := range
    signature := some signature
    body := some body.range
    depth := site.functionDepth
    name := tree.declaredName? profile declarator }

/-- The functions of a tree that have a body of their own, in pre-order. -/
def functionSites (tree : SyntaxTree) (profile : Profile) : List NodeSite :=
  tree.root.sites.filter fun site =>
    site.node.role == .function && !site.node.isBodiless profile

end SyntaxTree

/-- What was found at a function. -/
inductive Finding where
  | located (region : Region)
  /-- The function has no region. -/
  | rejected (nodeType : String) (error : ScanError)
  /-- The region has the kind and range of an earlier one. -/
  | repeated (region : Region)
deriving Repr

/-- A region, or the error in its place. -/
abbrev LocatedItem := Except ScanError Region

/-- The item that a finding gives. -/
def Finding.item : Finding → LocatedItem
  | .located region => .ok region
  | .rejected _ error => .error error
  | .repeated region =>
    .error (.duplicateRegion region.kind.name region.range.start region.range.stop)

/-- A finding with the key it is ordered by. -/
structure KeyedFinding where
  key : SortKey
  finding : Finding
deriving Repr

namespace SyntaxTree

/-- The findings at functions, given the kinds and ranges met before. -/
def findingsAfter (tree : SyntaxTree) (profile : Profile) (seen : List (RegionKind × ByteRange)) :
    List NodeSite → List KeyedFinding
  | [] => []
  | site :: rest =>
    match tree.regionAt profile site with
    | .error error =>
      ⟨⟨site.node.range.start, 0, site.functionDepth⟩, .rejected site.node.type error⟩ ::
        tree.findingsAfter profile seen rest
    | .ok region =>
      let identity := (region.kind, region.range)
      if identity ∈ seen then
        ⟨region.sortKey, .repeated region⟩ :: tree.findingsAfter profile seen rest
      else
        ⟨region.sortKey, .located region⟩ :: tree.findingsAfter profile (identity :: seen) rest

/-- The findings of a tree in pre-order. -/
def findings (tree : SyntaxTree) (profile : Profile) : List KeyedFinding :=
  tree.findingsAfter profile [] (tree.functionSites profile)

/-- The regions of a tree and the errors in the place of regions, in order; items with equal keys
stay in pre-order. -/
def locate (tree : SyntaxTree) (profile : Profile) : List LocatedItem :=
  let sorted := (tree.findings profile).mergeSort fun a b => a.key.le b.key
  sorted.map (·.finding.item)

/-- The regions of a tree in order, or the first error among them. -/
def locateStrict (tree : SyntaxTree) (profile : Profile) : Except ScanError (List Region) :=
  (tree.locate profile).mapM id

end SyntaxTree

end CodePrint
