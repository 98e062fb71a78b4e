import CodePrint.ByteRange

/-! # Regions

A region is a function-like part of a source: its range, the ranges of its signature and body, and
how deep it is nested in other functions. Regions are ordered by start, then kind, then depth.
-/

namespace CodePrint

/-- What a region is. -/
inductive RegionKind where
  | function
  | method
deriving DecidableEq, Repr

namespace RegionKind

/-- All kinds, in order. -/
def all : List RegionKind :=
  [.function, .method]

/-- The name of a kind. -/
def name : RegionKind → String
  | .function => "function"
  | .method => "method"

/-- The place of a kind in the order. -/
def rank : RegionKind → Nat
  | .function => 0
  | .method => 1

/-- The kind with a name. -/
def ofName? (name : String) : Option RegionKind :=
  all.find? (·.name == name)

end RegionKind

/-- By what regions, and failures in the place of regions, are ordered. -/
structure SortKey where
  start : Nat
  rank : Nat
  depth : Nat
deriving DecidableEq, Repr

/-- Start first, then rank, then depth. -/
def SortKey.le (a b : SortKey) : Bool :=
  if a.start ≠ b.start then a.start < b.start
  else if a.rank ≠ b.rank then a.rank < b.rank
  else a.depth ≤ b.depth

/-- A function-like part of a source. -/
structure Region where
  kind : RegionKind
  range : ByteRange
  signature : Option ByteRange := none
  body : Option ByteRange := none
  /-- How many functions enclose the region. -/
  depth : Nat := 0
  name : Option String := none
deriving DecidableEq, Repr

namespace Region

/-- The key of a region. -/
def sortKey (region : Region) : SortKey :=
  ⟨region.range.start, region.kind.rank, region.depth⟩

/-- Regions in order; regions with equal keys keep theirs. -/
def sort (regions : List Region) : List Region :=
  regions.mergeSort fun a b => a.sortKey.le b.sortKey

end Region

end CodePrint
