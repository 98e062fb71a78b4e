import CodePrint.Fingerprint
import CodePrint.Variant

/-! # Options

What an extraction produces and what it does when a region fails.
-/

namespace CodePrint

/-- What happens to a scan when one of its regions fails. -/
inductive RegionErrorPolicy where
  /-- The failure ends the scan. -/
  | abort
  /-- The region is left out. -/
  | skip
deriving DecidableEq, Repr

namespace RegionErrorPolicy

/-- All policies, in order. -/
def all : List RegionErrorPolicy :=
  [.abort, .skip]

/-- The name of a policy. -/
def name : RegionErrorPolicy → String
  | .abort => "abort"
  | .skip => "skip"

/-- The policy with a name. -/
def ofName? (name : String) : Option RegionErrorPolicy :=
  all.find? (·.name == name)

end RegionErrorPolicy

/-- The options of an extraction. -/
structure Options where
  /-- The kinds of variants that every record has. -/
  transforms : List VariantKind := [.full, .normalized, .signature]
  algorithm : HashAlgorithm := .sha256
  backend : HashBackend := .builtin
  /-- Whether a source with syntax errors is accepted. -/
  allowErrors : Bool := false
  policy : RegionErrorPolicy := .abort
deriving DecidableEq, Repr

end CodePrint
