import CodePrint.Fingerprint
import CodePrint.Region
import CodePrint.Source
import CodePrint.Variant

/-! # Records

A record is a region of a source with its variants and their fingerprints. Assembly accepts exactly
one variant of every requested kind and puts them in the order of their kinds.
-/

namespace CodePrint

/-- A region with its variants and their fingerprints. -/
structure Record where
  source : Source
  region : Region
  variants : List (Variant × Fingerprint)
deriving DecidableEq, Repr

namespace Record

/-- The kinds of the variants, in order. -/
def kinds (record : Record) : List VariantKind :=
  record.variants.map (·.1.kind)

/-- The variant of a kind with its fingerprint. -/
def pair? (record : Record) (kind : VariantKind) : Option (Variant × Fingerprint) :=
  record.variants.find? (·.1.kind == kind)

/-- The variant of a kind. -/
def variant? (record : Record) (kind : VariantKind) : Option Variant :=
  (record.pair? kind).map (·.1)

/-- The fingerprint of the variant of a kind. -/
def fingerprint? (record : Record) (kind : VariantKind) : Option Fingerprint :=
  (record.pair? kind).map (·.2)

/-- The record on one line: language, kind and range. -/
def text (record : Record) : String :=
  let language := record.source.language.displayName
  let kind := record.region.kind.name
  let range := record.region.range.text
  s!"{language}:{kind}/{range}"

/-- A range as named values. -/
def rangeValue : Option ByteRange → Value
  | some range => .mapping [("start", .ofNat range.start), ("end", .ofNat range.stop)]
  | none => .null

/-- A variant with its fingerprint as named values. -/
def variantValue (variant : Variant) (fingerprint : Fingerprint) : Value :=
  let written : Fields :=
    [("algorithm", .text fingerprint.algorithm.name), ("digest", .text fingerprint.encoded)]
  .mapping [("kind", .text variant.kind.name), ("range", rangeValue (some variant.range)),
    ("text", .text variant.display), ("fingerprint", .mapping written)]

/-- The record as named values. -/
def fields (record : Record) : Fields :=
  [("language", .text record.source.language.tag), ("path", .ofText? record.source.path),
    ("kind", .text record.region.kind.name), ("name", .ofText? record.region.name),
    ("range", rangeValue (some record.region.range)),
    ("signature", rangeValue record.region.signature), ("body", rangeValue record.region.body),
    ("variants", .list (record.variants.map fun (variant, fingerprint) =>
      variantValue variant fingerprint))]

/-- The requested kinds that were not produced. -/
def missing (requested produced : List VariantKind) : List VariantKind :=
  requested.filter fun kind => !produced.contains kind

/-- The kinds that were produced without a request or more than once. -/
def unexpected (requested produced : List VariantKind) : List VariantKind :=
  VariantKind.all.filter fun kind =>
    produced.contains kind && (!requested.contains kind || 1 < produced.count kind)

/-- The names of kinds in alphabetical order. -/
def sortedNames (kinds : List VariantKind) : List String :=
  (kinds.map (·.name)).mergeSort fun a b => decide (a ≤ b)

/-- Variants with their fingerprints, in the order of their kinds. -/
def sortVariants (pairs : List (Variant × Fingerprint)) : List (Variant × Fingerprint) :=
  pairs.mergeSort fun a b => a.1.kind.rank ≤ b.1.kind.rank

/-- The record of a region with the given variants. Every requested kind has to be there once, and
no other kind. -/
def assemble (source : Source) (region : Region) (requested : List VariantKind)
    (pairs : List (Variant × Fingerprint)) : Except ScanError Record :=
  let produced := pairs.map (·.1.kind)
  let range := region.range
  match missing requested produced, unexpected requested produced with
  | [], [] => .ok ⟨source, region, sortVariants pairs⟩
  | [], surplus => .error (.variantUnexpected (sortedNames surplus) range.start range.stop)
  | lacking, _ => .error (.variantMissing (lacking.map (·.name)) range.start range.stop)

end Record

end CodePrint
