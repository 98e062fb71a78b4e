import CodePrint.Fingerprint
import CodePrint.Proofs.Alike
import CodePrint.Proofs.Copies
import CodePrint.Proofs.Regions
import CodePrint.Proofs.Tiling
import CodePrint.Variant.Render

/-! # Content addresses

A variant of a function, and so its fingerprint, says what the function is and not where it stands.
A rendering sees a tree only through the bytes and the leaf spans of a window. In well-formed trees
the spans of a window inside a function come from the function alone, so a function and its copy in
another file are seen alike, whatever is around them.
-/

namespace CodePrint

/-- The error with the places it names moved by an offset. -/
def ScanError.movedBy (offset : Int) : ScanError → ScanError
  | .outOfBounds start stop length => .outOfBounds (start + offset) (stop + offset) length
  | .duplicateRegion kind start stop => .duplicateRegion kind (start + offset) (stop + offset)
  | .malformed subject start stop reason =>
    .malformed subject (start + offset) (stop + offset) reason
  | .variantMissing kinds start stop => .variantMissing kinds (start + offset) (stop + offset)
  | .variantUnexpected kinds start stop => .variantUnexpected kinds (start + offset) (stop + offset)
  | .invalidUtf8 transform place reason => .invalidUtf8 transform (place + offset) reason
  | error => error

/-- The failure with the places it names moved by an offset. What breaks down inside a token counts
its places from the start of the token. -/
def Failure.movedBy (offset : Int) : Failure → Failure
  | .error cause => .error (cause.movedBy offset)
  | .breakdown cause => .breakdown cause

/-- Both renderings give the same, or both fail, the second with the places moved by an offset. -/
def SameUpTo (offset : Int) {α : Type} : Except Failure α → Except Failure α → Prop :=
  Alike (fun failure failure' => failure' = failure.movedBy offset) Eq

namespace ByteRange

variable {offset : Int} {range moved inner movedInner : ByteRange}

private theorem MovedBy.length (same : range.MovedBy offset moved) :
    moved.length = range.length := by
  have := same.start
  have := same.stop
  unfold ByteRange.length
  omega

/-- A slice inside a range is a slice of the slice of that range. -/
theorem slice_inside {α : Type} (range inner : ByteRange) (buffer : List α)
    (begins : range.start ≤ inner.start) (ends : inner.stop ≤ range.stop) :
    inner.slice buffer =
      ((range.slice buffer).drop (inner.start - range.start)).take inner.length := by
  have shorter : inner.length ≤ range.length - (inner.start - range.start) := by
    have := inner.ordered
    unfold ByteRange.length
    omega
  have start : range.start + (inner.start - range.start) = inner.start := by omega
  unfold slice
  rw [List.drop_take, List.drop_drop, start, List.take_take, Nat.min_eq_left shorter]

/-- Where two buffers agree on a range and a moved range, they agree on all that lies inside. -/
theorem MovedBy.slice_eq {α : Type} {buffer other : List α} (same : range.MovedBy offset moved)
    (sameInner : inner.MovedBy offset movedInner) (bytes : moved.slice other = range.slice buffer)
    (begins : range.start ≤ inner.start) (ends : inner.stop ≤ range.stop) :
    movedInner.slice other = inner.slice buffer := by
  have := same.start
  have := same.stop
  have := sameInner.start
  have := sameInner.stop
  have places : movedInner.start - moved.start = inner.start - range.start := by omega
  rw [slice_inside range inner buffer begins ends,
    slice_inside moved movedInner other (by omega) (by omega), bytes, places, sameInner.length]

end ByteRange

/-- Spans of two trees that stand for the same text. -/
structure LeafSpan.SameText (tree other : SyntaxTree) (span twin : LeafSpan) : Prop where
  role : twin.role = span.role
  nodeType : twin.nodeType = span.nodeType
  bytes : other.bytes twin.range = tree.bytes span.range

private theorem SyntaxTree.tokensOf_eq {tree other : SyntaxTree} {spans twins : List LeafSpan}
    (same : List.Forall₂ (LeafSpan.SameText tree other) spans twins) :
    other.tokensOf twins = tree.tokensOf spans := by
  induction same with
  | nil => rfl
  | @cons span twin _ _ text _ ih =>
      have kept : twin.isKept = span.isKept := by simp only [LeafSpan.isKept, text.role]
      have layout : twin.isLayout = span.isLayout := by simp only [LeafSpan.isLayout, text.nodeType]
      have shown : twin.render = span.render := by
        funext token
        unfold LeafSpan.render
        rw [layout]
      rw [SyntaxTree.tokensOf, SyntaxTree.tokensOf, kept, shown, text.bytes, ih]

private theorem LeafSpan.SameText.uncommented {tree other : SyntaxTree}
    {spans twins : List LeafSpan} (same : List.Forall₂ (LeafSpan.SameText tree other) spans twins) :
    (twins.filter (·.role != .comment)).flatMap (fun twin => other.bytes twin.range) =
      (spans.filter (·.role != .comment)).flatMap fun span => tree.bytes span.range := by
  induction same with
  | nil => rfl
  | @cons span twin _ _ text _ ih =>
      rw [List.filter_cons, List.filter_cons, text.role]
      split
      · rw [List.flatMap_cons, List.flatMap_cons, text.bytes, ih]
      · exact ih

/-- A range of one tree and a moved range of another that renderings cannot tell apart. -/
structure SameView (offset : Int) (tree other : SyntaxTree) (range moved : ByteRange) : Prop where
  places : range.MovedBy offset moved
  bytes : other.bytes moved = tree.bytes range
  spans : Alike (fun _ _ => True) (List.Forall₂ (LeafSpan.SameText tree other))
    (tree.leafSpans (some range)) (other.leafSpans (some moved))

namespace SameView

variable {offset : Int} {tree other : SyntaxTree} {range moved : ByteRange}

/-- The same view of a range has the same tokens. -/
theorem tokens (view : SameView offset tree other range moved) :
    other.tokens moved = tree.tokens range := by
  have spans := view.spans
  unfold SyntaxTree.tokens
  match tree.leafSpans (some range), other.leafSpans (some moved), spans with
  | .ok _, .ok _, same => exact SyntaxTree.tokensOf_eq same
  | .error _, .error _, _ => rfl

private theorem decoded (view : SameView offset tree other range moved) (kind : VariantKind) :
    SameUpTo offset ((decodeFor kind range.start (tree.bytes range)).mapError .error)
      ((decodeFor kind moved.start (other.bytes moved)).mapError .error) := by
  have start := view.places.start
  rw [view.bytes]
  unfold decodeFor
  cases Utf8.decode (tree.bytes range) with
  | ok text => rfl
  | error fault =>
      have place : ((moved.start + fault.offset : Nat) : Int) =
          (range.start + fault.offset : Nat) + offset := by omega
      change Failure.error (.invalidUtf8 _ _ _) = .error (.invalidUtf8 _ _ _)
      rw [place]

private theorem uncommented (view : SameView offset tree other range moved) :
    other.uncommented moved = tree.uncommented range := by
  have spans := view.spans
  unfold SyntaxTree.uncommented
  match tree.leafSpans (some range), other.leafSpans (some moved), spans with
  | .ok _, .ok _, same => exact congrArg Except.ok (LeafSpan.SameText.uncommented same)
  | .error _, .error _, _ => rfl

/-- The same view of a range has the same normalized text, or fails alike. -/
theorem normalized (view : SameView offset tree other range moved) (kind : VariantKind) :
    SameUpTo offset (tree.normalized kind range) (other.normalized kind moved) := by
  unfold SyntaxTree.normalized
  refine (view.decoded kind).bind fun _ _ _ => ?_
  rw [view.tokens]
  cases tree.tokens range with
  | ok tokens => exact rfl
  | error cause => exact rfl

/-- A range and its copy give every kind of variant the same content, or the same failure at the
moved place. -/
theorem content (view : SameView offset tree other range moved) (kind : VariantKind) :
    SameUpTo offset (Region.contentFor tree kind range) (Region.contentFor other kind moved) := by
  have encoded : SameUpTo offset
      (tree.normalized kind range >>= fun text => .ok (Utf8.encode text))
      (other.normalized kind moved >>= fun text => .ok (Utf8.encode text)) :=
    (view.normalized kind).bind fun _ _ same => congrArg Utf8.encode same
  cases kind with
  | full => exact view.bytes.symm
  | normalized | signature | body => exact encoded
  | commentStripped =>
      change SameUpTo offset (tree.uncommented range) (other.uncommented moved)
      rw [view.uncommented]
      unfold SyntaxTree.uncommented
      split
      · exact rfl
      · exact rfl
  | spaceCollapsed =>
      exact (view.decoded _).bind fun _ _ same =>
        congrArg (fun text => Utf8.encode (Text.collapse text)) same

end SameView

/-- A function of an adapted and well-formed tree that has bytes, all of them in its source, and
that no literal or comment encloses. -/
structure Addressable (document : Document) (tree : SyntaxTree) (site : NodeSite) : Prop where
  adapted : document.tree = .ok tree
  wellFormed : tree.root.WellFormed
  met : site ∈ tree.root.sites
  function : site.node.role = .function
  exposed : ∀ ancestor ∈ site.ancestors, ancestor.role.isWhole = false
  occupied : site.node.range.start < site.node.range.stop
  inside : site.node.range.stop ≤ tree.content.length

namespace Addressable

variable {document document' : Document} {tree tree' : SyntaxTree} {site site' : NodeSite}
  {offset : Int}

private theorem met_walk (function : Addressable document tree site) : site.node ∈ tree.root.walk :=
  SyntaxNode.site_mem_walk function.met

/-- A copy of a function in a tree of the same language has the same roles. -/
theorem twin (function : Addressable document tree site)
    (copy : Addressable document' tree' site') (language : tree'.language = tree.language)
    (copied : site.node.CopiedAt offset site'.node) : site.node.TwinAt offset site'.node := by
  have classified := (Document.tree_classified function.adapted).of_mem function.met_walk
  have classifiedCopy := (Document.tree_classified copy.adapted).of_mem copy.met_walk
  rw [language] at classifiedCopy
  exact SyntaxNode.twin_of_copied site.node site'.node classified classifiedCopy
    (copy.function.trans function.function.symm) copied

/-- The spans of a window inside a function are found in the function alone. -/
theorem leafSpans_eq (function : Addressable document tree site) {range : ByteRange}
    (countable : range.isCountable = true) (begins : site.node.range.start ≤ range.start)
    (occupied : range.start < range.stop) (ends : range.stop ≤ site.node.range.stop) :
    tree.leafSpans (some range) = .ok (site.node.tile range) := by
  have bounds : tree.bounds (some range) = .ok range := by
    rw [tree.bounds_eq (by rintro _ ⟨⟩; exact of_decide_eq_true countable), windowOr,
      if_pos occupied]
  rw [SyntaxTree.leafSpans, SyntaxTree.leafSpansFrom, bounds]
  exact congrArg Except.ok (SyntaxNode.tile_focus function.wellFormed function.met
    function.exposed begins occupied ends)

/-- Renderings cannot tell a window inside a function from the same window inside its copy. -/
theorem view (function : Addressable document tree site)
    (copy : Addressable document' tree' site') (same : site.node.TwinAt offset site'.node)
    (bytes : tree'.bytes site'.node.range = tree.bytes site.node.range) {range moved : ByteRange}
    (places : range.MovedBy offset moved) (begins : site.node.range.start ≤ range.start)
    (occupied : range.start < range.stop) (ends : range.stop ≤ site.node.range.stop) :
    SameView offset tree tree' range moved := by
  have outer : site.node.range.MovedBy offset site'.node.range := same.info.range
  have := outer.start
  have := outer.stop
  have := places.start
  have := places.stop
  refine ⟨places, outer.slice_eq places bytes begins ends, ?_⟩
  have counted : moved.isCountable = range.isCountable := by
    unfold ByteRange.isCountable
    rw [places.length]
  cases countable : range.isCountable with
  | false =>
      rw [countable] at counted
      simp only [SyntaxTree.leafSpans, SyntaxTree.leafSpansFrom, SyntaxTree.bounds, countable,
        counted, Bool.not_false, ↓reduceIte]
      exact trivial
  | true =>
      rw [function.leafSpans_eq countable begins occupied ends,
        copy.leafSpans_eq (counted.trans countable) (by omega) (by omega) (by omega)]
      have tiled := site.node.tile_tiles range
      have pieces : ∀ span ∈ site.node.tile range, site.node.range.start ≤ span.range.start ∧
          span.range.stop ≤ site.node.range.stop := by
        intro span member
        obtain ⟨after, _, before⟩ := tiled.mem_bounds member
        exact ⟨Nat.le_trans begins after, Nat.le_trans before ends⟩
      refine (List.forall₂_and_left _ _).mpr ⟨pieces, same.tile places⟩ |>.imp ?_
      rintro span twin ⟨⟨after, before⟩, moved⟩
      exact ⟨moved.role, moved.nodeType, outer.slice_eq moved.range bytes after before⟩

end Addressable

namespace Region

/-- The ranges of a region all have bytes. -/
def Occupied (region : Region) : Prop :=
  region.range.start < region.range.stop ∧
    (∀ range ∈ region.signature, range.start < range.stop) ∧
      ∀ range ∈ region.body, range.start < range.stop

instance (region : Region) : Decidable region.Occupied :=
  inferInstanceAs (Decidable (region.range.start < region.range.stop ∧
    (∀ range ∈ region.signature, range.start < range.stop) ∧
      ∀ range ∈ region.body, range.start < range.stop))

private theorem Occupied.rangeFor {region : Region} (occupied : region.Occupied)
    {kind : VariantKind} {range : ByteRange} (made : region.rangeFor kind = .ok range) :
    range.start < range.stop := by
  obtain ⟨whole, signature, body⟩ := occupied
  cases kind with
  | full | normalized | commentStripped | spaceCollapsed =>
      cases made
      exact whole
  | signature =>
      cases part : region.signature with
      | none => simp only [Region.rangeFor, part, reduceCtorEq] at made
      | some range =>
          simp only [Region.rangeFor, part, Except.ok.injEq] at made
          exact made ▸ signature range part
  | body =>
      cases part : region.body with
      | none => simp only [Region.rangeFor, part, reduceCtorEq] at made
      | some range =>
          simp only [Region.rangeFor, part, Except.ok.injEq] at made
          exact made ▸ body range part

/-- Every kind of variant is made from a range inside the outer one, and of the copy from the moved
range. -/
def CopiedWithin (offset : Int) (outer : ByteRange) (region copy : Region) : Prop :=
  ∀ kind, ∃ range moved, region.rangeFor kind = .ok range ∧ copy.rangeFor kind = .ok moved ∧
    range.MovedBy offset moved ∧ outer.start ≤ range.start ∧ range.stop ≤ outer.stop

end Region

namespace Addressable

variable {document document' : Document} {tree tree' : SyntaxTree} {site site' : NodeSite}
  {offset : Int}

private theorem lacks_moved (same : site.node.TwinAt offset site'.node) (reason : String) :
    site'.lacks reason = (site.lacks reason).movedBy offset := by
  have type : site'.node.type = site.node.type := same.info.type
  have start : (site'.node.range.start : Int) = site.node.range.start + offset :=
    same.info.range.start
  have stop : (site'.node.range.stop : Int) = site.node.range.stop + offset := same.info.range.stop
  unfold NodeSite.lacks ScanError.movedBy
  rw [type, start, stop]

/-- A function and its copy both have regions, with the parts at the same places inside them, or
both lack the same part. -/
theorem region (function : Addressable document tree site)
    (copy : Addressable document' tree' site') (language : tree'.language = tree.language)
    (same : site.node.TwinAt offset site'.node) :
    Alike (fun error error' => error' = error.movedBy offset)
      (Region.CopiedWithin offset site.node.range)
      (tree.regionAt tree.language.profile site) (tree'.regionAt tree'.language.profile site') := by
  have wellFormed := function.wellFormed.of_mem function.met_walk
  have wellFormedCopy := copy.wellFormed.of_mem copy.met_walk
  have bodies := same.inField tree.language.profile.bodyField
  have declarators := same.inField tree.language.profile.declaratorField
  rw [tree.regionAt_inBounds _ function.inside, tree'.regionAt_inBounds _ copy.inside, language]
  generalize foundBody : site.node.inField? tree.language.profile.bodyField = body at bodies ⊢
  generalize site'.node.inField? tree.language.profile.bodyField = body' at bodies ⊢
  generalize found : site.node.inField? tree.language.profile.declaratorField = part
    at declarators ⊢
  generalize found' : site'.node.inField? tree.language.profile.declaratorField = part'
    at declarators ⊢
  cases bodies with
  | none => exact lacks_moved same _
  | @some body body' sameBody =>
      cases declarators with
      | none => exact lacks_moved same _
      | @some declarator declarator' sameDeclarator =>
          have inside := wellFormed.inField_inside found
          have inside' := wellFormedCopy.inField_inside found'
          have insideBody := wellFormed.inField_inside foundBody
          have ordered := Nat.le_trans inside.1 declarator.range.ordered
          have ordered' := Nat.le_trans inside'.1 declarator'.range.ordered
          dsimp only
          rw [sameDeclarator.hasParameters, ByteRange.ofBounds_natCast ordered,
            ByteRange.ofBounds_natCast ordered']
          split
          · intro kind
            have signature : (⟨_, _, ordered⟩ : ByteRange).MovedBy offset ⟨_, _, ordered'⟩ :=
              ⟨same.info.range.start, sameDeclarator.info.range.stop⟩
            cases kind with
            | full | normalized | commentStripped | spaceCollapsed =>
                exact ⟨_, _, rfl, rfl, same.info.range, Nat.le_refl _, Nat.le_refl _⟩
            | signature => exact ⟨_, _, rfl, rfl, signature, Nat.le_refl _, inside.2⟩
            | body => exact ⟨_, _, rfl, rfl, sameBody.info.range, insideBody⟩
          · exact lacks_moved same _

end Addressable

/-- Every kind of variant has the same content in both regions, and so the same fingerprint, or
fails in both with the same error, at the moved place in the second. -/
def Region.SameVariants (offset : Int) (tree tree' : SyntaxTree) (region region' : Region) : Prop :=
  ∀ kind, Alike (fun failure failure' => failure' = failure.movedBy offset)
    (fun variant variant' => variant'.content = variant.content ∧
      ∀ algorithm, Fingerprint.ofContent algorithm variant'.content =
        Fingerprint.ofContent algorithm variant.content)
    (region.render tree kind) (region'.render tree' kind)

/-- A function and a copy of it with the same bytes, in trees of one language, both have a region or
both fail for the same reason. Regions whose ranges have bytes have the same variants, wherever the
functions stand and whatever is around them. -/
theorem variants_independent_of_place {document document' : Document} {tree tree' : SyntaxTree}
    {site site' : NodeSite} (function : Addressable document tree site)
    (copy : Addressable document' tree' site')
    (language : document'.source.language = document.source.language)
    (bytes : tree'.bytes site'.node.range = tree.bytes site.node.range) {offset : Int}
    (copied : site.node.CopiedAt offset site'.node) :
    Alike (fun error error' => error' = error.movedBy offset)
      (fun region region' => region.Occupied → region.SameVariants offset tree tree' region')
      (tree.regionAt document.source.language.profile site)
      (tree'.regionAt document'.source.language.profile site') := by
  have languages : tree.language = document.source.language :=
    (Document.tree_eq_ok function.adapted).2.1
  have languages' : tree'.language = document'.source.language :=
    (Document.tree_eq_ok copy.adapted).2.1
  have sameLanguage : tree'.language = tree.language := by rw [languages', language, languages]
  have same := function.twin copy sameLanguage copied
  have regions := function.region copy sameLanguage same
  rw [languages, languages'] at regions
  refine regions.imp fun region region' parts occupied kind => ?_
  obtain ⟨range, moved, made, made', places, begins, ends⟩ := parts kind
  have view := function.view copy same bytes places begins (occupied.rangeFor made) ends
  unfold Region.render
  rw [made, made']
  refine (view.content kind).bind fun content content' sameContent => ?_
  exact ⟨sameContent.symm, fun algorithm => congrArg _ sameContent.symm⟩

/-- A function with a comment in its body, as a parser reports it from a byte of a line on. -/
def RawTree.sampleFunction (start row : Int) : RawTree :=
  .node ⟨"function_definition", none, start, start + 18, row, 0, true, false⟩
    [.node ⟨"primitive_type", some "type", start, start + 3, row, 0, true, false⟩ [],
      .node ⟨"function_declarator", some "declarator", start + 4, start + 11, row, 4, true, false⟩
        [.node ⟨"identifier", some "declarator", start + 4, start + 5, row, 4, true, false⟩ [],
          .node ⟨"parameter_list", some "parameters", start + 5, start + 11, row, 5, true, false⟩
            []],
      .node ⟨"compound_statement", some "body", start + 11, start + 18, row, 11, true, false⟩
        [.node ⟨"\x7b", none, start + 11, start + 12, row, 11, false, false⟩ [],
          .node ⟨"comment", none, start + 12, start + 17, row, 12, true, false⟩ [],
          .node ⟨"\x7d", none, start + 17, start + 18, row, 17, false, false⟩ []]]

/-- The function alone in a file. -/
def Document.sampleAlone : Document where
  source := ⟨.c, Utf8.encodeString "int f(void)\x7b/*c*/\x7d", none⟩
  parsed := some (.node ⟨"translation_unit", none, 0, 18, 0, 0, true, false⟩ [.sampleFunction 0 0])

/-- The function between a comment and another token. -/
def Document.sampleBetween : Document where
  source := ⟨.c, Utf8.encodeString "//a\nint f(void)\x7b/*c*/\x7d\n;", none⟩
  parsed := some (.node ⟨"translation_unit", none, 0, 24, 0, 0, true, false⟩
    [.node ⟨"comment", none, 0, 3, 0, 0, true, false⟩ [], .sampleFunction 4 1,
      .node ⟨";", none, 23, 24, 2, 0, false, false⟩ []])

/-- A function alone in a file and its copy four bytes into another file have the same variants. -/
theorem variants_independent_of_place_sample :
    ∃ tree tree' site site' region region', Addressable .sampleAlone tree site ∧
      Addressable .sampleBetween tree' site' ∧ site.node.CopiedAt 4 site'.node ∧
      tree.regionAt .c site = .ok region ∧ tree'.regionAt .c site' = .ok region' ∧
      region.SameVariants 4 tree tree' region' := by
  let tree := Document.sampleAlone.tree.toOption.get rfl
  let tree' := Document.sampleBetween.tree.toOption.get rfl
  let site := tree.root.sites.get ⟨1, by decide⟩
  let site' := tree'.root.sites.get ⟨2, by decide⟩
  have function : Addressable .sampleAlone tree site :=
    ⟨rfl, by decide, List.get_mem _ _, by decide, by decide, by decide, by decide⟩
  have copy : Addressable .sampleBetween tree' site' :=
    ⟨rfl, by decide, List.get_mem _ _, by decide, by decide, by decide, by decide⟩
  have copied : site.node.CopiedAt 4 site'.node := by decide
  exact ⟨tree, tree', site, site', _, _, function, copy, copied, rfl, rfl,
    variants_independent_of_place function copy rfl (by decide) copied (by decide)⟩

end CodePrint
