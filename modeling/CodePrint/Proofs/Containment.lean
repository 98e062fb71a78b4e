import CodePrint.Proofs.Draining
import CodePrint.Proofs.Locating
import CodePrint.Proofs.Mirror
import CodePrint.Proofs.RecordFaults

/-! # Errors that end a stream

What a stage can fail with is said once for each stage: reading the tree, finding a region, making
its record. Located regions have all their parts, so some errors of the later stages cannot occur,
and an internal error is left only where the tokens of a requested kind cannot be read.
-/

namespace CodePrint

/-! ## Regions -/

/-- What a function without a region is reported as. -/
inductive RegionFault : ScanError → Prop
  | outOfBounds (start stop length : Int) : RegionFault (.outOfBounds start stop length)
  | malformed (subject : String) (start stop : Int) {reason : String}
      (known : reason ∈ ["no body", "no declarator", "no parameter list",
        "start must be >= 0 and <= end"]) :
      RegionFault (.malformed subject start stop reason)
  | duplicate (kind : String) (start stop : Int) : RegionFault (.duplicateRegion kind start stop)

namespace SyntaxTree

variable {tree : SyntaxTree} {profile : Profile}

private theorem regionAt_eq_error {site : NodeSite} {error : ScanError}
    (failed : tree.regionAt profile site = .error error) : RegionFault error := by
  by_cases inside : site.node.range.stop ≤ tree.content.length
  · rw [tree.regionAt_inBounds profile inside] at failed
    split at failed
    · cases failed
      exact .malformed _ _ _ (by decide)
    · cases failed
      exact .malformed _ _ _ (by decide)
    · rename_i declarator _ _
      split at failed
      · have bounds := ByteRange.ofBounds_failure site.node.range.start declarator.range.stop
        cases signed : ByteRange.ofBounds site.node.range.start declarator.range.stop with
        | ok signature =>
            rw [signed] at failed
            cases failed
        | error failure =>
            rw [signed] at failed bounds
            cases failed
            split at bounds
            · cases bounds
            · cases bounds
              exact .malformed _ _ _ (by decide)
      · cases failed
        exact .malformed _ _ _ (by decide)
  · rw [regionAt_outside (Nat.not_le.mp inside)] at failed
    cases failed
    exact .outOfBounds _ _ _

/-- Everything located was yielded by some function site. -/
theorem mem_locate {item : LocatedItem} (member : item ∈ tree.locate profile) :
    ∃ earlier site, tree.Yields profile earlier site item := by
  rw [tree.locate_eq_ranked profile] at member
  obtain ⟨both, ranked, rfl⟩ := List.mem_map.mp member
  exact ⟨_, _, (tree.mem_rankedFindings profile ranked).2⟩

/-- What locating reports besides regions are faults of regions. -/
theorem locate_error {error : ScanError} (member : .error error ∈ tree.locate profile) :
    RegionFault error := by
  obtain ⟨_, _, yields⟩ := mem_locate member
  cases yields with
  | rejected failed => exact regionAt_eq_error failed
  | repeated => exact .duplicate _ _ _

/-- A located region has all its parts and lies in the source. -/
theorem locate_region {region : Region} (member : .ok region ∈ tree.locate profile) :
    region.signature.isSome ∧ region.body.isSome ∧ region.range.stop ≤ tree.content.length := by
  obtain ⟨_, _, yields⟩ := mem_locate member
  cases yields with
  | located found _ =>
      obtain ⟨inside, signature, body, declarator, rfl⟩ := regionAt_eq_ok found
      exact ⟨rfl, rfl, inside⟩

end SyntaxTree

/-! ## Documents and streams -/

/-- What a document that does not parse is reported as. -/
inductive ParseFault : ScanError → Prop
  | noTree (language : String) : ParseFault (.noTree language)
  | badRange (node : RawNode) : ParseFault node.badRange
  | syntaxErrors (language : String) (count : Int) (first : FaultSite) :
      ParseFault (.syntaxErrors language count first)

namespace Document

variable {document : Document} {allowErrors : Bool}

private theorem tree_eq_error {error : ScanError} (failed : document.tree = .error error) :
    ParseFault error := by
  obtain ⟨source, parsed⟩ := document
  cases parsed with
  | none =>
      cases failed
      exact .noTree _
  | some raw =>
      have first := tree_failure source raw
      rw [failed] at first
      obtain ⟨row, _, rfl⟩ := Option.map_eq_some_iff.mp first.symm
      exact .badRange row.node

/-- A parse is refused for faults of parsing only. -/
theorem parse_fault {error : ScanError} (refused : document.parse allowErrors = .error error) :
    ParseFault error := by
  rcases bind_eq_error.mp refused with failed | ⟨tree, _, faulty⟩
  · exact tree_eq_error failed
  · split at faulty
    · cases faulty
    · split at faulty
      · cases faulty
      · cases faulty
        exact .syntaxErrors _ _ _

private theorem parse_content {tree : SyntaxTree} (parsed : document.parse allowErrors = .ok tree) :
    tree.content = document.source.content := by
  obtain ⟨_, adapted, accepted⟩ := bind_eq_ok.mp parsed
  have same := (tree_eq_ok adapted).1
  split at accepted
  · cases accepted
    exact same
  · split at accepted
    · cases accepted
      exact same
    · cases accepted

end Document

/-- The error that an outcome ends with is one that settling gave. -/
theorem Outcome.under_error {results : List (Except ScanError Record)} {policy : RegionErrorPolicy}
    {error : ScanError} (ended : (Outcome.under results policy).error = some error) :
    .error error ∈ results := by
  cases policy with
  | skip => cases ended
  | abort =>
      obtain ⟨result, member, failed⟩ := List.exists_of_findSome?_eq_some ended
      rw [← failure_eq_some.mp failed]
      exact member

/-- The error that ends a stream comes from parsing, from locating or from a region's record. -/
theorem Stream.drain_error {stream : Stream} {error : ScanError}
    (unopened : stream.state = .unopened) (ended : stream.drain.1.error = some error) :
    stream.document.parse stream.options.allowErrors = .error error ∨
      ∃ tree, stream.document.parse stream.options.allowErrors = .ok tree ∧
        (.error error ∈ tree.locate stream.profile ∨
          ∃ region, .ok region ∈ tree.locate stream.profile ∧
            region.record tree stream.document.source stream.options = .error error) := by
  by_cases empty : stream.document.source.content = []
  · rw [drain_empty unopened empty] at ended
    cases ended
  · cases parsed : stream.document.parse stream.options.allowErrors with
    | error failure =>
        rw [drain_unparsed unopened empty parsed] at ended
        cases ended
        exact .inl rfl
    | ok tree =>
        rw [drain_parsed unopened empty parsed] at ended
        obtain ⟨item, member, settled⟩ := List.mem_map.mp (Outcome.under_error ended)
        refine .inr ⟨tree, rfl, ?_⟩
        rcases bind_eq_error.mp settled with rejected | ⟨region, located, failed⟩
        · exact .inl (rejected ▸ member)
        · exact .inr ⟨region, located ▸ member, failed⟩

/-- An error that may end a stream of a document. -/
structure Contained (document : Document) (options : Options) (error : ScanError) : Prop where
  family : error.family = .parsing ∨ error.family = .extraction ∨ error.family = .encoding
  code : error.code ≠ .variantMissing ∧ error.code ≠ .variantUnexpected
  /-- No located region lacks a part. -/
  reason : ∀ subject start stop reason, error = .malformed subject start stop reason →
    reason ≠ "no signature range" ∧ reason ≠ "no body range"
  /-- An internal error comes from the tokens of a requested kind. The bound is that of every
  buffer. -/
  internal : error.code = .internalError →
    document.source.content.length ≤ ByteRange.indexLimit →
    ∃ tree region kind range, document.parse options.allowErrors = .ok tree ∧
      .ok region ∈ tree.locate document.source.language.profile ∧ kind ∈ options.transforms ∧
      kind ∈ [VariantKind.normalized, .signature, .body] ∧ region.rangeFor kind = .ok range ∧
      tree.BreaksDown range

namespace Contained

variable {document : Document} {options : Options} {error : ScanError}

private theorem of_parseFault (fault : ParseFault error) : Contained document options error := by
  cases fault with
  | noTree | syntaxErrors => exact ⟨.inl rfl, ⟨nofun, nofun⟩, nofun, nofun⟩
  | badRange node =>
      refine ⟨.inr (.inl rfl), ⟨nofun, nofun⟩, ?_, nofun⟩
      rintro _ _ _ _ ⟨⟩
      decide

private theorem of_regionFault (fault : RegionFault error) : Contained document options error := by
  cases fault with
  | outOfBounds | duplicate => exact ⟨.inr (.inl rfl), ⟨nofun, nofun⟩, nofun, nofun⟩
  | malformed subject start stop known =>
      refine ⟨.inr (.inl rfl), ⟨nofun, nofun⟩, ?_, nofun⟩
      rintro _ _ _ _ ⟨⟩
      constructor
      · rintro rfl
        revert known
        decide
      · rintro rfl
        revert known
        decide

/-- An error in making a record is one that a drain may end with. -/
theorem of_record {tree : SyntaxTree} {region : Region}
    (parsed : document.parse options.allowErrors = .ok tree)
    (located : .ok region ∈ tree.locate document.source.language.profile)
    (distinct : options.transforms.Nodup)
    (failed : region.record tree document.source options = .error error) :
    Contained document options error := by
  obtain ⟨signed, embodied, inside⟩ := SyntaxTree.locate_region located
  obtain ⟨kind, requested, range, failure, ranged, fault, rfl⟩ :=
    Region.record_eq_error distinct signed embodied failed
  cases fault with
  | noText => exact ⟨.inr (.inr rfl), ⟨nofun, nofun⟩, nofun, nofun⟩
  | tokens reads broken cause =>
      refine ⟨.inr (.inl rfl), ⟨nofun, nofun⟩, nofun, fun _ _ => ?_⟩
      exact ⟨tree, region, kind, range, parsed, located, requested, reads, ranged, broken⟩
  | comments strips long cause =>
      refine ⟨.inr (.inl rfl), ⟨nofun, nofun⟩, nofun, fun _ held => ?_⟩
      -- The range is that of the region, which lies in the source.
      rw [strips] at ranged
      cases ranged
      rw [Document.parse_content parsed] at inside
      have short : region.range.length ≤ region.range.stop := Nat.sub_le _ _
      omega

end Contained

/-- Whatever the source and its tree, a drain under checked options ends without an error or with
one that is contained. -/
theorem drain_error_contained {session : Session} {document : Document} {fields : Fields}
    {options : Options} {registry : Option Registry} {scanId : Option String} {stream : Stream}
    (validated : Check.options fields = .valid options)
    (extracted : (session.extract document options registry scanId).1 = .ok stream) :
    ∀ error, stream.drain.1.error = some error → Contained document options error := by
  intro error ended
  obtain ⟨id, rfl⟩ := Session.extract_eq_ok extracted
  rcases Stream.drain_error rfl ended with refused | ⟨tree, parsed, failing⟩
  · exact .of_parseFault (Document.parse_fault refused)
  · rcases failing with rejected | ⟨region, located, failed⟩
    · exact .of_regionFault (SyntaxTree.locate_error rejected)
    · exact .of_record parsed located (Check.options_nodup validated) failed

/-- A function whose body is one character of two bytes, which a parser reports as two tokens. -/
def Document.sampleCut : Document where
  source := ⟨.c, Utf8.encodeString "f()é", none⟩
  parsed := some (.node ⟨"function_definition", none, 0, 5, 0, 0, true, false⟩
    [.node ⟨"function_declarator", some "declarator", 0, 3, 0, 0, true, false⟩
        [.node ⟨"parameter_list", some "parameters", 1, 3, 0, 1, true, false⟩ []],
      .node ⟨"compound_statement", some "body", 3, 5, 0, 3, true, false⟩
        [.node ⟨"name", none, 3, 4, 0, 3, true, false⟩ [],
          .node ⟨"name", none, 4, 5, 0, 4, true, false⟩ []]])

/-- A character that two tokens divide ends a drain with an internal error, and that error is among
those a drain may end with. -/
theorem drain_error_contained_sampleCut :
    ∃ stream error, Check.options [] = .valid {} ∧
      (Session.sample.extract .sampleCut {} none none).1 = .ok stream ∧
      stream.drain.1.error = some error ∧ error.code = .internalError ∧
      Contained .sampleCut {} error := by
  let tree := Document.sampleCut.tree.toOption.get rfl
  obtain ⟨stream, extracted⟩ : ∃ stream,
    (Session.sample.extract .sampleCut {} none none).1 = .ok stream := ⟨_, rfl⟩
  obtain ⟨error, ended, internal⟩ :
      ∃ error, stream.drain.1.error = some error ∧ error.code = .internalError := by
    obtain ⟨id, rfl⟩ := Session.extract_eq_ok extracted
    have located : tree.locate Document.sampleCut.source.language.profile = [_] :=
      SyntaxTree.locate_single (show tree.findings _ = [_] from rfl)
    have parsed : Document.sampleCut.parse false = .ok tree := rfl
    have inhabited : Document.sampleCut.source.content ≠ [] := by decide
    rw [@Stream.drain_parsed ⟨.sampleCut, _, {}, id, .unopened⟩ rfl inhabited tree parsed, located]
    exact ⟨_, rfl, rfl⟩
  have validated : Check.options [] = .valid {} := rfl
  exact ⟨stream, error, validated, extracted, ended, internal,
    drain_error_contained validated extracted error ended⟩

end CodePrint
