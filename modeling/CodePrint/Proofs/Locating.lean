import CodePrint.Proofs.Alike
import CodePrint.Proofs.Regions
import Mathlib.Data.List.Forall2
import Mathlib.Data.Prod.Lex

/-! # What locating gives

Every function that has a body of its own gives one item. In pre-order, the first function of a kind
and range gives its region, a later one an error, and so does a function without a region. The items
are then ordered by where the functions start, by kind and by depth, and those that compare equal
stay in pre-order. The ranking that `SyntaxTree.Located` speaks of is the only one there is: each
function comes with its place in pre-order, so no two of them compare equal.
-/

namespace CodePrint

/-- What regions of one tree are told apart by. -/
def Region.identity (region : Region) : RegionKind × ByteRange :=
  (region.kind, region.range)

namespace SyntaxTree

/-- What a function gives, after the functions before it in pre-order. -/
inductive Yields (tree : SyntaxTree) (profile : Profile) (earlier : List NodeSite)
    (site : NodeSite) : LocatedItem → Prop
  | rejected {error : ScanError} (failed : tree.regionAt profile site = .error error) :
      Yields tree profile earlier site (.error error)
  | located {region : Region} (found : tree.regionAt profile site = .ok region)
      (first : ∀ other ∈ earlier, ∀ former, tree.regionAt profile other = .ok former →
        former.identity ≠ region.identity) :
      Yields tree profile earlier site (.ok region)
  | repeated {region former : Region} {other : NodeSite}
      (found : tree.regionAt profile site = .ok region) (before : other ∈ earlier)
      (foundBefore : tree.regionAt profile other = .ok former)
      (same : former.identity = region.identity) :
      Yields tree profile earlier site
        (.error (.duplicateRegion region.kind.name region.range.start region.range.stop))

/-- What a function is ordered by: its start, the rank of its kind, and its depth. A function
without a region ranks first. -/
def orderKey (tree : SyntaxTree) (profile : Profile) (site : NodeSite) : ℕ ×ₗ ℕ ×ₗ ℕ :=
  let rank :=
    match tree.regionAt profile site with
    | .ok region => region.kind.rank
    | .error _ => 0
  toLex (site.node.range.start, toLex (rank, site.functionDepth))

/-- The items that the functions of a tree give, in order. -/
structure Located (tree : SyntaxTree) (profile : Profile) (items : List LocatedItem) : Prop where
  /-- Every function gives one item. The functions, each with its place in pre-order, are ranked by
  their keys and then by their places. -/
  ranked : ∃ ranking : List (NodeSite × ℕ),
    ranking.Perm (tree.functionSites profile).zipIdx ∧
    ranking.Pairwise (fun a b => tree.orderKey profile a.1 < tree.orderKey profile b.1 ∨
      tree.orderKey profile a.1 = tree.orderKey profile b.1 ∧ a.2 < b.2) ∧
    List.Forall₂ (fun place item =>
      tree.Yields profile ((tree.functionSites profile).take place.2) place.1 item) ranking items
  distinct : ((items.filterMap Except.toOption).map Region.identity).Nodup

end SyntaxTree

namespace SortKey

/-- The key as it is compared. -/
def lex (key : SortKey) : ℕ ×ₗ ℕ ×ₗ ℕ :=
  toLex (key.start, toLex (key.rank, key.depth))

/-- Keys are compared as the triples of their parts are, the first part first. -/
theorem le_iff {a b : SortKey} : a.le b = true ↔ a.lex ≤ b.lex := by
  simp only [lex, Prod.Lex.toLex_le_toLex, SortKey.le]
  split
  · simp only [decide_eq_true_eq]
    omega
  · split
    · simp only [decide_eq_true_eq]
      omega
    · simp only [decide_eq_true_eq]
      omega

private theorem trans (a b c : SortKey) (first : a.le b = true) (second : b.le c = true) :
    a.le c = true :=
  le_iff.mpr (le_trans (le_iff.mp first) (le_iff.mp second))

private theorem total (a b : SortKey) : (a.le b || b.le a) = true := by
  rw [Bool.or_eq_true, le_iff, le_iff]
  exact le_total _ _

end SortKey

namespace SyntaxTree

variable {tree : SyntaxTree} {profile : Profile} {earlier : List NodeSite} {site : NodeSite}
  {seen : List (RegionKind × ByteRange)}

/-- The kinds and ranges met are those of the functions passed. -/
def Met (tree : SyntaxTree) (profile : Profile) (earlier : List NodeSite)
    (seen : List (RegionKind × ByteRange)) : Prop :=
  ∀ identity, identity ∈ seen ↔
    ∃ other ∈ earlier, ∃ region, tree.regionAt profile other = .ok region ∧
      region.identity = identity

namespace Met

private theorem start : tree.Met profile [] [] := by
  intro identity
  simp only [List.not_mem_nil, false_and, exists_false]

private theorem pass_rejected {error : ScanError} (met : tree.Met profile earlier seen)
    (failed : tree.regionAt profile site = .error error) :
    tree.Met profile (earlier ++ [site]) seen := by
  intro identity
  simp only [met identity, List.mem_append, List.mem_singleton, or_and_right, exists_or,
    exists_eq_left, failed, reduceCtorEq, false_and, exists_false, or_false]

private theorem pass_found {region : Region} (met : tree.Met profile earlier seen)
    (found : tree.regionAt profile site = .ok region) :
    tree.Met profile (earlier ++ [site]) (region.identity :: seen) := by
  intro identity
  simp only [List.mem_cons, met identity, List.mem_append, List.not_mem_nil, or_false,
    or_and_right, exists_or, exists_eq_left, found, Except.ok.injEq, exists_eq_left']
  rw [or_comm, eq_comm]

private theorem pass_repeated {region : Region} (met : tree.Met profile earlier seen)
    (found : tree.regionAt profile site = .ok region) (before : region.identity ∈ seen) :
    tree.Met profile (earlier ++ [site]) seen := by
  intro identity
  rw [← met.pass_found found identity, List.mem_cons]
  constructor
  · exact .inr
  · rintro (rfl | inside)
    · exact before
    · exact inside

end Met

private theorem orderKey_error {error : ScanError}
    (failed : tree.regionAt profile site = .error error) : tree.orderKey profile site =
      (SortKey.mk site.node.range.start 0 site.functionDepth).lex := by
  simp only [orderKey, failed, SortKey.lex]

/-- A site with a region is placed by the key of the region. -/
theorem orderKey_ok {region : Region} (found : tree.regionAt profile site = .ok region) :
    tree.orderKey profile site = region.sortKey.lex := by
  obtain ⟨_, signature, body, declarator, rfl⟩ := regionAt_eq_ok found
  simp only [orderKey, found]
  rfl

/-- The findings answer to the functions one by one, with their keys. -/
theorem findingsAfter_yields (met : tree.Met profile earlier seen) (sites : List NodeSite) :
    List.Forall₂ (fun place keyed => keyed.key.lex = tree.orderKey profile place.1 ∧
        tree.Yields profile ((earlier ++ sites).take place.2) place.1 keyed.finding.item)
      (sites.zipIdx earlier.length) (tree.findingsAfter profile seen sites) := by
  induction sites generalizing earlier seen with
  | nil => exact .nil
  | cons site rest ih =>
      have passed : (earlier ++ site :: rest).take earlier.length = earlier := List.take_left
      have place : (earlier ++ [site]).length = earlier.length + 1 := by simp
      have onward {seen : List (RegionKind × ByteRange)}
          (met : tree.Met profile (earlier ++ [site]) seen) := ih met
      simp only [place, List.append_assoc, List.singleton_append] at onward
      rw [findingsAfter, List.zipIdx_cons]
      cases found : tree.regionAt profile site with
      | error error =>
          refine .cons ⟨(orderKey_error found).symm, ?_⟩ (onward (met.pass_rejected found))
          exact .rejected found
      | ok region =>
          dsimp only
          split
          · rename_i before
            refine .cons ⟨(orderKey_ok found).symm, ?_⟩ (onward (met.pass_repeated found before))
            obtain ⟨other, inside, former, foundBefore, same⟩ := (met _).mp before
            rw [passed]
            exact .repeated found inside foundBefore same
          · rename_i unmet
            refine .cons ⟨(orderKey_ok found).symm, ?_⟩ (onward (met.pass_found found))
            rw [passed]
            refine .located found fun other inside former foundBefore same => unmet ?_
            exact (met _).mpr ⟨other, inside, former, foundBefore, same⟩

/-- Each finding has the key of its site and is what the site yields after those before it. -/
theorem findings_yields (tree : SyntaxTree) (profile : Profile) :
    List.Forall₂ (fun place keyed => keyed.key.lex = tree.orderKey profile place.1 ∧
        tree.Yields profile ((tree.functionSites profile).take place.2) place.1 keyed.finding.item)
      (tree.functionSites profile).zipIdx (tree.findings profile) :=
  findingsAfter_yields Met.start (tree.functionSites profile)

/-- The regions found are told apart by their identities, also from those met before. -/
theorem findingsAfter_distinct (tree : SyntaxTree) (profile : Profile)
    (seen : List (RegionKind × ByteRange)) (sites : List NodeSite) :
    let items := (tree.findingsAfter profile seen sites).map (·.finding.item)
    let identities := (items.filterMap Except.toOption).map Region.identity
    identities.Nodup ∧ ∀ identity ∈ identities, identity ∉ seen := by
  induction sites generalizing seen with
  | nil => exact ⟨.nil, fun _ member => absurd member List.not_mem_nil⟩
  | cons site rest ih =>
      rw [findingsAfter]
      cases tree.regionAt profile site with
      | error error => exact ih seen
      | ok region =>
          dsimp only
          split
          · exact ih seen
          · rename_i unmet
            obtain ⟨distinct, unseen⟩ := ih (region.identity :: seen)
            refine ⟨List.nodup_cons.mpr ⟨fun again => ?_, distinct⟩, fun identity member => ?_⟩
            · exact unseen _ again List.mem_cons_self
            · rcases List.mem_cons.mp member with rfl | later
              · exact unmet
              · exact fun before => unseen identity later (.tail _ before)

end SyntaxTree

/-- Comparing keyed findings by their places where their keys are equal. -/
theorem KeyedFinding.zipIdxLE_iff {a b : KeyedFinding × ℕ} :
    List.zipIdxLE (fun a b => a.key.le b.key) a b = true ↔
      a.1.key.lex < b.1.key.lex ∨ a.1.key.lex = b.1.key.lex ∧ a.2 ≤ b.2 := by
  unfold List.zipIdxLE
  simp only [SortKey.le_iff]
  rcases lt_trichotomy a.1.key.lex b.1.key.lex with below | same | above
  · simp only [below.le, below.not_ge, below, ↓reduceIte, true_or]
  · simp only [same, le_refl, ↓reduceIte, decide_eq_true_eq, lt_irrefl, true_and, false_or]
  · simp only [above.not_ge, above.not_gt, above.ne', ↓reduceIte, Bool.false_eq_true, false_and,
      or_self]

/-- Members of two lists side by side, the first with their places, are the members of the second
with those places. -/
theorem zipIdx_zip_map {α β : Type} {first : List α} {second : List β}
    (same : first.length = second.length) (place : ℕ) :
    ((first.zipIdx place).zip second).map (fun both => (both.2, both.1.2)) =
      second.zipIdx place := by
  induction first generalizing second place with
  | nil =>
      rw [List.eq_nil_of_length_eq_zero same.symm]
      rfl
  | cons a first ih =>
      cases second with
      | nil => cases same
      | cons b second =>
          rw [List.zipIdx_cons, List.zip_cons_cons, List.map_cons, List.zipIdx_cons,
            ih (Nat.succ.inj same)]

namespace SyntaxTree

variable (tree : SyntaxTree) (profile : Profile)

/-- No region is located twice. -/
theorem locate_distinct :
    (((tree.locate profile).filterMap Except.toOption).map Region.identity).Nodup := by
  have sorted := (List.mergeSort_perm (tree.findings profile) fun a b => a.key.le b.key).map
    (·.finding.item)
  refine ((sorted.filterMap Except.toOption).map Region.identity).nodup_iff.mpr ?_
  exact (tree.findingsAfter_distinct profile [] (tree.functionSites profile)).1

/-- The functions with their places and their findings, in order. The places decide between equal
keys. -/
def rankedFindings : List ((NodeSite × ℕ) × KeyedFinding) :=
  ((tree.functionSites profile).zipIdx.zip (tree.findings profile)).mergeSort fun a b =>
    List.zipIdxLE (fun a b => a.key.le b.key) (a.2, a.1.2) (b.2, b.1.2)

/-- There is one finding for each function site. -/
theorem findings_length :
    (tree.functionSites profile).zipIdx.length = (tree.findings profile).length :=
  (tree.findings_yields profile).length_eq

/-- Ranking the findings keeps every function site, with the place at which it was met. -/
theorem rankedFindings_perm :
    ((tree.rankedFindings profile).map Prod.fst).Perm (tree.functionSites profile).zipIdx := by
  have sorted := (List.mergeSort_perm
    ((tree.functionSites profile).zipIdx.zip (tree.findings profile)) fun a b =>
      List.zipIdxLE (fun a b => a.key.le b.key) (a.2, a.1.2) (b.2, b.1.2)).map Prod.fst
  rw [List.map_fst_zip (tree.findings_length profile).le] at sorted
  exact sorted

/-- Each ranked finding has the key of its site and is what the site yields after those met before
it. -/
theorem mem_rankedFindings {both : (NodeSite × ℕ) × KeyedFinding}
    (member : both ∈ tree.rankedFindings profile) :
    both.2.key.lex = tree.orderKey profile both.1.1 ∧
      tree.Yields profile ((tree.functionSites profile).take both.1.2) both.1.1
        both.2.finding.item :=
  (List.forall₂_iff_zip.mp (tree.findings_yields profile)).2 (List.mem_mergeSort.mp member)

/-- The items are those of the ranked findings: sorting by keys alone keeps equal keys in place. -/
theorem locate_eq_ranked :
    tree.locate profile = (tree.rankedFindings profile).map fun both => both.2.finding.item := by
  have places := zipIdx_zip_map ((List.length_zipIdx).symm.trans (tree.findings_length profile)) 0
  have sorted : (tree.findings profile).mergeSort (fun a b => a.key.le b.key) =
      (tree.rankedFindings profile).map Prod.snd := by
    rw [← List.mergeSort_zipIdx, ← places, rankedFindings, ← List.map_mergeSort, List.map_map]
    · rfl
    · exact fun _ _ _ _ => rfl
  rw [locate, sorted, List.map_map]
  rfl

/-- Ranked findings stand in the order of their keys, and those with equal keys in the order in
which they were met. -/
theorem rankedFindings_pairwise :
    ((tree.rankedFindings profile).map Prod.fst).Pairwise fun a b =>
      tree.orderKey profile a.1 < tree.orderKey profile b.1 ∨
        tree.orderKey profile a.1 = tree.orderKey profile b.1 ∧ a.2 < b.2 := by
  have places : (((tree.rankedFindings profile).map Prod.fst).map Prod.snd).Nodup := by
    rw [((tree.rankedFindings_perm profile).map Prod.snd).nodup_iff, List.zipIdx_map_snd]
    exact List.nodup_range'
  have sorted : (tree.rankedFindings profile).Pairwise fun a b =>
      List.zipIdxLE (fun a b => a.key.le b.key) (a.2, a.1.2) (b.2, b.1.2) = true := by
    refine List.pairwise_mergeSort (fun a b c => ?_) (fun a b => ?_) _
    · exact List.zipIdxLE_trans (fun a b c => SortKey.trans a.key b.key c.key) _ _ _
    · exact List.zipIdxLE_total (fun a b => SortKey.total a.key b.key) _ _
  rw [List.Nodup, List.pairwise_map, List.pairwise_map] at places
  rw [List.pairwise_map]
  refine (sorted.and places).imp_of_mem fun {a b} memberA memberB both => ?_
  obtain ⟨compared, apart⟩ := both
  rw [KeyedFinding.zipIdxLE_iff, (tree.mem_rankedFindings profile memberA).1,
    (tree.mem_rankedFindings profile memberB).1] at compared
  exact compared.imp_right fun ⟨same, before⟩ => ⟨same, lt_of_le_of_ne before apart⟩

/-- What is located comes from every function site, in the order of their keys, each with what it
yields. -/
theorem locate_located : tree.Located profile (tree.locate profile) := by
  refine ⟨⟨_, tree.rankedFindings_perm profile, tree.rankedFindings_pairwise profile, ?_⟩,
    tree.locate_distinct profile⟩
  rw [tree.locate_eq_ranked, List.forall₂_map_left_iff, List.forall₂_map_right_iff,
    List.forall₂_same]
  exact fun both member => (tree.mem_rankedFindings profile member).2

end SyntaxTree

/-- Items are regions throughout, or regions up to a first error. -/
theorem LocatedItem.regions_or_error (items : List LocatedItem) :
    (∃ regions : List Region, items = regions.map .ok) ∨
      ∃ (located : List Region) (error : ScanError) (later : List LocatedItem),
        items = located.map .ok ++ .error error :: later := by
  induction items with
  | nil => exact .inl ⟨[], rfl⟩
  | cons item rest ih =>
      cases item with
      | error error => exact .inr ⟨[], error, rest, rfl⟩
      | ok region =>
          rcases ih with ⟨regions, rfl⟩ | ⟨located, error, later, rfl⟩
          · exact .inl ⟨region :: regions, rfl⟩
          · exact .inr ⟨region :: located, error, later, rfl⟩

private theorem LocatedItem.mapM_append (located : List Region) (rest : List LocatedItem) :
    (located.map Except.ok ++ rest).mapM id = (rest.mapM id).map (located ++ ·) := by
  induction located with
  | nil =>
      rw [List.map_nil, List.nil_append]
      cases rest.mapM id with
      | error error => rfl
      | ok regions => rfl
  | cons region located ih =>
      rw [List.map_cons, List.cons_append, List.mapM_cons, ih]
      cases rest.mapM id with
      | error error => rfl
      | ok regions => rfl

namespace SyntaxTree

variable {tree : SyntaxTree} {profile : Profile}

private theorem locateStrict_of_regions {regions : List Region}
    (clean : tree.locate profile = regions.map .ok) :
    tree.locateStrict profile = .ok regions := by
  have joined := LocatedItem.mapM_append regions []
  rw [List.append_nil, ← clean] at joined
  rw [locateStrict, joined]
  exact congrArg Except.ok (List.append_nil regions)

private theorem locateStrict_of_error {located : List Region} {error : ScanError}
    {later : List LocatedItem}
    (stopped : tree.locate profile = located.map .ok ++ .error error :: later) :
    tree.locateStrict profile = .error error := by
  rw [locateStrict, stopped, LocatedItem.mapM_append, List.mapM_cons]
  rfl

/-- Strict locating gives regions exactly when locating gives those regions and no fault. -/
theorem locateStrict_eq_ok_iff {regions : List Region} :
    tree.locateStrict profile = .ok regions ↔ tree.locate profile = regions.map .ok := by
  refine ⟨fun given => ?_, locateStrict_of_regions⟩
  rcases LocatedItem.regions_or_error (tree.locate profile) with
    ⟨others, clean⟩ | ⟨located, error, later, stopped⟩
  · rw [locateStrict_of_regions clean] at given
    cases given
    exact clean
  · rw [locateStrict_of_error stopped] at given
    cases given

/-- Strict locating fails with the first fault that locating gives. -/
theorem locateStrict_eq_error_iff {error : ScanError} :
    tree.locateStrict profile = .error error ↔
      ∃ (located : List Region) (later : List LocatedItem),
        tree.locate profile = located.map .ok ++ .error error :: later := by
  refine ⟨fun given => ?_, fun ⟨_, _, stopped⟩ => locateStrict_of_error stopped⟩
  rcases LocatedItem.regions_or_error (tree.locate profile) with
    ⟨regions, clean⟩ | ⟨located, other, later, stopped⟩
  · rw [locateStrict_of_regions clean] at given
    cases given
  · rw [locateStrict_of_error stopped] at given
    cases given
    exact ⟨located, later, stopped⟩

/-- The function sites hold the function nodes of the walk that are not without a body, in the order
of the walk. -/
theorem functionSites_node (tree : SyntaxTree) (profile : Profile) :
    (tree.functionSites profile).map (·.node) =
      tree.root.walk.filter fun node => node.role == .function && !node.isBodiless profile := by
  rw [← tree.root.sites_node, List.filter_map]
  rfl

end SyntaxTree

/-- Locating gives one item for every function that has a body of its own: the region of the first
function of its kind and range, an error for every other. The items are in order, and strict
locating gives them if all are regions and fails with the first error among them otherwise. -/
theorem locate_complete (tree : SyntaxTree) (profile : Profile) :
    (tree.functionSites profile).map (·.node) =
      tree.root.walk.filter (fun node => node.role == .function && !node.isBodiless profile) ∧
    tree.Located profile (tree.locate profile) ∧
    (∀ regions, tree.locateStrict profile = .ok regions ↔
      tree.locate profile = regions.map .ok) ∧
    ∀ error, tree.locateStrict profile = .error error ↔
      ∃ (located : List Region) (later : List LocatedItem),
        tree.locate profile = located.map .ok ++ .error error :: later :=
  ⟨tree.functionSites_node profile, tree.locate_located profile,
    fun _ => SyntaxTree.locateStrict_eq_ok_iff, fun _ => SyntaxTree.locateStrict_eq_error_iff⟩

end CodePrint
