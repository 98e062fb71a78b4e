import CodePrint.Path

/-! # The text of a path

A path that is read from a text has components without slashes, none of them empty or a single dot,
and replacing its home directory keeps it so. If such a path starts at a root, it is read back from
its text.
-/

namespace CodePrint.Path

/-- A text that is one component when it stands between slashes. -/
structure IsComponent (name : List Char) : Prop where
  occupied : name ≠ []
  notDot : name ≠ ['.']
  unslashed : '/' ∉ name

/-- A path whose components are read as components. -/
def WellFormed (path : Path) : Prop :=
  ∀ name ∈ path.components, IsComponent name.toList

/-! ## Paths that are read -/

private theorem splitSlashes_eq_splitOn (text : List Char) :
    splitSlashes text = text.splitOn '/' := by
  induction text with
  | nil => rfl
  | cons c rest ih =>
      obtain ⟨piece, pieces, split⟩ := List.exists_cons_of_ne_nil (List.splitOn_ne_nil '/' rest)
      rw [splitSlashes, ih, List.splitOn_cons_eq_if_modifyHead, split]
      simp only [beq_iff_eq, List.modifyHead_cons]

private theorem unslashed_of_mem_splitSlashes {text piece : List Char}
    (member : piece ∈ splitSlashes text) : '/' ∉ piece := by
  induction text generalizing piece with
  | nil =>
      rw [splitSlashes, List.mem_singleton] at member
      rw [member]
      exact List.not_mem_nil
  | cons c rest ih =>
      rw [splitSlashes] at member
      split at member
      · rename_i nothing
        rw [splitSlashes_eq_splitOn] at nothing
        exact absurd nothing (List.splitOn_ne_nil '/' rest)
      · rename_i first others split
        have unslashed {part : List Char} (among : part ∈ first :: others) : '/' ∉ part :=
          ih (split ▸ among)
        by_cases slash : c = '/'
        · rw [if_pos slash] at member
          rcases List.mem_cons.mp member with rfl | behind
          · exact List.not_mem_nil
          · exact unslashed behind
        · rw [if_neg slash] at member
          rcases List.mem_cons.mp member with rfl | behind
          · intro found
            rcases List.mem_cons.mp found with same | inside
            · exact slash same.symm
            · exact unslashed List.mem_cons_self inside
          · exact unslashed (.tail _ behind)

/-- A path that is read from a text is well formed. -/
theorem ofString_wellFormed (text : String) : (ofString text).WellFormed := by
  intro name member
  obtain ⟨piece, kept, rfl⟩ := List.mem_map.mp member
  obtain ⟨split, proper⟩ := List.mem_filter.mp kept
  rw [decide_eq_true_iff] at proper
  rw [String.toList_ofList]
  exact ⟨proper.1, proper.2, unslashed_of_mem_splitSlashes split⟩

/-- Expanding the home of a well-formed path leaves it well formed. -/
theorem WellFormed.expandHome {path expanded : Path} (wellFormed : path.WellFormed) {homes : Homes}
    (found : path.expandHome? homes = some expanded) : expanded.WellFormed := by
  unfold expandHome? at found
  split at found
  · rename_i first rest _ components
    split at found
    · split at found
      · split at found
        · cases found
        · cases found
          intro name member
          rcases List.mem_append.mp member with inHome | behind
          · exact ofString_wellFormed _ name inHome
          · refine wellFormed name ?_
            rw [components]
            exact .tail _ behind
      · cases found
    · cases found
      exact wellFormed
  · cases found
    exact wellFormed

/-! ## Paths that are written -/

private theorem isAbsolute_iff {path : Path} : path.isAbsolute = true ↔ path.root ≠ .relative :=
  bne_iff_ne

/-- A path that starts at a root stands for itself, whatever its components are. -/
theorem expandHome_absolute {path : Path} (rooted : path.isAbsolute = true) (homes : Homes) :
    path.expandHome? homes = some path := by
  unfold expandHome?
  split
  · rename_i relative _
    exact absurd relative (isAbsolute_iff.mp rooted)
  · rfl

/-- The text of an absolute path is its root and then its components, with a slash between them. -/
theorem text_toList {path : Path} (rooted : path.isAbsolute = true) :
    path.text.toList =
      path.root.text.toList ++ ['/'].intercalate (path.components.map String.toList) := by
  have noDot : ¬(path.root = .relative ∧ path.components = []) := fun both =>
    isAbsolute_iff.mp rooted both.1
  rw [text, if_neg noDot, String.toList_append, String.toList_intercalate]
  rfl

/-- The pieces of a text that make up components. -/
def properPieces (text : List Char) : List (List Char) :=
  (splitSlashes text).filter fun piece => piece ≠ [] ∧ piece ≠ ['.']

private theorem ofString_eq (text : String) :
    ofString text = ⟨rootOf (text.toList.takeWhile (· == '/')).length,
      (properPieces text.toList).map String.ofList⟩ :=
  rfl

private theorem properPieces_slash (text : List Char) :
    properPieces ('/' :: text) = properPieces text := by
  have split : splitSlashes ('/' :: text) = [] :: splitSlashes text := by
    rw [splitSlashes_eq_splitOn, splitSlashes_eq_splitOn, List.splitOn_cons_eq_if_modifyHead,
      if_pos (beq_self_eq_true _)]
  rw [properPieces, split, List.filter_cons_of_neg (by decide), properPieces]

private theorem properPieces_slashes (count : Nat) (text : List Char) :
    properPieces (List.replicate count '/' ++ text) = properPieces text := by
  induction count with
  | zero => rfl
  | succ count ih => rw [List.replicate_succ, List.cons_append, properPieces_slash, ih]

/-- A root is written as the number of slashes that it is read from. -/
theorem root_text (root : PathRoot) :
    ∃ count, root.text.toList = List.replicate count '/' ∧ rootOf count = root := by
  cases root with
  | relative => exact ⟨0, by decide, rfl⟩
  | single => exact ⟨1, by decide, rfl⟩
  | double => exact ⟨2, by decide, rfl⟩

section Joined

variable {names : List (List Char)}

/-- Components are found again between slashes. -/
theorem properPieces_joined (proper : ∀ name ∈ names, IsComponent name) :
    properPieces (['/'].intercalate names) = names := by
  rw [properPieces, splitSlashes_eq_splitOn]
  by_cases none : names = []
  · rw [none]
    rfl
  · rw [List.splitOn_intercalate '/' (fun name member => (proper name member).unslashed) none,
      List.filter_eq_self]
    intro name member
    exact decide_eq_true ⟨(proper name member).occupied, (proper name member).notDot⟩

/-- Components between slashes do not begin with a slash. -/
theorem takeWhile_joined (proper : ∀ name ∈ names, IsComponent name) :
    (['/'].intercalate names).takeWhile (· == '/') = [] := by
  cases names with
  | nil => rfl
  | cons first rest =>
      have component := proper first List.mem_cons_self
      obtain ⟨c, later, rfl⟩ := List.exists_cons_of_ne_nil component.occupied
      have solid : (c == '/') = false :=
        beq_eq_false_iff_ne.mpr fun slash => component.unslashed (slash ▸ List.mem_cons_self)
      cases rest with
      | nil => simp [solid]
      | cons second others => simp [solid]

end Joined

/-- A well-formed path that starts at a root is read back from its text. -/
theorem ofString_text {path : Path} (wellFormed : path.WellFormed)
    (rooted : path.isAbsolute = true) : ofString path.text = path := by
  have proper : ∀ name ∈ path.components.map String.toList, IsComponent name := by
    intro name member
    obtain ⟨component, among, rfl⟩ := List.mem_map.mp member
    exact wellFormed component among
  have named : (path.components.map String.toList).map String.ofList = path.components := by
    simp [Function.comp_def]
  have pieces := properPieces_joined proper
  have slashes := takeWhile_joined proper
  obtain ⟨count, written, root⟩ := root_text path.root
  have front : ∀ c ∈ List.replicate count '/', (c == '/') = true := by
    intro c member
    rw [List.eq_of_mem_replicate member]
    rfl
  rw [ofString_eq, text_toList rooted, written, properPieces_slashes, pieces, named,
    List.takeWhile_append_of_pos front, slashes, List.append_nil, List.length_replicate, root]

/-- The text of a path that starts at a root begins with a slash. -/
theorem text_head {path : Path} (rooted : path.isAbsolute = true) :
    path.text.toList.head? = some '/' := by
  obtain ⟨count, written, root⟩ := root_text path.root
  cases count with
  | zero => exact absurd root.symm (isAbsolute_iff.mp rooted)
  | succ count =>
      rw [text_toList rooted, written, List.replicate_succ, List.cons_append, List.head?_cons]

end CodePrint.Path
