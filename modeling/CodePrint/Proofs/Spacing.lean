import CodePrint.Text.Blank

/-! # Blanks between words

Trimming, collapsing and joining change nothing but blanks: the other characters of a text stay as
they are and in their order. Joined parts that neither begin nor end with a blank give a text that
does not either, and parts can be joined in groups first, provided that empty groups are left out.
-/

namespace CodePrint.Text

/-- The text without its blanks. -/
def solid (text : List Char) : List Char :=
  text.filter (!isBlank ·)

/-- A text that neither begins nor ends with a blank. -/
def Trimmed (text : List Char) : Prop :=
  (∀ c ∈ text.head?, isBlank c = false) ∧ ∀ c ∈ text.getLast?, isBlank c = false

/-! ## The characters that are kept -/

/-- Leaving the blanks out of two texts may be done one by one. -/
theorem solid_append (front back : List Char) : solid (front ++ back) = solid front ++ solid back :=
  List.filter_append ..

private theorem solid_dropWhile (text : List Char) :
    solid (text.dropWhile isBlank) = solid text := by
  induction text with
  | nil => rfl
  | cons c rest ih =>
      rw [List.dropWhile_cons]
      split
      · rename_i blank
        rw [ih, solid, solid, List.filter_cons]
        simp [blank]
      · rfl

private theorem solid_reverse (text : List Char) : solid text.reverse = (solid text).reverse :=
  List.filter_reverse ..

/-- Trimming takes blanks only. -/
theorem solid_trim (text : List Char) : solid (trim text) = solid text := by
  rw [trim, solid_reverse, solid_dropWhile, solid_reverse, List.reverse_reverse, solid_dropWhile]

/-- No parts join to the empty text. -/
@[simp] theorem joinSpaced_nil : joinSpaced [] = [] := rfl

/-- One part alone gets no space. -/
@[simp] theorem joinSpaced_singleton (part : List Char) : joinSpaced [part] = part := by
  simp [joinSpaced]

/-- Between a first part and the others there is one space. -/
theorem joinSpaced_cons (first : List Char) {rest : List (List Char)} (more : rest ≠ []) :
    joinSpaced (first :: rest) = first ++ ' ' :: joinSpaced rest := by
  obtain ⟨second, later, rfl⟩ := List.exists_cons_of_ne_nil more
  simp [joinSpaced]

/-- Joining parts with spaces adds blanks only. -/
theorem solid_joinSpaced (parts : List (List Char)) :
    solid (joinSpaced parts) = solid parts.flatten := by
  induction parts with
  | nil => rfl
  | cons first rest ih =>
      cases rest with
      | nil => simp
      | cons second rest =>
          rw [joinSpaced_cons first (List.cons_ne_nil _ _), List.flatten_cons, solid_append,
            solid_append, ← ih]
          rfl

/-- The words of a text by those of the text behind its first character. -/
theorem words_cons (c : Char) (rest : List Char) :
    isBlank c = true ∧ words (c :: rest) = words rest ∨
      isBlank c = false ∧ (words (c :: rest) = [c] :: words rest ∨
        ∃ word later, words rest = word :: later ∧ words (c :: rest) = (c :: word) :: later) := by
  -- Only the unfolding equation is used: the equations by cases take too long to make.
  have unfolded := words.eq_def (c :: rest)
  dsimp only at unfolded
  cases blank : isBlank c with
  | true =>
      rw [blank, if_pos rfl] at unfolded
      exact .inl ⟨rfl, unfolded⟩
  | false =>
      rw [blank, if_neg Bool.false_ne_true] at unfolded
      refine .inr ⟨rfl, ?_⟩
      split at unfolded
      · rename_i word later read
        split at unfolded
        · rw [read]
          exact .inl unfolded
        · exact .inr ⟨word, later, read, unfolded⟩
      · exact .inl unfolded

/-- The words of a text are all of it but its blanks. -/
theorem words_flatten (text : List Char) : (words text).flatten = solid text := by
  induction text with
  | nil => rfl
  | cons c rest ih =>
      rw [solid, List.filter_cons]
      rcases words_cons c rest with ⟨blank, same⟩ | ⟨blank, split | ⟨word, later, read, joined⟩⟩
      · rw [same, ih, blank]
        rfl
      · rw [split, List.flatten_cons, ih, blank]
        rfl
      · rw [read] at ih
        rw [joined, blank, List.flatten_cons, List.cons_append, ← List.flatten_cons, ih]
        rfl

/-- Collapsing changes blanks only. -/
theorem solid_collapse (text : List Char) : solid (collapse text) = solid text := by
  rw [collapse, solid_joinSpaced, words_flatten, solid, solid, List.filter_filter]
  simp only [Bool.and_self]

/-! ## The ends of a text -/

/-- The empty text is trimmed. -/
theorem trimmed_nil : Trimmed [] := by
  constructor <;> simp

/-- A text without blanks is trimmed. -/
theorem trimmed_of_solid {text : List Char} (nowhere : ∀ c ∈ text, isBlank c = false) :
    Trimmed text :=
  ⟨fun c first => nowhere c (List.mem_of_mem_head? first),
    fun c last => nowhere c (List.mem_of_mem_getLast? last)⟩

private theorem head?_dropWhile (text : List Char) :
    ∀ c ∈ (text.dropWhile isBlank).head?, isBlank c = false := by
  intro c first
  have stopped := List.head?_dropWhile_not isBlank text
  rw [Option.mem_def] at first
  rw [first] at stopped
  simpa using stopped

/-- A text is trimmed after trimming. -/
theorem trimmed_trim (text : List Char) : Trimmed (trim text) := by
  constructor
  · intro c first
    obtain ⟨rest, whole⟩ : trim text <+: text.dropWhile isBlank := by
      rw [← List.reverse_suffix, trim, List.reverse_reverse]
      exact List.dropWhile_suffix _
    apply head?_dropWhile text c
    rw [Option.mem_def] at first ⊢
    rw [← whole, List.head?_append, first, Option.some_or]
  · intro c last
    rw [trim, List.getLast?_reverse] at last
    exact head?_dropWhile _ c last

/-- A word has characters, and none of them is blank. -/
theorem mem_words {text word : List Char} (member : word ∈ words text) :
    word ≠ [] ∧ ∀ c ∈ word, isBlank c = false := by
  induction text generalizing word with
  | nil => exact absurd member List.not_mem_nil
  | cons c rest ih =>
      rcases words_cons c rest with ⟨_, same⟩ | ⟨blank, split | ⟨first, later, read, joined⟩⟩
      · rw [same] at member
        exact ih member
      · rw [split] at member
        rcases List.mem_cons.mp member with rfl | member
        · exact ⟨List.cons_ne_nil _ _, by simpa using blank⟩
        · exact ih member
      · rw [joined] at member
        rcases List.mem_cons.mp member with rfl | member
        · have inside := (ih (by rw [read]; exact List.mem_cons_self)).2
          refine ⟨List.cons_ne_nil _ _, ?_⟩
          intro d among
          rcases List.mem_cons.mp among with rfl | among
          · exact blank
          · exact inside d among
        · exact ih (by rw [read]; exact List.mem_cons_of_mem _ member)

private theorem joinSpaced_eq_nil_iff {parts : List (List Char)}
    (occupied : ∀ part ∈ parts, part ≠ []) : joinSpaced parts = [] ↔ parts = [] := by
  cases parts with
  | nil => simp
  | cons first rest =>
      have filled := occupied first List.mem_cons_self
      cases rest with
      | nil => simpa using filled
      | cons second rest => simp [joinSpaced_cons]

/-- Joined parts begin and end as their first and last part do. -/
theorem trimmed_joinSpaced {parts : List (List Char)}
    (occupied : ∀ part ∈ parts, part ≠ []) (trimmed : ∀ part ∈ parts, Trimmed part) :
    Trimmed (joinSpaced parts) := by
  induction parts with
  | nil => exact trimmed_nil
  | cons first rest ih =>
      have atFirst := trimmed first List.mem_cons_self
      have filled := occupied first List.mem_cons_self
      have laterOccupied : ∀ part ∈ rest, part ≠ [] :=
        fun part member => occupied part (.tail _ member)
      have atRest := ih laterOccupied fun part member => trimmed part (.tail _ member)
      cases rest with
      | nil =>
          rw [joinSpaced_singleton]
          exact atFirst
      | cons second rest =>
          have filledRest := mt (joinSpaced_eq_nil_iff laterOccupied).mp (List.cons_ne_nil _ _)
          obtain ⟨c, front, rfl⟩ := List.exists_cons_of_ne_nil filled
          obtain ⟨d, back, same⟩ := List.exists_cons_of_ne_nil filledRest
          rw [joinSpaced_cons _ (List.cons_ne_nil _ _)]
          constructor
          · exact atFirst.1
          · rw [same] at atRest ⊢
            have ending : (c :: front ++ ' ' :: d :: back).getLast? = (d :: back).getLast? := by
              rw [List.getLast?_append, List.getLast?_cons_cons, List.getLast?_cons, Option.some_or]
            rw [ending]
            exact atRest.2

/-- A text is trimmed after collapsing. -/
theorem trimmed_collapse (text : List Char) : Trimmed (collapse text) :=
  trimmed_joinSpaced (fun _ member => (mem_words member).1)
    (fun _ member => trimmed_of_solid (mem_words member).2)

/-! ## Joining in groups -/

/-- Two lists of parts that are not empty are joined with one space between them. -/
theorem joinSpaced_append {front back : List (List Char)} (some : front ≠ []) (more : back ≠ []) :
    joinSpaced (front ++ back) = joinSpaced front ++ ' ' :: joinSpaced back := by
  induction front with
  | nil => exact absurd rfl some
  | cons first rest ih =>
      by_cases last : rest = []
      · rw [last, joinSpaced_singleton, List.singleton_append, joinSpaced_cons first more]
      · rw [List.cons_append, joinSpaced_cons first (by simp [last]), ih last,
          joinSpaced_cons first last, List.append_assoc, List.cons_append]

/-- Parts may be joined in groups first; a group without parts is left out. -/
theorem joinSpaced_flatten {groups : List (List (List Char))}
    (occupied : ∀ group ∈ groups, ∀ part ∈ group, part ≠ []) :
    joinSpaced groups.flatten = joinSpaced ((groups.map joinSpaced).filter (!·.isEmpty)) := by
  induction groups with
  | nil => rfl
  | cons group rest ih =>
      have joined := ih fun group member => occupied group (.tail _ member)
      have solidRest : ∀ part ∈ rest.flatten, part ≠ [] := by
        intro part member
        obtain ⟨group, among, inside⟩ := List.mem_flatten.mp member
        exact occupied group (.tail _ among) part inside
      have solidTexts : ∀ part ∈ (rest.map joinSpaced).filter (!·.isEmpty), part ≠ [] := by
        intro part member
        simpa using (List.mem_filter.mp member).2
      have nothing : rest.flatten = [] ↔ (rest.map joinSpaced).filter (!·.isEmpty) = [] := by
        rw [← joinSpaced_eq_nil_iff solidRest, joined, joinSpaced_eq_nil_iff solidTexts]
      have filled := joinSpaced_eq_nil_iff (occupied group List.mem_cons_self)
      rw [List.flatten_cons, List.map_cons, List.filter_cons]
      by_cases empty : group = []
      · simp [empty, joined]
      · rw [if_pos (by simpa [filled] using empty)]
        by_cases last : rest.flatten = []
        · rw [nothing.mp last, last, List.append_nil, joinSpaced_singleton]
        · rw [joinSpaced_append empty last, joined,
            joinSpaced_cons (joinSpaced group) (mt nothing.mpr last)]

/-! ## What is trimmed or collapsed already -/

private theorem dropWhile_of_head? {text : List Char}
    (begins : ∀ c ∈ text.head?, isBlank c = false) : text.dropWhile isBlank = text := by
  cases text with
  | nil => rfl
  | cons c rest =>
      have solid := begins c rfl
      rw [List.dropWhile_cons, solid, if_neg Bool.false_ne_true]

/-- Trimming leaves a trimmed text as it is. -/
theorem trim_of_trimmed {text : List Char} (trimmed : Trimmed text) : trim text = text := by
  have ends : ∀ c ∈ text.reverse.head?, isBlank c = false := by
    rw [List.head?_reverse]
    exact trimmed.2
  rw [trim, dropWhile_of_head? trimmed.1, dropWhile_of_head? ends, List.reverse_reverse]

/-- A blank before a text changes none of its words. -/
theorem words_blank {c : Char} {rest : List Char} (blank : isBlank c = true) :
    words (c :: rest) = words rest := by
  rcases words_cons c rest with ⟨_, same⟩ | ⟨solid, _⟩
  · exact same
  · cases blank.symm.trans solid

/-- A word that the text ends with, or that a blank follows, is the first word of the text. -/
theorem words_append {word rest : List Char} (occupied : word ≠ [])
    (solid : ∀ c ∈ word, isBlank c = false) (apart : ∀ c ∈ rest.head?, isBlank c = true) :
    words (word ++ rest) = word :: words rest := by
  induction word with
  | nil => exact absurd rfl occupied
  | cons c later ih =>
      have solidFirst := solid c List.mem_cons_self
      have unfolded := words.eq_def (c :: (later ++ rest))
      dsimp only at unfolded
      rw [solidFirst, if_neg Bool.false_ne_true] at unfolded
      cases later with
      | nil =>
          rw [List.cons_append, unfolded, List.nil_append]
          split
          · rename_i next _ _ _ read
            have blank := apart next rfl
            rw [blank, if_pos rfl, read]
          · rfl
      | cons next others =>
          have solidNext := solid next (.tail _ List.mem_cons_self)
          have read := ih (List.cons_ne_nil _ _) fun c member => solid c (.tail _ member)
          rw [List.cons_append, unfolded, read]
          dsimp only [List.cons_append]
          rw [solidNext, if_neg Bool.false_ne_true]

/-- Joined words are the words of the text they make up. -/
theorem words_joinSpaced {parts : List (List Char)}
    (occupied : ∀ part ∈ parts, part ≠ []) (solid : ∀ part ∈ parts, ∀ c ∈ part, isBlank c = false) :
    words (joinSpaced parts) = parts := by
  induction parts with
  | nil => rfl
  | cons first rest ih =>
      have filled := occupied first List.mem_cons_self
      have solidFirst := solid first List.mem_cons_self
      have read := ih (fun part member => occupied part (.tail _ member))
        fun part member => solid part (.tail _ member)
      by_cases last : rest = []
      · have alone := words_append filled solidFirst fun _ (impossible : _ ∈ [].head?) =>
          nomatch impossible
        rw [List.append_nil] at alone
        rw [last, joinSpaced_singleton, alone]
        rfl
      · have apart : ∀ c ∈ (' ' :: joinSpaced rest).head?, isBlank c = true := by
          rintro c ⟨⟩
          rfl
        rw [joinSpaced_cons first last, words_append filled solidFirst apart, words_blank rfl, read]

/-- Collapsing changes none of the words. -/
theorem words_collapse (text : List Char) : words (collapse text) = words text :=
  words_joinSpaced (fun _ member => (mem_words member).1) fun _ member => (mem_words member).2

/-- Two texts collapse to the same one exactly when they have the same words. -/
theorem collapse_eq_iff {text other : List Char} :
    collapse text = collapse other ↔ words text = words other := by
  constructor
  · intro same
    rw [← words_collapse text, same, words_collapse]
  · intro same
    rw [collapse, same, collapse]

/-- Collapsing a second time changes nothing. -/
theorem collapse_collapse (text : List Char) : collapse (collapse text) = collapse text :=
  collapse_eq_iff.mpr (words_collapse text)

end CodePrint.Text
