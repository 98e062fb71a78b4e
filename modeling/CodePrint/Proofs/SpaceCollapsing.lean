import CodePrint.Proofs.Normalization
import CodePrint.Proofs.ValidOctets
import Mathlib.Data.List.Chain

/-! # Space-collapsed text

Collapsing keeps the words of a text and forgets everything else about it, so the collapsed text is
a normal form: texts with the same words have the same one, and it has the words itself. Since bytes
that are text are those of one text only, this carries over to the contents of variants.
-/

namespace CodePrint

namespace Text

/-- What stands between the blanks of a text, where that is not empty. -/
def runs (text : List Char) : List (List Char) :=
  (text.splitOnP isBlank).filter (!·.isEmpty)

/-- A text that has no blanks but single spaces between characters that are not blank. -/
structure Collapsed (text : List Char) : Prop where
  trimmed : Trimmed text
  spaces : ∀ c ∈ text, isBlank c = true → c = ' '
  apart : text.IsChain fun c next => isBlank c = false ∨ isBlank next = false

/-! ## Words as what stands between blanks -/

/-- A character that is not blank is put before what stands first in the text behind it. -/
theorem words_solid {c : Char} (solid : isBlank c = false) {rest piece : List Char}
    {pieces : List (List Char)} (split : rest.splitOnP isBlank = piece :: pieces)
    (read : words rest = (piece :: pieces).filter (!·.isEmpty)) :
    words (c :: rest) = (c :: piece) :: pieces.filter (!·.isEmpty) := by
  have unfolded := words.eq_def (c :: rest)
  dsimp only at unfolded
  rw [solid, if_neg Bool.false_ne_true] at unfolded
  cases rest with
  | nil =>
      cases split
      exact unfolded
  | cons next later =>
      rw [List.splitOnP_cons_eq_if_modifyHead] at split
      -- The character behind decides: a blank ends the word at once, any other goes on with it.
      cases blank : isBlank next with
      | true =>
          rw [blank, if_pos rfl] at split
          cases split
          rw [List.filter_cons_of_neg (by decide)] at read
          rw [unfolded, read]
          cases (later.splitOnP isBlank).filter (!·.isEmpty) with
          | nil => rfl
          | cons word others => exact if_pos blank
      | false =>
          obtain ⟨inner, others, behind⟩ :=
            List.exists_cons_of_ne_nil (List.splitOnP_ne_nil isBlank later)
          rw [blank, if_neg Bool.false_ne_true, behind, List.modifyHead_cons] at split
          cases split
          rw [List.filter_cons_of_pos rfl] at read
          rw [unfolded, read]
          exact if_neg (Bool.eq_false_iff.mp blank)

/-- The words of a text are the runs of its characters that are no blanks. -/
theorem words_eq_runs (text : List Char) : words text = runs text := by
  induction text with
  | nil => rfl
  | cons c rest ih =>
      rw [runs, List.splitOnP_cons_eq_if_modifyHead]
      cases blank : isBlank c with
      | true => rw [words_blank blank, if_pos rfl, ih, runs, List.filter_cons_of_neg (by decide)]
      | false =>
          obtain ⟨piece, pieces, split⟩ :=
            List.exists_cons_of_ne_nil (List.splitOnP_ne_nil isBlank rest)
          rw [runs, split] at ih
          rw [words_solid blank split ih, split]
          rfl

/-! ## Collapsed texts -/

private theorem solid_isChain {text : List Char} (solid : ∀ c ∈ text, isBlank c = false) :
    text.IsChain fun c next => isBlank c = false ∨ isBlank next = false := by
  refine List.Pairwise.isChain (List.pairwise_of_forall_mem_list fun c member _ _ => ?_)
  exact .inl (solid c member)

/-- Words with one space between neighbours make a collapsed text. -/
theorem collapsed_joinSpaced {parts : List (List Char)} (occupied : ∀ part ∈ parts, part ≠ [])
    (solid : ∀ part ∈ parts, ∀ c ∈ part, isBlank c = false) : Collapsed (joinSpaced parts) := by
  induction parts with
  | nil => exact ⟨trimmed_nil, by simp, .nil⟩
  | cons first rest ih =>
      have solidFirst := solid first List.mem_cons_self
      have later := ih (fun part member => occupied part (.tail _ member))
        fun part member => solid part (.tail _ member)
      have trimmed := trimmed_joinSpaced occupied fun part member =>
        trimmed_of_solid (solid part member)
      by_cases last : rest = []
      · rw [last, joinSpaced_singleton] at trimmed ⊢
        refine ⟨trimmed, fun c member blank => ?_, solid_isChain solidFirst⟩
        cases (solidFirst c member).symm.trans blank
      · rw [joinSpaced_cons first last] at trimmed ⊢
        refine ⟨trimmed, fun c member blank => ?_, ?_⟩
        · rcases List.mem_append.mp member with inFirst | behind
          · cases (solidFirst c inFirst).symm.trans blank
          · rcases List.mem_cons.mp behind with rfl | inRest
            · rfl
            · exact later.spaces c inRest blank
        · refine (solid_isChain solidFirst).append (later.apart.cons fun next begins => ?_) ?_
          · exact .inr (later.trimmed.1 next begins)
          · intro c ends _ _
            exact .inl (solidFirst c (List.mem_of_mem_getLast? ends))

/-- A text is collapsed after collapsing. -/
theorem collapsed_collapse (text : List Char) : Collapsed (collapse text) :=
  collapsed_joinSpaced (fun _ member => (mem_words member).1) fun _ member => (mem_words member).2

end Text

/-- No two texts have the same octets. -/
theorem Utf8.encode_injective : Function.Injective encode := by
  intro text other same
  have decoded := decode_encode text
  rw [same, decode_encode] at decoded
  exact (Except.ok.inj decoded).symm

/-! ## Variants -/

/-- The collapsed variant of a region whose bytes are text. -/
theorem Region.render_spaceCollapsed {region : Region} {tree : SyntaxTree} {text : List Char}
    (whole : Utf8.decode (tree.bytes region.range) = .ok text) :
    region.render tree .spaceCollapsed =
      .ok ⟨.spaceCollapsed, Utf8.encode (Text.collapse text), region.range⟩ := by
  have read : contentFor tree .spaceCollapsed region.range =
      .ok (Utf8.encode (Text.collapse text)) :=
    bind_eq_ok.mpr ⟨text, mapError_eq_ok.mpr (decodeFor_eq_ok_iff.mpr whole), rfl⟩
  exact bind_eq_ok.mpr ⟨region.range, rfl, bind_eq_ok.mpr ⟨_, read, rfl⟩⟩

/-- The collapsed variant is a normal form. For a region whose bytes are text it is a text without
blanks but single spaces between other characters, and it has the words of the region. Collapsing it
once more changes nothing, and two regions have the same collapsed variant if and only if they have
the same words. -/
theorem spaceCollapsed_canonical {region : Region} {tree : SyntaxTree} {text : List Char}
    (whole : Utf8.decode (tree.bytes region.range) = .ok text) :
    ∃ variant collapsed, region.render tree .spaceCollapsed = .ok variant ∧
      Utf8.decode variant.content = .ok collapsed ∧ Text.Collapsed collapsed ∧
      Text.runs collapsed = Text.runs text ∧
      (∀ (again : Region) (tree' : SyntaxTree), tree'.bytes again.range = variant.content →
        ∃ variant', again.render tree' .spaceCollapsed = .ok variant' ∧
          variant'.content = variant.content) ∧
      ∀ (other : Region) (tree' : SyntaxTree) (text' : List Char),
        Utf8.decode (tree'.bytes other.range) = .ok text' →
        ∃ variant', other.render tree' .spaceCollapsed = .ok variant' ∧
          (variant'.content = variant.content ↔ Text.runs text' = Text.runs text) := by
  have decoded := Utf8.decode_encode (Text.collapse text)
  refine ⟨_, _, Region.render_spaceCollapsed whole, decoded, Text.collapsed_collapse text, ?_, ?_,
    ?_⟩
  · rw [← Text.words_eq_runs, ← Text.words_eq_runs, Text.words_collapse]
  · intro again tree' same
    have whole' : Utf8.decode (tree'.bytes again.range) = .ok (Text.collapse text) := by
      rw [same]
      exact decoded
    refine ⟨_, Region.render_spaceCollapsed whole', ?_⟩
    rw [Text.collapse_collapse]
  · intro other tree' text' whole'
    refine ⟨_, Region.render_spaceCollapsed whole', ?_⟩
    rw [Utf8.encode_injective.eq_iff, Text.collapse_eq_iff, Text.words_eq_runs, Text.words_eq_runs]

/-- Two words with blanks of one, two and three octets around and between them. -/
def SyntaxTree.sampleBlanks : SyntaxTree where
  root := .node ⟨"identifier", .token, .first 11, none, true, false, 0, 0⟩ []
  content := Utf8.encode ['\u3000', 'a', '\u2028', '\t', 'b', '\u00A0']
  language := .c

/-- Blanks of one, two and three octets between two words become one space. Without the blanks
around the words the variant is the same. -/
theorem spaceCollapsed_canonical_sampleBlanks :
    let whole : Region := ⟨.function, .first 11, none, none, 0, none⟩
    let within : Region := ⟨.function, ⟨3, 9, by decide⟩, none, none, 0, none⟩
    Utf8.decode (SyntaxTree.sampleBlanks.bytes whole.range) =
      .ok ['\u3000', 'a', '\u2028', '\t', 'b', '\u00A0'] ∧
    ∃ variant collapsed variant', whole.render .sampleBlanks .spaceCollapsed = .ok variant ∧
      Utf8.decode variant.content = .ok collapsed ∧ Text.Collapsed collapsed ∧
      within.render .sampleBlanks .spaceCollapsed = .ok variant' ∧
      variant'.content = variant.content := by
  intro whole within
  have text : Utf8.decode (SyntaxTree.sampleBlanks.bytes whole.range) =
      .ok ['\u3000', 'a', '\u2028', '\t', 'b', '\u00A0'] :=
    Utf8.decode_eq_ok_iff_encode.mpr rfl
  have inner : Utf8.decode (SyntaxTree.sampleBlanks.bytes within.range) =
      .ok ['a', '\u2028', '\t', 'b'] :=
    Utf8.decode_eq_ok_iff_encode.mpr rfl
  obtain ⟨variant, collapsed, rendered, decoded, canonical, _, _, compared⟩ :=
    spaceCollapsed_canonical text
  obtain ⟨variant', rendered', same_iff⟩ := compared within .sampleBlanks _ inner
  exact ⟨text, variant, collapsed, variant', rendered, decoded, canonical, rendered',
    same_iff.mpr rfl⟩

end CodePrint
