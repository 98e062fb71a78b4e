import CodePrint.Proofs.Composition
import CodePrint.Proofs.Mirror

/-! # Normalizing what is normalized

Normalized text is its tokens with one space between neighbours. Suppose that a parser finds these
tokens in it again: at the places where they stand, none of them a comment, and with blanks that are
layout in the same ones. Then each of them is shown as it is, since trimming and collapsing change
nothing the second time, and the text is normalized to itself.
-/

namespace CodePrint

/-- A token that is shown already is shown as it is, by any span that treats inner blanks the same
way. -/
theorem LeafSpan.render_render {span again : LeafSpan} (same : again.isLayout = span.isLayout)
    (text : List Char) : again.render (span.render text) = span.render text := by
  have trimmed := Text.trim_of_trimmed (span.render_trimmed text)
  rw [LeafSpan.render, trimmed, same]
  unfold LeafSpan.render
  dsimp only
  split
  · rw [Text.collapse_collapse]
  · rfl

/-! ## Where tokens stand -/

namespace Text

/-- The bytes that parts take up in a text that begins at `start` and joins them by spaces. -/
def placesFrom (start : Nat) : List (List Char) → List ByteRange
  | [] => []
  | part :: rest =>
    let stop := start + (Utf8.encode part).length
    ⟨start, stop, Nat.le_add_right _ _⟩ :: placesFrom (stop + 1) rest

end Text

private theorem ByteRange.slice_middle {α : Type} (front middle back : List α) (ordered) :
    slice ⟨front.length, front.length + middle.length, ordered⟩ (front ++ (middle ++ back)) =
      middle := by
  rw [slice, length, List.drop_left, Nat.add_sub_cancel_left, List.take_left]

private theorem Utf8.encode_append (front back : List Char) :
    encode (front ++ back) = encode front ++ encode back :=
  List.flatMap_append

/-- What stands at the places of joined parts are the parts. -/
theorem Text.slice_placesFrom (front : List UInt8) (parts : List (List Char)) :
    (placesFrom front.length parts).map (·.slice (front ++ Utf8.encode (joinSpaced parts))) =
      parts.map Utf8.encode := by
  induction parts generalizing front with
  | nil => rfl
  | cons part rest ih =>
      rw [placesFrom, List.map_cons, List.map_cons]
      by_cases last : rest = []
      · subst last
        have whole := ByteRange.slice_middle front (Utf8.encode part) [] (Nat.le_add_right _ _)
        rw [List.append_nil] at whole
        rw [joinSpaced_singleton, whole]
        rfl
      · -- The space belongs to what stands before the remaining parts.
        have split : Utf8.encode (joinSpaced (part :: rest)) =
            Utf8.encode part ++ (Utf8.encode [' '] ++ Utf8.encode (joinSpaced rest)) := by
          rw [joinSpaced_cons part last, Utf8.encode_append]
          exact congrArg _ (Utf8.encode_append [' '] (joinSpaced rest))
        have later := ih (front ++ Utf8.encode part ++ Utf8.encode [' '])
        rw [List.length_append, List.length_append, List.append_assoc, List.append_assoc,
          ← split] at later
        rw [← later, split, ByteRange.slice_middle]
        rfl

/-! ## Tokens found again -/

namespace SyntaxTree

variable {tree : SyntaxTree}

/-- The spans that normalized text shows, each with its token. -/
def shown (tree : SyntaxTree) (spans : List LeafSpan) : List (LeafSpan × List Char) :=
  (spans.filter (·.isKept)).filterMap fun span =>
    match Utf8.decode (tree.bytes span.range) with
    | .ok text => if (span.render text).isEmpty then none else some (span, span.render text)
    | .error _ => none

private theorem tokensOf_eq_shown {spans : List LeafSpan} {tokens : List (List Char)}
    (read : tree.tokensOf spans = .ok tokens) : tokens = (tree.shown spans).map (·.2) := by
  induction spans generalizing tokens with
  | nil =>
      cases read
      rfl
  | cons span rest ih =>
      cases kept : span.isKept with
      | false =>
          rw [tokensOf_skip kept] at read
          rw [shown, List.filter_cons, kept, if_neg Bool.false_ne_true]
          exact ih read
      | true =>
          obtain ⟨text, later, decoded, readLater, rfl⟩ := (tokensOf_keep kept).mp read
          rw [shown, List.filter_cons, if_pos kept, List.filterMap_cons, decoded]
          dsimp only
          split
          · exact ih readLater
          · exact congrArg _ (ih readLater)

private theorem mem_shown {spans : List LeafSpan} {token : LeafSpan × List Char}
    (member : token ∈ tree.shown spans) :
    token.2 ≠ [] ∧ ∃ text, token.2 = token.1.render text := by
  obtain ⟨span, _, made⟩ := List.mem_filterMap.mp member
  split at made
  · rename_i text _
    split at made
    · cases made
    · rename_i filled
      cases made
      exact ⟨fun empty => filled (List.isEmpty_iff.mpr empty), text, rfl⟩
  · cases made

/-- Spans that hold the shown tokens again, spelled as they are shown, are read as these tokens. -/
theorem tokensOf_eq_ok_of_spelled {again : List LeafSpan} {tokens : List (LeafSpan × List Char)}
    (kept : ∀ span ∈ again, span.isKept = true)
    (spelled : again.map (fun span => tree.bytes span.range) = tokens.map (Utf8.encode ·.2))
    (layout : again.map (·.isLayout) = tokens.map (·.1.isLayout))
    (rendered : ∀ token ∈ tokens, token.2 ≠ [] ∧ ∃ text, token.2 = token.1.render text) :
    tree.tokensOf again = .ok (tokens.map (·.2)) := by
  induction tokens generalizing again with
  | nil =>
      obtain rfl := List.map_eq_nil_iff.mp spelled
      rfl
  | cons token rest ih =>
      cases again with
      | nil => cases spelled
      | cons span others =>
          simp only [List.map_cons, List.cons.injEq] at spelled layout
          obtain ⟨filled, text, shownAs⟩ := rendered token List.mem_cons_self
          have fixed : span.render token.2 = token.2 := by
            rw [shownAs]
            exact LeafSpan.render_render layout.1 text
          have readRest := ih (fun span member => kept span (.tail _ member)) spelled.2 layout.2
            fun token member => rendered token (.tail _ member)
          have decoded : Utf8.decode (tree.bytes span.range) = .ok token.2 := by
            rw [spelled.1]
            exact Utf8.decode_encode token.2
          refine (tokensOf_keep (kept span List.mem_cons_self)).mpr
            ⟨token.2, _, decoded, readRest, ?_⟩
          rw [fixed, if_neg (by simpa using filled)]
          rfl

end SyntaxTree

/-- Spans of a normalized text with which its tokens are found again: but for trivia they stand
where the tokens do, none of them is a comment, and inner blanks are layout in the same ones. -/
structure Retokenizes (tokens : List (LeafSpan × List Char)) (again : List LeafSpan) : Prop where
  uncommented : ∀ span ∈ again, span.role ≠ .comment
  places : (again.filter (·.role != .trivia)).map (·.range) =
    Text.placesFrom 0 (tokens.map (·.2))
  layout : (again.filter (·.role != .trivia)).map (·.isLayout) = tokens.map (·.1.isLayout)

namespace Retokenizes

variable {tokens : List (LeafSpan × List Char)} {again : List LeafSpan}
  (found : Retokenizes tokens again)
include found

private theorem filter_isKept : again.filter (·.isKept) = again.filter (·.role != .trivia) := by
  apply List.filter_congr
  intro span member
  rw [LeafSpan.isKept, bne_iff_ne.mpr (found.uncommented span member), Bool.and_true]

/-- Tokens found again are read as they are shown. -/
theorem tokensOf {tree : SyntaxTree}
    (content : tree.content = Utf8.encode (Text.joinSpaced (tokens.map (·.2))))
    (rendered : ∀ token ∈ tokens, token.2 ≠ [] ∧ ∃ text, token.2 = token.1.render text) :
    tree.tokensOf again = .ok (tokens.map (·.2)) := by
  rw [← SyntaxTree.tokensOf_filter]
  apply SyntaxTree.tokensOf_eq_ok_of_spelled
  · intro span member
    exact (List.mem_filter.mp member).2
  · have spelled := Text.slice_placesFrom [] (tokens.map (·.2))
    rw [List.length_nil, ← found.places, List.nil_append, ← content, List.map_map, List.map_map]
      at spelled
    rw [found.filter_isKept]
    exact spelled
  · rw [found.filter_isKept]
    exact found.layout
  · exact rendered

end Retokenizes

/-- A document is normalized as the whole of its tree is. -/
theorem normalizeText_eq_ok_iff {document : Document} {text : List Char} :
    normalizeText document = .ok text ↔ ∃ tree, document.tree = .ok tree ∧
      tree.normalized .normalized (.first document.source.size) = .ok text := by
  rw [normalizeText, document.parse_allowing, bind_eq_ok]
  simp only [mapError_eq_ok]

/-- Normalization is idempotent up to tokens: a text that is normalized is the tokens that its spans
show, joined, and it is normalized to itself with every tree that finds them in it again. -/
theorem normalizeText_idempotent {document : Document} {text : List Char}
    (normalized : normalizeText document = .ok text) :
    ∃ tree spans, document.tree = .ok tree ∧
      tree.leafSpans (some (.first document.source.size)) = .ok spans ∧
      tree.tokensOf spans = .ok ((tree.shown spans).map (·.2)) ∧
      text = Text.joinSpaced ((tree.shown spans).map (·.2)) ∧
      ∀ (again : Document) (treeAgain : SyntaxTree) (spansAgain : List LeafSpan),
        again.source.content = Utf8.encode text → again.tree = .ok treeAgain →
        treeAgain.leafSpans (some (.first again.source.size)) = .ok spansAgain →
        Retokenizes (tree.shown spans) spansAgain → normalizeText again = .ok text := by
  obtain ⟨tree, adapted, made⟩ := normalizeText_eq_ok_iff.mp normalized
  obtain ⟨_, tokens, read, rfl⟩ := SyntaxTree.normalized_eq_ok_iff.mp made
  obtain ⟨spans, visited, readSpans⟩ := SyntaxTree.tokens_eq_ok_iff.mp read
  obtain rfl := SyntaxTree.tokensOf_eq_shown readSpans
  refine ⟨tree, spans, adapted, visited, readSpans, rfl, ?_⟩
  intro again treeAgain spansAgain written adaptedAgain visitedAgain found
  have content : treeAgain.content = again.source.content :=
    (Document.tree_eq_ok adaptedAgain).1
  have readAgain := found.tokensOf (content.trans written) fun _ => SyntaxTree.mem_shown
  have whole : treeAgain.bytes (.first again.source.size) = again.source.content := by
    rw [SyntaxTree.bytes, content]
    exact List.take_length
  apply normalizeText_eq_ok_iff.mpr
  refine ⟨treeAgain, adaptedAgain, SyntaxTree.normalized_eq_ok_iff.mpr ⟨?_, _, ?_, rfl⟩⟩
  · rw [whole, written]
    exact ⟨_, Utf8.decode_encode _⟩
  · exact SyntaxTree.tokens_eq_ok_iff.mpr ⟨spansAgain, visitedAgain, readAgain⟩

/-- A character of two octets, a literal with blanks inside, a comment, layout of several blanks and
a token that is a blank. -/
def Document.sampleLayout : Document where
  source := ⟨.c, Utf8.encodeString "é \"a  b\"/*c*/ x \u00a0y  ", none⟩
  parsed := some (.node ⟨"translation_unit", none, 0, 22, 0, 0, true, false⟩
    [.node ⟨"identifier", none, 0, 2, 0, 0, true, false⟩ [],
      .node ⟨"string_literal", none, 3, 9, 0, 3, true, false⟩ [],
      .node ⟨"comment", none, 9, 14, 0, 9, true, false⟩ [],
      .node ⟨"preproc_arg", none, 14, 21, 0, 14, true, false⟩ [],
      .node ⟨"identifier", none, 21, 22, 0, 21, true, false⟩ []])

/-- The same tokens in the normalized text. -/
def Document.sampleRelaid : Document where
  source := ⟨.c, Utf8.encodeString "é \"a  b\" x y", none⟩
  parsed := some (.node ⟨"translation_unit", none, 0, 13, 0, 0, true, false⟩
    [.node ⟨"identifier", none, 0, 2, 0, 0, true, false⟩ [],
      .node ⟨"string_literal", none, 3, 9, 0, 3, true, false⟩ [],
      .node ⟨"preproc_arg", none, 10, 13, 0, 10, true, false⟩ []])

/-- A source with several kinds of layout, a comment and a blank token is normalized, and the
normalized text is left as it is. -/
theorem normalizeText_idempotent_sampleLayout :
    ∃ text tree spans treeAgain spansAgain,
      normalizeText Document.sampleLayout = .ok text ∧ text = "é \"a  b\" x y".toList ∧
      Document.sampleLayout.tree = .ok tree ∧ tree.leafSpans (some (.first 22)) = .ok spans ∧
      Document.sampleRelaid.tree = .ok treeAgain ∧
      treeAgain.leafSpans (some (.first 13)) = .ok spansAgain ∧
      Retokenizes (tree.shown spans) spansAgain ∧
      normalizeText Document.sampleRelaid = .ok text := by
  let tree := Document.sampleLayout.tree.toOption.get rfl
  let treeAgain := Document.sampleRelaid.tree.toOption.get rfl
  let spans := tree.root.tile (.first 22)
  let spansAgain := treeAgain.root.tile (.first 13)
  have normalized : normalizeText Document.sampleLayout = .ok "é \"a  b\" x y".toList := by
    apply toOption_eq_some.mp
    decide +kernel
  have found : Retokenizes (tree.shown spans) spansAgain := by
    refine ⟨by decide +kernel, by decide +kernel, by decide +kernel⟩
  obtain ⟨_, _, adapted, visited, _, _, again⟩ := normalizeText_idempotent normalized
  cases adapted
  cases visited
  exact ⟨_, tree, spans, treeAgain, spansAgain, normalized, rfl, rfl, rfl, rfl, rfl, found,
    again Document.sampleRelaid treeAgain spansAgain rfl rfl rfl found⟩

end CodePrint
