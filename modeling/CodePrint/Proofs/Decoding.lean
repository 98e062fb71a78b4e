import CodePrint.Proofs.Alike
import CodePrint.Text.Utf8

/-! # Decoding in parts

Octets that decode leave the machine without a character begun, so what follows them is read as if
it stood alone: texts are put together by putting their octets together. Octets that are followed by
the start of a character have to be whole characters too, since no octet both starts a character and
continues one.
-/

namespace CodePrint.Utf8

/-- What octets give, and the state they leave. -/
def scan : Option Pending → List UInt8 → List Piece × Option Pending
  | state, [] => ([], state)
  | state, octet :: rest =>
    let (out, next) := step state octet
    let (later, last) := scan next rest
    (out ++ later, last)

/-- Octets are read in two stretches: the second is read from the state in which the first leaves
the reader. -/
theorem piecesFrom_append (state : Option Pending) (front back : List UInt8) :
    piecesFrom state (front ++ back) =
      (scan state front).1 ++ piecesFrom (scan state front).2 back := by
  induction front generalizing state with
  | nil => rfl
  | cons octet rest ih =>
      rw [List.cons_append, piecesFrom, scan]
      dsimp only
      rw [ih, List.append_assoc]

private theorem pieces_eq_scan (octets : List UInt8) :
    pieces octets = (scan none octets).1 ++ piecesFrom (scan none octets).2 [] := by
  rw [← piecesFrom_append, List.append_nil]
  rfl

private theorem readPieces_eq_ok_iff {offset : Nat} {pieces : List Piece} {text : List Char} :
    readPieces offset pieces = .ok text ↔ pieces = text.map .char := by
  induction pieces generalizing offset text with
  | nil => cases text <;> simp [readPieces]
  | cons piece rest ih =>
      cases piece with
      | bad length cause => cases text <;> simp [readPieces]
      | char c =>
          rw [readPieces, map_eq_ok]
          simp only [ih]
          constructor
          · rintro ⟨later, rfl, rfl⟩
            rfl
          · intro same
            cases text with
            | nil => cases same
            | cons first later =>
                obtain ⟨atFirst, atLater⟩ := List.cons.inj same
                exact ⟨later, atLater, by rw [Piece.char.inj atFirst]⟩

/-- Octets decode to a text exactly when all their pieces are characters, and those of the text. -/
theorem decode_eq_ok_iff_pieces {octets : List UInt8} {text : List Char} :
    decode octets = .ok text ↔ pieces octets = text.map .char :=
  readPieces_eq_ok_iff

private theorem not_bad_mem {length : Nat} {cause : Cause} (text : List Char) :
    Piece.bad length cause ∉ text.map .char := by
  simp

/-- Octets that decode leave no character begun. -/
theorem scan_of_decode {octets : List UInt8} {text : List Char}
    (decoded : decode octets = .ok text) : scan none octets = (text.map .char, none) := by
  have read := decode_eq_ok_iff_pieces.mp decoded
  rw [pieces_eq_scan] at read
  cases left : (scan none octets).2 with
  | none =>
      rw [left] at read
      exact Prod.ext (by simpa [piecesFrom] using read) left
  | some pending =>
      rw [left] at read
      refine absurd ?_ (@not_bad_mem pending.length .unfinished text)
      rw [← read]
      simp [piecesFrom]

/-- Behind octets that are a text, the rest decodes by itself. -/
theorem decode_append {front back : List UInt8} {text whole : List Char}
    (decoded : decode front = .ok text) :
    decode (front ++ back) = .ok whole ↔ ∃ rest, decode back = .ok rest ∧ whole = text ++ rest := by
  have split : pieces (front ++ back) = text.map .char ++ pieces back := by
    rw [pieces, piecesFrom_append, scan_of_decode decoded]
    rfl
  rw [decode_eq_ok_iff_pieces, split]
  constructor
  · intro same
    obtain ⟨first, rest, rfl, atFirst, atRest⟩ := List.map_eq_append_iff.mp same.symm
    rw [List.map_inj_right (fun _ _ => Piece.char.inj)] at atFirst
    exact ⟨rest, decode_eq_ok_iff_pieces.mpr atRest.symm, by rw [atFirst]⟩
  · rintro ⟨rest, decodedRest, rfl⟩
    rw [decode_eq_ok_iff_pieces.mp decodedRest, List.map_append]

/-! ## Encoding -/

section Continuation

variable {pending : Pending} {octet : UInt8} {rest : List UInt8} {digit later : Nat}

private theorem scan_opening (opened : opening octet = ([], some pending)) :
    scan none (octet :: rest) = scan (some pending) rest := by
  rw [scan, step, opened]
  rfl

variable (written : octet.toNat = digit + 128)
  (fits : pending.low ≤ digit + 128 ∧ digit + 128 ≤ pending.high)
include written fits

/-- The last octet of a character adds its six bits and ends the character. -/
theorem scan_last (ends : pending.later = 0) :
    scan (some pending) [octet] = ([.char (Char.ofNat (pending.code * 64 + digit))], none) := by
  simp only [scan, step, Pending.extend, written, fits, and_self, ↓reduceIte, ends,
    Nat.add_sub_cancel, List.append_nil]

/-- An octet inside a character adds its six bits. -/
theorem scan_more (goesOn : pending.later = later + 1) :
    scan (some pending) (octet :: rest) =
      scan (some ⟨pending.code * 64 + digit, later, 0x80, 0xBF, pending.length + 1⟩) rest := by
  simp only [scan, step, Pending.extend, written, fits, and_self, ↓reduceIte, goesOn,
    Nat.add_sub_cancel, List.nil_append]

end Continuation

/-- An octet below `0x80` is a character. -/
theorem opening_one {octet : UInt8} (small : octet.toNat < 0x80) :
    opening octet = ([.char (Char.ofNat octet.toNat)], none) := by
  unfold opening
  dsimp only
  rw [if_pos small]

/-- An octet from `0xC2` up to `0xDF` begins a character that one more octet completes. -/
theorem opening_two {octet : UInt8} (low : 0xC2 ≤ octet.toNat) (high : octet.toNat < 0xE0) :
    opening octet = ([], some ⟨octet.toNat - 0xC0, 0, 0x80, 0xBF, 1⟩) := by
  unfold opening
  dsimp only
  rw [if_neg (by omega), if_neg (by omega), if_pos high]

/-- No character begins with a continuation octet, with `0xC0` or `0xC1`, or above `0xF4`. -/
theorem opening_stray {octet : UInt8}
    (stray : 0x80 ≤ octet.toNat ∧ octet.toNat < 0xC2 ∨ 0xF4 < octet.toNat) :
    opening octet = ([.bad 1 .badStart], none) := by
  unfold opening
  dsimp only
  rcases stray with low | high
  · rw [if_neg (by omega), if_pos (by omega)]
  · rw [if_neg (by omega), if_neg (by omega), if_neg (by omega), if_neg (by omega),
      if_neg (by omega), if_neg (by omega), if_neg (by omega), if_neg (by omega), if_neg (by omega)]

/-- Only octets from `0x80` to `0xBF` continue the character. -/
def Pending.Continues (pending : Pending) : Prop :=
  0x80 ≤ pending.low ∧ pending.high ≤ 0xBF

/-- The first of three octets. The second is bounded so that the code point needs three octets and
is no surrogate. -/
theorem opening_three {octet : UInt8} (low : 0xE0 ≤ octet.toNat) (high : octet.toNat < 0xF0) :
    ∃ pending, opening octet = ([], some pending) ∧ pending.code = octet.toNat - 0xE0 ∧
      pending.later = 1 ∧ pending.Continues ∧
      ∀ second, pending.low ≤ second ∧ second ≤ pending.high ↔ (0x80 ≤ second ∧ second ≤ 0xBF) ∧
        (octet.toNat = 0xE0 → 0xA0 ≤ second) ∧ (octet.toNat = 0xED → second ≤ 0x9F) := by
  unfold opening Pending.Continues
  dsimp only
  rw [if_neg (by omega), if_neg (by omega), if_neg (by omega)]
  by_cases least : octet.toNat = 0xE0
  · rw [if_pos least, least]
    refine ⟨_, rfl, rfl, rfl, ⟨by decide, Nat.le_refl _⟩, ?_⟩
    dsimp only
    omega
  · rw [if_neg least]
    by_cases last : octet.toNat = 0xED
    · rw [if_pos last, last]
      refine ⟨_, rfl, rfl, rfl, ⟨Nat.le_refl _, by decide⟩, ?_⟩
      dsimp only
      omega
    · rw [if_neg last, if_pos high]
      refine ⟨_, rfl, rfl, rfl, ⟨Nat.le_refl _, Nat.le_refl _⟩, ?_⟩
      dsimp only
      omega

/-- The first of four octets. The second is bounded so that the code point needs four octets and is
at most `0x10FFFF`. -/
theorem opening_four {octet : UInt8} (low : 0xF0 ≤ octet.toNat) (high : octet.toNat ≤ 0xF4) :
    ∃ pending, opening octet = ([], some pending) ∧ pending.code = octet.toNat - 0xF0 ∧
      pending.later = 2 ∧ pending.Continues ∧
      ∀ second, pending.low ≤ second ∧ second ≤ pending.high ↔ (0x80 ≤ second ∧ second ≤ 0xBF) ∧
        (octet.toNat = 0xF0 → 0x90 ≤ second) ∧ (octet.toNat = 0xF4 → second ≤ 0x8F) := by
  unfold opening Pending.Continues
  dsimp only
  rw [if_neg (by omega), if_neg (by omega), if_neg (by omega), if_neg (by omega),
    if_neg (by omega), if_neg (by omega)]
  by_cases least : octet.toNat = 0xF0
  · rw [if_pos least, least]
    refine ⟨_, rfl, rfl, rfl, ⟨by decide, Nat.le_refl _⟩, ?_⟩
    dsimp only
    omega
  · rw [if_neg least]
    by_cases last : octet.toNat = 0xF4
    · rw [if_neg (by omega), if_pos last, last]
      refine ⟨_, rfl, rfl, rfl, ⟨Nat.le_refl _, by decide⟩, ?_⟩
      dsimp only
      omega
    · rw [if_pos (by omega)]
      refine ⟨_, rfl, rfl, rfl, ⟨Nat.le_refl _, Nat.le_refl _⟩, ?_⟩
      dsimp only
      omega

/-- The octets of a character give it back. -/
theorem scan_utf8EncodeChar (c : Char) :
    scan none (String.utf8EncodeChar c) = ([.char c], none) := by
  have valid : c.val.toNat < 0xD800 ∨ 0xDFFF < c.val.toNat ∧ c.val.toNat < 0x110000 := c.valid
  have octet {n : Nat} (small : n < 256) : (UInt8.ofNat n).toNat = n :=
    UInt8.toNat_ofNat_of_lt' small
  have back {n : Nat} (same : n = c.val.toNat) : Char.ofNat n = c := by
    rw [same]
    exact Char.ofNat_toNat c
  unfold String.utf8EncodeChar
  dsimp only
  generalize c.val.toNat = v at *
  split
  · have first : (UInt8.ofNat v).toNat = v := octet (by omega)
    rw [scan, step, opening_one (by omega), first, back rfl]
    rfl
  · split
    · have first : (UInt8.ofNat (v / 64 % 32 + 192)).toNat = v / 64 % 32 + 192 := octet (by omega)
      rw [scan_opening (opening_two (by omega) (by omega)),
        scan_last (octet (by omega)) (by dsimp only; omega) rfl, first, back (by dsimp only; omega)]
    · split
      · have first : (UInt8.ofNat (v / 4096 % 16 + 224)).toNat = v / 4096 % 16 + 224 :=
          octet (by omega)
        obtain ⟨pending, opened, code, later, _, fits⟩ := @opening_three
          (UInt8.ofNat (v / 4096 % 16 + 224)) (by omega) (by omega)
        rw [scan_opening opened, scan_more (octet (by omega)) ((fits _).mpr (by omega)) later,
          scan_last (octet (by omega)) (by dsimp only; omega) rfl, code, first,
          back (by dsimp only; omega)]
      · have first : (UInt8.ofNat (v / 262144 % 8 + 240)).toNat = v / 262144 % 8 + 240 :=
          octet (by omega)
        obtain ⟨pending, opened, code, later, _, fits⟩ := @opening_four
          (UInt8.ofNat (v / 262144 % 8 + 240)) (by omega) (by omega)
        rw [scan_opening opened, scan_more (octet (by omega)) ((fits _).mpr (by omega)) later,
          scan_more (octet (by omega)) (by dsimp only; omega) rfl,
          scan_last (octet (by omega)) (by dsimp only; omega) rfl, code, first,
          back (by dsimp only; omega)]

/-- The octets of a character decode to that character. -/
theorem decode_utf8EncodeChar (c : Char) : decode (String.utf8EncodeChar c) = .ok [c] := by
  rw [decode_eq_ok_iff_pieces, pieces_eq_scan, scan_utf8EncodeChar]
  rfl

/-- Decoding gives back what was encoded. -/
theorem decode_encode (text : List Char) : decode (encode text) = .ok text := by
  induction text with
  | nil => rfl
  | cons c rest ih => exact (decode_append (decode_utf8EncodeChar c)).mpr ⟨rest, ih, rfl⟩

/-! ## Where a text may be cut -/

private theorem opening_continues (octet : UInt8) :
    ∀ pending ∈ (opening octet).2, pending.Continues := by
  intro pending begun
  by_cases one : octet.toNat < 0x80
  · rw [opening_one one] at begun
    cases begun
  by_cases stray : 0x80 ≤ octet.toNat ∧ octet.toNat < 0xC2 ∨ 0xF4 < octet.toNat
  · rw [opening_stray stray] at begun
    cases begun
  by_cases two : octet.toNat < 0xE0
  · rw [opening_two (by omega) two] at begun
    obtain rfl := Option.some.inj begun
    exact ⟨Nat.le_refl _, Nat.le_refl _⟩
  by_cases three : octet.toNat < 0xF0
  · obtain ⟨_, opened, _, _, continues, _⟩ := opening_three (by omega) three
    rw [opened] at begun
    obtain rfl := Option.some.inj begun
    exact continues
  · obtain ⟨_, opened, _, _, continues, _⟩ := @opening_four octet (by omega) (by omega)
    rw [opened] at begun
    obtain rfl := Option.some.inj begun
    exact continues

private theorem step_continues (state : Option Pending) (octet : UInt8) :
    ∀ pending ∈ (step state octet).2, pending.Continues := by
  cases state with
  | none => exact opening_continues octet
  | some before =>
      intro pending left
      unfold step Pending.extend at left
      dsimp only at left
      split at left
      · split at left
        · cases left
        · obtain rfl := Option.some.inj left
          simp [Pending.Continues]
      · exact opening_continues octet pending left

/-- A reader that is inside a character always waits for a continuation octet. -/
theorem scan_continues {state : Option Pending} (octets : List UInt8)
    (begun : ∀ pending ∈ state, pending.Continues) :
    ∀ pending ∈ (scan state octets).2, pending.Continues := by
  induction octets generalizing state with
  | nil => exact begun
  | cons octet rest ih => exact ih (step_continues state octet)

/-- An octet that starts a character does not continue one. -/
theorem extend_bad {pending : Pending} (continues : pending.Continues) {octet : UInt8}
    (starts : ∀ cause, .bad 1 cause ∉ (opening octet).1) :
    .bad pending.length .badContinuation ∈ (pending.extend octet).1 := by
  have outside : ¬(0x80 ≤ octet.toNat ∧ octet.toNat ≤ 0xBF) := by
    intro inside
    apply starts .badStart
    rw [opening_stray (.inl (by omega))]
    exact List.mem_singleton.mpr rfl
  unfold Pending.extend
  dsimp only
  rw [if_neg]
  · exact List.mem_cons_self
  · intro fits
    have := continues.1
    have := continues.2
    omega

/-- Octets before the start of a character decode if all of them together do. -/
theorem decode_front {front middle back : List UInt8} {whole text : List Char}
    (together : decode (front ++ (middle ++ back)) = .ok whole)
    (decoded : decode middle = .ok text) (occupied : middle ≠ []) :
    ∃ first, decode front = .ok first := by
  have read := decode_eq_ok_iff_pieces.mp together
  rw [pieces, piecesFrom_append] at read
  cases left : (scan none front).2 with
  | none =>
      obtain ⟨first, rest, rfl, atFirst, _⟩ := List.map_eq_append_iff.mp read.symm
      refine ⟨first, decode_eq_ok_iff_pieces.mpr ?_⟩
      rw [pieces_eq_scan, left, ← atFirst]
      simp [piecesFrom]
  | some pending =>
      exfalso
      obtain ⟨octet, later, rfl⟩ := List.exists_cons_of_ne_nil occupied
      have starts : ∀ cause, .bad 1 cause ∉ (opening octet).1 := by
        intro cause bad
        apply @not_bad_mem 1 cause text
        rw [← decode_eq_ok_iff_pieces.mp decoded]
        exact List.mem_append_left _ bad
      have continues : pending.Continues :=
        scan_continues front (fun _ begun => absurd begun (Option.not_mem_none _)) pending left
      have bad := extend_bad continues starts
      apply @not_bad_mem pending.length .badContinuation whole
      rw [← read, left]
      apply List.mem_append_right
      exact List.mem_append_left _ bad

end CodePrint.Utf8
