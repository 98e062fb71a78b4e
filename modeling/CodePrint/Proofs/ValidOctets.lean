import CodePrint.Proofs.Decoding

/-! # Octets that are text

Octets are text if they are those of some characters, one after the other. Decoding accepts exactly
such octets. Others it refuses at the first place where no character starts: a character begun is
written by the octets read so far and whatever octets may still come, so what is given as a
character is written by exactly the octets that were read for it.
-/

namespace CodePrint.Utf8

/-- The octets of some characters. -/
def IsText (octets : List UInt8) : Prop :=
  ∃ text, octets = encode text

/-- The place where octets cease to be text: what stands before is text, and no character starts
there. -/
structure CeasesAt (octets : List UInt8) (place : Nat) : Prop where
  inside : place < octets.length
  before : IsText (octets.take place)
  unstarted : ∀ c, ¬String.utf8EncodeChar c <+: octets.drop place

/-! ## Octets of one character -/

private theorem ofNat_val {code : Nat} (valid : code.isValidChar) :
    (Char.ofNat code).val.toNat = code := by
  unfold Char.ofNat
  rw [dif_pos valid]
  rfl

private theorem ofNat_octet {n : Nat} {octet : UInt8} (same : n = octet.toNat) :
    UInt8.ofNat n = octet := by
  rw [same]
  exact UInt8.ofNat_toNat

/-- The bounds of an octet that continues a character. -/
def Continuation (octet : UInt8) : Prop :=
  0x80 ≤ octet.toNat ∧ octet.toNat ≤ 0xBF

section Written

variable {first second third fourth : UInt8}

private theorem utf8EncodeChar_one (small : first.toNat < 0x80) :
    String.utf8EncodeChar (Char.ofNat first.toNat) = [first] := by
  unfold String.utf8EncodeChar
  dsimp only
  rw [ofNat_val (by unfold Nat.isValidChar; omega), if_pos (by omega), UInt8.ofNat_toNat]

private theorem utf8EncodeChar_two (low : 0xC2 ≤ first.toNat) (high : first.toNat < 0xE0)
    (atSecond : Continuation second) :
    String.utf8EncodeChar
      (Char.ofNat ((first.toNat - 0xC0) * 64 + (second.toNat - 0x80))) = [first, second] := by
  unfold Continuation at atSecond
  unfold String.utf8EncodeChar
  dsimp only
  rw [ofNat_val (by unfold Nat.isValidChar; omega), if_neg (by omega), if_pos (by omega)]
  simp only [List.cons.injEq, and_true]
  exact ⟨ofNat_octet (by omega), ofNat_octet (by omega)⟩

private theorem utf8EncodeChar_three (low : 0xE0 ≤ first.toNat) (high : first.toNat < 0xF0)
    (atSecond : Continuation second) (atThird : Continuation third)
    (long : first.toNat = 0xE0 → 0xA0 ≤ second.toNat)
    (scalar : first.toNat = 0xED → second.toNat ≤ 0x9F) :
    String.utf8EncodeChar (Char.ofNat (((first.toNat - 0xE0) * 64 + (second.toNat - 0x80)) * 64 +
      (third.toNat - 0x80))) = [first, second, third] := by
  unfold Continuation at atSecond atThird
  unfold String.utf8EncodeChar
  dsimp only
  rw [ofNat_val (by unfold Nat.isValidChar; omega), if_neg (by omega), if_neg (by omega),
    if_pos (by omega)]
  simp only [List.cons.injEq, and_true]
  exact ⟨ofNat_octet (by omega), ofNat_octet (by omega), ofNat_octet (by omega)⟩

private theorem utf8EncodeChar_four (low : 0xF0 ≤ first.toNat) (high : first.toNat ≤ 0xF4)
    (atSecond : Continuation second) (atThird : Continuation third)
    (atFourth : Continuation fourth) (long : first.toNat = 0xF0 → 0x90 ≤ second.toNat)
    (bounded : first.toNat = 0xF4 → second.toNat ≤ 0x8F) :
    String.utf8EncodeChar (Char.ofNat ((((first.toNat - 0xF0) * 64 + (second.toNat - 0x80)) * 64 +
      (third.toNat - 0x80)) * 64 + (fourth.toNat - 0x80))) = [first, second, third, fourth] := by
  unfold Continuation at atSecond atThird atFourth
  unfold String.utf8EncodeChar
  dsimp only
  rw [ofNat_val (by unfold Nat.isValidChar; omega), if_neg (by omega), if_neg (by omega),
    if_neg (by omega)]
  simp only [List.cons.injEq, and_true]
  exact ⟨ofNat_octet (by omega), ofNat_octet (by omega), ofNat_octet (by omega),
    ofNat_octet (by omega)⟩

end Written

/-! ## Characters begun -/

namespace Pending

/-- The octets that a character begun may go on with to its end. -/
def Takes (pending : Pending) : List UInt8 → Prop
  | [] => False
  | next :: rest => (pending.low ≤ next.toNat ∧ next.toNat ≤ pending.high) ∧
      rest.length = pending.later ∧ ∀ octet ∈ rest, Continuation octet

/-- The character that the octets still to come make of the one begun. -/
def finish (pending : Pending) (tail : List UInt8) : Char :=
  Char.ofNat (tail.foldl (fun code octet => code * 64 + (octet.toNat - 0x80)) pending.code)

/-- The octets read so far, with whatever octets may still come, write the character they make. -/
def BegunBy (pending : Pending) (begun : List UInt8) : Prop :=
  ∀ tail, pending.Takes tail → String.utf8EncodeChar (pending.finish tail) = begun ++ tail

private theorem finish_cons (pending : Pending) (octet : UInt8) (tail : List UInt8)
    {later low high length : Nat} :
    pending.finish (octet :: tail) =
      finish ⟨pending.code * 64 + (octet.toNat - 0x80), later, low, high, length⟩ tail := by
  unfold finish
  rw [List.foldl_cons]

private theorem BegunBy.extend {pending : Pending} {begun : List UInt8}
    (written : pending.BegunBy begun) {octet : UInt8}
    (fits : pending.low ≤ octet.toNat ∧ octet.toNat ≤ pending.high) {later : Nat}
    (goesOn : pending.later = later + 1) :
    BegunBy ⟨pending.code * 64 + (octet.toNat - 0x80), later, 0x80, 0xBF, pending.length + 1⟩
      (begun ++ [octet]) := by
  intro tail takes
  cases tail with
  | nil => exact takes.elim
  | cons next rest =>
      obtain ⟨atNext, counted, atRest⟩ := takes
      rw [List.append_assoc, List.singleton_append, ← pending.finish_cons]
      refine written (octet :: next :: rest) ⟨fits, ?_, ?_⟩
      · rw [goesOn, List.length_cons, counted]
      · intro other member
        rcases List.mem_cons.mp member with rfl | member
        · exact atNext
        · exact atRest other member

section Opened

variable {pending : Pending} {octet : UInt8}

private theorem BegunBy.two (low : 0xC2 ≤ octet.toNat) (high : octet.toNat < 0xE0) :
    BegunBy ⟨octet.toNat - 0xC0, 0, 0x80, 0xBF, 1⟩ [octet] := by
  intro tail takes
  match tail, takes with
  | second :: rest, ⟨atSecond, counted, _⟩ =>
      rw [List.length_eq_zero_iff] at counted
      subst counted
      simp only [finish, List.foldl_cons, List.foldl_nil]
      exact utf8EncodeChar_two low high atSecond

private theorem BegunBy.three (low : 0xE0 ≤ octet.toNat) (high : octet.toNat < 0xF0)
    (code : pending.code = octet.toNat - 0xE0) (later : pending.later = 1)
    (bounds : ∀ second, pending.low ≤ second ∧ second ≤ pending.high →
      (0x80 ≤ second ∧ second ≤ 0xBF) ∧
        (octet.toNat = 0xE0 → 0xA0 ≤ second) ∧ (octet.toNat = 0xED → second ≤ 0x9F)) :
    pending.BegunBy [octet] := by
  intro tail takes
  match tail, takes with
  | second :: rest, ⟨fits, counted, atRest⟩ =>
      rw [later, List.length_eq_one_iff] at counted
      obtain ⟨third, rfl⟩ := counted
      obtain ⟨atSecond, long, scalar⟩ := bounds second.toNat fits
      simp only [finish, List.foldl_cons, List.foldl_nil, code]
      exact utf8EncodeChar_three low high atSecond (atRest third List.mem_cons_self) long scalar

private theorem BegunBy.four (low : 0xF0 ≤ octet.toNat) (high : octet.toNat ≤ 0xF4)
    (code : pending.code = octet.toNat - 0xF0) (later : pending.later = 2)
    (bounds : ∀ second, pending.low ≤ second ∧ second ≤ pending.high →
      (0x80 ≤ second ∧ second ≤ 0xBF) ∧
        (octet.toNat = 0xF0 → 0x90 ≤ second) ∧ (octet.toNat = 0xF4 → second ≤ 0x8F)) :
    pending.BegunBy [octet] := by
  intro tail takes
  match tail, takes with
  | second :: rest, ⟨fits, counted, atRest⟩ =>
      rw [later] at counted
      obtain ⟨third, others, rfl⟩ := List.exists_cons_of_length_eq_add_one counted
      obtain ⟨fourth, rfl⟩ := List.length_eq_one_iff.mp (Nat.succ.inj counted)
      obtain ⟨atSecond, long, bounded⟩ := bounds second.toNat fits
      simp only [finish, List.foldl_cons, List.foldl_nil, code]
      exact utf8EncodeChar_four low high atSecond (atRest third List.mem_cons_self)
        (atRest fourth (.tail _ List.mem_cons_self)) long bounded

end Opened

end Pending

/-- What an octet gives at the start of a character: the character it writes, a bad sequence, or a
character begun by it. -/
theorem opening_cases (octet : UInt8) :
    (∃ c, opening octet = ([.char c], none) ∧ String.utf8EncodeChar c = [octet]) ∨
      opening octet = ([.bad 1 .badStart], none) ∨
      ∃ pending, opening octet = ([], some pending) ∧ pending.BegunBy [octet] := by
  by_cases one : octet.toNat < 0x80
  · exact .inl ⟨_, opening_one one, utf8EncodeChar_one one⟩
  right
  by_cases stray : 0x80 ≤ octet.toNat ∧ octet.toNat < 0xC2 ∨ 0xF4 < octet.toNat
  · exact .inl (opening_stray stray)
  right
  by_cases two : octet.toNat < 0xE0
  · exact ⟨_, opening_two (by omega) two, .two (by omega) two⟩
  by_cases three : octet.toNat < 0xF0
  · obtain ⟨pending, opened, code, later, _, bounds⟩ := opening_three (by omega) three
    exact ⟨pending, opened, .three (by omega) three code later fun second => (bounds second).mp⟩
  · obtain ⟨pending, opened, code, later, _, bounds⟩ := @opening_four octet (by omega) (by omega)
    exact ⟨pending, opened,
      .four (by omega) (by omega) code later fun second => (bounds second).mp⟩

/-! ## Pieces -/

section Pieces

variable {pending : Pending} {begun octets : List UInt8} {c : Char} {more : List Piece}

/-- What an octet gives inside a character: it ends the character, continues it, or shows that the
octets so far are bad. -/
theorem extend_cases (pending : Pending) (octet : UInt8) :
    ((pending.low ≤ octet.toNat ∧ octet.toNat ≤ pending.high) ∧
      (pending.later = 0 ∧
          pending.extend octet = ([.char (pending.finish [octet])], none) ∨
        ∃ later, pending.later = later + 1 ∧
          pending.extend octet = ([], some ⟨pending.code * 64 + (octet.toNat - 0x80), later,
            0x80, 0xBF, pending.length + 1⟩))) ∨
      ∃ out state, pending.extend octet = (.bad pending.length .badContinuation :: out, state) := by
  by_cases fits : pending.low ≤ octet.toNat ∧ octet.toNat ≤ pending.high
  · refine .inl ⟨fits, ?_⟩
    cases left : pending.later with
    | zero =>
        refine .inl ⟨rfl, ?_⟩
        simp only [Pending.extend, fits, and_self, ↓reduceIte, left]
        rfl
    | succ later =>
        refine .inr ⟨later, rfl, ?_⟩
        simp only [Pending.extend, fits, and_self, ↓reduceIte, left]
  · refine .inr ⟨(opening octet).1, (opening octet).2, ?_⟩
    rw [Pending.extend, if_neg fits]

private theorem piecesFrom_ne_nil (pending : Pending) (octets : List UInt8) :
    piecesFrom (some pending) octets ≠ [] := by
  induction octets generalizing pending with
  | nil => exact List.cons_ne_nil _ _
  | cons octet rest ih =>
      rw [piecesFrom, step]
      rcases extend_cases pending octet with
        ⟨_, ⟨_, given⟩ | ⟨_, _, given⟩⟩ | ⟨_, _, given⟩
      · rw [given]
        exact List.cons_ne_nil _ _
      · rw [given]
        exact ih _
      · rw [given]
        exact List.cons_ne_nil _ _

/-- A character that was begun is given once all its octets are read. -/
theorem piecesFrom_char (written : pending.BegunBy begun)
    (read : piecesFrom (some pending) octets = .char c :: more) :
    ∃ rest, begun ++ octets = String.utf8EncodeChar c ++ rest ∧ more = pieces rest := by
  induction octets generalizing pending begun with
  | nil => cases read
  | cons octet rest ih =>
      rw [piecesFrom, step] at read
      rcases extend_cases pending octet with
        ⟨fits, ⟨last, given⟩ | ⟨_, goesOn, given⟩⟩ | ⟨_, _, given⟩
      · rw [given] at read
        obtain ⟨atChar, atMore⟩ := List.cons.inj read
        have ended := written [octet]
          ⟨fits, last.symm, fun _ impossible => absurd impossible List.not_mem_nil⟩
        rw [Piece.char.inj atChar] at ended
        refine ⟨rest, ?_, atMore.symm⟩
        rw [List.append_cons, ← ended]
      · rw [given] at read
        obtain ⟨others, whole, same⟩ := ih (written.extend fits goesOn) read
        exact ⟨others, by rw [List.append_cons, whole], same⟩
      · rw [given] at read
        cases read

/-- A character at the front of the pieces is written by the first octets, and the rest is read by
itself. -/
theorem pieces_char (read : pieces octets = .char c :: more) :
    ∃ rest, octets = String.utf8EncodeChar c ++ rest ∧ more = pieces rest := by
  unfold pieces at read
  cases octets with
  | nil => cases read
  | cons octet rest =>
      rw [piecesFrom, step] at read
      rcases opening_cases octet with ⟨_, opened, written⟩ | opened | ⟨_, opened, written⟩
      · rw [opened] at read
        cases read
        exact ⟨rest, by rw [written]; rfl, rfl⟩
      · rw [opened] at read
        cases read
      · rw [opened] at read
        exact piecesFrom_char written read

/-- The octets of a character are read as that character, whatever follows. -/
theorem pieces_encodeChar (c : Char) (rest : List UInt8) :
    pieces (String.utf8EncodeChar c ++ rest) = .char c :: pieces rest := by
  rw [pieces, piecesFrom_append, scan_utf8EncodeChar]
  rfl

/-- Only no octets have no pieces. -/
theorem pieces_eq_nil_iff : pieces octets = [] ↔ octets = [] := by
  cases octets with
  | nil => exact iff_of_true rfl rfl
  | cons octet rest =>
      refine iff_of_false ?_ (List.cons_ne_nil _ _)
      rw [pieces, piecesFrom, step]
      rcases opening_cases octet with ⟨_, opened, _⟩ | opened | ⟨pending, opened, _⟩
      · rw [opened]
        exact List.cons_ne_nil _ _
      · rw [opened]
        exact List.cons_ne_nil _ _
      · rw [opened]
        exact piecesFrom_ne_nil pending rest

end Pieces

/-! ## Decoding -/

/-- Decoding accepts exactly the octets of the text that it gives. -/
theorem decode_eq_ok_iff_encode {octets : List UInt8} {text : List Char} :
    decode octets = .ok text ↔ octets = encode text := by
  refine ⟨fun decoded => ?_, fun same => same ▸ decode_encode text⟩
  rw [decode_eq_ok_iff_pieces] at decoded
  induction text generalizing octets with
  | nil => exact pieces_eq_nil_iff.mp decoded
  | cons c rest ih =>
      obtain ⟨others, whole, same⟩ := pieces_char decoded
      rw [whole, ih same.symm]
      rfl

/-- Octets are a text when they decode to one. -/
theorem isText_iff {octets : List UInt8} : IsText octets ↔ ∃ text, decode octets = .ok text :=
  exists_congr fun _ => decode_eq_ok_iff_encode.symm

instance (octets : List UInt8) : Decidable (IsText octets) :=
  match read : decode octets with
  | .ok text => .isTrue (isText_iff.mpr ⟨text, read⟩)
  | .error _ => .isFalse fun whole => by
    obtain ⟨_, decoded⟩ := isText_iff.mp whole
    cases read.symm.trans decoded

/-- Octets that are no text have a fault. -/
theorem not_isText_iff {octets : List UInt8} :
    ¬IsText octets ↔ ∃ fault, decode octets = .error fault := by
  rw [isText_iff]
  cases decode octets with
  | ok text => simp
  | error fault => simp

/-- What a text leaves of a longer one is text. -/
theorem IsText.of_append {front back : List UInt8} (first : IsText front)
    (whole : IsText (front ++ back)) : IsText back := by
  obtain ⟨text, decoded⟩ := isText_iff.mp first
  obtain ⟨_, decodedWhole⟩ := isText_iff.mp whole
  obtain ⟨rest, decodedBack, _⟩ := (decode_append decoded).mp decodedWhole
  exact isText_iff.mpr ⟨rest, decodedBack⟩

/-- Refused octets are a text followed by octets at which no character starts. -/
theorem readPieces_eq_error {octets : List UInt8} {offset : Nat} {fault : Fault}
    (failed : readPieces offset (pieces octets) = .error fault) :
    ∃ text rest, octets = encode text ++ rest ∧ fault.offset = offset + (encode text).length ∧
      rest ≠ [] ∧ ∀ c, ¬String.utf8EncodeChar c <+: rest := by
  generalize read : pieces octets = parts at failed
  induction parts generalizing octets offset with
  | nil => cases failed
  | cons piece more ih =>
      cases piece with
      | bad length cause =>
          cases failed
          refine ⟨[], octets, rfl, rfl, ?_, ?_⟩
          · rintro rfl
            cases read
          · rintro c ⟨rest, rfl⟩
            rw [pieces_encodeChar] at read
            cases read
      | char c =>
          obtain ⟨others, rfl, rfl⟩ := pieces_char read
          rw [readPieces, map_eq_error] at failed
          obtain ⟨text, rest, whole, place, more, unstarted⟩ := ih rfl failed
          refine ⟨c :: text, rest, ?_, ?_, more, unstarted⟩
          · rw [whole, ← List.append_assoc]
            rfl
          · rw [place, encode, encode, List.flatMap_cons, List.length_append,
              String.length_utf8EncodeChar, Nat.add_assoc]

/-- Octets are refused at the place where they cease to be text. -/
theorem ceasesAt_of_decode {octets : List UInt8} {fault : Fault}
    (failed : decode octets = .error fault) : CeasesAt octets fault.offset := by
  obtain ⟨text, rest, rfl, place, more, unstarted⟩ := readPieces_eq_error failed
  rw [Nat.zero_add] at place
  rw [place]
  refine ⟨?_, ⟨text, List.take_left⟩, ?_⟩
  · rw [List.length_append]
    exact Nat.lt_add_of_pos_right (List.length_pos_iff.mpr more)
  · rw [List.drop_left]
    exact unstarted

/-- Between two places up to which octets are text a character starts at the first. -/
theorem exists_started {octets : List UInt8} {place stop : Nat}
    (before : IsText (octets.take place)) (whole : IsText (octets.take stop))
    (earlier : place < stop) (inside : place < octets.length) :
    ∃ c, String.utf8EncodeChar c <+: octets.drop place := by
  have split : octets.take stop =
      octets.take place ++ (octets.drop place).take (stop - place) := by
    rw [← List.take_add, Nat.add_sub_cancel' (Nat.le_of_lt earlier)]
  rw [split] at whole
  obtain ⟨text, written⟩ := before.of_append whole
  cases text with
  | nil =>
      have empty := congrArg List.length written
      simp only [List.length_take, List.length_drop, encode, List.flatMap_nil, List.length_nil]
        at empty
      omega
  | cons c rest =>
      refine ⟨c, List.IsPrefix.trans ?_ (List.take_prefix (stop - place) _)⟩
      rw [written]
      exact List.prefix_append _ _

namespace CeasesAt

variable {octets : List UInt8} {place other : Nat}

private theorem not_lt (ceases : CeasesAt octets place) (ceasesToo : CeasesAt octets other) :
    ¬place < other := by
  intro earlier
  obtain ⟨c, starts⟩ := exists_started ceases.before ceasesToo.before earlier ceases.inside
  exact ceases.unstarted c starts

/-- Octets cease to be text at one place only. -/
theorem unique (ceases : CeasesAt octets place) (ceasesToo : CeasesAt octets other) :
    place = other := by
  have := ceases.not_lt ceasesToo
  have := ceasesToo.not_lt ceases
  omega

end CeasesAt

end CodePrint.Utf8
