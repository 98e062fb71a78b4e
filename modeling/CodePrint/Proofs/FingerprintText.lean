import CodePrint.Fingerprint

/-! # Fingerprints as text

A digest is written in six-bit numbers, and a text is read back to the numbers it writes. Reading
after writing gives the digest again. Several texts are read to one digest, since padding may be
left out and the last character has bits beyond the last octet: writing after reading gives the
text without its padding and with these bits set to zero.
-/

namespace CodePrint

namespace Base64

/-! ## The alphabet -/

/-- The characters of the six-bit numbers, in order. -/
def alphabet : List Char :=
  "ABCDEFGHIJKLMNOPQRSTUVWXYZabcdefghijklmnopqrstuvwxyz0123456789+/".toList

private theorem alphabet_getElem : ∀ n < 64, alphabet[n]? = some (digit n) := by
  decide +kernel

private theorem idxOf_digit : ∀ n < 64, alphabet.idxOf (digit n) = n := by
  decide +kernel

private theorem value_digit : ∀ n < 64, value? (digit n) = some n := by
  decide

private theorem digit_ascii : ∀ n < 64, (digit n).toNat < 0x80 := by
  decide

private theorem digit_ne_padding : ∀ n < 64, digit n ≠ '=' := by
  decide

private theorem value_ascii {c : Char} {n : Nat} (valued : value? c = some n) : c.toNat < 0x80 := by
  have below {top : Char} (bounded : c ≤ top) : c.toNat ≤ top.toNat :=
    UInt32.le_iff_toNat_le.mp (Char.le_def.mp bounded)
  unfold value? at valued
  split at valued
  · rename_i upper
    exact Nat.lt_of_le_of_lt (below upper.2) (by decide)
  · split at valued
    · rename_i lower
      exact Nat.lt_of_le_of_lt (below lower.2) (by decide)
    · split at valued
      · rename_i numeral
        exact Nat.lt_of_le_of_lt (below numeral.2) (by decide)
      · split at valued
        · rename_i plus
          rw [plus]
          decide
        · split at valued
          · rename_i slash
            rw [slash]
            decide
          · cases valued

/-- A character with a value is the digit of that value. -/
theorem digit_of_value {c : Char} {n : Nat} (valued : value? c = some n) :
    n < 64 ∧ digit n = c := by
  have table : ∀ k < 0x80, ∀ n ∈ value? (Char.ofNat k), n < 64 ∧ digit n = Char.ofNat k := by
    decide
  have ascii := value_ascii valued
  rw [← Char.ofNat_toNat c] at valued ⊢
  exact table c.toNat ascii n valued

private theorem mem_alphabet_iff {c : Char} : c ∈ alphabet ↔ ∃ n < 64, digit n = c := by
  constructor
  · intro member
    have valued : alphabet.all (fun c => (value? c).isSome) = true := by decide +kernel
    obtain ⟨n, found⟩ := Option.isSome_iff_exists.mp (List.all_eq_true.mp valued c member)
    exact ⟨n, digit_of_value found⟩
  · rintro ⟨n, small, rfl⟩
    exact List.mem_of_getElem? (alphabet_getElem n small)

/-- Texts over the alphabet are those that write six-bit numbers. -/
theorem exists_numbers {body : List Char} (letters : ∀ c ∈ body, c ∈ alphabet) :
    ∃ numbers : List Nat, (∀ n ∈ numbers, n < 64) ∧ body = numbers.map digit := by
  induction body with
  | nil => exact ⟨[], by simp, rfl⟩
  | cons c rest ih =>
      obtain ⟨n, small, rfl⟩ := mem_alphabet_iff.mp (letters c List.mem_cons_self)
      obtain ⟨numbers, smaller, rfl⟩ := ih fun c member => letters c (List.mem_cons_of_mem _ member)
      exact ⟨n :: numbers, by simpa using ⟨small, smaller⟩, rfl⟩

/-! ## Octets and six-bit numbers -/

/-- A character of the alphabet with its low bits set to zero. -/
def clearLow (bits : Nat) (c : Char) : Char :=
  alphabet.getD (alphabet.idxOf c >>> bits <<< bits) c

/-- A text with the low bits of its last character set to zero. -/
def clearLast (bits : Nat) : List Char → List Char
  | [] => []
  | [c] => [clearLow bits c]
  | c :: rest => c :: clearLast bits rest

private theorem clearLow_digit {n : Nat} (small : n < 64) (bits : Nat) :
    clearLow bits (digit n) = digit (n >>> bits <<< bits) := by
  have cleared : n >>> bits <<< bits < 64 := by
    refine Nat.lt_of_le_of_lt ?_ small
    rw [Nat.shiftRight_eq_div_pow, Nat.shiftLeft_eq]
    exact Nat.div_mul_le_self n _
  rw [clearLow, idxOf_digit n small, List.getD_eq_getElem?_getD, alphabet_getElem _ cleared,
    Option.getD_some]

/-- Every four numbers of six bits make three octets, and a rest makes what it fills. -/
theorem octets_length (numbers : List Nat) :
    (octets numbers).length = numbers.length * 6 / 8 := by
  induction numbers using octets.induct with
  | case1 a b c d rest ih =>
      simp only [octets, List.length_cons, ih]
      omega
  | case2 a b c => simp [octets]
  | case3 a b => simp [octets]
  | case4 numbers fewerThanFour notThree notTwo =>
      match numbers with
      | [] => rfl
      | [a] => simp [octets]
      | [a, b] => exact absurd rfl (notTwo a b)
      | [a, b, c] => exact absurd rfl (notThree a b c)
      | a :: b :: c :: d :: rest => exact absurd rfl (fewerThanFour a b c d rest)

private theorem octet_toNat {n : Nat} (fits : n < 256) : (UInt8.ofNat n).toNat = n :=
  UInt8.toNat_ofNat_of_lt fits

/-- The octets of a whole group are written with the numbers of the group. -/
theorem encode_group {a b c d : Nat} (ha : a < 64) (hb : b < 64) (hc : c < 64) (hd : d < 64)
    (rest : List UInt8) :
    encode (UInt8.ofNat (a * 4 + b / 16) :: UInt8.ofNat (b % 16 * 16 + c / 4) ::
        UInt8.ofNat (c % 4 * 64 + d) :: rest) =
      digit a :: digit b :: digit c :: digit d :: encode rest := by
  have first : (a * 4 + b / 16) / 4 = a := by omega
  have second : (a * 4 + b / 16) % 4 * 16 + (b % 16 * 16 + c / 4) / 16 = b := by omega
  have third : (b % 16 * 16 + c / 4) % 16 * 4 + (c % 4 * 64 + d) / 64 = c := by omega
  have fourth : (c % 4 * 64 + d) % 64 = d := by omega
  rw [encode, octet_toNat (by omega), octet_toNat (by omega), octet_toNat (by omega), first,
    second, third, fourth]

private theorem encode_three {a b c : Nat} (ha : a < 64) (hb : b < 64) (hc : c < 64) :
    encode (octets [a, b, c]) = [digit a, digit b, digit (c >>> 2 <<< 2)] := by
  have first : (a * 4 + b / 16) / 4 = a := by omega
  have second : (a * 4 + b / 16) % 4 * 16 + (b % 16 * 16 + c / 4) / 16 = b := by omega
  have third : (b % 16 * 16 + c / 4) % 16 * 4 = c >>> 2 <<< 2 := by
    rw [Nat.shiftRight_eq_div_pow, Nat.shiftLeft_eq]
    omega
  rw [octets, encode, octet_toNat (by omega), octet_toNat (by omega), first, second, third]

private theorem encode_two {a b : Nat} (ha : a < 64) (hb : b < 64) :
    encode (octets [a, b]) = [digit a, digit (b >>> 4 <<< 4)] := by
  have first : (a * 4 + b / 16) / 4 = a := by omega
  have second : (a * 4 + b / 16) % 4 * 16 = b >>> 4 <<< 4 := by
    rw [Nat.shiftRight_eq_div_pow, Nat.shiftLeft_eq]
    omega
  rw [octets, encode, octet_toNat (by omega), first, second]

private theorem clearLast_cons {rest : List Char} (more : rest ≠ []) (bits : Nat) (c : Char) :
    clearLast bits (c :: rest) = c :: clearLast bits rest := by
  cases rest with
  | nil => exact absurd rfl more
  | cons next others => rfl

/-- Writing what was read gives the characters that were read, the last one without the bits beyond
the last octet. -/
theorem encode_octets {numbers : List Nat} (small : ∀ n ∈ numbers, n < 64)
    (whole : numbers.length % 4 ≠ 1) :
    encode (octets numbers) =
      clearLast (6 * numbers.length - 8 * (octets numbers).length) (numbers.map digit) := by
  induction numbers using octets.induct with
  | case1 a b c d rest ih =>
      simp only [List.mem_cons, forall_eq_or_imp] at small
      obtain ⟨ha, hb, hc, hd, smaller⟩ := small
      have wholeRest : rest.length % 4 ≠ 1 := by
        simp only [List.length_cons] at whole
        omega
      -- A whole group has no bits to spare, so the spare bits are those of the rest.
      have spare :
          6 * (a :: b :: c :: d :: rest).length - 8 * (octets (a :: b :: c :: d :: rest)).length =
            6 * rest.length - 8 * (octets rest).length := by
        simp only [octets, List.length_cons]
        omega
      rw [spare, octets, encode_group ha hb hc hd, ih smaller wholeRest]
      cases rest with
      | nil => simp [clearLast, clearLow_digit hd]
      | cons next others => simp [clearLast_cons]
  | case2 a b c =>
      simp only [List.mem_cons, forall_eq_or_imp] at small
      obtain ⟨ha, hb, hc, _⟩ := small
      rw [encode_three ha hb hc, ← clearLow_digit hc]
      rfl
  | case3 a b =>
      simp only [List.mem_cons, forall_eq_or_imp] at small
      obtain ⟨ha, hb, _⟩ := small
      rw [encode_two ha hb, ← clearLow_digit hb]
      rfl
  | case4 numbers fewerThanFour notThree notTwo =>
      match numbers with
      | [] => rfl
      | [a] => exact absurd rfl whole
      | [a, b] => exact absurd rfl (notTwo a b)
      | [a, b, c] => exact absurd rfl (notThree a b c)
      | a :: b :: c :: d :: rest => exact absurd rfl (fewerThanFour a b c d rest)

private theorem ofNat_eq_octet {octet : UInt8} {n : Nat} (same : n = octet.toNat) :
    UInt8.ofNat n = octet := by
  rw [same, UInt8.ofNat_toNat]

/-- The numbers of three octets are read back to them. -/
theorem octets_group (a b c : UInt8) (rest : List Nat) :
    octets (a.toNat / 4 :: (a.toNat % 4 * 16 + b.toNat / 16) ::
        (b.toNat % 16 * 4 + c.toNat / 64) :: c.toNat % 64 :: rest) =
      a :: b :: c :: octets rest := by
  have ha := a.toNat_lt
  have hb := b.toNat_lt
  have hc := c.toNat_lt
  have first : UInt8.ofNat (a.toNat / 4 * 4 + (a.toNat % 4 * 16 + b.toNat / 16) / 16) = a :=
    ofNat_eq_octet (by omega)
  have second : UInt8.ofNat ((a.toNat % 4 * 16 + b.toNat / 16) % 16 * 16 +
      (b.toNat % 16 * 4 + c.toNat / 64) / 4) = b := ofNat_eq_octet (by omega)
  have third : UInt8.ofNat ((b.toNat % 16 * 4 + c.toNat / 64) % 4 * 64 + c.toNat % 64) = c :=
    ofNat_eq_octet (by omega)
  rw [octets, first, second, third]

/-- Octets are written in six-bit numbers that are read back to them. -/
theorem encode_eq_digits (data : List UInt8) :
    ∃ numbers : List Nat, (∀ n ∈ numbers, n < 64) ∧ encode data = numbers.map digit ∧
      octets numbers = data := by
  induction data using encode.induct with
  | case1 => exact ⟨[], by simp, rfl, rfl⟩
  | case2 a =>
      have ha := a.toNat_lt
      have read : UInt8.ofNat (a.toNat / 4 * 4 + a.toNat % 4 * 16 / 16) = a :=
        ofNat_eq_octet (by omega)
      refine ⟨[a.toNat / 4, a.toNat % 4 * 16], ?_, rfl, by rw [octets, read]⟩
      simp only [List.forall_mem_cons, List.not_mem_nil, false_implies, implies_true, and_true]
      omega
  | case3 a b =>
      have ha := a.toNat_lt
      have hb := b.toNat_lt
      have first : UInt8.ofNat (a.toNat / 4 * 4 + (a.toNat % 4 * 16 + b.toNat / 16) / 16) = a :=
        ofNat_eq_octet (by omega)
      have second : UInt8.ofNat ((a.toNat % 4 * 16 + b.toNat / 16) % 16 * 16 +
          b.toNat % 16 * 4 / 4) = b := ofNat_eq_octet (by omega)
      refine ⟨[a.toNat / 4, a.toNat % 4 * 16 + b.toNat / 16, b.toNat % 16 * 4], ?_, rfl,
        by rw [octets, first, second]⟩
      simp only [List.forall_mem_cons, List.not_mem_nil, false_implies, implies_true, and_true]
      omega
  | case4 a b c rest ih =>
      obtain ⟨numbers, small, written, read⟩ := ih
      have ha := a.toNat_lt
      have hb := b.toNat_lt
      have hc := c.toNat_lt
      refine ⟨a.toNat / 4 :: (a.toNat % 4 * 16 + b.toNat / 16) ::
        (b.toNat % 16 * 4 + c.toNat / 64) :: c.toNat % 64 :: numbers, ?_, ?_, ?_⟩
      · simp only [List.forall_mem_cons]
        exact ⟨by omega, by omega, by omega, by omega, small⟩
      · simp only [encode, written, List.map_cons]
      · rw [octets_group, read]

/-- Octets are written with as many digits as their bits need. -/
theorem encode_length (data : List UInt8) : (encode data).length = (8 * data.length + 5) / 6 := by
  induction data using encode.induct with
  | case1 => rfl
  | case2 a => simp [encode]
  | case3 a b => simp [encode]
  | case4 a b c rest ih =>
      simp only [encode, List.length_cons, ih]
      omega

/-! ## Strict reading -/

private theorem closes_eq_replicate {count seen : Nat} {rest : List Char}
    (closed : closes count seen rest = true) : ∃ padding, rest = List.replicate padding '=' := by
  induction rest generalizing seen with
  | nil => exact ⟨0, rfl⟩
  | cons c rest ih =>
      rw [closes] at closed
      split at closed
      · cases closed
      · rename_i padded
        have same : c = '=' := Decidable.byContradiction fun other => padded (.inl other)
        rw [same]
        split at closed
        · rw [List.isEmpty_iff.mp closed]
          exact ⟨1, rfl⟩
        · obtain ⟨padding, rfl⟩ := ih closed
          exact ⟨padding + 1, rfl⟩

/-- Where a group was begun, exactly the padding that it lacks closes a text. -/
theorem closes_replicate {count : Nat} (begun : 2 ≤ count % 4) (padding seen : Nat)
    (lacking : count % 4 + seen < 4) :
    closes count seen (List.replicate padding '=') = decide (count % 4 + seen + padding = 4) := by
  have inhabited : count ≠ 0 := by
    rintro rfl
    exact absurd begun (by decide)
  induction padding generalizing seen with
  | zero =>
      have unfinished : count % 4 ≠ 0 := by omega
      have short : count % 4 + seen + 0 ≠ 4 := by omega
      simp only [List.replicate_zero, closes, beq_eq_false_iff_ne.mpr unfinished,
        decide_eq_false short]
  | succ padding ih =>
      simp only [List.replicate_succ, closes, ne_eq, not_true_eq_false, false_or, inhabited,
        ↓reduceIte, begun, true_and]
      by_cases completes : 4 ≤ count % 4 + (seen + 1)
      · rw [if_pos completes, Bool.eq_iff_iff, List.isEmpty_replicate, decide_eq_true_iff,
          decide_eq_true_iff]
        omega
      · rw [if_neg completes, ih (seen + 1) (by omega), Bool.eq_iff_iff, decide_eq_true_iff,
          decide_eq_true_iff]
        omega

/-- Characters of the alphabet are read one by one. -/
theorem numbers_digits {numbers : List Nat} (small : ∀ n ∈ numbers, n < 64) (count : Nat)
    (rest : List Char) :
    numbers? count (numbers.map digit ++ rest) =
      (numbers? (count + numbers.length) rest).map (numbers ++ ·) := by
  induction numbers generalizing count with
  | nil => simp
  | cons n numbers ih =>
      obtain ⟨smallFirst, smaller⟩ := List.forall_mem_cons.mp small
      simp only [List.map_cons, List.cons_append, numbers?, value_digit n smallFirst,
        ih smaller, Option.map_map, List.length_cons]
      rw [Nat.add_assoc, Nat.add_comm 1]
      rfl

private theorem numbers_padding (count padding : Nat) :
    numbers? count (List.replicate padding '=') =
      if closes count 0 (List.replicate padding '=') then some [] else none := by
  cases padding with
  | zero => rfl
  | succ padding => rfl

/-- What is read is characters of the alphabet and then padding that closes them. -/
theorem numbers_eq_some_iff {count : Nat} {text : List Char} {numbers : List Nat} :
    numbers? count text = some numbers ↔ (∀ n ∈ numbers, n < 64) ∧
      ∃ padding, text = numbers.map digit ++ List.replicate padding '=' ∧
        closes (count + numbers.length) 0 (List.replicate padding '=') = true := by
  constructor
  · intro read
    induction text generalizing count numbers with
    | nil =>
        rw [numbers?] at read
        split at read
        · cases read
          exact ⟨by simp, 0, rfl, ‹_›⟩
        · cases read
    | cons c rest ih =>
        rw [numbers?] at read
        split at read
        · rename_i n valued
          obtain ⟨later, readLater, rfl⟩ := Option.map_eq_some_iff.mp read
          obtain ⟨smaller, padding, rfl, closed⟩ := ih readLater
          obtain ⟨small, rfl⟩ := digit_of_value valued
          refine ⟨List.forall_mem_cons.mpr ⟨small, smaller⟩, padding, rfl, ?_⟩
          rw [List.length_cons, Nat.add_comm later.length, ← Nat.add_assoc]
          exact closed
        · split at read
          · rename_i closed
            cases read
            obtain ⟨padding, padded⟩ := closes_eq_replicate closed
            rw [padded] at closed ⊢
            exact ⟨by simp, padding, rfl, closed⟩
          · cases read
  · rintro ⟨small, padding, rfl, closed⟩
    rw [numbers_digits small, numbers_padding, if_pos closed]
    simp

/-- Completing a text only adds to its padding. -/
theorem complete_eq_iff {text : List Char} {numbers : List Nat} (small : ∀ n ∈ numbers, n < 64)
    {total : Nat} :
    complete text = numbers.map digit ++ List.replicate total '=' ↔
      ∃ padding, text = numbers.map digit ++ List.replicate padding '=' ∧
        padding + (4 - (numbers.length + padding) % 4) % 4 = total := by
  constructor
  · intro completed
    have shape : ∃ padding, text = numbers.map digit ++ List.replicate padding '=' := by
      obtain ⟨beyond, body, added⟩ | ⟨rest, body, padded⟩ := List.append_eq_append_iff.mp completed
      · cases beyond with
        | nil => exact ⟨0, by simpa using body.symm⟩
        | cons c others =>
            -- The text would end inside its body, where no padding can be added.
            have inBody : c ∈ numbers.map digit := by simp [body]
            have inPadding : c ∈ List.replicate ((4 - text.length % 4) % 4) '=' := by simp [added]
            obtain ⟨n, member, rfl⟩ := List.mem_map.mp inBody
            exact absurd (List.eq_of_mem_replicate inPadding) (digit_ne_padding n (small n member))
      · exact ⟨rest.length, by rw [body, ← (List.replicate_eq_append_iff.mp padded).2.1]⟩
    obtain ⟨padding, rfl⟩ := shape
    have lengths := congrArg List.length completed
    simp only [complete, List.length_append, List.length_map, List.length_replicate] at lengths
    exact ⟨padding, rfl, by omega⟩
  · rintro ⟨padding, rfl, rfl⟩
    rw [complete, List.append_assoc, List.replicate_append_replicate]
    simp

/-- The number of octets tells how many characters were read, and these how much padding a text may
have. -/
theorem closes_completed {count size : Nat} (begun : size % 3 ≠ 0) (sized : count * 6 / 8 = size)
    (padding : Nat) :
    count = (8 * size + 5) / 6 ∧
      (closes count 0 (List.replicate (padding + (4 - (count + padding) % 4) % 4) '=') = true ↔
        padding ≤ (3 - size % 3) % 3) := by
  obtain ⟨groups, one | two⟩ : ∃ groups, size = 3 * groups + 1 ∨ size = 3 * groups + 2 :=
    ⟨size / 3, by omega⟩
  · have length : count = 4 * groups + 2 := by omega
    have spare : (3 - size % 3) % 3 = 2 := by omega
    rw [closes_replicate (by omega) _ _ (by omega), decide_eq_true_iff, spare, length, one]
    omega
  · have length : count = 4 * groups + 3 := by omega
    have spare : (3 - size % 3) % 3 = 1 := by omega
    rw [closes_replicate (by omega) _ _ (by omega), decide_eq_true_iff, spare, length, two]
    omega

/-- A text that writes a number of octets: as many characters of the alphabet as hold their bits,
and then at most the padding that completes the last group. -/
structure Writes (size : Nat) (body text : List Char) : Prop where
  letters : ∀ c ∈ body, c ∈ alphabet
  length : body.length = (8 * size + 5) / 6
  padded : ∃ padding ≤ (3 - size % 3) % 3, text = body ++ List.replicate padding '='

/-- A text that writes octets is made of characters below `0x80`. -/
theorem Writes.ascii {size : Nat} {body text : List Char} (writes : Writes size body text) :
    ∀ c ∈ text, c.toNat < 0x80 := by
  obtain ⟨padding, _, rfl⟩ := writes.padded
  intro c member
  rcases List.mem_append.mp member with inBody | inPadding
  · obtain ⟨n, small, rfl⟩ := mem_alphabet_iff.mp (writes.letters c inBody)
    exact digit_ascii n small
  · rw [List.eq_of_mem_replicate inPadding]
    decide

/-- Octets that do not make whole groups are read from the texts that write so many, and from no
others. -/
theorem decode_eq_some_iff {size : Nat} (begun : size % 3 ≠ 0) {text : List Char}
    {data : List UInt8} :
    (decode? text = some data ∧ data.length = size) ↔
      ∃ numbers : List Nat, (∀ n ∈ numbers, n < 64) ∧ Writes size (numbers.map digit) text ∧
        octets numbers = data := by
  constructor
  · rintro ⟨read, sized⟩
    obtain ⟨numbers, readNumbers, rfl⟩ := Option.map_eq_some_iff.mp read
    obtain ⟨small, total, completed, closed⟩ := numbers_eq_some_iff.mp readNumbers
    obtain ⟨padding, rfl, rfl⟩ := (complete_eq_iff small).mp completed
    rw [octets_length] at sized
    rw [Nat.zero_add] at closed
    obtain ⟨length, fits⟩ := closes_completed begun sized padding
    refine ⟨numbers, small, ⟨?_, by rwa [List.length_map], padding, fits.mp closed, rfl⟩, rfl⟩
    intro c member
    obtain ⟨n, inside, rfl⟩ := List.mem_map.mp member
    exact mem_alphabet_iff.mpr ⟨n, small n inside, rfl⟩
  · rintro ⟨numbers, small, ⟨_, length, padding, bounded, rfl⟩, rfl⟩
    rw [List.length_map] at length
    have sized : numbers.length * 6 / 8 = size := by omega
    have closed := (closes_completed begun sized padding).2.mpr bounded
    have completed := (complete_eq_iff small).mpr ⟨padding, rfl, rfl⟩
    have readNumbers := numbers_eq_some_iff.mpr ⟨small, _, completed, by rwa [Nat.zero_add]⟩
    exact ⟨Option.map_eq_some_iff.mpr ⟨numbers, readNumbers, rfl⟩, by rwa [octets_length]⟩

end Base64

/-! ## Fingerprints -/

/-- No digest is made of whole groups of octets. -/
theorem HashAlgorithm.digestSize_begun (algorithm : HashAlgorithm) :
    algorithm.digestSize % 3 ≠ 0 := by
  cases algorithm <;> decide

namespace Fingerprint

variable {algorithm : HashAlgorithm} {text : String}

/-- A text is read as a fingerprint exactly when it writes as many octets as the algorithm's digest
has. -/
theorem decode_eq_ok_iff {fingerprint : Fingerprint} :
    decode algorithm text = .ok fingerprint ↔ fingerprint.algorithm = algorithm ∧
      ∃ numbers : List Nat, (∀ n ∈ numbers, n < 64) ∧
        Base64.Writes algorithm.digestSize (numbers.map Base64.digit) text.toList ∧
        Base64.octets numbers = fingerprint.digest := by
  have reading := @Base64.decode_eq_some_iff _ algorithm.digestSize_begun text.toList
    fingerprint.digest
  constructor
  · intro decoded
    unfold decode at decoded
    split at decoded
    · cases decoded
    · split at decoded
      · cases decoded
      · rename_i read
        split at decoded
        · cases decoded
          exact ⟨rfl, reading.mp ⟨read, ‹_›⟩⟩
        · cases decoded
  · rintro ⟨rfl, numbers, small, writes, octets⟩
    obtain ⟨read, sized⟩ := reading.mpr ⟨numbers, small, writes, octets⟩
    have ascii : ¬text.toList.any fun c => 0x80 ≤ c.toNat := by
      simpa using writes.ascii
    simp only [decode, ascii, read, sized]
    rfl

/-- A digest is written without padding, and it is read back. -/
theorem encoded_writes {digest : List UInt8} (sized : digest.length = algorithm.digestSize) :
    Base64.Writes algorithm.digestSize (encoded ⟨algorithm, digest⟩).toList
        (encoded ⟨algorithm, digest⟩).toList ∧
      decode algorithm (encoded ⟨algorithm, digest⟩) = .ok ⟨algorithm, digest⟩ := by
  obtain ⟨numbers, small, written, read⟩ := Base64.encode_eq_digits digest
  have text : (encoded ⟨algorithm, digest⟩).toList = numbers.map Base64.digit := by
    rw [encoded, String.toList_ofList, written]
  have writes : Base64.Writes algorithm.digestSize (numbers.map Base64.digit)
      (numbers.map Base64.digit) := by
    refine ⟨fun c member => ?_, ?_, 0, Nat.zero_le _, by simp⟩
    · obtain ⟨n, inside, rfl⟩ := List.mem_map.mp member
      exact Base64.mem_alphabet_iff.mpr ⟨n, small n inside, rfl⟩
    · rw [← written, Base64.encode_length, sized]
  rw [decode_eq_ok_iff, text]
  exact ⟨writes, rfl, numbers, small, writes, read⟩

/-- A fingerprint is read from every text that writes its digest, and it is written without the
padding and the spare bits of that text. -/
theorem decode_of_writes {body : List Char}
    (writes : Base64.Writes algorithm.digestSize body text.toList) :
    ∃ fingerprint, decode algorithm text = .ok fingerprint ∧
      fingerprint.algorithm = algorithm ∧ fingerprint.digest.length = algorithm.digestSize ∧
      fingerprint.encoded = String.ofList
        (Base64.clearLast (6 * body.length - 8 * algorithm.digestSize) body) := by
  obtain ⟨numbers, small, rfl⟩ := Base64.exists_numbers writes.letters
  have sized : (Base64.octets numbers).length = algorithm.digestSize :=
    ((Base64.decode_eq_some_iff algorithm.digestSize_begun).mpr ⟨numbers, small, writes, rfl⟩).2
  have whole : numbers.length % 4 ≠ 1 := by
    have begun := algorithm.digestSize_begun
    rw [← sized, Base64.octets_length] at begun
    omega
  refine ⟨⟨algorithm, Base64.octets numbers⟩, ?_, rfl, sized, ?_⟩
  · exact decode_eq_ok_iff.mpr ⟨rfl, numbers, small, writes, rfl⟩
  · rw [encoded, Base64.encode_octets small whole, sized, List.length_map]

private theorem writes_of_decode {fingerprint : Fingerprint}
    (decoded : decode algorithm text = .ok fingerprint) :
    ∃ body, Base64.Writes algorithm.digestSize body text.toList := by
  obtain ⟨_, numbers, _, writes, _⟩ := decode_eq_ok_iff.mp decoded
  exact ⟨_, writes⟩

end Fingerprint

/-- Digests are written in characters of the alphabet, as few as hold their bits, and are read back.
Exactly the texts that write a digest are read, and writing what was read gives the characters that
were read with the spare bits of the last one set to zero. -/
theorem fingerprint_text_format (algorithm : HashAlgorithm) :
    (∀ digest : List UInt8, digest.length = algorithm.digestSize →
      Fingerprint.decode algorithm (Fingerprint.mk algorithm digest).encoded =
          .ok ⟨algorithm, digest⟩ ∧
        (Fingerprint.mk algorithm digest).encoded.toList.length =
          (8 * algorithm.digestSize + 5) / 6 ∧
        (∀ c ∈ (Fingerprint.mk algorithm digest).encoded.toList, c ∈ Base64.alphabet) ∧
        '=' ∉ (Fingerprint.mk algorithm digest).encoded.toList) ∧
    ∀ text : String,
      ((∃ fingerprint, Fingerprint.decode algorithm text = .ok fingerprint) ↔
        ∃ body, Base64.Writes algorithm.digestSize body text.toList) ∧
      (∀ body, Base64.Writes algorithm.digestSize body text.toList →
        ∃ fingerprint, Fingerprint.decode algorithm text = .ok fingerprint ∧
          fingerprint.algorithm = algorithm ∧
          fingerprint.digest.length = algorithm.digestSize ∧
          fingerprint.encoded = String.ofList
            (Base64.clearLast (6 * body.length - 8 * algorithm.digestSize) body)) ∧
      ((¬∃ body, Base64.Writes algorithm.digestSize body text.toList) →
        ∃ error, Fingerprint.decode algorithm text = .error error) := by
  refine ⟨fun digest sized => ?_, fun text => ⟨⟨?_, ?_⟩, fun body => ?_, fun unwritten => ?_⟩⟩
  · obtain ⟨writes, decoded⟩ := Fingerprint.encoded_writes sized
    refine ⟨decoded, writes.length, writes.letters, fun padded => ?_⟩
    exact absurd (writes.letters _ padded) (by decide)
  · rintro ⟨fingerprint, decoded⟩
    exact Fingerprint.writes_of_decode decoded
  · rintro ⟨body, writes⟩
    obtain ⟨fingerprint, decoded, _⟩ := Fingerprint.decode_of_writes writes
    exact ⟨fingerprint, decoded⟩
  · exact Fingerprint.decode_of_writes
  · cases decoded : Fingerprint.decode algorithm text with
    | error error => exact ⟨error, rfl⟩
    | ok fingerprint => exact absurd (Fingerprint.writes_of_decode decoded) unwritten

/-- A digest of zeros is read from a text with padding and with spare bits that are set, and it is
written with neither. -/
theorem fingerprint_text_format_spareBits :
    Base64.Writes 32 (List.replicate 42 'A' ++ ['D']) (List.replicate 42 'A' ++ ['D', '=']) ∧
    (∃ fingerprint,
      Fingerprint.decode .sha256 (String.ofList (List.replicate 42 'A' ++ ['D', '='])) =
        .ok fingerprint ∧
      fingerprint.encoded = String.ofList (List.replicate 43 'A')) ∧
    Fingerprint.decode .sha256 (Fingerprint.mk .sha256 (List.replicate 32 0)).encoded =
      .ok ⟨.sha256, List.replicate 32 0⟩ := by
  have letters : ∀ c ∈ List.replicate 42 'A' ++ ['D'], c ∈ Base64.alphabet := by
    intro c member
    simp only [List.mem_append, List.mem_replicate, List.mem_singleton] at member
    rcases member with ⟨_, rfl⟩ | rfl
    · decide
    · decide
  have writes : Base64.Writes 32 (List.replicate 42 'A' ++ ['D'])
      (String.ofList (List.replicate 42 'A' ++ ['D', '='])).toList :=
    ⟨letters, by decide, 1, by decide, by decide⟩
  obtain ⟨back, reading⟩ := fingerprint_text_format .sha256
  obtain ⟨fingerprint, decoded, _, _, written⟩ := (reading _).2.1 _ writes
  refine ⟨?_, ⟨fingerprint, decoded, written⟩, (back _ (by decide)).1⟩
  rwa [String.toList_ofList] at writes

end CodePrint
