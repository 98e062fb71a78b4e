/-! # The SHA-2 digests

One definition serves both word sizes. A message is padded to whole blocks of sixteen words, each
block is stretched to one word for each round, and the rounds mix these words into a state of eight
words. The variant fixes the word size, the rotations and the constants.
-/

namespace CodePrint.Sha2

/-- The state of eight words. -/
structure State (w : Nat) where
  a : BitVec w
  b : BitVec w
  c : BitVec w
  d : BitVec w
  e : BitVec w
  f : BitVec w
  g : BitVec w
  h : BitVec w
deriving DecidableEq, Repr

/-- What distinguishes the members of the family. -/
structure Family (w : Nat) where
  /-- The rotations of the first and of the fifth word of the state in a round. -/
  mixA : Nat × Nat × Nat
  mixE : Nat × Nat × Nat
  /-- Two rotations and a shift, for the words fifteen and two places back. -/
  stretchOld : Nat × Nat × Nat
  stretchNew : Nat × Nat × Nat
  /-- One constant for each round. -/
  constants : List (BitVec w)
  initial : State w

variable {w : Nat}

/-- Three rotations of a word, added bit by bit. -/
def rotations (amounts : Nat × Nat × Nat) (x : BitVec w) : BitVec w :=
  x.rotateRight amounts.1 ^^^ x.rotateRight amounts.2.1 ^^^ x.rotateRight amounts.2.2

/-- Two rotations and a shift of a word, added bit by bit. -/
def stretch (amounts : Nat × Nat × Nat) (x : BitVec w) : BitVec w :=
  x.rotateRight amounts.1 ^^^ x.rotateRight amounts.2.1 ^^^ (x >>> amounts.2.2)

/-- One round with its constant and its word. -/
def round (family : Family w) (state : State w) (constant word : BitVec w) : State w :=
  let choice := (state.e &&& state.f) ^^^ (~~~state.e &&& state.g)
  let majority := (state.a &&& state.b) ^^^ (state.a &&& state.c) ^^^ (state.b &&& state.c)
  let first := state.h + rotations family.mixE state.e + choice + constant + word
  let second := rotations family.mixA state.a + majority
  ⟨first + second, state.a, state.b, state.c, state.d + first, state.e, state.f, state.g⟩

/-- The words of a block and so many more, newest first. Each new word comes from those two, seven,
fifteen and sixteen places back. -/
def scheduleBack (family : Family w) (block : List (BitVec w)) : (more : Nat) → List (BitVec w)
  | 0 => block.reverse
  | more + 1 =>
    let words := scheduleBack family block more
    let back (places : Nat) : BitVec w := words.getD (places - 1) 0
    (stretch family.stretchNew (back 2) + back 7 + stretch family.stretchOld (back 15) + back 16) ::
      words

/-- The word of each round for a block of sixteen words. -/
def schedule (family : Family w) (block : List (BitVec w)) : List (BitVec w) :=
  (scheduleBack family block (family.constants.length - 16)).reverse

/-- Two states added word by word. -/
def State.add (x y : State w) : State w :=
  ⟨x.a + y.a, x.b + y.b, x.c + y.c, x.d + y.d, x.e + y.e, x.f + y.f, x.g + y.g, x.h + y.h⟩

/-- One block mixed into the state. -/
def compress (family : Family w) (state : State w) (block : List (BitVec w)) : State w :=
  state.add <|
    (family.constants.zip (schedule family block)).foldl
      (fun state (constant, word) => round family state constant word) state

/-- The octets of a number, so many of them, the highest first. -/
def bigEndian : (count : Nat) → Nat → List UInt8
  | 0, _ => []
  | count + 1, n => bigEndian count (n / 256) ++ [UInt8.ofNat (n % 256)]

/-- The number whose octets are given, the highest first. -/
def ofBigEndian (octets : List UInt8) : Nat :=
  octets.foldl (fun n octet => 256 * n + octet.toNat) 0

/-- The padded message: a set bit, zeros, and the length in bits in the room of two words. -/
def pad (w : Nat) (message : List UInt8) : List UInt8 :=
  let block := 2 * w
  let room := w / 4
  let zeros := (2 * block - (message.length + 1 + room) % block) % block
  message ++ 0x80 :: List.replicate zeros 0 ++ bigEndian room (8 * message.length)

/-- So many pieces of one length from the start of a list. -/
def pieces {α : Type} (size : Nat) : (count : Nat) → List α → List (List α)
  | 0, _ => []
  | count + 1, items => items.take size :: pieces size count (items.drop size)

/-- A list cut into pieces of one length; an incomplete piece at the end is left out. -/
def chunks {α : Type} (size : Nat) (items : List α) : List (List α) :=
  pieces size (items.length / size) items

/-- The blocks of a padded message, each a list of sixteen words. -/
def blocks (w : Nat) (message : List UInt8) : List (List (BitVec w)) :=
  let words := (chunks (w / 8) (pad w message)).map fun octets =>
    BitVec.ofNat w (ofBigEndian octets)
  chunks 16 words

/-- The octets of a state. -/
def State.octets (state : State w) : List UInt8 :=
  [state.a, state.b, state.c, state.d, state.e, state.f, state.g, state.h].flatMap fun word =>
    bigEndian (w / 8) word.toNat

/-- The digest of a message. -/
def digest (family : Family w) (message : List UInt8) : List UInt8 :=
  ((blocks w message).foldl (compress family) family.initial).octets

end CodePrint.Sha2
