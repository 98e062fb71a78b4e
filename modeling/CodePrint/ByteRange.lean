import CodePrint.ScanError

/-! # Byte ranges

A range of bytes of a source, from `start` up to but not including `stop`. Ranges are ordered by
their starts and then by their stops.
-/

namespace CodePrint

/-- The bytes from `start` up to but not including `stop`. -/
structure ByteRange where
  start : Nat
  stop : Nat
  ordered : start ≤ stop
deriving DecidableEq, Repr

namespace ByteRange

/-- The range between two bounds. -/
def ofBounds? (start stop : Int) : Option ByteRange :=
  if inOrder : 0 ≤ start ∧ start ≤ stop then some ⟨start.toNat, stop.toNat, by omega⟩ else none

/-- The range between two bounds; bounds below zero or out of order are malformed. -/
def ofBounds (start stop : Int) : Except ScanError ByteRange :=
  match ofBounds? start stop with
  | some range => .ok range
  | none => .error (.malformed "range" start stop "start must be >= 0 and <= end")

/-- The first `length` bytes. -/
def first (length : Nat) : ByteRange :=
  ⟨0, length, Nat.zero_le length⟩

/-- How many bytes a range holds. -/
def length (range : ByteRange) : Nat :=
  range.stop - range.start

/-- A range with no bytes. -/
def isEmpty (range : ByteRange) : Bool :=
  range.start == range.stop

/-- The greatest number that can count positions of a buffer, `2 ^ 63 - 1`. -/
def indexLimit : Nat :=
  0x7FFFFFFFFFFFFFFF

/-- Whether the length of a range can be counted. -/
def isCountable (range : ByteRange) : Bool :=
  range.length ≤ indexLimit

/-- The bytes of a buffer in a range, as far as the buffer goes. -/
def slice (range : ByteRange) {α : Type} (buffer : List α) : List α :=
  (buffer.drop range.start).take range.length

/-- Whether the other range lies inside a range. -/
def contains (range other : ByteRange) : Bool :=
  range.start ≤ other.start && other.stop ≤ range.stop

/-- One range contains another exactly when it starts no later and stops no earlier. -/
theorem contains_iff {range other : ByteRange} :
    range.contains other = true ↔ range.start ≤ other.start ∧ other.stop ≤ range.stop := by
  simp only [contains, Bool.and_eq_true, decide_eq_true_eq]

/-- The first and the last byte of a range; an empty range is shown as its start. -/
def text (range : ByteRange) : String :=
  let start := range.start
  let last := max (range.stop - 1) range.start
  s!"{start}..={last}"

instance : LT ByteRange where
  lt a b := a.start < b.start ∨ (a.start = b.start ∧ a.stop < b.stop)

instance : LE ByteRange where
  le a b := a.start < b.start ∨ (a.start = b.start ∧ a.stop ≤ b.stop)

instance (a b : ByteRange) : Decidable (a < b) :=
  inferInstanceAs (Decidable (a.start < b.start ∨ (a.start = b.start ∧ a.stop < b.stop)))

instance (a b : ByteRange) : Decidable (a ≤ b) :=
  inferInstanceAs (Decidable (a.start < b.start ∨ (a.start = b.start ∧ a.stop ≤ b.stop)))

/-- Ranges in order. -/
def sort (ranges : List ByteRange) : List ByteRange :=
  ranges.mergeSort fun a b => decide (a ≤ b)

end ByteRange

end CodePrint
