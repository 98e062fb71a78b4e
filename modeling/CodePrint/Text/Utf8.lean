/-! # UTF-8

Octets are read one at a time by a machine whose state is the character begun but not yet finished.
The machine never stops: it turns every octet list into a list of *pieces*, each a character or a
bad sequence with its cause. Strict decoding takes the characters and refuses the first bad
sequence; lossy decoding writes a replacement character for each bad sequence.

A bad sequence is as long as possible: the longest part that some character could begin with.
-/

namespace CodePrint.Utf8

/-- Why a sequence of octets is no character. -/
inductive Cause where
  /-- No character begins with this octet. -/
  | badStart
  /-- The next octet does not continue the character begun. -/
  | badContinuation
  /-- The data ends inside a character. -/
  | unfinished
deriving DecidableEq, Repr

/-- The cause in words. -/
def Cause.reason : Cause → String
  | .badStart => "invalid start byte"
  | .badContinuation => "invalid continuation byte"
  | .unfinished => "unexpected end of data"

/-- A character begun but not finished. -/
structure Pending where
  /-- The bits of the code point read so far. -/
  code : Nat
  /-- How many octets are still to come after the next one. -/
  later : Nat
  /-- The least octet that may come next. -/
  low : Nat
  /-- The greatest octet that may come next. -/
  high : Nat
  /-- How many octets have been read. -/
  length : Nat
deriving DecidableEq, Repr

/-- A part of the octets read: a character, or a bad sequence of some length. -/
inductive Piece where
  | char (c : Char)
  | bad (length : Nat) (cause : Cause)
deriving DecidableEq, Repr

/-- What an octet gives at the start of a character. -/
def opening (octet : UInt8) : List Piece × Option Pending :=
  let n := octet.toNat
  if n < 0x80 then ([.char (Char.ofNat n)], none)
  else if n < 0xC2 then ([.bad 1 .badStart], none)
  else if n < 0xE0 then ([], some ⟨n - 0xC0, 0, 0x80, 0xBF, 1⟩)
  else if n = 0xE0 then ([], some ⟨0, 1, 0xA0, 0xBF, 1⟩)
  else if n = 0xED then ([], some ⟨0xD, 1, 0x80, 0x9F, 1⟩)
  else if n < 0xF0 then ([], some ⟨n - 0xE0, 1, 0x80, 0xBF, 1⟩)
  else if n = 0xF0 then ([], some ⟨0, 2, 0x90, 0xBF, 1⟩)
  else if n < 0xF4 then ([], some ⟨n - 0xF0, 2, 0x80, 0xBF, 1⟩)
  else if n = 0xF4 then ([], some ⟨4, 2, 0x80, 0x8F, 1⟩)
  else ([.bad 1 .badStart], none)

/-- What an octet gives inside a character. An octet that does not continue it ends it as a bad
sequence and is read again as a start. -/
def Pending.extend (pending : Pending) (octet : UInt8) : List Piece × Option Pending :=
  let n := octet.toNat
  if pending.low ≤ n ∧ n ≤ pending.high then
    let code := pending.code * 64 + (n - 0x80)
    match pending.later with
    | 0 => ([.char (Char.ofNat code)], none)
    | later + 1 => ([], some ⟨code, later, 0x80, 0xBF, pending.length + 1⟩)
  else
    let (out, state) := opening octet
    (.bad pending.length .badContinuation :: out, state)

/-- The machine: one octet in a state. -/
def step : Option Pending → UInt8 → List Piece × Option Pending
  | none, octet => opening octet
  | some pending, octet => pending.extend octet

/-- The pieces read from a state to the end of the octets. -/
def piecesFrom : Option Pending → List UInt8 → List Piece
  | none, [] => []
  | some pending, [] => [.bad pending.length .unfinished]
  | state, octet :: rest =>
    let (out, next) := step state octet
    out ++ piecesFrom next rest

/-- The pieces of an octet list. -/
def pieces (octets : List UInt8) : List Piece :=
  piecesFrom none octets

/-- The first bad sequence of an octet list: where it starts, how long it is and why it is bad. -/
structure Fault where
  offset : Nat
  length : Nat
  cause : Cause
deriving DecidableEq, Repr

/-- The characters of the pieces, or the first bad one, counting offsets from `offset`. -/
def readPieces (offset : Nat) : List Piece → Except Fault (List Char)
  | [] => .ok []
  | .char c :: rest => (readPieces (offset + c.utf8Size) rest).map (c :: ·)
  | .bad length cause :: _ => .error ⟨offset, length, cause⟩

/-- Strict decoding. -/
def decode (octets : List UInt8) : Except Fault (List Char) :=
  readPieces 0 (pieces octets)

/-- The character that stands for a piece. -/
def Piece.shown : Piece → Char
  | .char c => c
  | .bad _ _ => '\ufffd'

/-- Lossy decoding: each bad sequence becomes one replacement character. -/
def decodeLossy (octets : List UInt8) : List Char :=
  (pieces octets).map Piece.shown

/-- The octets of a text. -/
def encode (text : List Char) : List UInt8 :=
  text.flatMap String.utf8EncodeChar

/-- The octets of a string. -/
def encodeString (text : String) : List UInt8 :=
  encode text.toList

end CodePrint.Utf8
