/-! # UTF-8, read leniently

Text that an engine hands over is a sequence of bytes that ought to be UTF-8 and
need not be.  The reader below runs one byte at a time and never fails:

  * a well-formed sequence gives its character;
  * a sequence that breaks off, or that no further byte can complete, gives one
    replacement character for its longest well-formed beginning, and the byte
    that broke it is read afresh;
  * a byte that can begin no sequence gives one replacement character.

An engine's text ends at its first NUL (`terminated`).
-/

namespace ModelAdapter.Utf8

/-- What stands for a malformed sequence. -/
def replacement : Char := '\uFFFD'

/-! ## §1. The reader's state -/

/-- A sequence that has begun: how many bytes are still owed, the range that the next
one must lie in, and the value of the bits so far. -/
structure Begun where
  owed : Nat
  low : UInt8
  high : UInt8
  value : Nat
  deriving DecidableEq, Repr

/-- Where the reader stands: the characters read, the last one first, and the sequence it
is in the middle of. -/
structure State where
  done : List Char
  begun : Option Begun
  deriving DecidableEq, Repr

/-- What a byte means between two sequences. -/
inductive First
  | char (c : Char)
  | begin (b : Begun)
  | malformed
  deriving DecidableEq, Repr

/-- The first byte of a sequence fixes its length, and for four of them a narrower range
for the second byte, which keeps out overlong forms, surrogates and values past U+10FFFF. -/
def first (b : UInt8) : First :=
  if b ≤ 0x7F then .char (Char.ofNat b.toNat)
  else if b < 0xC2 then .malformed
  else if b ≤ 0xDF then .begin ⟨1, 0x80, 0xBF, b.toNat - 0xC0⟩
  else if b = 0xE0 then .begin ⟨2, 0xA0, 0xBF, 0⟩
  else if b = 0xED then .begin ⟨2, 0x80, 0x9F, 0xD⟩
  else if b ≤ 0xEF then .begin ⟨2, 0x80, 0xBF, b.toNat - 0xE0⟩
  else if b = 0xF0 then .begin ⟨3, 0x90, 0xBF, 0⟩
  else if b ≤ 0xF3 then .begin ⟨3, 0x80, 0xBF, b.toNat - 0xF0⟩
  else if b = 0xF4 then .begin ⟨3, 0x80, 0x8F, 4⟩
  else .malformed

/-! ## §2. Steps -/

/-- Reads a byte between two sequences. -/
def restart (done : List Char) (b : UInt8) : State :=
  match first b with
  | .char c => ⟨c :: done, none⟩
  | .begin s => ⟨done, some s⟩
  | .malformed => ⟨replacement :: done, none⟩

/-- Reads one byte. -/
def step (s : State) (b : UInt8) : State :=
  match s.begun with
  | none => restart s.done b
  | some q =>
      if q.low ≤ b ∧ b ≤ q.high then
        let value := q.value * 64 + (b.toNat - 0x80)
        if q.owed ≤ 1 then ⟨Char.ofNat value :: s.done, none⟩
        else ⟨s.done, some ⟨q.owed - 1, 0x80, 0xBF, value⟩⟩
      -- A byte out of its range may begin the next sequence.
      else restart (replacement :: s.done) b

/-- The characters read once no byte is left. -/
def finish (s : State) : List Char :=
  match s.begun with
  | none => s.done.reverse
  | some _ => (replacement :: s.done).reverse

/-! ## §3. Whole texts -/

def decodeChars (bytes : List UInt8) : List Char :=
  finish (bytes.foldl step ⟨[], none⟩)

def decode (bytes : List UInt8) : String :=
  String.ofList (decodeChars bytes)

def encode (text : String) : List UInt8 :=
  text.toList.flatMap String.utf8EncodeChar

/-- The part of a byte sequence before its first NUL, or all of it. -/
def terminated (bytes : List UInt8) : List UInt8 :=
  bytes.takeWhile (· != 0)

end ModelAdapter.Utf8
