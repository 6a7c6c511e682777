/-! # Integers as text

The reading of a whole number: an optional sign and one or more ASCII digits,
and nothing else.  Leading zeros are allowed in any number.  The reader knows no
upper limit; a caller that has one compares the value.

The base is ten, or any other up to sixteen (`signedIn?`).
-/

namespace ModelAdapter.Integer

/-- The value of a digit. -/
def digit (c : Char) : Nat := c.toNat - '0'.toNat

/-- The value of a sequence of digits. -/
def valueOf (digits : List Char) : Nat :=
  digits.foldl (fun value c => value * 10 + digit c) 0

/-- One or more digits. -/
def natural? (cs : List Char) : Option Nat :=
  if cs ≠ [] ∧ cs.all Char.isDigit then some (valueOf cs) else none

/-- An optional sign and one or more digits. -/
def signed? : List Char → Option Int
  | '+' :: digits => (natural? digits).map Int.ofNat
  | '-' :: digits => (natural? digits).map (fun n => -Int.ofNat n)
  | digits => (natural? digits).map Int.ofNat

/-- The value of a digit in a base up to sixteen; letters of either case go on after 9. -/
def digitIn? (base : Nat) (c : Char) : Option Nat :=
  let value :=
    if c.isDigit then digit c
    else if 'a' ≤ c ∧ c ≤ 'f' then c.toNat - 'a'.toNat + 10
    else if 'A' ≤ c ∧ c ≤ 'F' then c.toNat - 'A'.toNat + 10
    else base
  if value < base then some value else none

/-- One or more digits in a base. -/
def naturalIn? (base : Nat) (cs : List Char) : Option Nat :=
  if cs = [] then none
  else cs.foldlM (fun value c => (digitIn? base c).map (value * base + ·)) 0

/-- An optional sign and one or more digits in a base. -/
def signedIn? (base : Nat) : List Char → Option Int
  | '+' :: digits => (naturalIn? base digits).map Int.ofNat
  | '-' :: digits => (naturalIn? base digits).map (fun n => -Int.ofNat n)
  | digits => (naturalIn? base digits).map Int.ofNat

def fits32 (n : Int) : Bool := -0x80000000 ≤ n && n < 0x80000000

def fits64 (n : Int) : Bool := -0x8000000000000000 ≤ n && n < 0x8000000000000000

/-- A whole number that fits in a signed word of 32 bits. -/
def word32? (cs : List Char) : Option Int32 :=
  match signed? cs with
  | some n => if fits32 n then some (Int32.ofInt n) else none
  | none => none

def word64? (cs : List Char) : Option Int :=
  (signed? cs).filter fits64

end ModelAdapter.Integer
