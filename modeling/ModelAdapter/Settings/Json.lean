import ModelAdapter.Json.Reader
import ModelAdapter.Settings.Setting

/-! # Settings in JSON

The root of the text must be an object.  A number that is written as a whole
number and fits in 64 bits is an integer; every other number is a float64 value,
which is made in two steps:

  * the digits are cut to as many as fit in an unsigned word of 64 bits;
  * they, and the power of ten, are rounded first, and the product or quotient of
    the two is rounded again.

A number that is too large for a finite value makes the whole text unreadable, and
so does half of a character, or an array or object inside more than 126 others.
-/

namespace ModelAdapter

namespace Binary64

/-! ## §1. Numbers -/

/-- The beginning of a decimal that fits in an unsigned word of 64 bits. -/
def leadingWord (digits : Nat) (exponent : Int) : Nat × Int :=
  if digits < 0x10000000000000000 then (digits, exponent)
  else leadingWord (digits / 10) (exponent + 1)
termination_by digits
decreasing_by omega

/-- The units of a finite value. -/
def units? : Binary64 → Option Nat
  | .finite _ units => some units
  | _ => none

/-- The units of a power of ten up to the greatest finite one. -/
def tenUnits (exponent : Nat) : Nat := (ofDecimal false 1 exponent).units?.getD 0

def timesUnits? (a b : Nat) : Option Nat :=
  (ofQuotient false (a * b) (unitsOfOne * unitsOfOne)).units?

def overUnits? (a b : Nat) : Option Nat := (ofQuotient false a b).units?

/-- A word times a power of ten.  A power below the least one is divided by in two steps. -/
def scaledUnits? (word : Nat) (exponent : Int) : Option Nat := do
  let units ← (ofQuotient false word 1).units?
  -- Two steps reach down to 10⁻⁶¹⁶; whatever lies below is zero.
  if word = 0 ∨ exponent < -616 then return 0
  else if 308 < exponent then none
  else if 0 ≤ exponent then timesUnits? units (tenUnits exponent.toNat)
  else if -308 ≤ exponent then overUnits? units (tenUnits (-exponent).toNat)
  else overUnits? (← overUnits? units (tenUnits 308)) (tenUnits (-(exponent + 308)).toNat)

/-- The value of a number in JSON. -/
def ofJson? (negative : Bool) (digits : Nat) (exponent : Int) : Option Binary64 :=
  let (word, exponent) := leadingWord digits exponent
  (scaledUnits? word exponent).map (.finite negative)

end Binary64

namespace Setting

/-! ## §2. Values -/

def ofJsonNumber? : JsonNumber → Option Setting
  | .integer n =>
      if Integer.fits64 n then some (.integer n)
      else (Binary64.ofJson? (n < 0) n.natAbs 0).map .float
  | .decimal negative digits exponent =>
      (Binary64.ofJson? negative digits exponent).map .float

/-- How deep arrays and objects may be nested. -/
def depthLimit : Nat := 127

mutual

/-- The setting that a JSON value stands for, when it is nested at most so deep. -/
def ofJson? : (depth : Nat) → Json → Option Setting
  | _, .null => some .null
  | _, .bool b => some (.flag b)
  | _, .number n => ofJsonNumber? n
  | _, .string s => some (.text s)
  | 0, .array _ | 0, .object _ => none
  | depth + 1, .array elements => (ofElements? depth elements).map .list
  | depth + 1, .object members => (ofMembers? depth members).map .table
  | _, .unreadable => none

def ofElements? : (depth : Nat) → List Json → Option (List Setting)
  | _, [] => some []
  | depth, j :: rest => do return (← ofJson? depth j) :: (← ofElements? depth rest)

def ofMembers? : (depth : Nat) → List (String × Json) → Option Settings
  | _, [] => some []
  | depth, (name, j) :: rest => do
      return (name, ← ofJson? depth j) :: (← ofMembers? depth rest)

end

def entries? : Setting → Option Settings
  | .table entries => some entries
  | _ => none

end Setting

def Settings.ofJson? (text : String) : Option Settings := do
  (← Setting.ofJson? Setting.depthLimit (← Json.read? text)).entries?

end ModelAdapter
