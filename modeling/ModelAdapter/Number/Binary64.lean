/-! # float64 values

Every finite float64 value is a whole multiple of the least positive one, 2⁻¹⁰⁷⁴.
A value is kept as that multiple, its units, so that nothing is rounded except
where a value is made:

  * a quotient of two whole numbers becomes the nearest value, and of two equally
    near ones that whose last binary digit is zero (`ofQuotient`);
  * a decimal, however long and whatever its exponent, likewise (`ofDecimal`);
  * a value that is too large becomes infinite, and one that is too small zero.
-/

namespace ModelAdapter

/-- A float64 value.  All values that are not numbers are alike. -/
inductive Binary64
  | nan
  | infinite (negative : Bool)
  /-- So many times the least positive value. -/
  | finite (negative : Bool) (units : Nat)
  deriving DecidableEq, Repr

namespace Binary64

/-! ## §1. The finite values -/

/-- So many units make one. -/
def unitsOfOne : Nat := Nat.pow 2 1074

/-- The least number of units that is too large for a finite value. -/
def unitsLimit : Nat := Nat.pow 2 1024 * unitsOfOne

/-- The distance between neighbouring values from a given one up to the next power of
two: 53 binary digits are kept. -/
def spacing (units : Nat) : Nat := Nat.pow 2 (units.log2 + 1 - 53)

/-! ## §2. Rounding -/

/-- The whole number nearest to a quotient, and the even one of two equally near. -/
def roundEven (num den : Nat) : Nat :=
  if 2 * (num % den) < den then num / den
  else if den < 2 * (num % den) then num / den + 1
  -- A tie goes to the even neighbour.
  else num / den + num / den % 2

/-- The value nearest to a quotient. -/
def ofQuotient (negative : Bool) (num den : Nat) : Binary64 :=
  let step := spacing (num * unitsOfOne / den)
  -- What is rounded up to the next power of two is a value still, though the step is greater there.
  let units := roundEven (num * unitsOfOne) (den * step) * step
  if unitsLimit ≤ units then .infinite negative else .finite negative units

/-- How many digits a number has in base ten. -/
def decimalLength (n : Nat) : Nat := (Nat.toDigits 10 n).length

/-- The value nearest to `digits × 10 ^ exponent`.  The bounds only keep the powers small:
what lies outside them is infinite or zero in any case. -/
def ofDecimal (negative : Bool) (digits : Nat) (exponent : Int) : Binary64 :=
  let size := decimalLength digits + exponent
  if digits = 0 ∨ size < -330 then .finite negative 0
  else if 310 < size then .infinite negative
  else if 0 ≤ exponent then ofQuotient negative (digits * Nat.pow 10 exponent.toNat) 1
  else ofQuotient negative digits (Nat.pow 10 (-exponent).toNat)

/-- The whole number nearest to a finite value; a half goes away from zero. -/
def roundAway (negative : Bool) (units : Nat) : Int :=
  let n := (2 * units + unitsOfOne) / (2 * unitsOfOne)
  if negative then -Int.ofNat n else Int.ofNat n

end Binary64

end ModelAdapter
