import ModelAdapter.Number.Binary64
import ModelAdapter.Number.Integer

/-! # float64 values in decimal

The reading of a float64 value: an optional sign, then either digits with an
optional point and an optional exponent, or a word for an infinite value or for
one that is not a number, in letters of either case.  There must be a digit
before or after the point, and nothing may stand around the whole.

A value is written in decimal with the fewest digits that read back as it, and
the nearest such digits (`shortest`), a tie going up.  The text has no exponent,
however many zeros that takes, and a whole number has no point.
-/

namespace ModelAdapter.Binary64

/-! ## §1. Reading -/

/-- A number without its sign. -/
def unsigned? (negative : Bool) (cs : List Char) : Option Binary64 :=
  let whole := cs.takeWhile Char.isDigit
  let rest := cs.dropWhile Char.isDigit
  let after := match rest with
    | '.' :: rest => rest
    | _ => []
  let fraction := after.takeWhile Char.isDigit
  let rest := match rest with
    | '.' :: rest => rest.dropWhile Char.isDigit
    | rest => rest
  let exponent? := match rest with
    | [] => some 0
    | 'e' :: exponent | 'E' :: exponent => Integer.signed? exponent
    | _ => none
  if whole ++ fraction = [] then none
  else exponent?.map (fun exponent =>
    ofDecimal negative (Integer.valueOf (whole ++ fraction)) (exponent - fraction.length))

/-- A word or a number without its sign. -/
def magnitude? (negative : Bool) (cs : List Char) : Option Binary64 :=
  let word := String.ofList (cs.map Char.toLower)
  if word = "inf" ∨ word = "infinity" then some (.infinite negative)
  else if word = "nan" then some .nan
  else unsigned? negative cs

/-- The value that a text stands for. -/
def read? : List Char → Option Binary64
  | '+' :: cs => magnitude? false cs
  | '-' :: cs => magnitude? true cs
  | cs => magnitude? false cs

/-! ## §2. The fewest digits -/

/-- The decimal `digits × 10 ^ exponent`. -/
structure Decimal where
  digits : Nat
  exponent : Int
  deriving DecidableEq, Repr

/-- A power of ten as a quotient. -/
def tenPower (exponent : Int) : Nat × Nat :=
  if 0 ≤ exponent then (Nat.pow 10 exponent.toNat, 1) else (1, Nat.pow 10 (-exponent).toNat)

/-- Whether a decimal reads back as a value: it lies no farther from it than half way to
either neighbour.  Half way itself belongs to the value whose last binary digit is zero. -/
def readsBack (units : Nat) (d : Decimal) : Bool :=
  let (num, den) := tenPower d.exponent
  -- All bounds are doubled, so that half way is a whole number.  Below a power of two the values
  -- lie closer together, so the spacing there is that of the units before.
  let low := (2 * units - spacing (units - 1)) * den
  let high := (2 * units + spacing units) * den
  let point := 2 * (d.digits * num * unitsOfOne)
  if units / spacing units % 2 = 0 then low ≤ point && point ≤ high
  else low < point && point < high

/-- How many digits a value has before the point; for a value below one, minus the number
of zeros that follow the point. -/
def leading (units : Nat) : Int :=
  -- The digits are counted far enough behind the point for the least value.
  decimalLength (units * Nat.pow 10 400 / unitsOfOne) - 400

/-- The nearer of the two neighbours with a given exponent, among those that read back. -/
def withExponent? (units : Nat) (exponent : Int) : Option Decimal :=
  let (num, den) := tenPower exponent
  let below := units * den / (unitsOfOne * num)
  let left := units * den % (unitsOfOne * num)
  let down : Decimal := ⟨below, exponent⟩
  let up : Decimal := ⟨below + 1, exponent⟩
  match readsBack units down, readsBack units up with
  | true, true => some (if 2 * left < unitsOfOne * num then down else up)
  | true, false => some down
  | false, true => some up
  | false, false => none

/-- The nearer of the two neighbours with so many digits, among those that read back. -/
def withDigits? (units count : Nat) : Option Decimal :=
  withExponent? units (leading units - count)

/-- The decimal with the fewest digits; seventeen are always enough. -/
def shortest (units : Nat) : Decimal :=
  ((List.range 17).findSome? (fun n => withDigits? units (n + 1))).getD ⟨0, 0⟩

/-! ## §3. Writing -/

/-- A decimal without exponent, and without zeros at the end of its fraction. -/
def positional (d : Decimal) : List Char :=
  let digits := Nat.toDigits 10 d.digits
  if 0 ≤ d.exponent then digits ++ List.replicate d.exponent.toNat '0'
  else
    let places := (-d.exponent).toNat
    -- One zero stands before the point if no digit does.
    let padded := List.replicate (places + 1 - digits.length) '0' ++ digits
    let whole := padded.take (padded.length - places)
    let fraction := padded.drop (padded.length - places)
    match (fraction.reverse.dropWhile (· == '0')).reverse with
    | [] => whole
    | fraction => whole ++ '.' :: fraction

/-- A value as text. -/
def text : Binary64 → String
  | .nan => "NaN"
  | .infinite negative => if negative then "-inf" else "inf"
  | .finite negative units =>
      (if negative then "-" else "")
        ++ (if units = 0 then "0" else String.ofList (positional (shortest units)))

end ModelAdapter.Binary64
