/-! # Machine words

Sizes, counts and indices are natural numbers here, but the machine keeps them
in words of 64 bits.  Where a computation guards itself against running out of
the word, the guard compares with `wordLimit`; where it does not, the product
is taken with `wrap`, and a size handed out as a signed number goes through
`signed`.

  * `wrap` and `signed` are the identity on what fits (`wrap_of_lt`,
    `signed_of_lt`).
-/

namespace ModelAdapter

/-- How many values a machine word has. -/
def wordLimit : Nat := 0x10000000000000000

/-- A natural number as a machine word keeps it. -/
def wrap (n : Nat) : Nat := n % wordLimit

/-- A machine word read as a signed number. -/
def signed (n : Nat) : Int := Int.bmod n wordLimit

/-- Bytes taken by one float32 value. -/
def floatBytes : Nat := 4

theorem wrap_of_lt {n : Nat} (h : n < wordLimit) : wrap n = n :=
  Nat.mod_eq_of_lt h

theorem signed_of_lt {n : Nat} (h : n < 0x8000000000000000) : signed n = n := by
  unfold signed wordLimit
  rw [Int.bmod_def]
  omega

theorem eq_wrap_of_signed {n k : Nat} (h : signed n = k) : k = wrap n := by
  unfold signed wordLimit at h
  unfold wrap wordLimit
  rw [Int.bmod_def] at h
  omega

/-- Cutting a factor to a word changes nothing about a product in the word. -/
theorem wrap_wrap_mul (n k : Nat) : wrap (wrap n * k) = wrap (n * k) :=
  Nat.mod_mul_mod n k wordLimit

end ModelAdapter
