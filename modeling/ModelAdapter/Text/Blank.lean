/-! # Blanks

The characters of the Unicode property `White_Space`, and the removal of blanks
from both ends of a text.
-/

namespace ModelAdapter.Text

/-- Whether a character has the property `White_Space`. -/
def isBlank (c : Char) : Bool :=
  (0x09 ≤ c.toNat && c.toNat ≤ 0x0D)
    || c.toNat == 0x20
    || c.toNat == 0x85
    || c.toNat == 0xA0
    || c.toNat == 0x1680
    || (0x2000 ≤ c.toNat && c.toNat ≤ 0x200A)
    || c.toNat == 0x2028
    || c.toNat == 0x2029
    || c.toNat == 0x202F
    || c.toNat == 0x205F
    || c.toNat == 0x3000

/-- A text without the blanks at its two ends. -/
def trim (cs : List Char) : List Char :=
  ((cs.dropWhile isBlank).reverse.dropWhile isBlank).reverse

end ModelAdapter.Text
