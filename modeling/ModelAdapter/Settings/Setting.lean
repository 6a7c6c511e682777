import ModelAdapter.Environment
import ModelAdapter.Number.Decimal

/-! # Settings

A setting is what a file or a variable gives to a name.  Its kind says how it was
written; what is wanted of it is a whole number or a text, and many kinds can be
taken for either:

  * a whole number is an integer, a float64 value rounded to the nearest one, a
    flag as 1 or 0, or a text that is an integer or a word for on or off;
  * a text is any text, and a number or a flag as it is written;
  * a null is no number and no text, but it can be the absence of a number.

Names are matched without regard to the case of letters.
-/

namespace ModelAdapter

/-- What a name is given. -/
inductive Setting
  | null
  | flag (b : Bool)
  /-- A whole number that fits in 64 bits. -/
  | integer (n : Int)
  | float (v : Binary64)
  | text (s : String)
  | list (items : List Setting)
  | table (entries : List (String × Setting))

namespace Setting

/-! ## §1. What a setting is taken for -/

/-- The whole number that a text stands for. -/
def wholeOfText? (s : String) : Option Int :=
  match Integer.word64? s.toList with
  | some n => some n
  | none =>
      let word := s.toLower
      if word = "true" ∨ word = "on" ∨ word = "yes" then some 1
      else if word = "false" ∨ word = "off" ∨ word = "no" then some 0
      else none

/-- The whole number that a setting stands for.  What is not a number counts as zero. -/
def whole? : Setting → Option Int
  | .flag b => some (if b then 1 else 0)
  | .integer n => some n
  | .float .nan => some 0
  | .float (.infinite _) => none
  | .float (.finite negative units) => some (Binary64.roundAway negative units)
  | .text s => wholeOfText? s
  | .null | .list _ | .table _ => none

/-- A whole number of 32 bits. -/
def word32? (s : Setting) : Option Int32 := do
  let n ← s.whole?
  if Integer.fits32 n then return Int32.ofInt n else none

/-- A whole number of 32 bits, or null for none. -/
def optionalWord32? : Setting → Option (Option Int32)
  | .null => some none
  | s => s.word32?.map some

/-- The text that a setting stands for. -/
def text? : Setting → Option String
  | .text s => some s
  | .integer n => some (toString n)
  | .float v => some v.text
  | .flag b => some (if b then "true" else "false")
  | .null | .list _ | .table _ => none

/-- What a text stands for that may be any of a flag, a number and a text. -/
def ofText (s : String) : Setting :=
  if s.toLower = "true" then .flag true
  else if s.toLower = "false" then .flag false
  else
    -- A whole number that does not fit in 64 bits is a float64 value.
    match Integer.word64? s.toList, Binary64.read? s.toList with
    | some n, _ => .integer n
    | none, some v => .float v
    | none, none => .text s

end Setting

/-! ## §2. Names -/

/-- Settings with their names, in the order of writing. -/
abbrev Settings := List (String × Setting)

namespace Settings

/-- A letter in lower case.  The Kelvin sign is the one letter outside ASCII whose lower
case lies in ASCII. -/
def foldCase (c : Char) : Char := if c = '\u212A' then 'k' else c.toLower

/-- A name without regard to case. -/
def folded (name : String) : String := String.ofList (name.toList.map foldCase)

/-- What a name is given last. -/
def get? (settings : Settings) (name : String) : Option Setting :=
  (settings.reverse.find? (fun e => folded e.1 == name)).map (·.2)

/-- Variables whose names begin so hold settings. -/
def variablePrefix : String := "dlr_"

/-- The settings in the environment. -/
def ofEnvironment (env : Environment) : Settings :=
  env.filterMap fun (name, value) =>
    let name := (folded name).toList
    if variablePrefix.toList.isPrefixOf name then
      some (String.ofList (name.drop variablePrefix.length), .ofText value)
    else none

end Settings

end ModelAdapter
