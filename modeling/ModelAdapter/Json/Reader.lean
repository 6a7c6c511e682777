import ModelAdapter.Json.Value
import ModelAdapter.Number.Integer
import ModelAdapter.Text.Scan

/-! # Reading JSON

The reader takes a text apart from the front.  Each part of the grammar has a
function that hands back what it read and the text that is left, or nothing when
the text does not begin with that part.

The functions for values call each other; each call is given a number of steps
that is one less than that of its caller, and a text of `n` characters is read
in at most `n` steps (`read?`).
-/

namespace ModelAdapter.Json

/-! ## §1. Blanks -/

/-- The characters that may stand between any two parts. -/
def isBlank (c : Char) : Bool := c == ' ' || c == '\t' || c == '\n' || c == '\r'

/-- The text after its leading blanks. -/
def skip (cs : List Char) : List Char := cs.dropWhile isBlank

/-! ## §2. Strings -/

/-- Four digits in base sixteen. -/
def hex4? : List Char → Option (Nat × List Char)
  | a :: b :: c :: d :: rest => do
      let a ← Integer.digitIn? 16 a
      let b ← Integer.digitIn? 16 b
      let c ← Integer.digitIn? 16 c
      let d ← Integer.digitIn? 16 d
      return (((a * 16 + b) * 16 + c) * 16 + d, rest)
  | _ => none

/-- The second half of a character, escaped by itself. -/
def low? : List Char → Option (Nat × List Char)
  | '\\' :: 'u' :: rest => do
      let (unit, rest) ← hex4? rest
      if 0xDC00 ≤ unit ∧ unit < 0xE000 then return (unit - 0xDC00, rest) else none
  | _ => none

/-- The character of four digits.  A character past the first plane takes two such groups; half
of one is no character. -/
def unicode? (cs : List Char) : Option (Option Char × List Char) := do
  let (unit, rest) ← hex4? cs
  if 0xD800 ≤ unit ∧ unit < 0xDC00 then
    -- The first half of a character needs its second half right behind it.
    match low? rest with
    | some (low, rest) =>
        return (some (Char.ofNat (0x10000 + (unit - 0xD800) * 0x400 + low)), rest)
    | none => return (none, rest)
  else if 0xDC00 ≤ unit ∧ unit < 0xE000 then return (none, rest)
  else return (some (Char.ofNat unit), rest)

/-- The character that an escape stands for, after its backslash. -/
def escape? : List Char → Option (Option Char × List Char)
  | '"' :: rest => some ('"', rest)
  | '\\' :: rest => some ('\\', rest)
  | '/' :: rest => some ('/', rest)
  | 'b' :: rest => some ('\x08', rest)
  | 'f' :: rest => some ('\x0c', rest)
  | 'n' :: rest => some ('\n', rest)
  | 'r' :: rest => some ('\r', rest)
  | 't' :: rest => some ('\t', rest)
  | 'u' :: rest => unicode? rest
  | _ => none

/-- The characters of a string that begins with `c?`; there are none if one of them is half of
a character. -/
def joined (c? : Option Char) (more? : Option (List Char)) : Option (List Char) := do
  return (← c?) :: (← more?)

/-- The rest of a string, after its first quote.  A control character must be escaped. -/
def stringBody? : (steps : Nat) → List Char → Option (Option (List Char) × List Char)
  | 0, _ => none
  | steps + 1, cs =>
      match cs with
      | [] => none
      | '"' :: rest => some (some [], rest)
      | '\\' :: rest => do
          let (c?, rest) ← escape? rest
          (stringBody? steps rest).map (fun p => (joined c? p.1, p.2))
      | c :: rest =>
          if c.toNat < 0x20 then none
          else (stringBody? steps rest).map (fun p => (joined c p.1, p.2))

/-- The rest of a string, as text. -/
def stringRest? (cs : List Char) : Option (Option String × List Char) :=
  (stringBody? (cs.length + 1) cs).map (fun p => (p.1.map String.ofList, p.2))

/-! ## §3. Numbers -/

def digits? (cs : List Char) : Option (List Char × List Char) :=
  match cs.takeWhile Char.isDigit with
  | [] => none
  | digits => some (digits, cs.dropWhile Char.isDigit)

/-- A whole number without sign, in which only 0 itself begins with a zero. -/
def whole? : List Char → Option (List Char × List Char)
  | '0' :: rest => some (['0'], rest)
  | cs => digits? cs

/-- A fraction, if there is one: its digits after the point. -/
def fraction? : List Char → Option (Option (List Char) × List Char)
  | '.' :: rest => (digits? rest).map (fun p => (some p.1, p.2))
  | cs => some (none, cs)

/-- A signed exponent, after its letter. -/
def signedExponent? : List Char → Option (Int × List Char)
  | '+' :: rest => (digits? rest).map (fun p => (Int.ofNat (Integer.valueOf p.1), p.2))
  | '-' :: rest => (digits? rest).map (fun p => (-Int.ofNat (Integer.valueOf p.1), p.2))
  | cs => (digits? cs).map (fun p => (Int.ofNat (Integer.valueOf p.1), p.2))

def exponent? : List Char → Option (Option Int × List Char)
  | 'e' :: rest | 'E' :: rest => (signedExponent? rest).map (fun p => (some p.1, p.2))
  | cs => some (none, cs)

/-- The number made of a sign, whole digits, and perhaps a fraction and an exponent. -/
def makeNumber (negative : Bool) (whole : List Char) (fraction : Option (List Char))
    (exponent : Option Int) : JsonNumber :=
  match fraction, exponent with
  | none, none =>
      let n := Integer.valueOf whole
      -- No integer is a negative zero.
      if negative then (if n = 0 then .decimal true 0 0 else .integer (-Int.ofNat n))
      else .integer (Int.ofNat n)
  | fraction, exponent =>
      let after := fraction.getD []
      .decimal negative (Integer.valueOf (whole ++ after))
        (exponent.getD 0 - Int.ofNat after.length)

/-- A number without its sign. -/
def unsigned? (negative : Bool) (cs : List Char) : Option (JsonNumber × List Char) := do
  let (whole, rest) ← whole? cs
  let (fraction, rest) ← fraction? rest
  let (exponent, rest) ← exponent? rest
  return (makeNumber negative whole fraction exponent, rest)

def number? : List Char → Option (JsonNumber × List Char)
  | '-' :: rest => unsigned? true rest
  | cs => unsigned? false cs

/-! ## §4. Values -/

/-- The value of a string, or of the members of an object, if a text can hold them. -/
def orUnreadable {α : Type} (make : α → Json) (a? : Option α) : Json :=
  match a? with
  | some a => make a
  | none => .unreadable

/-- The members of an object with one more before them, if a text can hold their names. -/
def withMember (name? : Option String) (value : Json) (members? : Option (List (String × Json))) :
    Option (List (String × Json)) := do
  return (← name?, value) :: (← members?)

mutual

/-- A value, with blanks before it. -/
def value? : (steps : Nat) → List Char → Option (Json × List Char)
  | 0, _ => none
  | steps + 1, cs =>
      match skip cs with
      | '\x7b' :: rest =>
          match skip rest with
          | '\x7d' :: rest => some (.object [], rest)
          | rest => (members? steps rest).map (fun p => (orUnreadable .object p.1, p.2))
      | '[' :: rest =>
          match skip rest with
          | ']' :: rest => some (.array [], rest)
          | rest => (elements? steps rest).map (fun p => (.array p.1, p.2))
      | '"' :: rest => (stringRest? rest).map (fun p => (orUnreadable .string p.1, p.2))
      | 't' :: rest => (Text.after? "rue" rest).map (fun rest => (.bool true, rest))
      | 'f' :: rest => (Text.after? "alse" rest).map (fun rest => (.bool false, rest))
      | 'n' :: rest => (Text.after? "ull" rest).map (fun rest => (.null, rest))
      | cs => (number? cs).map (fun p => (.number p.1, p.2))

/-- The elements of an array that has some, up to its closing bracket. -/
def elements? : (steps : Nat) → List Char → Option (List Json × List Char)
  | 0, _ => none
  | steps + 1, cs => do
      let (element, rest) ← value? steps cs
      match skip rest with
      | ',' :: rest => (elements? steps rest).map (fun p => (element :: p.1, p.2))
      | ']' :: rest => some ([element], rest)
      | _ => none

/-- The members of an object that has some, up to its closing brace. -/
def members? : (steps : Nat) → List Char → Option (Option (List (String × Json)) × List Char)
  | 0, _ => none
  | steps + 1, cs =>
      match skip cs with
      | '"' :: rest => do
          let (name?, rest) ← stringRest? rest
          match skip rest with
          | ':' :: rest => do
              let (value, rest) ← value? steps rest
              match skip rest with
              | ',' :: rest =>
                  (members? steps rest).map (fun p => (withMember name? value p.1, p.2))
              | '\x7d' :: rest => some (withMember name? value (some []), rest)
              | _ => none
          | _ => none
      | _ => none

end

/-- The value of a whole text, with nothing but blanks around it. -/
def read? (text : String) : Option Json := do
  let (value, rest) ← value? (text.toList.length + 1) text.toList
  if skip rest = [] then return value else none

end ModelAdapter.Json
