/-! # JSON values

A JSON text stands for a tree.  The tree keeps what the text tells apart: the
order of the members of an object, members of one name, and whether a number is
written as a whole number or with a fraction or an exponent.
-/

namespace ModelAdapter

/-- A number as it is written. -/
inductive JsonNumber
  /-- A whole number; minus zero is not one. -/
  | integer (n : Int)
  /-- `digits × 10 ^ exponent`, negative or not. -/
  | decimal (negative : Bool) (digits : Nat) (exponent : Int)
  deriving DecidableEq, Repr

/-- A JSON value. -/
inductive Json
  | null
  | bool (b : Bool)
  | number (n : JsonNumber)
  | string (s : String)
  | array (elements : List Json)
  | object (members : List (String × Json))
  /-- What no text can hold: a string in which half of a character is escaped, or an object
  with such a name. -/
  | unreadable

namespace Json

/-! ## Writing strings -/

/-- A digit in base sixteen. -/
def hexDigit (n : Nat) : Char :=
  if n < 10 then Char.ofNat ('0'.toNat + n) else Char.ofNat ('a'.toNat + (n - 10))

/-- How a character is written in a string: a quote, a backslash and a control character
are escaped, the common ones by a letter, and every other character stands for itself. -/
def escapeChar (c : Char) : List Char :=
  if c = '"' then ['\\', '"']
  else if c = '\\' then ['\\', '\\']
  else if c = '\n' then ['\\', 'n']
  else if c = '\r' then ['\\', 'r']
  else if c = '\t' then ['\\', 't']
  else if c = '\x08' then ['\\', 'b']
  else if c = '\x0c' then ['\\', 'f']
  else if c.toNat < 0x20 then
    ['\\', 'u', '0', '0', hexDigit (c.toNat / 16), hexDigit (c.toNat % 16)]
  else [c]

/-- A string as it is written, in quotes. -/
def quote (s : String) : String :=
  "\"" ++ String.ofList (s.toList.flatMap escapeChar) ++ "\""

end Json

end ModelAdapter
