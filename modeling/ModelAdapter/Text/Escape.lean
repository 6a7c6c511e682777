import ModelAdapter.Number.Integer
import ModelAdapter.Text.Scan

/-! # Escapes

Most formats let a backslash and a letter stand for a character that cannot be
written plainly.  Which letters those are is the format's choice (`Escapes`);
reading a text in which they occur is the same for all (`Escapes.until?`).
-/

namespace ModelAdapter

/-- The escapes that a format knows; each follows a backslash. -/
structure Escapes where
  /-- Characters that stand for others. -/
  letters : List (Char × List Char)
  /-- Letters that are followed by so many digits in base sixteen, the code of a character. -/
  codes : List (Char × Nat)
  /-- Letters that are followed by the code of a character in braces. -/
  braced : List Char
  /-- Which other characters stand for themselves. -/
  itself : Char → Bool

namespace Escapes

/-- The character with a given code, if there is one. -/
def character? (code : Nat) : Option Char :=
  if code.isValidChar then some (Char.ofNat code) else none

/-- The character whose code is written with so many digits. -/
def coded? (count : Nat) (cs : List Char) : Option (List Char × List Char) := do
  if cs.length < count then none
  let c ← character? (← Integer.naturalIn? 16 (cs.take count))
  return ([c], cs.drop count)

/-- The character whose code is written in braces, with up to six digits. -/
def braced? : List Char → Option (List Char × List Char)
  | '\x7b' :: rest => do
      let (digits, rest) := Text.splitWhile (· ≠ '\x7d') rest
      if 6 < digits.length then none
      let c ← character? (← Integer.naturalIn? 16 digits)
      return ([c], ← Text.after? "\x7d" rest)
  | _ => none

/-- What an escape stands for, read after its backslash. -/
def read? (e : Escapes) : List Char → Option (List Char × List Char)
  | [] => none
  | c :: rest =>
      match e.letters.lookup c, e.codes.lookup c with
      | some meant, _ => some (meant, rest)
      | none, some count => coded? count rest
      | none, none =>
          if c ∈ e.braced then braced? rest
          else if e.itself c then some ([c], rest)
          else none

/-- The text up to a character that ends it, or to the end of everything.  A character that
is not admitted makes the text unreadable. -/
def until? (e : Escapes) (ends admits : Char → Bool) :
    (steps : Nat) → List Char → Option (List Char × List Char)
  | 0, _ => none
  | _ + 1, [] => some ([], [])
  | steps + 1, c :: rest =>
      if ends c then some ([], c :: rest)
      else if c = '\\' then do
        let (meant, rest) ← e.read? rest
        let (more, rest) ← until? e ends admits steps rest
        return (meant ++ more, rest)
      else if admits c then do
        let (more, rest) ← until? e ends admits steps rest
        return (c :: more, rest)
      else none

/-- The text up to a closing mark, read after the opening one, and what follows the mark. -/
def quoted? (e : Escapes) (mark : Char) (admits : Char → Bool) (cs : List Char) :
    Option (List Char × List Char) :=
  match e.until? (· == mark) admits (cs.length + 1) cs with
  | some (text, _ :: rest) => some (text, rest)
  | _ => none

end Escapes

end ModelAdapter
