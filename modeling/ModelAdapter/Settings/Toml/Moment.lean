import ModelAdapter.Number.Integer
import ModelAdapter.Text.Scan

/-! # Dates and times in TOML

A moment is a date, a time, or both, and with both perhaps an offset.  It is kept
as text in one spelling: a capital `T` between date and time, a capital `Z`, and no
zeros at the end of a fraction of a second.
-/

namespace ModelAdapter.Toml.Moment

/-- A part of a moment, as text. -/
abbrev Part := List Char

/-- A number of so many digits within bounds. -/
def field? (count low high : Nat) (cs : List Char) : Option (Part × List Char) := do
  let n ← Integer.natural? (cs.take count)
  if count ≤ cs.length ∧ low ≤ n ∧ n ≤ high then return (cs.take count, cs.drop count) else none

def daysIn (year month : Nat) : Nat :=
  if month = 2 then (if year % 4 = 0 ∧ (year % 100 ≠ 0 ∨ year % 400 = 0) then 29 else 28)
  else if month = 4 ∨ month = 6 ∨ month = 9 ∨ month = 11 then 30
  else 31

def date? (cs : List Char) : Option (Part × List Char) := do
  let (year, rest) ← field? 4 0 9999 cs
  let (month, rest) ← field? 2 1 12 (← Text.after? "-" rest)
  let (day, rest) ← field? 2 1 (daysIn (Integer.valueOf year) (Integer.valueOf month))
    (← Text.after? "-" rest)
  return (year ++ '-' :: month ++ '-' :: day, rest)

/-- A fraction of a second, of which nine digits count. -/
def fraction? : List Char → Option (Part × List Char)
  | '.' :: rest =>
      let (digits, rest) := Text.splitWhile Char.isDigit rest
      if digits = [] then none
      else
        match ((digits.take 9).reverse.dropWhile (· == '0')).reverse with
        | [] => some ([], rest)
        | kept => some ('.' :: kept, rest)
  | rest => some ([], rest)

def time? (cs : List Char) : Option (Part × List Char) := do
  let (hour, rest) ← field? 2 0 23 cs
  let (minute, rest) ← field? 2 0 59 (← Text.after? ":" rest)
  let (second, rest) ← field? 2 0 60 (← Text.after? ":" rest)
  let (fraction, rest) ← fraction? rest
  return (hour ++ ':' :: minute ++ ':' :: second ++ fraction, rest)

/-- An offset, if there is one. -/
def offset? : List Char → Option (Part × List Char)
  | 'Z' :: rest | 'z' :: rest => some (['Z'], rest)
  | '+' :: rest => signed? '+' rest
  | '-' :: rest => signed? '-' rest
  | rest => some ([], rest)
where
  signed? (sign : Char) (cs : List Char) : Option (Part × List Char) := do
    let (hour, rest) ← field? 2 0 23 cs
    let (minute, rest) ← field? 2 0 59 (← Text.after? ":" rest)
    -- An offset of nothing is written with a plus sign.
    let sign := if Integer.valueOf (hour ++ minute) = 0 then '+' else sign
    return (sign :: hour ++ ':' :: minute, rest)

/-- Whether a time follows a date. -/
def startsTime : List Char → Bool
  | 'T' :: _ | 't' :: _ => true
  | ' ' :: c :: _ => c.isDigit
  | _ => false

/-- The moment that a text begins with. -/
def read? (cs : List Char) : Option (Part × List Char) :=
  match date? cs with
  | none => time? cs
  | some (date, rest) =>
      if startsTime rest then do
        let (time, rest) ← time? rest.tail
        let (offset, rest) ← offset? rest
        return (date ++ 'T' :: time ++ offset, rest)
      else some (date, rest)

end ModelAdapter.Toml.Moment
