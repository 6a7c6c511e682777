import ModelAdapter.Settings.Setting
import ModelAdapter.Text.Comment
import ModelAdapter.Text.Escape

/-! # Settings in RON

The object notation in which structures are written with parentheses:

  * `(name: value)`, with or without a word in front, is a table, and so is
    `\x7bkey: value\x7d` with texts for keys;
  * `(value, value)` and `[value, value]` are lists;
  * `Some(value)` is the value, and `None`, `()` and a lone word are nothing;
  * numbers may have underscores between their digits, and integers may be in base
    two, eight or sixteen.
-/

namespace ModelAdapter.Ron

/-! ## §1. Gaps and strings -/

def gaps : Text.Gaps where
  isBlank c := c == ' ' || c == '\t' || c == '\n' || c == '\r'
  endsLine c := c == '\n'
  nested := true

def escapes : Escapes where
  letters := [('\'', ['\'']), ('"', ['"']), ('\\', ['\\']), ('n', ['\n']), ('r', ['\r']),
    ('t', ['\t']), ('0', ['\x00'])]
  codes := [('x', 2)]
  braced := ['u']
  itself _ := false

/-- The text in quotes of a kind, after the opening one. -/
def quoted? (mark : Char) (cs : List Char) : Option (List Char × List Char) :=
  escapes.quoted? mark (fun _ => true) cs

/-- A raw string, after its letter: as many hash signs as stand before its opening quote
must follow its closing one. -/
def raw? (cs : List Char) : Option (String × List Char) := do
  let (hashes, rest) := Text.splitWhile (· == '#') cs
  let body ← Text.after? "\"" rest
  let closing := '"' :: hashes
  let ended ← (List.range (body.length + 1)).find? (fun n => closing.isPrefixOf (body.drop n))
  return (String.ofList (body.take ended), body.drop (ended + closing.length))

/-! ## §2. Numbers -/

/-- An integer without its sign. -/
def natural? (cs : List Char) : Option Nat :=
  match cs with
  | '0' :: 'x' :: digits => Integer.naturalIn? 16 digits
  | '0' :: 'o' :: digits => Integer.naturalIn? 8 digits
  | '0' :: 'b' :: digits => Integer.naturalIn? 2 digits
  | digits => Integer.natural? digits

/-- The number that a word stands for. -/
def number? (word : List Char) : Option Setting :=
  let (sign, digits) := Text.sign (word.filter (· ≠ '_'))
  match natural? digits with
  | some n =>
      let n := if sign = ['-'] then -Int.ofNat n else Int.ofNat n
      if Integer.fits64 n then some (.integer n)
      else some (.float (Binary64.ofDecimal (sign = ['-']) n.natAbs 0))
  | none => (Binary64.read? (sign ++ digits)).map .float

/-- Whether a word can be a number. -/
def startsNumber (c : Char) : Bool := c.isDigit || c == '+' || c == '-' || c == '.'

/-! ## §3. Values -/

/-- Whether what follows is the name of a member, with its colon. -/
def named (cs : List Char) : Bool :=
  let (word, rest) := Text.splitWhile Text.isWordChar (gaps.skip cs)
  word != [] && (gaps.skip rest).head? == some ':'

mutual

/-- A value, with a gap before it. -/
def value? : (steps : Nat) → List Char → Option (Setting × List Char)
  | 0, _ => none
  | steps + 1, cs =>
      match gaps.skip cs with
      | '(' :: rest => group? steps rest
      | '[' :: rest => (elements? steps ']' rest).map (fun p => (.list p.1, p.2))
      | '\x7b' :: rest => (entries? steps '\x7d' rest).map (fun p => (.table p.1, p.2))
      | '"' :: rest => (quoted? '"' rest).map (fun p => (.text (String.ofList p.1), p.2))
      | '\'' :: rest =>
          match quoted? '\'' rest with
          | some ([c], rest) => some (.text (String.singleton c), rest)
          | _ => none
      | 'r' :: '"' :: rest => (raw? ('"' :: rest)).map (fun p => (.text p.1, p.2))
      | 'r' :: '#' :: rest => (raw? ('#' :: rest)).map (fun p => (.text p.1, p.2))
      | cs =>
          let (word, rest) := Text.splitWhile Text.isWordChar cs
          match String.ofList word with
          | "" => none
          | "true" => some (.flag true, rest)
          | "false" => some (.flag false, rest)
          | "None" => some (.null, rest)
          | "inf" => some (.float (.infinite false), rest)
          | "-inf" => some (.float (.infinite true), rest)
          | "NaN" => some (.float .nan, rest)
          | "Some" => do
              let (value, rest) ← value? steps (← Text.after? "(" (gaps.skip rest))
              let rest := match gaps.skip rest with
                | ',' :: rest => gaps.skip rest
                | rest => rest
              return (value, ← Text.after? ")" rest)
          | _ =>
              if word.head?.any startsNumber then
                (number? word).map (fun setting => (setting, rest))
              else
                -- A word names the structure in the parentheses behind it, or is a structure
                -- without any.
                match gaps.skip rest with
                | '(' :: rest => group? steps rest
                | _ => some (.null, rest)

/-- What stands in parentheses, after the opening one. -/
def group? : (steps : Nat) → List Char → Option (Setting × List Char)
  | 0, _ => none
  | steps + 1, cs =>
      match gaps.skip cs with
      | ')' :: rest => some (.null, rest)
      | cs =>
          if named cs then (entries? steps ')' cs).map (fun p => (.table p.1, p.2))
          else (elements? steps ')' cs).map (fun p => (.list p.1, p.2))

/-- The elements of a list up to its closing mark. -/
def elements? : (steps : Nat) → (mark : Char) → List Char → Option (List Setting × List Char)
  | 0, _, _ => none
  | steps + 1, mark, cs => do
      let cs := gaps.skip cs
      if cs.head? = some mark then return ([], cs.tail)
      let (element, rest) ← value? steps cs
      match gaps.skip rest with
      | ',' :: rest => (elements? steps mark rest).map (fun p => (element :: p.1, p.2))
      | c :: rest => if c = mark then some ([element], rest) else none
      | [] => none

/-- The entries of a table up to its closing mark.  In parentheses the names are words, in
braces they are texts. -/
def entries? : (steps : Nat) → (mark : Char) → List Char → Option (Settings × List Char)
  | 0, _, _ => none
  | steps + 1, mark, cs => do
      let cs := gaps.skip cs
      if cs.head? = some mark then return ([], cs.tail)
      let (name, rest) ←
        if mark = ')' then
          let (word, rest) := Text.splitWhile Text.isWordChar cs
          if word = [] then none else some (Setting.text (String.ofList word), rest)
        else value? steps cs
      let .text name := name | none
      let (value, rest) ← value? steps (← Text.after? ":" (gaps.skip rest))
      match gaps.skip rest with
      | ',' :: rest => (entries? steps mark rest).map (fun p => ((name, value) :: p.1, p.2))
      | c :: rest => if c = mark then some ([(name, value)], rest) else none
      | [] => none

end

end Ron

def Settings.ofRon? (text : String) : Option Settings := do
  match ← Ron.value? (2 * text.toList.length + 2) text.toList with
  | (.table entries, rest) => if Ron.gaps.skip rest = [] then return entries else none
  | _ => none

end ModelAdapter
