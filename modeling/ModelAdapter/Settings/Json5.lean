import ModelAdapter.Settings.Setting
import ModelAdapter.Text.Blank
import ModelAdapter.Text.Comment
import ModelAdapter.Text.Escape

/-! # Settings in JSON5

JSON with comments, names without quotes, strings in quotes of either kind,
commas after the last element, and more ways to write a number: with a plus sign,
with nothing before or after the point, in base sixteen, and words for the values
that are infinite or no numbers.

The root must be an object.  A number without point and exponent is an integer and
must fit in 64 bits; in base sixteen it has no sign and must fit in 32 bits.
-/

namespace ModelAdapter.Json5

/-! ## §1. Gaps and strings -/

def endsLine (c : Char) : Bool :=
  c == '\n' || c == '\r' || c == '\u2028' || c == '\u2029'

def gaps : Text.Gaps where
  isBlank c := (Text.isBlank c && c != '\u0085') || c == '\uFEFF'
  endsLine := endsLine
  nested := false

def escapes : Escapes where
  letters := [('b', ['\x08']), ('f', ['\x0c']), ('n', ['\n']), ('r', ['\r']), ('t', ['\t']),
    ('v', ['\x0b']), ('0', ['\x00']), ('\n', []), ('\r', []), ('\u2028', []), ('\u2029', [])]
  codes := [('x', 2), ('u', 4)]
  braced := []
  itself c := !c.isDigit

/-- A string in quotes, after its opening quote. -/
def string? (mark : Char) (cs : List Char) : Option (String × List Char) :=
  (escapes.quoted? mark (fun c => !endsLine c) cs).map (fun p => (String.ofList p.1, p.2))

/-! ## §2. Words and numbers -/

/-- A number without its sign. -/
def unsigned? (sign digits : List Char) : Option Setting :=
  match digits with
  | ['0', 'x'] | ['0', 'X'] => none
  | '0' :: 'x' :: hex | '0' :: 'X' :: hex =>
      match sign, Integer.naturalIn? 16 hex with
      | [], some n => if n < 0x100000000 then some (.integer n) else none
      | _, _ => none
  | '0' :: second :: _ =>
      -- No number but 0 itself begins with a zero.
      if second.isDigit then none else decimal? (sign ++ digits)
  | first :: _ => if first.isDigit || first == '.' then decimal? (sign ++ digits) else none
  | [] => none
where
  /-- A number in base ten. -/
  decimal? (cs : List Char) : Option Setting :=
    if cs.any (fun c => c == '.' || c == 'e' || c == 'E') then
      match Binary64.read? cs with
      | some (.finite negative units) => some (.float (.finite negative units))
      | _ => none
    else (Integer.word64? cs).map .integer

/-- The value that a word stands for. -/
def word? (cs : List Char) : Option Setting :=
  match String.ofList cs with
  | "null" => some .null
  | "true" => some (.flag true)
  | "false" => some (.flag false)
  | "Infinity" => some (.float (.infinite false))
  | "-Infinity" => some (.float (.infinite true))
  | "NaN" | "-NaN" => some (.float .nan)
  | _ => unsigned? (Text.sign cs).1 (Text.sign cs).2

/-! ## §3. Values -/

def startsName (c : Char) : Bool :=
  c.isAlpha || c == '$' || c == '_' || (0x80 ≤ c.toNat && !gaps.isBlank c)

/-- The name of a member. -/
def name? : List Char → Option (String × List Char)
  | '"' :: rest => string? '"' rest
  | '\'' :: rest => string? '\'' rest
  | c :: rest =>
      if startsName c then
        let (more, rest) := Text.splitWhile (fun c => startsName c || c.isDigit) rest
        some (String.ofList (c :: more), rest)
      else none
  | [] => none

mutual

/-- A value, with a gap before it. -/
def value? : (steps : Nat) → List Char → Option (Setting × List Char)
  | 0, _ => none
  | steps + 1, cs =>
      match gaps.skip cs with
      | '\x7b' :: rest => (members? steps rest).map (fun p => (.table p.1, p.2))
      | '[' :: rest => (elements? steps rest).map (fun p => (.list p.1, p.2))
      | '"' :: rest => (string? '"' rest).map (fun p => (.text p.1, p.2))
      | '\'' :: rest => (string? '\'' rest).map (fun p => (.text p.1, p.2))
      | cs =>
          let (word, rest) := Text.splitWhile Text.isWordChar cs
          (word? word).map (fun setting => (setting, rest))

/-- The elements of an array up to its closing bracket. -/
def elements? : (steps : Nat) → List Char → Option (List Setting × List Char)
  | 0, _ => none
  | steps + 1, cs =>
      match gaps.skip cs with
      | ']' :: rest => some ([], rest)
      | cs => do
          let (element, rest) ← value? steps cs
          match gaps.skip rest with
          | ',' :: rest => (elements? steps rest).map (fun p => (element :: p.1, p.2))
          | ']' :: rest => some ([element], rest)
          | _ => none

/-- The members of an object up to its closing brace. -/
def members? : (steps : Nat) → List Char → Option (Settings × List Char)
  | 0, _ => none
  | steps + 1, cs =>
      match gaps.skip cs with
      | '\x7d' :: rest => some ([], rest)
      | cs => do
          let (name, rest) ← name? cs
          let (value, rest) ← value? steps (← Text.after? ":" (gaps.skip rest))
          match gaps.skip rest with
          | ',' :: rest => (members? steps rest).map (fun p => ((name, value) :: p.1, p.2))
          | '\x7d' :: rest => some ([(name, value)], rest)
          | _ => none

end

end Json5

def Settings.ofJson5? (text : String) : Option Settings := do
  match ← Json5.value? (text.toList.length + 1) text.toList with
  | (.table entries, rest) => if Json5.gaps.skip rest = [] then return entries else none
  | _ => none

end ModelAdapter
