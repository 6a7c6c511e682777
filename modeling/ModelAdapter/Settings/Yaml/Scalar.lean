import ModelAdapter.Settings.Setting
import ModelAdapter.Settings.Yaml.Mark
import ModelAdapter.Text.Escape

/-! # Scalars in YAML

  * A plain scalar has no quotes.  It is null, a flag, an integer or a float64
    value if it is written like one, and else a text.
  * A scalar in single or double quotes is a text, whatever it looks like.
  * A block scalar, after a bar or an angle bracket, is a text of whole lines.

Plain and quoted scalars may go on over several lines, which are folded: a single
line end counts as a space.
-/

namespace ModelAdapter.Yaml

/-! ## §1. Plain scalars -/

/-- The words for values that are infinite or no numbers; as settings they have no
reading. -/
def specialFloats : List String :=
  [".inf", ".Inf", ".INF", "+.inf", "+.Inf", "+.INF", "-.inf", "-.Inf", "-.INF",
    ".nan", ".NaN", ".NAN"]

/-- An integer that fits in 64 bits: in base sixteen or eight behind a mark, or in base ten;
a plus sign may stand before any that is in base ten. -/
def integer? (cs : List Char) : Option Int :=
  match cs with
  | '0' :: 'x' :: digits => (Integer.signedIn? 16 digits).filter Integer.fits64
  | '0' :: 'o' :: digits => (Integer.signedIn? 8 digits).filter Integer.fits64
  | '+' :: digits => Integer.word64? digits
  | digits => Integer.word64? digits

/-- What a plain scalar stands for. -/
def resolve? (cs : List Char) : Option Setting :=
  match integer? cs with
  | some n => some (.integer n)
  | none =>
      let word := String.ofList cs
      if word = "" ∨ word = "~" ∨ word = "null" then some .null
      else if word = "true" then some (.flag true)
      else if word = "false" then some (.flag false)
      else if word ∈ specialFloats then none
      else
        match Binary64.read? cs with
        -- The words for values that need no digit are texts in YAML.
        | some v => some (if cs.any Char.isDigit then .float v else .text word)
        | none => some (.text word)

/-- The characters that structure collections in brackets and braces. -/
def isFlow (c : Char) : Bool :=
  c == ',' || c == '[' || c == ']' || c == '\x7b' || c == '\x7d'

/-- The characters that begin something other than a plain scalar. -/
def indicators : List Char :=
  ['#', '&', '*', '!', '|', '>', '\'', '"', '%', '@', '\x60']

/-- Whether a colon here, of which the rest is given, ends a name. -/
def endsName (flow : Bool) (rest : List Mark) : Bool :=
  atGap rest || (flow && rest.head?.any (fun m => isFlow m.char))

/-- Whether a plain scalar can begin so. -/
def startsPlain (flow : Bool) : List Mark → Bool
  | [] => false
  | m :: rest =>
      -- Each of these begins a scalar only if its next character follows right away.
      if m.char = '-' ∨ m.char = '?' ∨ m.char = ':' then !endsName flow rest
      else
        !(isGap m.char || isFlow m.char || indicators.contains m.char)

/-- The part of a plain scalar that stands on this line, with the blanks at its end. -/
def plainLine (flow : Bool) : (afterBlank : Bool) → List Mark → List Char
  | _, [] => []
  | afterBlank, m :: rest =>
      -- A number sign begins a comment only behind a blank.
      if m.char = '\n' ∨ (m.char = '#' ∧ afterBlank) ∨ (m.char = ':' ∧ endsName flow rest)
          ∨ (flow ∧ isFlow m.char) then []
      else m.char :: plainLine flow (isBlank m.char) rest

/-- The same without those blanks, and the text that follows. -/
def plainPart (flow : Bool) (ms : List Mark) : List Char × List Mark :=
  let part := ((plainLine flow false ms).reverse.dropWhile isBlank).reverse
  (part, ms.drop part.length)

/-- The lines that a plain scalar goes on over.  They begin at the column `least` or
after it. -/
def plainMore (flow : Bool) (least : Nat) : (steps : Nat) → List Mark → List Char × List Mark
  | 0, ms => ([], ms)
  | steps + 1, ms =>
      let gap := ms.takeWhile (fun m => isGap m.char)
      let next := ms.dropWhile (fun m => isGap m.char)
      match next with
      | [] => ([], ms)
      | m :: _ =>
          if lineEnds gap = 0 ∨ m.column < least ∨ m.char = '#' ∨ (flow ∧ isFlow m.char)
              ∨ (m.char = ':' ∧ endsName flow next.tail) then ([], ms)
          else
            let (part, rest) := plainPart flow next
            let (more, rest) := plainMore flow least steps rest
            (folded (lineEnds gap) ++ part ++ more, rest)

/-! ## §2. Quoted scalars -/

def escapes : Escapes where
  letters := [('0', ['\x00']), ('a', ['\x07']), ('b', ['\x08']), ('t', ['\t']), ('\t', ['\t']),
    ('n', ['\n']), ('v', ['\x0b']), ('f', ['\x0c']), ('r', ['\r']), ('e', ['\x1b']), (' ', [' ']),
    ('"', ['"']), ('/', ['/']), ('\\', ['\\']), ('N', ['\u0085']), ('_', ['\u00A0']),
    ('L', ['\u2028']), ('P', ['\u2029'])]
  codes := [('x', 2), ('u', 4), ('U', 8)]
  braced := []
  itself _ := false

/-- The rest of a quoted scalar, after its opening quote. -/
def quotedRest? (quote : Char) : (steps : Nat) → List Mark → Option (List Char × List Mark)
  | 0, _ => none
  | _ + 1, [] => none
  | steps + 1, m :: rest =>
      if m.char = quote then
        -- Two single quotes in a row stand for one.
        if quote = '\'' ∧ rest.head?.map Mark.char = some '\'' then
          (quotedRest? quote steps rest.tail).map (fun p => ('\'' :: p.1, p.2))
        else some ([], rest)
      else if m.char = '\\' ∧ quote = '"' then
        -- A backslash at the end of a line joins it to the next one.
        if rest.head?.map Mark.char = some '\n' then
          quotedRest? quote steps (skipBlanks rest.tail)
        else do
          let (meant, left) ← escapes.read? (chars rest)
          let (more, rest) ← quotedRest? quote steps (rest.drop (rest.length - left.length))
          return (meant ++ more, rest)
      else if isGap m.char then do
        let gap := (m :: rest).takeWhile (fun m => isGap m.char)
        let (more, rest) ← quotedRest? quote steps ((m :: rest).drop gap.length)
        return ((if lineEnds gap = 0 then chars gap else folded (lineEnds gap)) ++ more, rest)
      else do
        let (more, rest) ← quotedRest? quote steps rest
        return (m.char :: more, rest)

/-- A quoted scalar. -/
def quoted? : List Mark → Option (List Char × List Mark)
  | m :: rest =>
      if m.char = '"' ∨ m.char = '\'' then quotedRest? m.char (rest.length + 1) rest else none
  | [] => none

/-! ## §3. Block scalars -/

/-- What becomes of the line ends at the end of a block scalar. -/
inductive Chomping
  | strip
  | clip
  | keep
  deriving DecidableEq, Repr

/-- How a block scalar is announced. -/
structure BlockHeader where
  folds : Bool
  chomping : Chomping
  /-- How far the lines are indented, when that is said. -/
  indent? : Option Nat
  deriving DecidableEq, Repr

/-- The header of a block scalar, and the text from the next line on. -/
def blockHeader? : List Mark → Option (BlockHeader × List Mark)
  | [] => none
  | m :: rest => do
      let signs := chars (rest.takeWhile (fun m => !isGap m.char))
      let rest := rest.dropWhile (fun m => !isGap m.char)
      let indent? ← match signs.filter Char.isDigit with
        | [] => some none
        | [digit] => if digit = '0' then none else some (some (Integer.digit digit))
        | _ => none
      let chomping ← match signs.filter (fun c => !c.isDigit) with
        | [] => some Chomping.clip
        | ['-'] => some Chomping.strip
        | ['+'] => some Chomping.keep
        | _ => none
      match skipBlanks rest with
      | [] => return (⟨m.char = '>', chomping, indent?⟩, [])
      | next :: after =>
          if next.char = '\n' then return (⟨m.char = '>', chomping, indent?⟩, after)
          else if next.char = '#' then
            return (⟨m.char = '>', chomping, indent?⟩, (after.dropWhile (·.char ≠ '\n')).drop 1)
          else none

/-- The lines that are blank or indented far enough, without their indentation. -/
def blockLines (indent : Nat) : (steps : Nat) → List Mark → List (List Char) × List Mark
  | 0, ms => ([], ms)
  | steps + 1, ms =>
      let line := ms.takeWhile (·.char ≠ '\n')
      let first? := (line.dropWhile (·.char == ' ')).head?
      if ms = [] ∨ first?.any (fun m => m.column < indent) then ([], ms)
      else
        let (lines, rest) := blockLines indent steps (ms.drop (line.length + 1))
        ((chars line).drop indent :: lines, rest)

/-- Whether a line of a folded scalar is joined to its neighbours. -/
def joins : List Char → Bool
  | [] => false
  | c :: _ => !isBlank c

/-- The lines of a folded scalar, of which the last one is not empty; `previous` says whether
the line before them is joined, and `ends` how many line ends have come since. -/
def foldLines (previous : Bool) (ends : Nat) : List (List Char) → List Char
  | [] => []
  | [] :: rest => foldLines previous (ends + 1) rest
  | line :: rest =>
      (if previous && joins line then folded ends else List.replicate ends '\n')
        ++ line ++ foldLines (joins line) 1 rest

/-- The text of the lines of a block scalar. -/
def blockText (header : BlockHeader) (lines : List (List Char)) : List Char :=
  let body := (lines.reverse.dropWhile (· == [])).reverse
  let empty := lines.length - body.length
  let text :=
    if header.folds then foldLines false 0 body else ['\n'].intercalate body
  match header.chomping with
  | .strip => text
  | .clip => if body = [] then [] else text ++ ['\n']
  | .keep =>
      if body = [] then List.replicate empty '\n'
      else text ++ List.replicate (empty + 1) '\n'

/-- A block scalar that belongs to a part whose own lines begin before the column `least`. -/
def block? (least : Nat) (ms : List Mark) : Option (List Char × List Mark) := do
  let (header, rest) ← blockHeader? ms
  let indent := match header.indent? with
    -- What the header says counts from the part around the scalar.
    | some n => least - 1 + n
    | none =>
        match (rest.dropWhile (fun m => m.char == ' ' || m.char == '\n')).head? with
        | some first => max least first.column
        | none => least
  let (lines, rest) := blockLines indent (rest.length + 1) rest
  return (blockText header lines, rest)

end ModelAdapter.Yaml
