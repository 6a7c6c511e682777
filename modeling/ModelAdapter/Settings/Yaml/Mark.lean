import ModelAdapter.Text.Scan

/-! # Characters with their columns

In YAML the column that a part begins at says what it belongs to, so the reader
works on characters that know theirs.
-/

namespace ModelAdapter.Yaml

/-- A character and how many others stand before it on its line. -/
structure Mark where
  column : Nat
  char : Char
  deriving DecidableEq, Repr

/-- The characters of a text that begins at a column. -/
def marks : (column : Nat) → List Char → List Mark
  | _, [] => []
  | column, c :: rest => ⟨column, c⟩ :: marks (if c = '\n' then 0 else column + 1) rest

def chars (ms : List Mark) : List Char := ms.map Mark.char

/-! ## Gaps -/

def isBlank (c : Char) : Bool := c == ' ' || c == '\t'

def isGap (c : Char) : Bool := isBlank c || c == '\n'

/-- Whether a part that ends here is followed by a gap or by nothing. -/
def atGap : List Mark → Bool
  | [] => true
  | m :: _ => isGap m.char

def skipBlanks (ms : List Mark) : List Mark := ms.dropWhile (fun m => isBlank m.char)

/-- The text after leading blanks, line ends and comments.  A comment needs a blank or the
beginning of a line before it. -/
def skipFrom : (inComment afterGap : Bool) → List Mark → List Mark
  | _, _, [] => []
  | true, _, m :: rest => skipFrom (m.char != '\n') true rest
  | false, afterGap, m :: rest =>
      if isGap m.char then skipFrom false true rest
      else if m.char == '#' && (afterGap || m.column == 0) then skipFrom true true rest
      else m :: rest

/-- The text after the gap that follows a part. -/
def skip (ms : List Mark) : List Mark := skipFrom false false ms

/-! ## Line ends inside scalars -/

/-- What so many line ends in a row come to: one is a space, and each further one itself. -/
def folded (ends : Nat) : List Char :=
  if ends = 1 then [' '] else List.replicate (ends - 1) '\n'

def lineEnds (ms : List Mark) : Nat := ms.countP (fun m => m.char == '\n')

end ModelAdapter.Yaml
