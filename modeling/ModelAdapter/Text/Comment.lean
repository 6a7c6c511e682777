/-! # Comments with slashes

Two slashes open a comment that lasts to the end of the line, and a slash and a
star one that lasts to the next star and slash; where comments nest, each opening
needs a closing of its own.
-/

namespace ModelAdapter.Text

/-- What the text between two parts of a document is inside of. -/
inductive Gap
  | blank
  | line
  /-- In a comment, with so many others open around it. -/
  | block (outer : Nat)
  /-- At the star that opens a comment inside another one. -/
  | opening (outer : Nat)
  deriving DecidableEq, Repr

/-- How a format fills the gaps between its parts. -/
structure Gaps where
  isBlank : Char → Bool
  endsLine : Char → Bool
  nested : Bool

/-- The text after the blanks and comments that it begins with.  Of a comment that is
never closed a slash is left, which begins no part of any document. -/
def Gaps.after (g : Gaps) : Gap → List Char → List Char
  | .blank, '/' :: '*' :: rest => g.after (.block 0) rest
  | .blank, '/' :: '/' :: rest => g.after .line rest
  | .blank, c :: rest => if g.isBlank c then g.after .blank rest else c :: rest
  | .line, c :: rest => g.after (if g.endsLine c then .blank else .line) rest
  | .block outer, '*' :: '/' :: rest =>
      g.after (match outer with | 0 => .blank | outer + 1 => .block outer) rest
  | .block outer, '/' :: rest =>
      g.after (if g.nested && rest.head? == some '*' then .opening outer else .block outer) rest
  | .block outer, _ :: rest => g.after (.block outer) rest
  | .opening outer, _ :: rest => g.after (.block (outer + 1)) rest
  | .block _, [] => ['/']
  | _, [] => []

/-- The text after its leading blanks and comments. -/
def Gaps.skip (g : Gaps) (cs : List Char) : List Char := g.after .blank cs

end ModelAdapter.Text
