/-! # Taking a text apart from the front

Small steps that the readers of all formats share.  Each hands back what it took
and the text that is left.
-/

namespace ModelAdapter.Text

/-- The text after a fixed beginning. -/
def after? (word : String) (cs : List Char) : Option (List Char) :=
  if word.toList.isPrefixOf cs then some (cs.drop word.length) else none

/-- The longest beginning of characters of a kind. -/
def splitWhile (kind : Char → Bool) (cs : List Char) : List Char × List Char :=
  (cs.takeWhile kind, cs.dropWhile kind)

/-- The pieces of a sequence between separators; there is one more of them than of those. -/
def pieces {α : Type} [DecidableEq α] (separator : α) : List α → List (List α)
  | [] => [[]]
  | c :: rest =>
      if c = separator then [] :: pieces separator rest
      else
        match pieces separator rest with
        | [] => [[c]]
        | piece :: others => (c :: piece) :: others

/-- A character of a name or a number. -/
def isWordChar (c : Char) : Bool :=
  c.isAlphanum || c == '_' || c == '+' || c == '-' || c == '.'

/-- A sign, if there is one, and what follows it. -/
def sign : List Char → List Char × List Char
  | '+' :: rest => (['+'], rest)
  | '-' :: rest => (['-'], rest)
  | rest => ([], rest)

end ModelAdapter.Text
