import ModelAdapter.Event
import ModelAdapter.Number.Integer
import ModelAdapter.Text.Blank

/-! # Worker threads

How many threads the tree-ensemble engine works with.  A configuration may name
a count; else a variable of the environment may; else the engine uses every core,
which it is told by the count -1.

A text names a count when, blanks at its ends aside, it is a whole number from 1
to 2³¹ - 1.  A text of blanks only is as good as none; any other text is ignored
with a warning.
-/

namespace ModelAdapter.Threads

/-- The count by which the engine is told to use every core. -/
def everyCore : Int32 := -1

/-- The thread count that a text names, and the warning about a text that names none. -/
def read (value : Option String) : Option Int32 × List Event :=
  match value with
  | none => (none, [])
  | some text =>
      let trimmed := Text.trim text.toList
      if trimmed = [] then (none, [])
      else
        match Integer.word32? trimmed with
        | some n =>
            if 0 < n then (some n, [])
            else (none, [.threadsIgnored (String.ofList trimmed)])
        | none => (none, [.threadsIgnored (String.ofList trimmed)])

/-- The count named explicitly, else the one that the text names, else every core. -/
def resolve (explicit : Option Int32) (value : Option String) : Int32 × List Event :=
  match explicit with
  | some n => (n, [])
  | none =>
      match read value with
      | (some n, events) => (n, events)
      | (none, events) => (everyCore, events)

end ModelAdapter.Threads
