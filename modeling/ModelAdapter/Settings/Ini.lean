import ModelAdapter.Settings.Setting
import ModelAdapter.Text.Blank
import ModelAdapter.Text.Escape

/-! # Settings in INI files

A text is a sequence of comments, section names and properties:

  * a comment starts with a semicolon or a hash sign in the first column and lasts
    to the end of its line;
  * a section name stands in brackets and holds until the next one;
  * a property is a name, an equals sign or a colon, and a value, which lasts to the
    end of the line.

Every value is a text.  Blanks around it are dropped, and parts of it may be in
quotes, which keep theirs.  A property before the first section name is a setting,
and a section is a table.  A value given later replaces one given earlier.
-/

namespace ModelAdapter.Ini

/-! ## §1. Parts -/

def escapes : Escapes where
  letters := [('0', ['\x00']), ('a', ['\x07']), ('b', ['\x08']), ('t', ['\t']), ('r', ['\r']),
    ('n', ['\n']), ('\n', [])]
  codes := [('x', 4)]
  braced := []
  itself _ := true

/-- The text up to one of several characters. -/
def until? (ends : Char → Bool) (cs : List Char) : Option (List Char × List Char) :=
  escapes.until? ends (fun _ => true) (cs.length + 1) cs

def endsLine (c : Char) : Bool := c == '\n' || c == '\r'

/-- The rest of a value.  Only the first part, if it is not in quotes, loses the blanks
before it. -/
def value? : (steps : Nat) → (first : Bool) → List Char → Option (List Char × List Char)
  | 0, _, _ => none
  | steps + 1, first, cs =>
      match cs with
      | [] => some ([], [])
      | '"' :: rest => quoted? steps '"' rest
      | '\'' :: rest => quoted? steps '\'' rest
      | cs => do
          let (part, rest) ← until? endsLine cs
          let part := if first then part.dropWhile Text.isBlank else part
          return ((part.reverse.dropWhile Text.isBlank).reverse, rest)
where
  /-- A part in quotes, and what follows it. -/
  quoted? (steps : Nat) (mark : Char) (cs : List Char) : Option (List Char × List Char) := do
    let (part, rest) ← escapes.quoted? mark (fun _ => true) cs
    let (more, rest) ← value? steps false rest
    return (part ++ more, rest)

/-! ## §2. Files -/

/-- The settings read so far: those before the first section, the sections, and the name
of the section being read. -/
structure State where
  settings : Settings
  title? : Option String

/-- Adds a property to the section being read. -/
def State.give (s : State) (name value : String) : State :=
  match s.title? with
  | none => { s with settings := s.settings ++ [(name, .text value)] }
  | some title => { s with settings := s.settings ++ [(title, .table [(name, .text value)])] }

def State.enter (s : State) (title : String) : State :=
  { settings := s.settings ++ [(title, .table [])], title? := some title }

/-- Reads the parts of a text one after the other; `firstColumn` says whether the text
begins at the first column of a line. -/
def parts? : (steps : Nat) → (firstColumn : Bool) → State → List Char → Option State
  | 0, _, _, _ => none
  | steps + 1, firstColumn, s, cs =>
      match cs with
      | [] => some s
      | ';' :: rest | '#' :: rest =>
          if firstColumn then parts? steps true s ((rest.dropWhile (· ≠ '\n')).drop 1) else none
      | '[' :: rest => do
          let (title, rest) ← until? (· == ']') rest
          if rest = [] then none
          parts? steps false (s.enter (String.ofList (Text.trim title))) rest.tail
      | '=' :: _ | ':' :: _ => none
      | c :: rest =>
          if Text.isBlank c then parts? steps (c == '\n') s rest
          else do
            let (name, rest) ← until? (fun c => c == '=' || c == ':') cs
            if rest = [] then none
            let (value, rest) ← value? (rest.length + 1) true
              (rest.tail.dropWhile (fun c => Text.isBlank c && !endsLine c))
            parts? steps false
              (s.give (String.ofList (Text.trim name)) (String.ofList value)) rest

end Ini

def Settings.ofIni? (text : String) : Option Settings :=
  (Ini.parts? (text.toList.length + 1) true ⟨[], none⟩ text.toList).map (·.settings)

end ModelAdapter
