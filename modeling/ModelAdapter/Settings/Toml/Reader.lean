import ModelAdapter.Settings.Toml.Moment
import ModelAdapter.Settings.Toml.Table
import ModelAdapter.Text.Escape

/-! # Settings in TOML

The reading of a TOML document, statement by statement.  An empty document has no
settings.  Integers may be in base two, eight or sixteen, underscores may stand
between digits, and a moment counts as the text that it is written as.
-/

namespace ModelAdapter.Toml

/-! ## §1. Gaps -/

def isBlank (c : Char) : Bool := c == ' ' || c == '\t'

def skipBlanks (cs : List Char) : List Char := cs.dropWhile isBlank

/-- The text after leading blanks, line ends and comments. -/
def skip : (inComment : Bool) → List Char → List Char
  | _, [] => []
  | true, c :: rest => skip (c != '\n') rest
  | false, c :: rest =>
      if isBlank c || c == '\n' then skip false rest
      else if c == '#' then skip true rest
      else c :: rest

/-- What follows a statement: blanks and a comment up to the end of the line. -/
def lineEnd? (cs : List Char) : Option (List Char) :=
  match skipBlanks cs with
  | [] => some []
  | '\n' :: rest => some rest
  | '#' :: rest => some (rest.dropWhile (· ≠ '\n'))
  | _ => none

/-! ## §2. Strings -/

def escapes : Escapes where
  letters := [('b', ['\x08']), ('t', ['\t']), ('n', ['\n']), ('f', ['\x0c']), ('r', ['\r']),
    ('"', ['"']), ('\\', ['\\'])]
  codes := [('u', 4), ('U', 8)]
  braced := []
  itself _ := false

/-- Control characters other than a tab must be escaped. -/
def isPlain (c : Char) : Bool := c == '\t' || (0x20 ≤ c.toNat && c.toNat ≠ 0x7F)

/-- A string in single quotes, after the opening one; in it a backslash stands for itself. -/
def literal? (cs : List Char) : Option (List Char × List Char) :=
  match Text.splitWhile (fun c => isPlain c && c ≠ '\'') cs with
  | (text, '\'' :: rest) => some (text, rest)
  | _ => none

/-- A string in double quotes, after the opening one. -/
def basic? (cs : List Char) : Option (List Char × List Char) := escapes.quoted? '"' isPlain cs

/-- The rest of a string of several lines.  Up to two quotes may stand before the three
that close it, and in double quotes a backslash at the end of a line joins it to the next
character that is not blank. -/
def lines? (mark : Char) : (steps : Nat) → List Char → Option (List Char × List Char)
  | 0, _ => none
  | _ + 1, [] => none
  | steps + 1, c :: rest =>
      if (c :: rest).take 3 = [mark, mark, mark] then
        -- Of up to five quotes the last three close the string.
        let extra := ((rest.drop 2).take 2).takeWhile (· == mark)
        some (extra, rest.drop (2 + extra.length))
      else if c = '\\' ∧ mark = '"' then
        if (skipBlanks rest).head? = some '\n' then
          lines? mark steps (rest.dropWhile (fun c => isBlank c || c == '\n'))
        else do
          let (meant, rest) ← escapes.read? rest
          let (more, rest) ← lines? mark steps rest
          return (meant ++ more, rest)
      else if isPlain c || c == '\n' then do
        let (more, rest) ← lines? mark steps rest
        return (c :: more, rest)
      else none

/-- A string of several lines, after the opening quotes and a line end right behind them. -/
def multiline? (mark : Char) (cs : List Char) : Option (List Char × List Char) :=
  let cs := match cs with
    | '\n' :: rest => rest
    | cs => cs
  lines? mark (cs.length + 1) cs

/-! ## §3. Numbers -/

/-- The digits without the underscores between them. -/
def joined? (isDigit : Char → Bool) : (afterDigit : Bool) → List Char → Option (List Char)
  | _, [] => some []
  | afterDigit, c :: rest =>
      if c = '_' then
        if afterDigit && rest.head?.any isDigit then joined? isDigit false rest else none
      else (joined? isDigit (isDigit c) rest).map (c :: ·)

/-- Whether the digits before the point are well written: there are some, and only 0 itself
begins with a zero. -/
def wholePart (digits : List Char) : Bool :=
  digits != [] && (digits.length == 1 || digits.head? != some '0')

/-- A number in base ten. -/
def decimal? (word : List Char) : Option Setting := do
  let word ← joined? Char.isDigit false word
  let (sign, digits) := Text.sign word
  let (whole, rest) := Text.splitWhile Char.isDigit digits
  if !wholePart whole then none
  -- Without a point and an exponent it is an integer.
  match rest with
  | [] => (Integer.word64? (sign ++ whole)).map .integer
  | '.' :: after => if after.head?.any Char.isDigit then float? word else none
  | _ => float? word
where
  /-- A float64 value that is not too large. -/
  float? (word : List Char) : Option Setting :=
    match Binary64.read? word with
    | some (.infinite false) | none => none
    | some v => some (.float v)

/-- An integer in a base other than ten. -/
def based? (base : Nat) (word : List Char) : Option Setting := do
  let digits ← joined? (fun c => (Integer.digitIn? base c).isSome) false word
  let n := Int.ofNat (← Integer.naturalIn? base digits)
  if Integer.fits64 n then return .integer n else none

/-- What a word stands for that is neither a string nor a moment. -/
def word? (word : List Char) : Option Setting :=
  match String.ofList word with
  | "true" => some (.flag true)
  | "false" => some (.flag false)
  | "inf" | "+inf" => some (.float (.infinite false))
  | "-inf" => some (.float (.infinite true))
  | "nan" | "+nan" | "-nan" => some (.float .nan)
  | _ =>
      match word with
      | '0' :: 'x' :: digits => based? 16 digits
      | '0' :: 'o' :: digits => based? 8 digits
      | '0' :: 'b' :: digits => based? 2 digits
      | _ => decimal? word

/-! ## §4. Names and values -/

/-- One part of a name. -/
def namePart? : List Char → Option (String × List Char)
  | '"' :: rest => (basic? rest).map (fun p => (String.ofList p.1, p.2))
  | '\'' :: rest => (literal? rest).map (fun p => (String.ofList p.1, p.2))
  | cs =>
      match Text.splitWhile (fun c => c.isAlphanum || c == '_' || c == '-') cs with
      | ([], _) => none
      | (name, rest) => some (String.ofList name, rest)

/-- A name of one or more parts with dots between them, and the blanks after it. -/
def path? : (steps : Nat) → List Char → Option (List String × List Char)
  | 0, _ => none
  | steps + 1, cs => do
      let (part, rest) ← namePart? (skipBlanks cs)
      match skipBlanks rest with
      | '.' :: rest => (path? steps rest).map (fun p => (part :: p.1, p.2))
      | rest => return ([part], rest)

mutual

/-- A value. -/
def value? : (steps : Nat) → List Char → Option (Setting × List Char)
  | 0, _ => none
  | steps + 1, cs =>
      match cs with
      | '"' :: '"' :: '"' :: rest => (multiline? '"' rest).map text
      | '\'' :: '\'' :: '\'' :: rest => (multiline? '\'' rest).map text
      | '"' :: rest => (basic? rest).map text
      | '\'' :: rest => (literal? rest).map text
      | '[' :: rest => (elements? steps rest).map (fun p => (.list p.1, p.2))
      | '\x7b' :: rest =>
          match skipBlanks rest with
          | '\x7d' :: rest => some (.table [], rest)
          | rest => (entries? steps [] rest).map (fun p => (.table (settings p.1), p.2))
      | cs =>
          match Moment.read? cs with
          | some p => some (text p)
          | none =>
              let (word, rest) := Text.splitWhile Text.isWordChar cs
              (word? word).map (fun setting => (setting, rest))
where
  text (p : List Char × List Char) : Setting × List Char := (.text (String.ofList p.1), p.2)

/-- The elements of an array up to its closing bracket. -/
def elements? : (steps : Nat) → List Char → Option (List Setting × List Char)
  | 0, _ => none
  | steps + 1, cs =>
      match skip false cs with
      | ']' :: rest => some ([], rest)
      | cs => do
          let (element, rest) ← value? steps cs
          match skip false rest with
          | ',' :: rest => (elements? steps rest).map (fun p => (element :: p.1, p.2))
          | ']' :: rest => some ([element], rest)
          | _ => none

/-- The entries of a table in braces up to the closing one. -/
def entries? : (steps : Nat) → Nodes → List Char → Option (Nodes × List Char)
  | 0, _, _ => none
  | steps + 1, nodes, cs => do
      let (path, rest) ← path? (cs.length + 1) cs
      let (value, rest) ← value? steps (skipBlanks (← Text.after? "=" rest))
      let nodes ← assign? path value nodes
      match skipBlanks rest with
      | ',' :: rest => entries? steps nodes rest
      | '\x7d' :: rest => some (nodes, rest)
      | _ => none

end

/-! ## §5. Documents -/

/-- A statement, and the text after its line. -/
def statement? (cs : List Char) : Option (Statement × List Char) :=
  match cs with
  | '[' :: '[' :: rest => do
      let (path, rest) ← path? (rest.length + 1) rest
      return (.element path, ← lineEnd? (← Text.after? "]]" rest))
  | '[' :: rest => do
      let (path, rest) ← path? (rest.length + 1) rest
      return (.header path, ← lineEnd? (← Text.after? "]" rest))
  | cs => do
      let (path, rest) ← path? (cs.length + 1) cs
      let rest ← Text.after? "=" rest
      let (value, rest) ← value? (rest.length + 1) (skipBlanks rest)
      return (.assignment path value, ← lineEnd? rest)

/-- Carries out the statements of a text one after the other. -/
def statements? : (steps : Nat) → Document → List Char → Option Document
  | 0, _, _ => none
  | steps + 1, d, cs =>
      match skip false cs with
      | [] => some d
      | cs => do
          let (statement, rest) ← statement? cs
          statements? steps (← d.obey? statement) rest

/-- The text with one character for each line end. -/
def lineFeeds : List Char → List Char
  | '\r' :: '\n' :: rest => '\n' :: lineFeeds rest
  | c :: rest => c :: lineFeeds rest
  | [] => []

end Toml

def Settings.ofToml? (text : String) : Option Settings :=
  let cs := Toml.lineFeeds text.toList
  (Toml.statements? (cs.length + 1) ⟨[], []⟩ cs).map (fun d => Toml.settings d.nodes)

end ModelAdapter
