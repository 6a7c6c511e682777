import ModelAdapter.Settings.Yaml.Scalar

/-! # Settings in YAML

The reading of a YAML stream of at most one document, whose root is a mapping.  A
stream without a document has no settings.

  * A mapping or a sequence in block style ends with the first line that begins
    before its own column; a sequence that is the value of a name may begin at the
    column of the name.
  * A name is given once in a mapping.  It is a text or an integer.
  * A collection in brackets or braces may go on over any number of lines.

Tags, anchors, aliases, and names other than scalars on one line are not read.
-/

namespace ModelAdapter.Yaml

/-! ## §1. Names -/

def nameOf? : Setting → Option String
  | .text s => some s
  | .integer n => some (toString n)
  | _ => none

/-- A name that is given a value, and the text after its colon. -/
def name? (ms : List Mark) : Option (Setting × List Mark) := do
  let (name, rest) ←
    match quoted? ms with
    | some (text, rest) =>
        -- A name begins and ends on one line.
        if lineEnds ms = lineEnds rest then some (.text (String.ofList text), skipBlanks rest)
        else none
    | none =>
        if startsPlain false ms then
          let (part, rest) := plainPart false ms
          (resolve? part).map (fun name => (name, skipBlanks rest))
        else none
  match rest with
  | m :: rest => if m.char = ':' ∧ atGap rest then return (name, rest) else none
  | [] => none

/-- Adds an entry to those read before it, the last one first. -/
def addEntry? (name value : Setting) (before : Settings) : Option Settings := do
  let name ← nameOf? name
  if before.any (·.1 == name) then none else return (name, value) :: before

/-- A scalar in plain style. -/
def plain? (flow : Bool) (least : Nat) (ms : List Mark) : Option (Setting × List Mark) :=
  if startsPlain flow ms then
    let (part, rest) := plainPart flow ms
    let (more, rest) := plainMore flow least (rest.length + 1) rest
    (resolve? (part ++ more)).map (fun s => (s, rest))
  else none

/-! ## §2. Collections in brackets and braces -/

mutual

/-- A value inside brackets or braces, or one that begins with them. -/
def flow? : (steps : Nat) → List Mark → Option (Setting × List Mark)
  | 0, _ => none
  | steps + 1, ms =>
      match ms with
      | [] => none
      | m :: rest =>
          if m.char = '[' then (flowItems? steps rest).map (fun p => (.list p.1, p.2))
          else if m.char = '\x7b' then
            (flowEntries? steps [] rest).map (fun p => (.table p.1, p.2))
          else
            match quoted? ms with
            | some (text, rest) => some (.text (String.ofList text), rest)
            | none => plain? true 0 ms

/-- The value behind a colon in braces, if there is one. -/
def flowValue? : (steps : Nat) → List Mark → Option (Setting × List Mark)
  | 0, _ => none
  | steps + 1, ms =>
      match ms with
      | [] => none
      | m :: rest =>
          if m.char = ':' then
            match skip rest with
            | [] => none
            | next :: after =>
                if next.char = ',' ∨ next.char = ']' ∨ next.char = '\x7d' then
                  some (.null, next :: after)
                else flow? steps (next :: after)
          else some (.null, ms)

/-- The items in brackets up to the closing one.  A single entry counts as a table. -/
def flowItems? : (steps : Nat) → List Mark → Option (List Setting × List Mark)
  | 0, _ => none
  | steps + 1, ms =>
      match skip ms with
      | [] => none
      | m :: rest =>
          if m.char = ']' then some ([], rest)
          else do
            let (item, rest) ← flow? steps (m :: rest)
            let next := skip rest
            let (item, rest) ←
              if next.head?.map Mark.char = some ':' then do
                let (value, rest) ← flowValue? steps next
                let entry ← addEntry? item value []
                pure (Setting.table entry, rest)
              else some (item, next)
            match skip rest with
            | [] => none
            | m :: rest =>
                if m.char = ',' then
                  (flowItems? steps rest).map (fun p => (item :: p.1, p.2))
                else if m.char = ']' then some ([item], rest)
                else none

/-- The entries in braces up to the closing one. -/
def flowEntries? : (steps : Nat) → Settings → List Mark → Option (Settings × List Mark)
  | 0, _, _ => none
  | steps + 1, before, ms =>
      match skip ms with
      | [] => none
      | m :: rest =>
          if m.char = '\x7d' then some (before.reverse, rest)
          else do
            let (name, rest) ← flow? steps (m :: rest)
            let (value, rest) ← flowValue? steps (skip rest)
            let entries ← addEntry? name value before
            match skip rest with
            | [] => none
            | m :: rest =>
                if m.char = ',' then flowEntries? steps entries rest
                else if m.char = '\x7d' then some (entries.reverse, rest)
                else none

end

/-! ## §3. Collections in block style -/

mutual

/-- A value.  It begins at the column `least` or after it, or there is none; behind a name on
the same line no other name and no sequence can begin. -/
def node? : (steps least : Nat) → (behindName : Bool) → List Mark →
    Option (Setting × List Mark)
  | 0, _, _, _ => none
  | steps + 1, least, behindName, ms =>
      match ms with
      | [] => some (.null, [])
      | m :: rest =>
          if m.column < least then some (.null, ms)
          else if m.char = '-' ∧ atGap rest then
            if behindName then none
            else (sequence? steps m.column ms).map (fun p => (.list p.1, p.2))
          else if m.char = '|' ∨ m.char = '>' then
            (block? least ms).map (fun p => (.text (String.ofList p.1), p.2))
          -- Only its colon makes a scalar a name, so it is read up to there first.
          else if (name? ms).isSome then
            if behindName then none
            else (mapping? steps m.column [] ms).map (fun p => (.table p.1, p.2))
          else if m.char = '[' ∨ m.char = '\x7b' then flow? ms.length ms
          else
            match quoted? ms with
            | some (text, rest) => some (.text (String.ofList text), rest)
            | none => plain? false least ms

/-- The value of a name at a column, after the colon. -/
def valueOf? : (steps column : Nat) → List Mark → Option (Setting × List Mark)
  | 0, _, _ => none
  | steps + 1, column, ms =>
      let next := skip ms
      let behindName := lineEnds next = lineEnds ms
      match next with
      | [] => some (.null, [])
      | m :: rest =>
          if m.column = column ∧ m.char = '-' ∧ atGap rest then
            (sequence? steps column next).map (fun p => (.list p.1, p.2))
          else node? steps (column + 1) behindName next

/-- The items of a sequence whose dashes stand at a column. -/
def sequence? : (steps column : Nat) → List Mark → Option (List Setting × List Mark)
  | 0, _, _ => none
  | steps + 1, column, ms =>
      match ms with
      | [] => some ([], [])
      | m :: rest =>
          if m.column = column ∧ m.char = '-' ∧ atGap rest then do
            let (item, rest) ← node? steps (column + 1) false (skip rest)
            let (items, rest) ← sequence? steps column (skip rest)
            return (item :: items, rest)
          else some ([], ms)

/-- The entries of a mapping whose names stand at a column; those before are given with the
last one first. -/
def mapping? : (steps column : Nat) → Settings → List Mark → Option (Settings × List Mark)
  | 0, _, _, _ => none
  | steps + 1, column, before, ms =>
      match ms with
      | [] => some (before.reverse, [])
      | m :: _ =>
          if m.column = column then do
            let (name, rest) ← name? ms
            let (value, rest) ← valueOf? steps column rest
            mapping? steps column (← addEntry? name value before) (skip rest)
          else some (before.reverse, ms)

end

/-! ## §4. Documents -/

abbrev Line := List Char

/-- Whether a line is such a marker between documents. -/
def isMarker (marker : String) (line : Line) : Bool :=
  match Text.after? marker line with
  | some rest => rest.head?.all isBlank
  | none => false

def startsDocument (line : Line) : Bool := isMarker "---" line

def endsDocument (line : Line) : Bool := isMarker "..." line

/-- Whether a line holds nothing but blanks and a comment. -/
def isBare (line : Line) : Bool :=
  match line.dropWhile isBlank with
  | [] => true
  | c :: _ => c == '#'

/-- Whether a line before a document belongs to none. -/
def isBefore (line : Line) : Bool := isBare line || line.head? == some '%' || endsDocument line

/-- The lines of the only document of a stream, and whether its text begins on the line of its
marker; nothing when there are several documents. -/
def document? (lines : List Line) : Option (List Line × Bool) :=
  let (first, others, behindMarker) := match lines.dropWhile isBefore with
    | [] => ([], [], false)
    | line :: others =>
        if startsDocument line then
          -- Blanks in place of the marker keep the columns of what stands behind it.
          ([' ', ' ', ' '] ++ line.drop 3, others, !isBare (line.drop 3))
        else (line, others, false)
  let isBody (line : Line) : Bool := !startsDocument line && !endsDocument line
  match others.dropWhile isBody with
  | [] => some (first :: others, behindMarker)
  | line :: after =>
      if endsDocument line && isBare (line.drop 3) && after.all isBefore then
        some (first :: others.takeWhile isBody, behindMarker)
      else none

/-- The text with one character for each line end. -/
def lineFeeds : List Char → List Char
  | '\r' :: '\n' :: rest => '\n' :: lineFeeds rest
  | c :: rest => (if c = '\r' then '\n' else c) :: lineFeeds rest
  | [] => []

end Yaml

/-- The settings in a YAML stream. -/
def Settings.ofYaml? (text : String) : Option Settings := do
  let lines := Text.pieces '\n' (Yaml.lineFeeds text.toList)
  if lines.all Yaml.isBefore then return []
  let (lines, behindMarker) ← Yaml.document? lines
  let ms := Yaml.skip (Yaml.marks 0 (['\n'].intercalate lines))
  -- No character takes more than two steps.
  match ← Yaml.node? (2 * ms.length + 2) 0 behindMarker ms with
  | (.table entries, rest) => if Yaml.skip rest = [] then return entries else none
  | _ => none

end ModelAdapter
