import ModelAdapter.Text.Scan
import ModelAdapter.Text.Utf8

/-! # Paths

A path is a sequence of bytes in which slashes divide the names of directories and,
at the end, of a file.  The file system asks nothing else of a name, so a name is
mostly text and need not be.  Empty names between slashes mean nothing, and neither
does a single dot; two dots lead back to the directory above.

  * `components` are the names that a path leads through.
  * `join` puts a name at the end of a directory's path, whatever its spelling.
  * `fileName` is the last name of a path as text, and empty when it is no text.
  * `display` shows a path that need not be text.
-/

namespace ModelAdapter

/-- A path, or a single name. -/
structure Path where
  bytes : List UInt8
  deriving DecidableEq, Repr

namespace Path

/-! ## §1. Text -/

/-- The path that a text spells. -/
def ofText (text : String) : Path := ⟨Utf8.encode text⟩

instance : Coe String Path := ⟨ofText⟩

/-- How a path is shown, with replacement characters for what is no text in it. -/
def display (path : Path) : String := Utf8.decode path.bytes

/-- The text that a path spells, if it does. -/
def text? (path : Path) : Option String :=
  if Utf8.encode path.display = path.bytes then some path.display else none

/-- The text of a name; empty when the name is no text. -/
def text (name : Path) : String := name.text?.getD ""

/-! ## §2. Components -/

/-- The byte that divides names. -/
def slash : UInt8 := 0x2F

/-- The byte that an extension begins behind. -/
def dot : UInt8 := 0x2E

/-- The pieces of a path between slashes. -/
def pieces (path : Path) : List Path := (Text.pieces slash path.bytes).map Path.mk

/-- The names that a path leads through, steps back among them. -/
def components (path : Path) : List Path :=
  path.pieces.filter (fun (name : Path) => name ≠ "" ∧ name ≠ ".")

def isAbsolute (path : Path) : Bool := path.bytes.head? == some slash

/-- Whether a path can only be that of a directory: its last piece is empty or a dot. -/
def namesFolder (path : Path) : Bool :=
  match path.pieces.getLast? with
  | some piece => piece == "" || piece == "."
  | none => false

/-! ## §3. Joining and taking apart -/

/-- The path of the entry `name` of the directory `dir`. -/
def join (dir name : Path) : Path :=
  if dir = "" then name
  else if dir.bytes.getLast? = some slash then ⟨dir.bytes ++ name.bytes⟩
  else ⟨dir.bytes ++ slash :: name.bytes⟩

/-- The last name of a path, unless it leads back at its end. -/
def lastName? (path : Path) : Option Path :=
  match path.components.getLast? with
  | some name => if name = ".." then none else some name
  | none => none

/-- The last name of a path as text; empty when there is none or it is no text. -/
def fileName (path : Path) : String :=
  match path.lastName? with
  | some name => name.text
  | none => ""

def endsWith (text ending : String) : Bool :=
  ending.toList.isSuffixOf text.toList

def fileNameEndsWith (path : Path) (ending : String) : Bool :=
  endsWith path.fileName ending

/-- What follows the last dot of the last name of a path.  A name whose only dot is its
first byte has no extension. -/
def extension? (path : Path) : Option String := do
  let name ← path.lastName?
  let after := (name.bytes.reverse.takeWhile (· ≠ dot)).reverse
  if after.length + 1 < name.bytes.length then text? ⟨after⟩ else none

/-! ## §4. Order -/

/-- What a path is ordered by: its components one after the other, each as its bytes behind
a byte for its kind.  The root comes first, then a dot at the beginning, a step back, and
last a name. -/
def key (path : Path) : List (List UInt8) :=
  (if path.isAbsolute then [[0]] else if path.pieces.head? = some "." then [[1]] else [])
    ++ path.components.map (fun (name : Path) => if name = ".." then [2] else 3 :: name.bytes)

def le (a b : Path) : Bool := decide (a.key ≤ b.key)

end Path

end ModelAdapter
