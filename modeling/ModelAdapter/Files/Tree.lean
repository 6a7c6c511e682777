import ModelAdapter.Fault
import ModelAdapter.Files.Path

/-! # File trees

A file tree says what stands at each location; a location is the list of names
that lead to it from the root.  Three kinds of things can stand there: a file,
which may be a shared object; a directory; and a symbolic link.  What the system
is asked to do with any of them it may refuse, for a cause of its own: for want of
a permission, or because a name is too long, or a disk broken (`Request`).

A path is followed from the working directory (`resolve`):

  * a name leads to the entry of that name, and through a link to wherever that
    points;
  * two dots lead to the directory above, and from the root to the root;
  * only a directory can be followed further, and a slash or a dot at the end of
    a path asks for a directory;
  * a path that leads through more links than `linkLimit` is given up.
-/

namespace ModelAdapter

/-! ## §1. Trees -/

/-- A place in a file tree: the names that lead to it from the root. -/
abbrev Location := List Path

/-- What stands at a location. -/
inductive Entry
  /-- A file; if it is a shared object, with the symbols that it exports. -/
  | file (content : String) (symbols : Option (List String))
  | folder
  | link (target : Path)
  deriving DecidableEq, Repr

/-- What the system is asked to do. -/
inductive Request
  /-- To look a name up in a directory. -/
  | find (folder : Location) (name : Path)
  /-- To open a directory. -/
  | openFolder (folder : Location)
  /-- To go through the entries of an open directory and tell their kinds. -/
  | scan (folder : Location)
  /-- To tell the path from the root to a place. -/
  | trace (place : Location)
  deriving DecidableEq, Repr

/-- A file tree and the working directory, with the libraries of the system. -/
structure FileTree where
  entries : List (Location × Entry)
  home : Location
  /-- The symbols of the libraries that the system finds by a name alone. -/
  libraries : List (Path × List String) := []
  /-- Why a request is refused, if it is. -/
  refuses : Request → Option IoCause := fun _ => none

namespace FileTree

def empty : FileTree where
  entries := []
  home := []

/-- What stands at a location, if anything; the root is a directory. -/
def entry? (t : FileTree) (location : Location) : Option Entry :=
  if location = [] then some .folder
  else (t.entries.find? (fun e => e.1 == location)).map (·.2)

/-! ## §2. Following paths -/

def linkLimit : Nat := 40

/-- Where a path leads before it comes to a link. -/
inductive Walk
  | arrived (location : Location)
  | failed (cause : IoCause)
  /-- A link in the directory `folder`, with the names that are still to be followed. -/
  | atLink (folder : Location) (target : Path) (rest : List Path)
  deriving DecidableEq, Repr

/-- Follows names from a directory up to the first link. -/
def walk (t : FileTree) (folder : Location) : (names : List Path) → Walk
  | [] => .arrived folder
  | name :: rest =>
      match t.refuses (.find folder name) with
      | some cause => .failed cause
      | none =>
          if name = "." then walk t folder rest
          else if name = ".." then walk t folder.dropLast rest
          else
            match t.entry? (folder ++ [name]) with
            | none => .failed .notFound
            | some .folder => walk t (folder ++ [name]) rest
            | some (.file _ _) =>
                -- Nothing leads on from a file, not even a dot.
                if rest = [] then .arrived (folder ++ [name]) else .failed .notADirectory
            | some (.link target) => .atLink folder target rest

/-- The names of a path; a path that asks for a directory ends with a dot. -/
def namesOf (path : Path) : List Path :=
  path.components ++ (if path.namesFolder then [("." : Path)] else [])

/-- The directory that a path starts at, seen from another one. -/
def startOf (folder : Location) (path : Path) : Location :=
  if path.isAbsolute then [] else folder

/-- Follows names from a directory, through at most `links` links. -/
def follow (t : FileTree) : (links : Nat) → (folder : Location) → (names : List Path) →
    Except IoCause Location
  | links, folder, names =>
      match t.walk folder names with
      | .arrived location => .ok location
      | .failed cause => .error cause
      | .atLink folder target rest =>
          match links with
          | 0 => .error .tooManyLinks
          | links + 1 =>
              if target = "" then .error .notFound
              -- The target starts at the directory of the link, and the rest at what the target
              -- leads to.
              else follow t links (startOf folder target) (namesOf target ++ rest)

/-- The location that a path leads to, with what stands there.  A path with a NUL in it is
none for the system. -/
def resolve (t : FileTree) (path : Path) : Except IoCause (Location × Entry) :=
  if path = "" then .error .notFound
  else if 0 ∈ path.bytes then .error .unexpectedNul
  else do
    let location ← t.follow linkLimit (startOf t.home path) (namesOf path)
    match t.entry? location with
    | some entry => .ok (location, entry)
    | none => .error .notFound

/-- Puts a request to the system. -/
def request (t : FileTree) (r : Request) : Except IoCause Unit :=
  match t.refuses r with
  | some cause => .error cause
  | none => .ok ()

/-- The path from the root to a location. -/
def absolute (location : Location) : Path :=
  ⟨Path.slash :: [Path.slash].intercalate (location.map (·.bytes))⟩

/-- The path from the root, without links, to where a path leads. -/
def canonical (t : FileTree) (path : Path) : Except IoCause Path := do
  let (location, _) ← t.resolve path
  t.request (.trace location)
  return absolute location

/-! ## §3. Changing a tree -/

/-- Puts an entry at a location.  A directory that is there already stays. -/
def put (t : FileTree) (location : Location) (entry : Entry) : FileTree :=
  if t.entry? location = some entry then t
  else
    { t with entries := t.entries.filter (fun e => e.1 ≠ location) ++ [(location, entry)] }

/-- Goes down one name, or makes a directory of that name where there is nothing. -/
def enter (place : FileTree × Location) (name : Path) : FileTree × Location :=
  let (t, folder) := place
  match t.follow linkLimit folder [name] with
  | .ok location => (t, location)
  | .error _ => (t.put (folder ++ [name]) .folder, folder ++ [name])

/-- Makes an entry, and the directories that lead to it. -/
def create (t : FileTree) (path : Path) (entry : Entry) : FileTree :=
  match path.components.getLast? with
  | none => t
  | some name =>
      let (t, folder) := path.components.dropLast.foldl enter (t, startOf t.home path)
      t.put (folder ++ [name]) entry

def remove (t : FileTree) (path : Path) : FileTree :=
  match t.resolve path with
  | .ok (location, _) =>
      { t with entries := t.entries.filter (fun e => !location.isPrefixOf e.1) }
  | .error _ => t

end FileTree

end ModelAdapter
