import ModelAdapter.Files.Tree

/-! # Shared objects

A shared object is opened by its path, and then each entry point that is needed
is looked up in it, in a fixed order; the first one that is missing is the fault.
A name without a slash is no path: it is looked for among the libraries of the
system.
-/

namespace ModelAdapter.FileTree

/-- The symbols of the shared object that a path leads to, or of the system's library of a
name. -/
def openLibrary (t : FileTree) (path : Path) : Except Fault (List String) :=
  if Path.slash ∈ path.bytes then
    match t.resolve path with
    | .ok (_, .file _ (some symbols)) => .ok symbols
    | .ok _ => .error (.libraryLoad (path.display ++ ": not a shared object"))
    | .error cause => .error (.libraryLoad (path.display ++ ": " ++ cause.message))
  else
    match t.libraries.lookup path with
    | some symbols => .ok symbols
    | none => .error (.libraryLoad (path.display ++ ": not among the libraries of the system"))

/-- Looks the needed symbols up, in order. -/
def findSymbols (exported : List String) : (needed : List String) → Except Fault Unit
  | [] => .ok ()
  | symbol :: needed =>
      if exported.contains symbol then findSymbols exported needed
      else .error (.symbolNotFound symbol "undefined symbol")

/-- Opens a shared object that must export the needed symbols. -/
def bindLibrary (t : FileTree) (path : Path) (needed : List String) : Except Fault Unit := do
  findSymbols (← t.openLibrary path) needed

end ModelAdapter.FileTree
