import ModelAdapter.Files.Tree

/-! # Listings

The files that stand directly in a directory: not those further down, and neither
directories nor links.  A listing gives each as a path, the directory's path
joined with the file's name, in the order of paths; so the order in which the tree
keeps its entries does not matter.  The directory has to be opened for that, and its
entries gone through.

The listing of several directories is their listings one after the other, and
fails with the first of them that fails.
-/

namespace ModelAdapter.FileTree

/-- The name of an entry that is a file standing directly in a directory. -/
def fileIn? (folder : Location) (e : Location × Entry) : Option Path :=
  match e.2 with
  | .file _ _ => if e.1.dropLast = folder then e.1.getLast? else none
  | _ => none

/-- The names of the files in a directory, as the tree has them. -/
def fileNames (t : FileTree) (folder : Location) : List Path :=
  t.entries.filterMap (fileIn? folder)

/-- The directory that a path leads to, opened and gone through. -/
def readFolder (t : FileTree) (dir : Path) : Except IoCause Location := do
  match ← t.resolve dir with
  | (location, .folder) =>
      t.request (.openFolder location)
      t.request (.scan location)
      return location
  | _ => .error .notADirectory

/-- The paths of the files in a directory, in order. -/
def list (t : FileTree) (dir : Path) : Except Fault (List Path) :=
  match t.readFolder dir with
  | .ok location => .ok (((t.fileNames location).map dir.join).mergeSort Path.le)
  | .error cause => .error (.io cause)

/-- The paths of the files in several directories, directory by directory. -/
def listAll (t : FileTree) : (dirs : List Path) → Except Fault (List Path)
  | [] => .ok []
  | dir :: dirs => do
      let files ← t.list dir
      let others ← t.listAll dirs
      return files ++ others

end ModelAdapter.FileTree
