import ModelAdapter.Event
import ModelAdapter.Files.Listing

/-! # Finding a model of the tree-ensemble engine

A model of the tree-ensemble engine is a shared object, which can have any name
but that of the runtime's own library, in one of several directories.  A version
manifest may be there too; it is noted and not read.

When several files could be the model, the last one is taken, in the order of the
directories and of the names in each, with a warning for each one passed over.
-/

namespace ModelAdapter.Treelite

/-- How the name of a shared object ends. -/
def libraryExtension : String := ".so"

/-- The runtime's own library, which is never a model. -/
def runtimeLibrary : String := "libdlr.so"

def versionFile : String := "version.json"

/-- The files of a model: the compiled ensemble, and the version manifest when there is
one. -/
structure Artifact where
  modelLib : Path
  verJson : Option Path
  deriving DecidableEq, Repr

/-- Whether a file could be a model. -/
def isCandidate (path : Path) : Bool :=
  path.fileName ≠ runtimeLibrary && path.fileNameEndsWith libraryExtension

/-- What a scan has come across, and the warnings about files passed over. -/
structure Found where
  modelLib : Option Path
  verJson : Option Path
  warnings : List Event
  deriving DecidableEq, Repr

/-- The warning that one candidate takes the place of another. -/
def replacing (previous : Option Path) (chosen : Path) : List Event :=
  match previous with
  | some previous => [.libraryReplaced previous chosen]
  | none => []

/-- Looks at one file. -/
def scanFile (found : Found) (path : Path) : Found :=
  if isCandidate path then
    { found with modelLib := some path
                 warnings := found.warnings ++ replacing found.modelLib path }
  else if path.fileName = versionFile then { found with verJson := some path }
  else found

/-- Looks at every file of some directories. -/
def scan (t : FileTree) (dirs : List Path) : Except Fault Found :=
  (t.listAll dirs).map (·.foldl scanFile ⟨none, none, []⟩)

/-- The model among the files of some directories. -/
def Found.artifact (found : Found) (dirs : List Path) : Except Fault Artifact :=
  match found.modelLib with
  | some modelLib => .ok { modelLib, verJson := found.verJson }
  | none => .error (.artifactNotFound "valid Treelite model files" dirs)

/-- Finds the model in some directories, with the warnings on the way. -/
def locate (t : FileTree) (dirs : List Path) : Except Fault Artifact × List Event :=
  match scan t dirs with
  | .ok found => (found.artifact dirs, found.warnings)
  | .error fault => (.error fault, [])

end ModelAdapter.Treelite
