import ModelAdapter.Files.Listing
import ModelAdapter.Event

/-! # Finding a model of the DSP engine

A directory holds a model of the DSP engine when exactly one file in it has a
name that ends with `modelSuffix`.  The skeleton library, which the DSP loads,
may stand beside it under the name `skeletonFile`.

The DSP's loader is told by a variable of the process where the skeleton library
is: when there is one, its directory is exported there, as a path from the root
and without links.
-/

namespace ModelAdapter.Hexagon

/-! ## §1. Locating -/

/-- How the name of a model's shared object ends. -/
def modelSuffix : String := "_hexagon_model.so"

/-- The files of a model: its directory, its shared object, and the skeleton library when
one stands beside it. -/
structure Artifact where
  dir : Path
  modelFile : Path
  skeletonFile : Option Path
  deriving DecidableEq, Repr

/-- What a scan has come across. -/
structure Found where
  modelFile : Option Path
  skeletonFile : Option Path
  deriving DecidableEq, Repr

/-- Looks at one file of the directory `dir`.  A second model file ends the scan. -/
def scanFile (dir : Path) (found : Found) (path : Path) : Except Fault Found :=
  if path.fileNameEndsWith modelSuffix then
    match found.modelFile with
    | some _ => .error (.ambiguousArtifact modelSuffix dir)
    | none => .ok { found with modelFile := some path }
  else if path.fileName = skeletonFile then .ok { found with skeletonFile := some path }
  else .ok found

/-- The fault of directories that hold no model file. -/
def noModelFile (dirs : List Path) : Fault :=
  .artifactNotFound (modelSuffix ++ " file") dirs

/-- Finds the one model in a directory. -/
def locate (t : FileTree) (dir : Path) : Except Fault Artifact := do
  let files ← t.list dir
  let found ← files.foldlM (scanFile dir) ⟨none, none⟩
  match found.modelFile with
  | some modelFile => .ok { dir, modelFile, skeletonFile := found.skeletonFile }
  | none => .error (noModelFile [dir])

/-! ## §2. The skeleton library -/

/-- What exporting came to: the directory exported, if there was one to export, and what
was logged. -/
structure Exported where
  result : Except Fault (Option Path)
  events : List Event

/-- Tells the DSP's loader where the skeleton library is. -/
def Artifact.exportSkeleton (a : Artifact) (t : FileTree) : Exported :=
  match a.skeletonFile with
  | none => ⟨.ok none, [.skeletonMissing]⟩
  | some _ =>
      match t.canonical a.dir with
      | .ok path => ⟨.ok (some path), [.skeletonExported path]⟩
      | .error cause => ⟨.error (.io cause), []⟩

end ModelAdapter.Hexagon
