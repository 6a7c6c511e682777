import ModelAdapter.Hexagon.Artifact
import ModelAdapter.Treelite.Artifact

/-! # Which backend serves some directories

A file with the name of a DSP model, in any of the directories, calls for the
DSP engine; the directories after the first such file are not looked at.  Else
a file that could be a tree ensemble calls for the tree-ensemble engine.
-/

namespace ModelAdapter

/-- The first directory that holds a model of the DSP engine. -/
def hexagonDir (t : FileTree) : (dirs : List Path) → Except Fault (Option Path)
  | [] => .ok none
  | dir :: dirs => do
      let files ← t.list dir
      if files.any (·.fileNameEndsWith Hexagon.modelSuffix) then return some dir
      else hexagonDir t dirs

/-- Whether some directory holds what could be a model of the tree-ensemble engine. -/
def hasTreelite (t : FileTree) : (dirs : List Path) → Except Fault Bool
  | [] => .ok false
  | dir :: dirs => do
      let files ← t.list dir
      if files.any Treelite.isCandidate then return true else hasTreelite t dirs

/-- The backend that serves some directories. -/
def detectBackend (t : FileTree) (dirs : List Path) : Except Fault Backend := do
  match ← hexagonDir t dirs with
  | some _ => return .hexagon
  | none =>
      if ← hasTreelite t dirs then return .treelite
      else .error (.artifactNotFound "supported model artifact" dirs)

end ModelAdapter
