import ModelAdapter.Device
import ModelAdapter.Files.Path

/-! # Faults

Everything that can go wrong, as a cause with the facts that its message tells.

  * `Fault.message` gives the wording.
  * `Fault.severity` splits the causes in two.  A call that the tree-ensemble
    engine refused through its own error contract is recoverable: the caller may
    go on with the model.  Every other fault is fatal: a deployment that is set
    up wrongly, or a call that breaks the contract.
  * A `Report` is the fault that stopped the construction of a model, with notes
    on what was being done, the last note first.
-/

namespace ModelAdapter

/-! ## §1. Failures of the operating system -/

/-- Why the operating system refused to read a file or directory. -/
inductive IoCause
  /-- The system gave an error number. -/
  | system (code : Nat)
  /-- The failure has no number, only a text. -/
  | other (text : String)
  deriving DecidableEq, Repr

namespace IoCause

def notFound : IoCause := .system 2
def notADirectory : IoCause := .system 20
def tooManyLinks : IoCause := .system 40

/-- A path with a NUL in it cannot be handed to the system. -/
def unexpectedNul : IoCause := .other "file name contained an unexpected NUL byte"

/-- The system's text for an error number. -/
def systemText : Nat → String
  | 1 => "Operation not permitted"
  | 2 => "No such file or directory"
  | 5 => "Input/output error"
  | 12 => "Cannot allocate memory"
  | 13 => "Permission denied"
  | 17 => "File exists"
  | 20 => "Not a directory"
  | 21 => "Is a directory"
  | 22 => "Invalid argument"
  | 23 => "Too many open files in system"
  | 24 => "Too many open files"
  | 28 => "No space left on device"
  | 36 => "File name too long"
  | 39 => "Directory not empty"
  | 40 => "Too many levels of symbolic links"
  | code => "Unknown error " ++ toString code

/-- A numbered failure is worded as the system's text with the number after it. -/
def message : IoCause → String
  | .system code => systemText code ++ " (os error " ++ toString code ++ ")"
  | .other text => text

end IoCause

/-! ## §2. Causes -/

/-- How a caller should treat a fault. -/
inductive Severity
  /-- A deployment or contract violation; going on is unsafe. -/
  | fatal
  /-- The engine refused a call through its own error contract. -/
  | recoverable
  deriving DecidableEq, Repr

/-- The causes of failure. -/
inductive Fault
  /-- No file in the scanned directories satisfies the artifact convention. -/
  | artifactNotFound (what : String) (dirs : List Path)
  /-- More than one file claims the same role. -/
  | ambiguousArtifact (what : String) (dir : Path)
  /-- A shared object could not be opened. -/
  | libraryLoad (reason : String)
  /-- A shared object lacks an entry point. -/
  | symbolNotFound (symbol : String) (reason : String)
  /-- An entry point returned a status other than zero. -/
  | backendStatus (call : String) (status : Int32)
  /-- The model has no input of this name. -/
  | inputNotFound (name : String)
  /-- The caller's rank differs from the declared one. -/
  | dimMismatch (expected actual : Nat)
  /-- The caller's shape differs from the declared one. -/
  | shapeMismatch (axis : Nat) (detail : String)
  /-- An index is at or past the count of what it selects from. -/
  | indexOutOfRange (kind : String) (index count : Nat)
  /-- The caller's buffer cannot hold the tensor. -/
  | bufferTooSmall (needed actual : Nat)
  /-- An operation that needs an input came before one was set. -/
  | inputNotSet
  /-- Output was asked for before a run produced it. -/
  | outputNotReady
  /-- The engine broke a condition that it must satisfy. -/
  | precondition (what : String)
  /-- The backend has no such control. -/
  | unsupported (operation : String) (backend : Backend)
  /-- The tree-ensemble engine refused a call, with its own message. -/
  | treelite (call : String) (text : String)
  /-- The configuration could not be loaded. -/
  | configuration (what : String)
  /-- A directory could not be scanned. -/
  | io (cause : IoCause)
  deriving DecidableEq, Repr

namespace Fault

/-- The wording of a fault. -/
def message : Fault → String
  | .artifactNotFound what dirs =>
      "No " ++ what ++ " found under folder(s): " ++ ", ".intercalate (dirs.map (·.display))
  | .ambiguousArtifact what dir => "Multiple " ++ what ++ " files under the folder: " ++ dir.display
  | .libraryLoad reason => "Model file open error: " ++ reason
  | .symbolNotFound symbol reason => "dlsym error for " ++ symbol ++ ": " ++ reason
  | .backendStatus call status => call ++ " failed: " ++ toString status.toInt
  | .inputNotFound name => "Input Tensor not found, name: " ++ name
  | .dimMismatch expected actual =>
      "Incorrect input dim: expected " ++ toString expected ++ ", got " ++ toString actual
  | .shapeMismatch axis detail =>
      "Incorrect input shape at dimension " ++ toString axis ++ ": " ++ detail
  | .indexOutOfRange kind index count =>
      kind ++ " index is out of range: " ++ toString index ++ " >= " ++ toString count
  | .bufferTooSmall needed actual =>
      "Buffer too small: need " ++ toString needed ++ " bytes, got " ++ toString actual
  | .inputNotSet => "Input has not been set"
  | .outputNotReady => "Output is not available; call run() after set_input()"
  | .precondition what => "Precondition violated: " ++ what
  | .unsupported operation backend =>
      operation ++ " is not supported by " ++ backend.name ++ " backend"
  | .treelite call text => call ++ " failed: " ++ text
  | .configuration what => "Configuration error: " ++ what
  | .io cause => "IO error: " ++ cause.message

/-- Only a call that the tree-ensemble engine refused is recoverable. -/
def severity : Fault → Severity
  | .treelite _ _ => .recoverable
  | _ => .fatal

end Fault

/-! ## §3. Reports -/

/-- The fault that stopped a construction, and notes on what was being done. -/
structure Report where
  fault : Fault
  /-- The notes, the last one first. -/
  notes : List String
  deriving DecidableEq, Repr

namespace Report

/-- A fault on which nothing has been noted yet. -/
def bare (fault : Fault) : Report := ⟨fault, []⟩

def note (text : String) (r : Report) : Report :=
  { r with notes := text :: r.notes }

end Report

section
variable {ε α β : Type} {x : Except ε α} {f : α → Except ε β}

theorem exists_of_bind_eq_ok {b : β} (h : x >>= f = .ok b) : ∃ a, x = .ok a ∧ f a = .ok b := by
  cases x with
  | error fault => cases h
  | ok a => exact ⟨a, rfl, h⟩

theorem bind_eq_ok_iff {b : β} : x >>= f = .ok b ↔ ∃ a, x = .ok a ∧ f a = .ok b := by
  constructor
  · exact exists_of_bind_eq_ok
  · intro ⟨a, hx, hf⟩
    rw [hx]
    exact hf

/-- A sequence fails exactly if its first part does, or else the second. -/
theorem bind_eq_error_iff {fault : ε} :
    x >>= f = .error fault ↔ x = .error fault ∨ ∃ a, x = .ok a ∧ f a = .error fault := by
  cases x with
  | error fault' =>
    have hbind : (Except.error fault' >>= f : Except ε β) = .error fault' := rfl
    simp [hbind]
  | ok a =>
    have hbind : (Except.ok a >>= f : Except ε β) = f a := rfl
    simp [hbind]

end

end ModelAdapter
