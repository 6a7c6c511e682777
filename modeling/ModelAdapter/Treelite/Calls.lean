import ModelAdapter.Engine
import ModelAdapter.Files.Path
import ModelAdapter.Sparse

/-! # The calls of the tree-ensemble engine

The engine loads a compiled ensemble and answers for it under a handle, the
predictor.  Input is handed over as a sparse matrix, which the engine assembles
into a batch under a handle of its own; the batch stays until it is released, and
the predictor until it is freed.

A call that fails says so with a fault of its own.  A call that writes values
writes them into slots that it is given: the reply of `predictBatch` holds the
slots afterwards, also when it failed.
-/

namespace ModelAdapter.Treelite

/-- What the engine answers for: a predictor or a batch. -/
abbrev Handle := Nat

/-- A feature of a single instance, as its bit pattern: a float32 value, or the mark of a
missing one. -/
structure Entry where
  bits : UInt32
  deriving DecidableEq, Repr

namespace Entry

/-- A feature that has a value. -/
def value (v : Binary32) : Entry := ⟨v.bits⟩

/-- A missing feature is marked by -1. -/
def missing : Entry := ⟨0xFFFFFFFF⟩

/-- Unless said otherwise, a feature is zero. -/
def default : Entry := value .zero

instance : Inhabited Entry := ⟨default⟩

/-- The bit pattern read as a signed number. -/
def signedBits (e : Entry) : Int := Int.bmod e.bits.toNat 0x100000000

end Entry

inductive Call
  /-- Loads a compiled ensemble, to be worked on by so many threads. -/
  | load (library : Path) (threads : Int32)
  | numFeature (predictor : Handle)
  | numOutputGroup (predictor : Handle)
  /-- Predicts a single instance and replies with how many values that gave. -/
  | predictInst (predictor : Handle) (entries : List Entry) (margin : Bool)
      (slots : List Binary32)
  | assemble (matrix : Csr)
  /-- Deletes a batch. -/
  | delete (batch : Handle)
  /-- Predicts every row of a batch and replies with how many values that gave. -/
  | predictBatch (predictor batch : Handle) (verbose margin : Bool) (slots : List Binary32)
  | free (predictor : Handle)

/-- The reply that each call brings. -/
def Reply : Call → Type
  | .load _ _ => Except Fault Handle
  | .numFeature _ => Except Fault Nat
  | .numOutputGroup _ => Except Fault Nat
  | .predictInst _ _ _ _ => Except Fault Nat
  | .assemble _ => Except Fault Handle
  | .delete _ => Except Fault Unit
  | .predictBatch _ _ _ _ _ => Except Fault Nat × List Binary32
  | .free _ => Except Fault Unit

def interface : Interface := ⟨Call, Reply⟩

def ask {σ : Type} (call : Call) : Drive interface σ (Reply call) :=
  Drive.ask (I := interface) call

end ModelAdapter.Treelite
