import ModelAdapter.Text.Utf8
import ModelAdapter.Treelite.Calls

/-! # The tree-ensemble engine behind its C functions

The engine is a shared object that exports nine C functions.  Eight of them
return a status, where 0 is success, and write what they produce to addresses
that they are given; the ninth tells the text of the last error.  `binding` makes
an engine of the nine functions.

  * A status other than 0 is a fault that carries the name of the function and
    the text of the last error, which is asked for right away and read leniently.
    A null pointer for that text gives `Unknown error`.
  * A path is handed over as it is shown, replacement characters included.  One with a
    NUL in it is no C string and is refused without a call.
-/

namespace ModelAdapter.Treelite

/-! ## §1. The C functions -/

/-- The functions, in the order in which they are looked up. -/
def symbols : List String :=
  ["TreeliteGetLastError", "TreelitePredictorLoad", "TreelitePredictorQueryNumFeature",
    "TreelitePredictorQueryNumOutputGroup", "TreelitePredictorPredictInst",
    "TreeliteAssembleSparseBatch", "TreeliteDeleteSparseBatch",
    "TreelitePredictorPredictBatch", "TreelitePredictorFree"]

namespace Abi

inductive Call
  | lastError
  | load (path : String) (threads : Int32)
  | numFeature (predictor : Handle)
  | numOutputGroup (predictor : Handle)
  | predictInst (predictor : Handle) (entries : List Entry) (margin : Int32)
      (slots : List Binary32)
  | assemble (data : List Binary32) (colInd rowPtr : List Nat) (numRow numCol : Nat)
  | delete (batch : Handle)
  | predictBatch (predictor batch : Handle) (sparse verbose margin : Int32)
      (slots : List Binary32)
  | free (predictor : Handle)

/-- What is returned by, and found in memory after, each function: a status first, then
what was written.  The last error is a pointer to bytes, `none` when it is null. -/
def Reply : Call → Type
  | .lastError => Option (List UInt8)
  | .load _ _ => Int32 × Handle
  | .numFeature _ => Int32 × Nat
  | .numOutputGroup _ => Int32 × Nat
  | .predictInst _ _ _ _ => Int32 × Nat
  | .assemble _ _ _ _ _ => Int32 × Handle
  | .delete _ => Int32
  | .predictBatch _ _ _ _ _ _ => Int32 × Nat × List Binary32
  | .free _ => Int32

def interface : Interface := ⟨Call, Reply⟩

def ask {σ : Type} (call : Call) : Drive interface σ (Reply call) :=
  Drive.ask (I := interface) call

end Abi

/-! ## §2. Statuses -/

/-- The text of an error that the engine points at. -/
def errorText (text : Option (List UInt8)) : String :=
  match text with
  | some bytes => Utf8.decode (Utf8.terminated bytes)
  | none => "Unknown error"

/-- A truth value as a C function takes it. -/
def flag (b : Bool) : Int32 := if b then 1 else 0

section
variable {σ : Type}

/-- Hands a result on if the status says that it is one; else asks for the last error. -/
def checked {α : Type} (function : String) (status : Int32) (result : α) :
    Drive Abi.interface σ (Except Fault α) := do
  if status ≠ 0 then
    -- The engine keeps the text of its last error only, so no other call may come in between.
    let text : Option (List UInt8) ← Abi.ask .lastError
    return .error (.treelite function (errorText text))
  else return .ok result

/-! ## §3. The binding -/

/-- Serves a call of the engine by the C function of its name. -/
def serve : (call : Call) → Drive Abi.interface σ (Reply call)
  | .load library threads =>
      if library.display.toList.contains '\x00' then
        pure (Except.error (.treelite "TreelitePredictorLoad" "Invalid path encoding") :
          Except Fault Handle)
      else do
        let (status, predictor) ← (Abi.ask (.load library.display threads) :
          Drive Abi.interface σ (Int32 × Handle))
        checked "TreelitePredictorLoad" status predictor
  | .numFeature predictor => do
      let (status, count) ← (Abi.ask (.numFeature predictor) :
        Drive Abi.interface σ (Int32 × Nat))
      checked "TreelitePredictorQueryNumFeature" status count
  | .numOutputGroup predictor => do
      let (status, count) ← (Abi.ask (.numOutputGroup predictor) :
        Drive Abi.interface σ (Int32 × Nat))
      checked "TreelitePredictorQueryNumOutputGroup" status count
  | .predictInst predictor entries margin slots => do
      let (status, count) ← (Abi.ask (.predictInst predictor entries (flag margin) slots) :
        Drive Abi.interface σ (Int32 × Nat))
      checked "TreelitePredictorPredictInst" status count
  | .assemble m => do
      let (status, batch) ← (Abi.ask (.assemble m.data m.colInd m.rowPtr m.numRow m.numCol) :
        Drive Abi.interface σ (Int32 × Handle))
      checked "TreeliteAssembleSparseBatch" status batch
  | .delete batch => do
      let status ← (Abi.ask (.delete batch) : Drive Abi.interface σ Int32)
      checked "TreeliteDeleteSparseBatch" status ()
  | .predictBatch predictor batch verbose margin slots => do
      let (status, count, after) ←
        (Abi.ask (.predictBatch predictor batch 1 (flag verbose) (flag margin) slots) :
          Drive Abi.interface σ (Int32 × Nat × List Binary32))
      let result ← checked "TreelitePredictorPredictBatch" status count
      -- The slots were handed over to be written to, so they come back also with a fault.
      return ((result, after) : Except Fault Nat × List Binary32)
  | .free predictor => do
      let status ← (Abi.ask (.free predictor) : Drive Abi.interface σ Int32)
      checked "TreelitePredictorFree" status ()

def binding (E : Engine Abi.interface σ) : Engine interface (World Abi.interface σ) :=
  Engine.over serve E

end

end ModelAdapter.Treelite
