import ModelAdapter.Treelite.Abi
import ModelAdapter.Treelite.Model

/-! # A tree-ensemble engine that follows a script

A stand-in for the engine, for rehearsing a model without a compiled ensemble.
The script fixes the schema and, for each function, which of its calls fail and
how.  A prediction is a hash of the row that it is made for, so that two rows, or
two values of one row, seldom have the same one.

  * **Script** (`Script φ`): the schema, and the failures, of type `φ`.
  * **State** (`State`): how often each function was called, the matrices of the
    batches, and the text of the last error.
  * The same script can be followed behind the interface (`direct`), where a
    failure is a fault, and behind the C functions (`exported`), where it is a
    status and a text.
-/

namespace ModelAdapter.Treelite

/-! ## §1. Scripts -/

/-- The functions whose calls a script can let fail. -/
inductive Routine
  | load
  | numFeature
  | numOutputGroup
  | predictInst
  | assemble
  | delete
  | predictBatch
  | free
  deriving DecidableEq, Repr

structure Script (φ : Type) where
  schema : Schema
  /-- For each function the failures of its calls in order; `none` is a success, and so is
  every later call. -/
  failures : Routine → List (Option φ)

namespace Script

/-- The handle of the one predictor. -/
def predictor : Handle := 16

structure State where
  /-- How often each function was called. -/
  calls : Routine → Nat
  /-- The matrices of the batches; the first batch has handle 1. -/
  batches : List Csr
  /-- The text of the last error, `none` for a null pointer. -/
  lastError : Option (List UInt8)

def State.start : State := ⟨fun _ => 0, [], none⟩

def State.called (st : State) (f : Routine) : State :=
  { st with calls := fun g => if g = f then st.calls f + 1 else st.calls g }

def State.kept (st : State) (m : Csr) : State :=
  { st with batches := st.batches ++ [m] }

def State.latest (st : State) : Handle := st.batches.length

variable {φ : Type}

/-- How the next call of a function fails, if it does. -/
def failure (s : Script φ) (st : State) (f : Routine) : Option φ :=
  (s.failures f).getD (st.calls f) none

/-! ## §2. Predictions -/

/-- The hash of a row, begun with `seed`. -/
def hash (seed : Nat) (row : List Binary32 × List Nat) : UInt32 :=
  (row.1.zip row.2).foldl (fun acc cell => acc * 31 + cell.1.bits + UInt32.ofNat cell.2)
    (UInt32.ofNat seed)

/-- The hash as a value from 1 up to 2. -/
def prediction (hash : UInt32) : Binary32 := ⟨hash &&& 0x7FFFFF ||| 0x3F800000⟩

/-- The predictions for each row of a matrix, `width` of them for each. -/
def predictions (width : Nat) (m : Csr) : List Binary32 :=
  (List.range m.numRow).flatMap fun r =>
    (List.range width).map fun k => prediction (hash k ((m.row? r).getD ([], [])))

/-- The predictions for a batch. -/
def predicted (s : Script φ) (st : State) (batch : Handle) : List Binary32 :=
  match st.batches[batch - 1]? with
  | some m => predictions s.schema.outputWidth m
  | none => []

/-! ## §3. Behind the interface -/

/-- A call of a function that yields `result` unless the script lets it fail. -/
def reply {α : Type} (s : Script Fault) (st : State) (f : Routine) (result : α) :
    Except Fault α :=
  match s.failure st f with
  | some fault => .error fault
  | none => .ok result

/-- The script followed behind the interface. -/
def direct (s : Script Fault) : Engine interface State where
  respond
    | .load _ _, st => (s.reply st .load predictor, st.called .load)
    | .numFeature _, st => (s.reply st .numFeature s.schema.numFeature, st.called .numFeature)
    | .numOutputGroup _, st =>
        (s.reply st .numOutputGroup s.schema.numOutputGroup, st.called .numOutputGroup)
    | .predictInst _ _ _ _, st =>
        (s.reply st .predictInst s.schema.outputWidth, st.called .predictInst)
    | .assemble m, st =>
        match s.failure st .assemble with
        | some fault => (Except.error fault, st.called .assemble)
        | none => (Except.ok (st.kept m).latest, (st.kept m).called .assemble)
    | .delete _, st => (s.reply st .delete (), st.called .delete)
    | .predictBatch _ batch _ _ slots, st =>
        match s.failure st .predictBatch with
        | some fault => ((Except.error fault, slots), st.called .predictBatch)
        | none =>
            ((Except.ok (s.predicted st batch).length, overwrite slots (s.predicted st batch)),
              st.called .predictBatch)
    | .free _, st => (s.reply st .free (), st.called .free)

/-! ## §4. Behind the C functions -/

/-- How a C function fails: its status, and the text of the error. -/
structure Failure where
  status : Int32
  text : Option (List UInt8)
  deriving DecidableEq, Repr

/-- The status of the next call of a function. -/
def status (s : Script Failure) (st : State) (f : Routine) : Int32 :=
  match s.failure st f with
  | some failure => failure.status
  | none => 0

/-- Counts a call, and keeps the text of its error. -/
def after (s : Script Failure) (st : State) (f : Routine) : State :=
  match s.failure st f with
  | some failure => { st.called f with lastError := failure.text }
  | none => st.called f

/-- What a function writes: `result` if it succeeds, and else nothing. -/
def written (s : Script Failure) (st : State) (f : Routine) (result : Nat) : Nat :=
  if s.status st f = 0 then result else 0

/-- The script followed behind the C functions. -/
def exported (s : Script Failure) : Engine Abi.interface State where
  respond
    | .lastError, st => (st.lastError, st)
    | .load _ _, st =>
        ((s.status st .load, s.written st .load predictor), s.after st .load)
    | .numFeature _, st =>
        ((s.status st .numFeature, s.written st .numFeature s.schema.numFeature),
          s.after st .numFeature)
    | .numOutputGroup _, st =>
        ((s.status st .numOutputGroup,
          s.written st .numOutputGroup s.schema.numOutputGroup), s.after st .numOutputGroup)
    | .predictInst _ _ _ _, st =>
        ((s.status st .predictInst, s.written st .predictInst s.schema.outputWidth),
          s.after st .predictInst)
    | .assemble data colInd rowPtr numRow numCol, st =>
        if s.status st .assemble = 0 then
          let kept := (s.after st .assemble).kept { data, colInd, rowPtr, numRow, numCol }
          (((0 : Int32), kept.latest), kept)
        else ((s.status st .assemble, (0 : Nat)), s.after st .assemble)
    | .delete _, st => (s.status st .delete, s.after st .delete)
    | .predictBatch _ batch _ _ _ slots, st =>
        if s.status st .predictBatch = 0 then
          (((0 : Int32), (s.predicted st batch).length,
            overwrite slots (s.predicted st batch)), s.after st .predictBatch)
        else ((s.status st .predictBatch, (0 : Nat), slots), s.after st .predictBatch)
    | .free _, st => (s.status st .free, s.after st .free)

end Script

end ModelAdapter.Treelite
