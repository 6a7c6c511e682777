import ModelAdapter.Buffer
import ModelAdapter.Fault
import ModelAdapter.Number.Binary32
import ModelAdapter.Word

/-! # The uniform model interface

What a caller can do with a loaded model, whatever engine is behind it.  A round
of inference sets the inputs, runs, and reads the outputs; beside that a caller
can ask for metadata, and for controls that a backend may not offer.

  * **Operations** (`Operation`), most of which only ask (`Query`), their
    **answers** (`Answer`), and what they come to (`Outcome`).
  * **Operations in terms of others**: looking an input up by its name
    (`lookup`), setting an input from float32 values, and reading an output as
    float32 values (`readFloats`).

A buffer that the caller provides comes with its content, and the outcome says what
it holds afterwards, also when the operation fails.
-/

namespace ModelAdapter

/-! ## §1. Operations and answers -/

/-- What a caller can ask of a loaded model without changing it. -/
inductive Query
  | backend
  | device
  | numInputs
  | numOutputs
  | numWeights
  | inputName (index : Nat)
  | inputType (index : Nat)
  | inputShape (index : Nat)
  | inputSize (index : Nat)
  | inputDim (index : Nat)
  | inputIndex (name : String)
  | outputShape (index : Nat)
  | outputSize (index : Nat)
  | outputDim (index : Nat)
  | outputType (index : Nat)
  | getInput (name : String) (buffer : List UInt8)
  | getOutput (index : Nat) (buffer : List UInt8)
  | getOutputFloats (index : Nat)
  | weightNames
  | weightName (index : Nat)
  deriving DecidableEq, Repr

/-- What a caller can do with a loaded model. -/
inductive Operation
  | ask (query : Query)
  | setInput (name : String) (shape : List Int) (bytes : List UInt8)
  | setInputFloats (name : String) (shape : List Int) (values : List Binary32)
  | run
  | setNumThreads (threads : Int32)
  | useCpuAffinity (enabled : Bool)
  deriving DecidableEq, Repr

/-- What an operation that succeeds brings back. -/
inductive Answer
  | done
  | backend (backend : Backend)
  | device (device : Device)
  /-- A number of inputs, outputs or weights, a rank, or an index. -/
  | count (n : Nat)
  /-- A number of elements. -/
  | size (n : Int)
  /-- The extent along each axis; -1 is an extent that is not known. -/
  | shape (extents : List Int)
  | text (s : String)
  | texts (l : List String)
  | floats (values : List Binary32)
  deriving DecidableEq, Repr

/-- What an operation comes to: an answer or a fault, and what the caller's buffer holds
afterwards if the operation came with one. -/
structure Outcome where
  result : Except Fault Answer
  buffer : Option (List UInt8)

namespace Outcome

/-- The outcome of an operation that came without a buffer. -/
def plain (result : Except Fault Answer) : Outcome := ⟨result, none⟩

def ok (answer : Answer) : Outcome := plain (.ok answer)

def error (fault : Fault) : Outcome := plain (.error fault)

/-- The outcome of an operation that fills the caller's buffer or fails. -/
def filled (result : Except Fault Unit × List UInt8) : Outcome :=
  ⟨result.1.map (fun _ => .done), some result.2⟩

@[simp] theorem plain_result (result : Except Fault Answer) : (plain result).result = result := rfl

@[simp] theorem ok_result (answer : Answer) : (ok answer).result = .ok answer := rfl

@[simp] theorem error_result (fault : Fault) : (error fault).result = .error fault := rfl

@[simp] theorem error_inj {fault fault' : Fault} : error fault = error fault' ↔ fault = fault' := by
  simp [error, plain]

@[simp] theorem ok_ne_error (answer : Answer) (fault : Fault) : ok answer ≠ error fault := by
  simp [ok, error, plain]

end Outcome

/-! ## §2. Operations in terms of others -/

/-- The least index, among `count` of them, whose name is `name`. -/
def lookup (count : Nat) (nameAt : Nat → Except Fault String) (name : String) :
    Except Fault Nat :=
  let isNamed (i : Nat) : Bool :=
    match nameAt i with
    | .ok n => n == name
    | .error _ => false
  match (List.range count).find? isNamed with
  | some i => .ok i
  | none => .error (.inputNotFound name)

/-- Copies what was read over the start of the caller's buffer, which a failure leaves as
it was. -/
def copyOut (read : Except Fault (List UInt8)) (buffer : List UInt8) :
    Except Fault Unit × List UInt8 :=
  match read with
  | .ok bytes => (.ok (), overwrite buffer bytes)
  | .error fault => (.error fault, buffer)

/-- An output as float32 values, when its size is known.  The output is copied into a buffer
of zeros with room for that many values; `read` gives the bytes for a buffer of some length. -/
def readFloats (index : Nat) (size : Except Fault Int)
    (read : (length : Nat) → Except Fault (List UInt8)) : Except Fault (List Binary32) := do
  let n ← size
  if n < 0 then
    .error (.precondition
      ("output " ++ toString index ++ " has unknown size " ++ toString n))
  else
    -- The length is that of a machine word.
    let length := wrap (n.toNat * floatBytes)
    let bytes ← read length
    return Binary32.decode (overwrite (List.replicate length 0) bytes)

/-- Values that were read filled a buffer of their size: they are what it held after the bytes
that were read had been written over zeros. -/
theorem readFloats_inv {index : Nat} {size : Except Fault Int}
    {read : Nat → Except Fault (List UInt8)} {values : List Binary32}
    (h : readFloats index size read = .ok values) :
    ∃ (n : Nat) (bytes : List UInt8), size = .ok (n : Int) ∧
      values.length * floatBytes = wrap (n * floatBytes) ∧
      read (values.length * floatBytes) = .ok bytes ∧
      Binary32.encode values
        = overwrite (List.replicate (values.length * floatBytes) 0) bytes := by
  obtain ⟨n, hsize, h⟩ := exists_of_bind_eq_ok h
  by_cases hneg : n < 0
  · simp only [hneg, if_true] at h
    cases h
  · simp only [hneg, if_false] at h
    obtain ⟨bytes, hread, h⟩ := exists_of_bind_eq_ok h
    cases h
    -- A word is a whole number of values long, so nothing is lost in decoding.
    have hwhole : wrap (n.toNat * floatBytes) = wrap (n.toNat * floatBytes) / 4 * 4 := by
      unfold wrap wordLimit floatBytes
      omega
    generalize hlength : wrap (n.toNat * floatBytes) = length at *
    have hbuffer : (overwrite (List.replicate length 0) bytes).length = length / 4 * 4 := by
      rw [length_overwrite, List.length_replicate]
      exact hwhole
    have hencode := Binary32.encode_decode hbuffer
    have hcount : (Binary32.decode (overwrite (List.replicate length 0) bytes)).length * floatBytes
        = length := by
      rw [Binary32.length_decode, length_overwrite, List.length_replicate]
      exact hwhole.symm
    rw [hcount]
    refine ⟨n.toNat, bytes, ?_, hlength.symm, hread, hencode⟩
    rw [hsize, Int.toNat_of_nonneg (by omega)]

/-- What cannot be copied out cannot be read as values. -/
theorem readFloats_ne_ok {index : Nat} {size : Except Fault Int}
    {read : Nat → Except Fault (List UInt8)} {fault : Fault}
    (h : ∀ length, read length = .error fault) (values : List Binary32) :
    readFloats index size read ≠ .ok values := by
  intro hvalues
  obtain ⟨_, _, -, -, hread, -⟩ := readFloats_inv hvalues
  rw [h] at hread
  cases hread

/-- Values that were encoded into a buffer of their size are read back. -/
theorem readFloats_of_ok {index count : Nat} {read : Nat → Except Fault (List UInt8)}
    {values : List Binary32} (hcount : count * floatBytes < wordLimit)
    (hlength : values.length = count)
    (h : read (count * floatBytes) = .ok (Binary32.encode values)) :
    readFloats index (.ok (count : Int)) read = .ok values := by
  have hnonneg : ¬ (count : Int) < 0 := by omega
  simp only [readFloats, hnonneg, if_false, bind, Except.bind, Int.toNat_natCast,
    wrap_of_lt hcount, h]
  have hroom : (Binary32.encode values).length
      = (List.replicate (count * floatBytes) (0 : UInt8)).length := by
    rw [Binary32.length_encode, List.length_replicate, hlength]
    rfl
  rw [overwrite_of_length_eq hroom, Binary32.decode_encode]
  rfl

end ModelAdapter
