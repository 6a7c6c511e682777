import ModelAdapter.Buffer
import ModelAdapter.Fault

/-! # Tensors and sessions of the DSP engine

A model of the DSP engine describes each of its inputs and outputs (`TensorSpec`)
and, once a session is open, hands out one buffer for all inputs and one for all
outputs.  The buffers lie in the engine's memory: the adapter reads and writes
them in place and never frees them.  An engine may also hand out no buffer.

  * **Memory** (`Memory`): the bytes of the buffer at each address.  Writing
    replaces bytes from the start of a buffer on and leaves the rest of it, and
    all other buffers, as they are.
-/

namespace ModelAdapter.Hexagon

/-! ## §1. Descriptions of tensors -/

/-- What is known of an input or output. -/
structure TensorSpec where
  name : String
  /-- The rank. -/
  dim : Nat
  /-- The extent along each axis. -/
  shape : List Int
  /-- How many bytes the tensor takes in a buffer. -/
  bytes : Nat
  /-- How many elements it has. -/
  size : Nat
  deriving DecidableEq, Repr

/-! ## §2. The engine's memory -/

/-- Where a buffer of the engine starts. -/
abbrev Address := Nat

/-- The engine's memory: the content of the buffer at each address. -/
def Memory := Address → List UInt8

namespace Memory

def empty : Memory := fun _ => []

/-- The memory after `bytes` was written over the start of a buffer. -/
def write (m : Memory) (a : Address) (bytes : List UInt8) : Memory :=
  fun b => if b = a then overwrite (m a) bytes else m b

@[simp] theorem write_self (m : Memory) (a : Address) (bytes : List UInt8) :
    m.write a bytes a = overwrite (m a) bytes := by
  simp [write]

@[simp] theorem write_ne (m : Memory) {a b : Address} (bytes : List UInt8) (h : b ≠ a) :
    m.write a bytes b = m b := by
  simp [write, h]

end Memory

/-! ## §3. Sessions -/

/-- An open session: the graph, and the buffers it was given. -/
structure Session where
  graph : Int32
  input : Option Address
  output : Option Address
  deriving DecidableEq, Repr

/-- A session that could not be opened: the status, and the graph that the engine had got
to, which is 0 when it had none. -/
structure InitFailure where
  graph : Int32
  status : Int32
  deriving DecidableEq, Repr

/-- A session that was opened, and the engine's memory at that time. -/
structure Opened where
  session : Session
  memory : Memory

end ModelAdapter.Hexagon
