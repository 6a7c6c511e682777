import ModelAdapter.Hexagon.Calls
import ModelAdapter.Text.Utf8

/-! # The DSP engine behind its C functions

A compiled model is a shared object that exports six C functions.  They report
through status codes, where 0 is success, and through what they write to the
addresses they are given.  `binding` makes an engine of the six functions.

  * A description of a tensor is copied out of the engine's memory, which the
    adapter keeps no hold of.  It is refused when the name or the shape is a null
    pointer or a number in it is negative (`readSpec`).
  * A description asked for past the last tensor is a status other than 0.
  * A name is a C string: it ends at its first NUL, and it is read leniently.
-/

namespace ModelAdapter.Hexagon

/-! ## §1. The C functions -/

/-- The functions, in the order in which they are looked up. -/
def symbols : List String :=
  ["dlr_hexagon_model_init", "dlr_hexagon_model_exec", "dlr_hexagon_model_close",
    "dlr_hexagon_nn_getlog", "dlr_hexagon_input_spec", "dlr_hexagon_output_spec"]

namespace Abi

inductive Call
  | init (debugLevel : Int32)
  | exec (graph : Int32) (input output : Option Address) (memory : Memory)
  | close (graph : Int32)
  | getLog (graph : Int32) (capacity : Nat)
  | inputSpec (id : Nat)
  | outputSpec (id : Nat)

/-- What `init` returns and writes. -/
structure InitReply where
  status : Int32
  graph : Int32
  input : Option Address
  output : Option Address
  memory : Memory

/-- What a description of a tensor is written as.  A null pointer is `none`; the name
points at bytes, and the shape at extents. -/
structure RawSpec where
  name : Option (List UInt8)
  dim : Int32
  shape : Option (List Int32)
  size : Int32
  bytes : Int32
  deriving DecidableEq, Repr

/-- What is returned by, and found in memory after, each function. -/
def Reply : Call → Type
  | .init _ => InitReply
  | .exec _ _ _ _ => Int32 × Memory
  | .close _ => Unit
  | .getLog _ _ => Int32 × List UInt8
  | .inputSpec _ => Int32 × RawSpec
  | .outputSpec _ => Int32 × RawSpec

def interface : Interface := ⟨Call, Reply⟩

def ask {σ : Type} (call : Call) : Drive interface σ (Reply call) :=
  Drive.ask (I := interface) call

end Abi

/-! ## §2. Reading what was written -/

/-- A number that counts something. -/
def natural (what : String) (n : Int32) : Except Fault Nat :=
  if n < 0 then .error (.precondition ("tensor spec has " ++ what)) else .ok n.toInt.toNat

/-- Copies a description out of the engine's memory. -/
def readSpec (raw : Abi.RawSpec) : Except Fault TensorSpec :=
  match raw.name with
  | none => .error (.precondition "tensor spec has a null name")
  | some name => do
      -- The numbers come before the shape, of which as many extents are read as the rank says.
      let dim ← natural "a negative rank" raw.dim
      let bytes ← natural "a negative byte size" raw.bytes
      let size ← natural "a negative element count" raw.size
      let shape ← match raw.shape with
        | some extents => .ok ((extents.take dim).map (·.toInt))
        | none =>
            if 0 < dim then .error (.precondition "tensor spec has a null shape") else .ok []
      return { name := Utf8.decode (Utf8.terminated name), dim, shape, bytes, size }

/-- A status other than 0 is a failure. -/
def succeeded (status : Int32) : Except Int32 Unit :=
  if status ≠ 0 then .error status else .ok ()

/-- A status other than 0 says that there is no tensor of that number. -/
def readAnswer (answer : Int32 × Abi.RawSpec) : Except Fault (Option TensorSpec) :=
  if answer.1 ≠ 0 then .ok none else (readSpec answer.2).map some

/-! ## §3. The binding -/

section
variable {σ : Type}

/-- Serves a call of the engine by the C function of its name. -/
def serve : (call : Call) → Drive Abi.interface σ (Reply call)
  | .init debugLevel => do
      let reply : Abi.InitReply ← Abi.ask (.init debugLevel)
      let answer : Except InitFailure Opened :=
        if reply.status ≠ 0 then .error ⟨reply.graph, reply.status⟩
        else .ok ⟨⟨reply.graph, reply.input, reply.output⟩, reply.memory⟩
      return answer
  | .exec session memory => do
      let reply : Int32 × Memory ←
        Abi.ask (.exec session.graph session.input session.output memory)
      let answer : Except Int32 Unit × Memory := (succeeded reply.1, reply.2)
      return answer
  | .close graph => Abi.ask (.close graph)
  | .readLog graph capacity => do
      let reply : Int32 × List UInt8 ← Abi.ask (.getLog graph capacity)
      let answer : Except Int32 Unit × List UInt8 := (succeeded reply.1, reply.2)
      return answer
  | .inputSpec id => do
      let reply : Int32 × Abi.RawSpec ← Abi.ask (.inputSpec id)
      return readAnswer reply
  | .outputSpec id => do
      let reply : Int32 × Abi.RawSpec ← Abi.ask (.outputSpec id)
      return readAnswer reply

def binding (E : Engine Abi.interface σ) : Engine interface (World Abi.interface σ) :=
  Engine.over serve E

end

end ModelAdapter.Hexagon
