import ModelAdapter.Hexagon.Abi

/-! # A DSP engine that follows a script

A stand-in for the engine, for rehearsing a model without the hardware.  The
script fixes what the engine replies; all that it computes is a copy of the input
buffer in which each byte is one greater.

  * **Script** (`Script δ`): the statuses, the log, the buffers, and for each
    tensor a description of type `δ`.
  * **State**: how many times the graph was run.
  * The same script can be followed behind the interface (`direct`), where a
    description is an answer of the engine, and behind the C functions
    (`exported`), where it is a status and what is written to memory.
-/

namespace ModelAdapter.Hexagon

/-! ## §1. Scripts -/

structure Script (δ : Type) where
  inputs : List δ
  outputs : List δ
  /-- What the two buffers hold when the session is opened. -/
  input : List UInt8
  output : List UInt8
  log : List UInt8
  logStatus : Int32
  initStatus : Int32
  graph : Int32
  /-- The statuses of the runs, in order; every later run succeeds. -/
  exec : List Int32
  nullInput : Bool
  nullOutput : Bool
  /-- The status of asking for a tensor past the last one. -/
  endStatus : Int32

namespace Script

variable {δ : Type}

/-- No description counts for more than this when the buffers are set aside. -/
def bufferLimit : Nat := 0x100000

/-- A buffer that begins with `content` and has room for every tensor, and for a byte. -/
def roomy (sizes : List Nat) (content : List UInt8) : List UInt8 :=
  content ++ List.replicate (max 1 (min bufferLimit (sizes.foldl max 0)) - content.length) 0

def inputAddress : Address := 1

def outputAddress : Address := 2

/-- The session that the script hands out. -/
def session (s : Script δ) : Session where
  graph := s.graph
  input := if s.nullInput then none else some inputAddress
  output := if s.nullOutput then none else some outputAddress

/-- The memory when the session is opened. -/
def memory (s : Script δ) : Memory := fun a =>
  if a = inputAddress then s.input
  else if a = outputAddress then s.output
  else []

/-- The status of the next run. -/
def execStatus (s : Script δ) (runs : Nat) : Int32 := s.exec.getD runs 0

/-- The memory after a run with a given status.  A run that fails, or that lacks a buffer,
writes nothing. -/
def computed (status : Int32) (input output : Option Address) (memory : Memory) : Memory :=
  match input, output with
  | some a, some b =>
      if status = 0 then memory.write b ((memory a).map (· + 1)) else memory
  | _, _ => memory

/-! ## §2. Behind the interface -/

/-- What the engine says about a tensor: nothing, a description, or a fault. -/
abbrev Described := Except Fault (Option TensorSpec)

/-- The script followed behind the interface. -/
def direct (s : Script Described) : Engine interface Nat where
  respond
    | .init _, runs =>
        (if s.initStatus ≠ 0 then .error ⟨s.graph, s.initStatus⟩
          else .ok ⟨s.session, s.memory⟩, runs)
    | .exec session memory, runs =>
        ((succeeded (s.execStatus runs),
          computed (s.execStatus runs) session.input session.output memory), runs + 1)
    | .close _, runs => ((), runs)
    | .readLog _ capacity, runs => ((succeeded s.logStatus, s.log.take capacity), runs)
    | .inputSpec id, runs => (s.inputs.getD id (.ok none), runs)
    | .outputSpec id, runs => (s.outputs.getD id (.ok none), runs)

/-! ## §3. Behind the C functions -/

/-- What is found in memory when nothing was written. -/
def unwritten : Abi.RawSpec := { name := none, dim := 0, shape := none, size := 0, bytes := 0 }

/-- The script followed behind the C functions. -/
def exported (s : Script (Int32 × Abi.RawSpec)) : Engine Abi.interface Nat where
  respond
    | .init _, runs =>
        ({ status := s.initStatus
           graph := s.graph
           input := s.session.input
           output := s.session.output
           memory := s.memory }, runs)
    | .exec _ input output memory, runs =>
        ((s.execStatus runs, computed (s.execStatus runs) input output memory), runs + 1)
    | .close _, runs => ((), runs)
    | .getLog _ capacity, runs => ((s.logStatus, s.log.take capacity), runs)
    | .inputSpec id, runs => (s.inputs.getD id (s.endStatus, unwritten), runs)
    | .outputSpec id, runs => (s.outputs.getD id (s.endStatus, unwritten), runs)

end Script

end ModelAdapter.Hexagon
