import ModelAdapter.Hexagon.Artifact
import ModelAdapter.Hexagon.Calls
import ModelAdapter.Operation
import ModelAdapter.Text.Utf8

/-! # Models of the DSP engine

A model is built in one go and is ready from then on: building opens the session,
passes the engine's diagnostic log on, and collects the descriptions of all
inputs and outputs.  A failure on the way drops the half-built model.

  * **State** (`Model`): the session, once there is one, the engine's memory, the
    descriptions, and the names of the inputs beside them.
  * **Setting an input** checks name, rank, shape and length, in that order, and
    then writes the tensor over the start of the input buffer.  All inputs share
    that buffer.
  * **Running** puts one `exec` to the engine; no other operation calls it.
  * **Dropping** a model, half-built or not, closes its session if it has one,
    unless the graph is 0.
-/

namespace ModelAdapter.Hexagon

open Drive (log)

/-! ## §1. State -/

/-- A model, ready for use or still being built. -/
structure Model where
  device : Device
  artifact : Artifact
  /-- The open session, once there is one. -/
  session : Option Session
  memory : Memory
  inputs : List TensorSpec
  /-- The names of the inputs, in their order. -/
  inputNames : List String
  outputs : List TensorSpec

/-- A model before its session is opened. -/
def Model.unopened (artifact : Artifact) (device : Device) : Model where
  device := device
  artifact := artifact
  session := none
  memory := .empty
  inputs := []
  inputNames := []
  outputs := []

/-! ## §2. Building -/

/-- The size of the buffer for the diagnostic log. -/
def logCapacity : Nat := 2 * 1024 * 1024

/-- How many numbers there are for tensors: the engine counts them in a signed word of 32
bits, from 0 on. -/
def specLimit : Nat := 0x80000000

/-- The fault of an engine that described a tensor for every number: the count overflows. -/
def overflowed : Fault := .precondition "attempt to add with overflow"

section
variable {σ : Type}

/-- The text in the log buffer: its bytes up to the first NUL, or all of them. -/
def logText (written : List UInt8) : List UInt8 :=
  Utf8.terminated (written.take logCapacity)

/-- Passes the engine's diagnostic log on.  An empty log, or one that cannot be read, is
passed over. -/
def drainLog (graph : Int32) : Drive interface σ Unit := do
  let reply : Except Int32 Unit × List UInt8 ← ask (.readLog graph logCapacity)
  match reply with
  | (.ok (), written) =>
      match logText written with
      | [] => pure ()
      | text => log (.engineLog (Utf8.decode text))
  | (.error _, _) => pure ()

/-- Asks for descriptions by ascending number, from `id` on, until the engine has no more.
Running out of numbers before that is a failure. -/
def collect (query : Nat → Drive interface σ (Except Fault (Option TensorSpec))) :
    (ids : Nat) → (id : Nat) → Drive interface σ (Except Fault (List TensorSpec))
  | 0, _ => pure (.error overflowed)
  | ids + 1, id => do
      match ← query id with
      | .error fault => return .error fault
      | .ok none => return .ok []
      | .ok (some spec) =>
          let rest ← collect query ids (id + 1)
          return rest.map (spec :: ·)

def collectInputs : Drive interface σ (Except Fault (List TensorSpec)) :=
  collect (fun id => ask (.inputSpec id)) specLimit 0

def collectOutputs : Drive interface σ (Except Fault (List TensorSpec)) :=
  collect (fun id => ask (.outputSpec id)) specLimit 0

namespace Model

/-- Opens the session, and passes the engine's diagnostic log on whether that succeeds or
not. -/
def openSession (m : Model) (debugLevel : Int32) :
    Drive interface σ (Except Report Unit × Model) := do
  let opening : Except InitFailure Opened ← ask (.init debugLevel)
  match opening with
  | .ok ⟨session, memory⟩ =>
      drainLog session.graph
      return (.ok (), { m with session := some session, memory })
  | .error failure =>
      -- The engine may have said in its log why it failed.
      drainLog failure.graph
      return (.error ((Report.bare (.backendStatus "dlr_hexagon_model_init" failure.status)).note
        ("debug level " ++ toString debugLevel.toInt)), m)

/-- Collects the descriptions of all inputs, and then those of all outputs. -/
def discover (m : Model) : Drive interface σ (Except Report Unit × Model) := do
  match ← collectInputs with
  | .error fault => return (.error ((Report.bare fault).note "discovering input tensor specs"), m)
  | .ok inputs =>
      let m := { m with inputs, inputNames := inputs.map (·.name) }
      match ← collectOutputs with
      | .error fault =>
          return (.error ((Report.bare fault).note "discovering output tensor specs"), m)
      | .ok outputs => return (.ok (), { m with outputs })

/-- Gives a model up, half-built or not.  A graph of 0 stands for none and is not closed. -/
def drop (m : Model) : Drive interface σ Unit := do
  match m.session with
  | some session => if session.graph ≠ 0 then ask (.close session.graph)
  | none => pure ()
  log .hexagonClosed

end Model

/-- Opens a session and makes the engine's model ready for use. -/
def build (artifact : Artifact) (device : Device) (debugLevel : Int32) :
    Drive interface σ (Except Report Model) := do
  let (opened, m) ← (Model.unopened artifact device).openSession debugLevel
  match opened with
  | .error report =>
      -- There is no session to close, and the model is given up like any other.
      m.drop
      return .error report
  | .ok () =>
      let (discovered, m) ← m.discover
      match discovered with
      | .error report =>
          m.drop
          return .error report
      | .ok () =>
          log (.hexagonReady m.inputs.length m.outputs.length)
          return .ok m

end

/-! ## §3. Checks -/

/-- The first axis, counted from `axis`, along which two shapes differ, with the extent
wanted and the extent given there. -/
def firstDifference (axis : Nat) : (want got : List Int) → Option (Nat × Int × Int)
  | w :: want, g :: got =>
      if g ≠ w then some (axis, w, g) else firstDifference (axis + 1) want got
  | _, _ => none

/-- A shape fits when it has the declared rank and the declared extents. -/
def checkShape (spec : TensorSpec) (shape : List Int) : Except Fault Unit :=
  if shape.length ≠ spec.dim then .error (.dimMismatch spec.dim shape.length)
  else
    match firstDifference 0 spec.shape shape with
    | some (axis, want, got) =>
        .error (.shapeMismatch axis ("expected " ++ toString want ++ ", got " ++ toString got))
    | none => .ok ()

/-- A buffer must hold the whole tensor. -/
def checkLength (needed actual : Nat) : Except Fault Unit :=
  if actual < needed then .error (.bufferTooSmall needed actual) else .ok ()

/-- The address of a buffer that the engine may not have handed out. -/
def present (buffer : Option Address) : Except Fault Address :=
  match buffer with
  | some address => .ok address
  | none => .error (.precondition "backend buffer is null")

namespace Model

/-! ## §4. Metadata -/

def inputSpec (m : Model) (index : Nat) : Except Fault TensorSpec :=
  match m.inputs[index]? with
  | some spec => .ok spec
  | none => .error (.indexOutOfRange "Input" index m.inputs.length)

def outputSpec (m : Model) (index : Nat) : Except Fault TensorSpec :=
  match m.outputs[index]? with
  | some spec => .ok spec
  | none => .error (.indexOutOfRange "Output" index m.outputs.length)

def inputName (m : Model) (index : Nat) : Except Fault String := do
  -- There is a name for every description, so the bound is theirs.
  let _ ← m.inputSpec index
  return m.inputNames.getD index ""

/-- The first input of a given name. -/
def inputIndex (m : Model) (name : String) : Except Fault Nat :=
  match m.inputNames.findIdx? (· == name) with
  | some index => .ok index
  | none => .error (.inputNotFound name)

/-- The description of the first input of a given name. -/
def namedInput (m : Model) (name : String) : Except Fault TensorSpec := do
  m.inputSpec (← m.inputIndex name)

/-! ## §5. Tensors -/

/-- The open session; a model that is ready for use has one. -/
def liveSession (m : Model) : Except Fault Session :=
  match m.session with
  | some session => .ok session
  | none => .error (.precondition "Hexagon session is not initialized")

/-- Writes an input over the start of the input buffer; bytes past the tensor are ignored. -/
def setInput (m : Model) (name : String) (shape : List Int) (bytes : List UInt8) :
    Except Fault Model := do
  let spec ← m.namedInput name
  checkShape spec shape
  checkLength spec.bytes bytes.length
  -- What is wrong with the tensor is told before what the engine lacks.
  let session ← m.liveSession
  let address ← present session.input
  return { m with memory := m.memory.write address (bytes.take spec.bytes) }

/-- What can be read of a tensor into a buffer of a given length: its bytes, from the start
of a buffer of the session. -/
def tensorBytes (m : Model) (spec : TensorSpec) (source : Session → Option Address)
    (length : Nat) : Except Fault (List UInt8) := do
  checkLength spec.bytes length
  let session ← m.liveSession
  let address ← present (source session)
  return (m.memory address).take spec.bytes

/-- Copies an input back into the caller's buffer. -/
def getInput (m : Model) (name : String) (buffer : List UInt8) :
    Except Fault Unit × List UInt8 :=
  copyOut (do m.tensorBytes (← m.namedInput name) (·.input) buffer.length) buffer

/-- What can be read of an output into a buffer of a given length. -/
def outputBytes (m : Model) (index length : Nat) : Except Fault (List UInt8) := do
  m.tensorBytes (← m.outputSpec index) (·.output) length

def getOutput (m : Model) (index : Nat) (buffer : List UInt8) :
    Except Fault Unit × List UInt8 :=
  copyOut (m.outputBytes index buffer.length) buffer

def outputSize (m : Model) (index : Nat) : Except Fault Int :=
  (m.outputSpec index).map (fun spec => signed spec.size)

def getOutputFloats (m : Model) (index : Nat) : Except Fault (List Binary32) :=
  readFloats index (m.outputSize index) (m.outputBytes index)

/-! ## §6. The uniform interface -/

/-- The answer to a question. -/
def answer (m : Model) : Query → Outcome
  | .backend => .ok (.backend .hexagon)
  | .device => .ok (.device m.device)
  | .numInputs => .ok (.count m.inputs.length)
  | .numOutputs => .ok (.count m.outputs.length)
  | .numWeights => .ok (.count 0)
  | .inputName i => .plain ((m.inputName i).map .text)
  | .inputType _ => .error (.unsupported "GetInputType" .hexagon)
  | .inputShape i => .plain ((m.inputSpec i).map (fun spec => .shape spec.shape))
  | .inputSize i => .plain ((m.inputSpec i).map (fun spec => .size (signed spec.size)))
  | .inputDim i => .plain ((m.inputSpec i).map (fun spec => .count spec.dim))
  | .inputIndex name => .plain ((m.inputIndex name).map .count)
  | .outputShape i => .plain ((m.outputSpec i).map (fun spec => .shape spec.shape))
  | .outputSize i => .plain ((m.outputSize i).map .size)
  | .outputDim i => .plain ((m.outputSpec i).map (fun spec => .count spec.dim))
  | .outputType _ => .error (.unsupported "GetOutputType" .hexagon)
  | .getInput name buffer => .filled (m.getInput name buffer)
  | .getOutput i buffer => .filled (m.getOutput i buffer)
  | .getOutputFloats i => .plain ((m.getOutputFloats i).map .floats)
  | .weightNames => .error (.unsupported "GetWeightNames" .hexagon)
  | .weightName _ => .error (.unsupported "GetWeightName" .hexagon)

section
variable {σ : Type}

/-- Runs the graph over the buffers of the session. -/
def run (m : Model) : Drive interface σ (Except Fault Unit × Model) := do
  match m.liveSession with
  | .error fault => return (.error fault, m)
  | .ok session =>
      let reply : Except Int32 Unit × Memory ← ask (.exec session m.memory)
      let (status, memory) := reply
      -- The memory is taken over also from a run that failed: the engine may have written to it.
      return (status.mapError (.backendStatus "dlr_hexagon_model_exec"), { m with memory })

/-- Sets an input, and keeps the model as it was when that fails. -/
def store (m : Model) (name : String) (shape : List Int) (bytes : List UInt8) :
    Outcome × Model :=
  match m.setInput name shape bytes with
  | .ok next => (.ok .done, next)
  | .error fault => (.error fault, m)

/-- Carries out one operation. -/
def operate (m : Model) : Operation → Drive interface σ (Outcome × Model)
  | .ask query => pure (m.answer query, m)
  | .setInput name shape bytes => pure (m.store name shape bytes)
  | .setInputFloats name shape values => pure (m.store name shape (Binary32.encode values))
  | .run => do
      let (result, next) ← m.run
      return (.plain (result.map (fun _ => .done)), next)
  | .setNumThreads _ => pure (.error (.unsupported "SetNumThreads" .hexagon), m)
  | .useCpuAffinity _ => pure (.error (.unsupported "UseCPUAffinity" .hexagon), m)

end

end Model

end ModelAdapter.Hexagon
