import ModelAdapter.Treelite.Artifact
import ModelAdapter.Operation
import ModelAdapter.Treelite.Calls

/-! # Models of the tree-ensemble engine

A model takes one input, a matrix of float32 values with a row for each instance
and a column for each feature, in which a NaN is a missing value.  It yields one
output, a matrix with the same rows.

  * **State** (`Model`): the predictor, its schema, the current input with its
    batch, the output buffer, and whether the output may be read.
  * **Building** loads the predictor and asks it for its schema.  Whether a model
    of several classes gives a score for each class or only the best class shows
    in a throwaway prediction.  A failure after loading frees the predictor.
  * **Setting the input** first checks everything that can be checked, then
    assembles the new batch, and only then deletes the batch it replaces.  The
    output is emptied and may not be read until a run has succeeded.
  * **Running** predicts the current batch into the output buffer, which has a
    slot for each row and output group.
  * **Dropping** a model deletes its batch and frees its predictor.  A failure to
    do so is logged and otherwise ignored.
-/

namespace ModelAdapter.Treelite

open Drive (log)

/-! ## §1. State -/

/-- What a predictor tells of itself. -/
structure Schema where
  /-- How many features an instance has. -/
  numFeature : Nat
  /-- How many slots the engine may write for each row. -/
  numOutputGroup : Nat
  /-- How many values it does write for each row. -/
  outputWidth : Nat
  deriving DecidableEq, Repr

/-- The current input: the matrix, and the batch that the engine made of it. -/
structure Input where
  matrix : Csr
  batch : Handle
  deriving DecidableEq, Repr

/-- A model that is ready for use. -/
structure Model where
  device : Device
  artifact : Artifact
  predictor : Handle
  schema : Schema
  input : Option Input
  output : List Binary32
  outputReady : Bool
  deriving DecidableEq, Repr

/-- The name of the one input. -/
def inputName : String := "data"

/-- The element type of input and output. -/
def tensorType : String := "float32"

section
variable {σ : Type}

/-! ## §2. Building and dropping -/

/-- Deletes a batch; a refusal is logged. -/
def deleteBatch (batch : Handle) : Drive interface σ Unit := do
  let reply : Except Fault Unit ← ask (.delete batch)
  match reply with
  | .ok () => pure ()
  | .error fault => log (.batchKept fault)

/-- Deletes the batch of an input, if there is one. -/
def release (input : Option Input) : Drive interface σ Unit :=
  match input with
  | none => pure ()
  | some input => deleteBatch input.batch

/-- Gives up an input and a predictor; a refusal is logged. -/
def close (input : Option Input) (predictor : Handle) : Drive interface σ Unit := do
  release input
  let reply : Except Fault Unit ← ask (.free predictor)
  match reply with
  | .ok () => pure ()
  | .error fault => log (.predictorKept fault)
  log .treeliteClosed

/-- Asks a predictor for its schema.  An output wider than the slots set aside for it is
refused. -/
def querySchema (predictor : Handle) : Drive interface σ (Except Report Schema) := do
  let features : Except Fault Nat ← ask (.numFeature predictor)
  match features with
  | .error fault => return .error (.bare fault)
  | .ok numFeature =>
      let groups : Except Fault Nat ← ask (.numOutputGroup predictor)
      match groups with
      | .error fault => return .error (.bare fault)
      | .ok numOutputGroup =>
          -- Only a prediction tells how wide the output is, here that of an instance of default
          -- entries.
          let width : Except Fault Nat ← ask (.predictInst predictor
            (List.replicate numFeature Entry.default) false
            (List.replicate numOutputGroup Binary32.zero))
          match width with
          | .error fault => return .error ((Report.bare fault).note "probing output width")
          | .ok outputWidth =>
              if numOutputGroup < outputWidth then
                return .error (.bare (.precondition ("output width " ++ toString outputWidth
                  ++ " exceeds output group count " ++ toString numOutputGroup)))
              else return .ok { numFeature, numOutputGroup, outputWidth }

/-- Loads a compiled ensemble and makes it ready for use. -/
def build (artifact : Artifact) (device : Device) (threads : Int32) :
    Drive interface σ (Except Report Model) := do
  let loaded : Except Fault Handle ← ask (.load artifact.modelLib threads)
  match loaded with
  | .error fault =>
      return .error ((Report.bare fault).note ("loading " ++ artifact.modelLib.display))
  | .ok predictor =>
      match ← querySchema predictor with
      | .error report =>
          close none predictor
          return .error report
      | .ok schema =>
          log (.treeliteReady schema.numFeature schema.numOutputGroup schema.outputWidth)
          return .ok { device, artifact, predictor, schema,
                       input := none, output := [], outputReady := false }

end

/-! ## §3. Checks -/

/-- There is one input and one output, each of index 0. -/
def checkIndex (kind : String) (index : Nat) : Except Fault Unit :=
  if 1 ≤ index then .error (.indexOutOfRange kind index 1) else .ok ()

/-- An extent that a caller gives must not be negative. -/
def extent (axis : Nat) (n : Int) : Except Fault Nat :=
  if n < 0 then .error (.shapeMismatch axis ("negative extent " ++ toString n)) else .ok n.toNat

namespace Model

/-- The rows and columns of a shape that the model accepts.  It may have fewer columns than
the model has features; the rest are missing. -/
def checkShape (m : Model) (shape : List Int) : Except Fault (Nat × Nat) :=
  match shape with
  | [rows, cols] => do
      let numRow ← extent 0 rows
      let numCol ← extent 1 cols
      if m.schema.numFeature < numCol then
        .error (.shapeMismatch 1 ("ClientError: Value read: " ++ toString numCol
          ++ ", Expected: " ++ toString m.schema.numFeature ++ " or less"))
      else .ok (numRow, numCol)
  | _ => .error (.dimMismatch 2 shape.length)

/-- The matrix that a caller's shape and bytes stand for.  Bytes past it are ignored. -/
def readMatrix (m : Model) (shape : List Int) (bytes : List UInt8) : Except Fault Csr := do
  let (numRow, numCol) ← m.checkShape shape
  let needed := numRow * numCol * floatBytes
  if wordLimit ≤ needed then
    .error (.shapeMismatch 0 (toString numRow ++ " x " ++ toString numCol
      ++ " float32 values overflow"))
  else if bytes.length < needed then
    .error (.bufferTooSmall needed bytes.length)
  else
    Csr.ofDense (Binary32.decode (bytes.take needed)) numRow numCol m.schema.numFeature

/-! ## §4. Metadata -/

def numRow? (m : Model) : Option Nat := m.input.map (·.matrix.numRow)

/-- A shape of two axes; without an input the number of rows is not known. -/
def shapeOf (m : Model) (width : Nat) : List Int :=
  [match m.numRow? with
    | some rows => signed rows
    | none => -1,
   signed width]

/-- The number of elements in a matrix of the current rows; without an input, in one row. -/
def sizeOf (m : Model) (width : Nat) : Int :=
  signed (wrap (m.numRow?.getD 1 * width))

def outputSize (m : Model) (index : Nat) : Except Fault Int := do
  checkIndex "Output" index
  return m.sizeOf m.schema.outputWidth

/-- The one input has one name, whatever name it is set under. -/
def inputName (_ : Model) (index : Nat) : Except Fault String := do
  checkIndex "Input" index
  return Treelite.inputName

/-! ## §5. The output -/

/-- What can be read of the output into a buffer of a given length. -/
def outputBytes (m : Model) (index length : Nat) : Except Fault (List UInt8) := do
  checkIndex "Output" index
  match m.input with
  | none => .error .inputNotSet
  | some input =>
      if !m.outputReady then .error .outputNotReady
      else
        -- Both products are those of machine words.
        let count := wrap (input.matrix.numRow * m.schema.outputWidth)
        let needed := wrap (count * floatBytes)
        if length < needed then .error (.bufferTooSmall needed length)
        else .ok (Binary32.encode (m.output.take count))

def getOutput (m : Model) (index : Nat) (buffer : List UInt8) :
    Except Fault Unit × List UInt8 :=
  copyOut (m.outputBytes index buffer.length) buffer

def getOutputFloats (m : Model) (index : Nat) : Except Fault (List Binary32) :=
  readFloats index (m.outputSize index) (m.outputBytes index)

/-! ## §6. The uniform interface -/

/-- The answer to a question about input or output `i`, of which there is one. -/
def indexed (kind : String) (i : Nat) (answer : Answer) : Except Fault Answer := do
  checkIndex kind i
  return answer

/-- The answer to a question. -/
def answer (m : Model) : Query → Outcome
  | .backend => .ok (.backend .treelite)
  | .device => .ok (.device m.device)
  | .numInputs => .ok (.count 1)
  | .numOutputs => .ok (.count 1)
  | .numWeights => .ok (.count 0)
  | .inputName i => .plain ((m.inputName i).map .text)
  | .inputType i => .plain (indexed "Input" i (.text tensorType))
  | .inputShape i => .plain (indexed "Input" i (.shape (m.shapeOf m.schema.numFeature)))
  | .inputSize i => .plain (indexed "Input" i (.size (m.sizeOf m.schema.numFeature)))
  | .inputDim i => .plain (indexed "Input" i (.count 2))
  | .inputIndex name => .plain ((lookup 1 m.inputName name).map .count)
  | .outputShape i => .plain (indexed "Output" i (.shape (m.shapeOf m.schema.outputWidth)))
  | .outputSize i => .plain ((m.outputSize i).map .size)
  | .outputDim i => .plain (indexed "Output" i (.count 2))
  | .outputType i => .plain (indexed "Output" i (.text tensorType))
  | .getInput _ buffer => .filled (.error (.unsupported "GetInput" .treelite), buffer)
  | .getOutput i buffer => .filled (m.getOutput i buffer)
  | .getOutputFloats i => .plain ((m.getOutputFloats i).map .floats)
  | .weightNames => .error (.unsupported "GetWeightNames" .treelite)
  | .weightName _ => .error (.unsupported "GetWeightName" .treelite)

section
variable {σ : Type}

/-- Sets the input, under whatever name. -/
def setInput (m : Model) (shape : List Int) (bytes : List UInt8) :
    Drive interface σ (Except Fault Unit × Model) := do
  match m.readMatrix shape bytes with
  | .error fault => return (.error fault, m)
  | .ok matrix =>
      let assembled : Except Fault Handle ← ask (.assemble matrix)
      match assembled with
      | .error fault => return (.error fault, m)
      | .ok batch =>
          -- The new batch is there before the old one is given up, so a failure keeps the input.
          release m.input
          return (.ok (), { m with input := some { matrix, batch }
                                   output := []
                                   outputReady := false })

/-- Predicts the current batch.  The output may be read once that has succeeded. -/
def run (m : Model) : Drive interface σ (Except Fault Unit × Model) := do
  match m.input with
  | none => return (.error .inputNotSet, m)
  | some input =>
      let slots := resize m.output (wrap (input.matrix.numRow * m.schema.numOutputGroup))
        Binary32.zero
      let reply : Except Fault Nat × List Binary32 ←
        ask (.predictBatch m.predictor input.batch false false slots)
      -- What the engine wrote stays also when it failed.  The count that it reports is not looked
      -- at.
      let filled := { m with output := overwrite slots reply.2 }
      match reply.1 with
      | .error fault => return (.error fault, filled)
      | .ok _ => return (.ok (), { filled with outputReady := true })

/-- Carries out one operation. -/
def operate (m : Model) : Operation → Drive interface σ (Outcome × Model)
  | .ask query => pure (m.answer query, m)
  | .setInput _ shape bytes => do
      let (result, next) ← m.setInput shape bytes
      return (.plain (result.map (fun _ => .done)), next)
  | .setInputFloats _ shape values => do
      let (result, next) ← m.setInput shape (Binary32.encode values)
      return (.plain (result.map (fun _ => .done)), next)
  | .run => do
      let (result, next) ← m.run
      return (.plain (result.map (fun _ => .done)), next)
  | .setNumThreads _ => pure (.error (.unsupported "SetNumThreads" .treelite), m)
  | .useCpuAffinity _ => pure (.error (.unsupported "UseCPUAffinity" .treelite), m)

/-- Gives a model up. -/
def drop (m : Model) : Drive interface σ Unit := close m.input m.predictor

end

end Model

end ModelAdapter.Treelite
