import ModelAdapter.Proofs.Treelite.Buffers

/-! # When the output can be read

The output belongs to the latest run since the input was set, and is meant to be
readable when that run succeeded (`intended`).  What decides is whether any run since
the input was set succeeded (`readable`): a run that fails does not take back what
an earlier one allowed, although the engine may have written into the buffer.

The two differ in one case, an output that is stale (`Stale`): some run since
the input was set succeeded, and the latest failed.  What is read then are the slots
as the failed run left them.
-/

namespace ModelAdapter.Treelite

/-! ## §1. In terms of what happened -/

/-- What decides whether the output can be read: an input, and a run that succeeded since. -/
def readable (steps : List (Step interface)) : Except Fault (Input × List Binary32) :=
  match currentInput steps with
  | none => .error .inputNotSet
  | some input =>
      if (runsSinceInput steps).any (·.succeeded) then .ok (input, leftSlots steps)
      else .error .outputNotReady

/-- What is meant to decide it: an input, and that the latest run since then succeeded. -/
def intended (steps : List (Step interface)) : Except Fault (Input × List Binary32) :=
  match currentInput steps with
  | none => .error .inputNotSet
  | some input =>
      if (runsSinceInput steps).getLast?.any (·.succeeded) then .ok (input, leftSlots steps)
      else .error .outputNotReady

/-- A run has succeeded since the input was set, and the latest one failed. -/
def Stale (steps : List (Step interface)) : Prop :=
  (runsSinceInput steps).any (·.succeeded) = true ∧
    (runsSinceInput steps).getLast?.any (·.succeeded) = false

/-- A latest run that succeeded is a run that succeeded. -/
theorem any_of_getLast?_any {runs : List (Step interface)}
    (h : runs.getLast?.any (·.succeeded) = true) : runs.any (·.succeeded) = true := by
  cases hlast : runs.getLast? with
  | none =>
    rw [hlast] at h
    cases h
  | some run =>
    rw [hlast] at h
    exact List.any_eq_true.mpr ⟨run, List.mem_of_getLast? hlast, h⟩

/-- What decides is what is meant to, unless there is an input and its output is stale. -/
theorem readable_eq_intended_iff {steps : List (Step interface)}
    (hinput : currentInput steps = none → (runsSinceInput steps).any (·.succeeded) = false) :
    readable steps = intended steps ↔ ¬ Stale steps := by
  unfold readable intended Stale
  cases hcurrent : currentInput steps with
  | none => simp [hinput hcurrent]
  | some input =>
    -- A success of the latest run is a success of some run, which leaves three cases.
    cases hany : (runsSinceInput steps).any (·.succeeded) <;>
      cases hlast : (runsSinceInput steps).getLast?.any (·.succeeded)
    · simp
    · rw [any_of_getLast?_any hlast] at hany
      cases hany
    · simp
    · simp

/-! ## §2. In terms of the model -/

/-- Reading the output fails, whatever the buffer, and leaves that as it was. -/
def Unreadable (m : Model) (fault : Fault) : Prop :=
  (∀ buffer, m.answer (.getOutput 0 buffer) = .filled (.error fault, buffer)) ∧
    ∀ answer, (m.answer (.getOutputFloats 0)).result ≠ .ok answer

/-- Reading the output brings some values, if the buffer has room for them. -/
def ReadsAs (m : Model) (values : List Binary32) : Prop :=
  (∀ buffer, m.answer (.getOutput 0 buffer) = .filled
    (if buffer.length < values.length * floatBytes then
      (.error (.bufferTooSmall (values.length * floatBytes) buffer.length), buffer)
    else (.ok (), overwrite buffer (Binary32.encode values)))) ∧
    m.answer (.getOutputFloats 0) = .ok (.floats values)

section
variable {m : Model}

theorem answer_getOutput (buffer : List UInt8) :
    m.answer (.getOutput 0 buffer) = .filled (copyOut (m.outputBytes 0 buffer.length) buffer) :=
  rfl

theorem answer_getOutputFloats :
    m.answer (.getOutputFloats 0) =
      .plain ((readFloats 0 (m.outputSize 0) (m.outputBytes 0)).map .floats) := rfl

/-- What cannot be copied out cannot be read. -/
theorem unreadable_of_outputBytes {fault : Fault}
    (h : ∀ length, m.outputBytes 0 length = .error fault) : Unreadable m fault := by
  constructor
  · intro buffer
    rw [answer_getOutput, h]
    rfl
  · intro answer hanswer
    rw [answer_getOutputFloats] at hanswer
    -- Reading values copies the bytes first.
    cases hread : readFloats 0 (m.outputSize 0) (m.outputBytes 0) with
    | error fault =>
      rw [hread] at hanswer
      cases hanswer
    | ok values => exact readFloats_ne_ok h values hread

theorem outputBytes_of_ready {input : Input} (hset : m.input = some input)
    (hready : m.outputReady = true)
    (hfits : input.matrix.numRow * m.schema.outputWidth * floatBytes < wordLimit)
    (length : Nat) :
    m.outputBytes 0 length =
      if length < input.matrix.numRow * m.schema.outputWidth * floatBytes then
        .error (.bufferTooSmall (input.matrix.numRow * m.schema.outputWidth * floatBytes) length)
      else .ok (Binary32.encode (m.output.take (input.matrix.numRow * m.schema.outputWidth))) := by
  have hcount : wrap (input.matrix.numRow * m.schema.outputWidth)
      = input.matrix.numRow * m.schema.outputWidth := by
    apply wrap_of_lt
    unfold floatBytes at hfits
    omega
  have hindex : checkIndex "Output" 0 = .ok () := rfl
  simp [Model.outputBytes, hindex, hset, hready, hcount, wrap_of_lt hfits, bind, Except.bind]

theorem outputBytes_of_unset (hset : m.input = none) (length : Nat) :
    m.outputBytes 0 length = .error .inputNotSet := by
  have hindex : checkIndex "Output" 0 = .ok () := rfl
  simp [Model.outputBytes, hindex, hset, bind, Except.bind]

theorem outputBytes_of_unready {input : Input} (hset : m.input = some input)
    (hready : m.outputReady = false) (length : Nat) :
    m.outputBytes 0 length = .error .outputNotReady := by
  have hindex : checkIndex "Output" 0 = .ok () := rfl
  simp [Model.outputBytes, hindex, hset, hready, bind, Except.bind]

/-- A readable output has a slot for each value that is read of it. -/
theorem length_read {input : Input} (hset : m.input = some input) (hready : m.outputReady = true)
    (hfilled : Filled m) (hwidth : m.schema.outputWidth ≤ m.schema.numOutputGroup)
    (hslots : input.matrix.numRow * m.schema.numOutputGroup < wordLimit) :
    (m.output.take (input.matrix.numRow * m.schema.outputWidth)).length
      = input.matrix.numRow * m.schema.outputWidth := by
  obtain ⟨input', hset', hrange⟩ := hfilled.in_range hwidth hready
  cases hset.symm.trans hset'
  have hle := hrange hslots
  rw [List.length_take]
  omega

theorem outputSize_of_set {input : Input} (hset : m.input = some input)
    (hfits : input.matrix.numRow * m.schema.outputWidth * floatBytes < wordLimit) :
    m.outputSize 0 = .ok ((input.matrix.numRow * m.schema.outputWidth : Nat) : Int) := by
  have hsize : m.sizeOf m.schema.outputWidth
      = ((input.matrix.numRow * m.schema.outputWidth : Nat) : Int) := by
    unfold floatBytes wordLimit at hfits
    simp only [Model.sizeOf, Model.numRow?, hset, Option.map_some, Option.getD_some]
    rw [wrap_of_lt (by unfold wordLimit; omega), signed_of_lt (by omega)]
  exact congrArg Except.ok hsize

/-- Read as values, a readable output goes through a buffer of exactly its size. -/
theorem answer_getOutputFloats_of_ready {input : Input} (hset : m.input = some input)
    (hready : m.outputReady = true) (hfilled : Filled m)
    (hwidth : m.schema.outputWidth ≤ m.schema.numOutputGroup)
    (hslots : input.matrix.numRow * m.schema.numOutputGroup < wordLimit)
    (hfits : input.matrix.numRow * m.schema.outputWidth * floatBytes < wordLimit) :
    m.answer (.getOutputFloats 0)
      = .ok (.floats (m.output.take (input.matrix.numRow * m.schema.outputWidth))) := by
  have hread := outputBytes_of_ready hset hready hfits
    (input.matrix.numRow * m.schema.outputWidth * floatBytes)
  rw [if_neg (Nat.lt_irrefl _)] at hread
  have hlength := length_read hset hready hfilled hwidth hslots
  rw [answer_getOutputFloats, outputSize_of_set hset hfits, readFloats_of_ok hfits hlength hread]
  rfl

/-- A readable output of a size that fits is read as the first slots of the buffer. -/
theorem readsAs_of_ready {input : Input} (hset : m.input = some input)
    (hready : m.outputReady = true) (hfilled : Filled m)
    (hwidth : m.schema.outputWidth ≤ m.schema.numOutputGroup)
    (hfits : input.matrix.numRow * m.schema.numOutputGroup * floatBytes < wordLimit) :
    (m.output.take (input.matrix.numRow * m.schema.outputWidth)).length
        = input.matrix.numRow * m.schema.outputWidth ∧
      ReadsAs m (m.output.take (input.matrix.numRow * m.schema.outputWidth)) := by
  have hle : input.matrix.numRow * m.schema.outputWidth
      ≤ input.matrix.numRow * m.schema.numOutputGroup :=
    Nat.mul_le_mul_left input.matrix.numRow hwidth
  -- Fewer values are read than there are slots, so their products fit as well.
  have hslots : input.matrix.numRow * m.schema.numOutputGroup < wordLimit := by
    unfold floatBytes at hfits
    omega
  have hbytes : input.matrix.numRow * m.schema.outputWidth * floatBytes < wordLimit := by
    unfold floatBytes at hfits ⊢
    omega
  have hlength := length_read hset hready hfilled hwidth hslots
  refine ⟨hlength, ?_, ?_⟩
  · intro buffer
    rw [answer_getOutput, outputBytes_of_ready hset hready hbytes, hlength]
    split <;> rfl
  · exact answer_getOutputFloats_of_ready hset hready hfilled hwidth hslots hbytes

/-- What can be read of the output, told from the model itself. -/
def Model.readable (m : Model) : Except Fault (Input × List Binary32) :=
  match m.input with
  | none => .error .inputNotSet
  | some input =>
      if m.outputReady then .ok (input, m.output) else .error .outputNotReady

/-- What can be read is the output, with the input that it belongs to. -/
theorem readable_inv {input : Input} {slots : List Binary32}
    (h : m.readable = .ok (input, slots)) :
    m.input = some input ∧ m.outputReady = true ∧ m.output = slots := by
  unfold Model.readable at h
  -- Without an input or a run there is nothing to read.
  cases hset : m.input with
  | none =>
    rw [hset] at h
    cases h
  | some input' =>
    simp only [hset] at h
    cases hready : m.outputReady with
    | false =>
      rw [hready] at h
      cases h
    | true =>
      rw [hready] at h
      cases h
      exact ⟨rfl, rfl, rfl⟩

theorem unreadable_of_readable {fault : Fault} (h : m.readable = .error fault) :
    Unreadable m fault := by
  unfold Model.readable at h
  -- The input is missed first, and then the run.
  cases hset : m.input with
  | none =>
    rw [hset] at h
    cases h
    exact unreadable_of_outputBytes (outputBytes_of_unset hset)
  | some input =>
    simp only [hset] at h
    cases hready : m.outputReady with
    | true =>
      rw [hready] at h
      cases h
    | false =>
      rw [hready] at h
      cases h
      exact unreadable_of_outputBytes (outputBytes_of_unready hset hready)

theorem readsAs_of_readable {input : Input} {slots : List Binary32}
    (h : m.readable = .ok (input, slots)) (hfilled : Filled m)
    (hwidth : m.schema.outputWidth ≤ m.schema.numOutputGroup)
    (hfits : input.matrix.numRow * m.schema.numOutputGroup * floatBytes < wordLimit) :
    (slots.take (input.matrix.numRow * m.schema.outputWidth)).length
        = input.matrix.numRow * m.schema.outputWidth ∧
      ReadsAs m (slots.take (input.matrix.numRow * m.schema.outputWidth)) := by
  obtain ⟨hset, hready, rfl⟩ := readable_inv h
  exact readsAs_of_ready hset hready hfilled hwidth hfits

theorem readable_of_recalls {m₀ : Model} {steps : List (Step interface)}
    (h : Recalls m₀ steps m) : readable steps = m.readable := by
  rw [readable, ← h.input, ← h.outputReady, ← h.output]
  rfl

/-- An output that was made readable has an input. -/
theorem unready_of_unset {m₀ : Model} {steps : List (Step interface)} (h : Recalls m₀ steps m)
    (hfilled : Filled m) (hunset : currentInput steps = none) :
    (runsSinceInput steps).any (·.succeeded) = false := by
  rw [← h.outputReady]
  cases hready : m.outputReady with
  | false => rfl
  | true =>
    obtain ⟨input, hset, -⟩ := hfilled hready
    rw [← h.input, hset] at hunset
    cases hunset

end

/-! ## §3. Whole sessions -/

/-- **When the output can be read.**  Whatever the engine replies and whatever the operations were,
`readable` tells whether the output can be read, and what is read are the first slots of the
buffer as the latest run left them.  This is as intended unless the output is stale. -/
theorem life_reads_output {σ : Type} (E : Engine interface σ) (engine : σ) (artifact : Artifact)
    (device : Device) (threads : Int32) (operations : List Operation) :
    let (l, _) := (lifecycle artifact device threads).life operations E (.start engine)
    ∀ m, l.model = .ok m →
      (readable l.steps = intended l.steps ↔ ¬ Stale l.steps) ∧
      (∀ fault, readable l.steps = .error fault → Unreadable m fault) ∧
      ∀ input slots, readable l.steps = .ok (input, slots) →
        input.matrix.numRow * m.schema.numOutputGroup * floatBytes < wordLimit →
        (slots.take (input.matrix.numRow * m.schema.outputWidth)).length
            = input.matrix.numRow * m.schema.outputWidth ∧
          ReadsAs m (slots.take (input.matrix.numRow * m.schema.outputWidth)) := by
  have h := life_lived E engine artifact device threads operations
  generalize (lifecycle artifact device threads).life operations E (.start engine) = r at h ⊢
  obtain ⟨l, w⟩ := r
  obtain ⟨-, hlived⟩ := h
  intro m hm
  obtain ⟨-, hfilled, hwidth⟩ := knows_of_lived hlived hm
  obtain ⟨_, -, -, -, hrecalls⟩ := recalls_of_lived hlived hm
  -- What happened tells what the model can be read of, and the model what its readers answer.
  refine ⟨?_, ?_, ?_⟩
  · exact readable_eq_intended_iff (unready_of_unset hrecalls hfilled)
  · intro fault hfault
    rw [readable_of_recalls hrecalls] at hfault
    exact unreadable_of_readable hfault
  · intro input slots hslots hfits
    rw [readable_of_recalls hrecalls] at hslots
    exact readsAs_of_readable hslots hfilled hwidth hfits

/-- An engine that takes one value in each row and gives one back, and whose second prediction
fails. -/
def faltering : Engine interface Script.State :=
  Script.direct
    { schema := ⟨1, 1, 1⟩
      failures := fun f =>
        if f = .predictBatch then
          [none, some (.treelite "TreelitePredictorPredictBatch" "feature index out of bounds")]
        else [] }

/-- After a run that succeeded the output is read. -/
theorem first_run_is_read :
    let (l, _) := (lifecycle ⟨"model.so", none⟩ .cpu (-1)).life
      [.setInputFloats "data" [1, 1] [⟨0x3F800000⟩], .run] faltering (.start .start)
    ∃ m, l.model = .ok m ∧ ReadsAs m [⟨0x3F800000⟩] := by
  have h := life_reads_output faltering .start ⟨"model.so", none⟩ .cpu (-1)
    [.setInputFloats "data" [1, 1] [⟨0x3F800000⟩], .run]
  refine ⟨_, rfl, ?_⟩
  obtain ⟨-, -, hreads⟩ := h _ rfl
  exact (hreads _ _ rfl (by decide)).2

/-- A run that fails after one that succeeded leaves the output readable, where it is meant not
to be. -/
theorem failed_run_leaves_output_readable :
    let (l, _) := (lifecycle ⟨"model.so", none⟩ .cpu (-1)).life
      [.setInputFloats "data" [1, 1] [⟨0x3F800000⟩], .run, .run] faltering (.start .start)
    intended l.steps = .error .outputNotReady ∧
      ∃ m, l.model = .ok m ∧ m.answer (.getOutput 0 [0, 0, 0, 0])
        = .filled (.ok (), [0, 0, 128, 63]) :=
  ⟨rfl, _, rfl, rfl⟩

end ModelAdapter.Treelite
