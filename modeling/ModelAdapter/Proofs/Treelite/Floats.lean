import ModelAdapter.Proofs.Treelite.Acceptance
import ModelAdapter.Proofs.Treelite.Readiness

/-! # Values in, values out

A caller of the tree-ensemble engine has values, and the uniform interface hands over
bytes.  On the way in the values are encoded, cut off by a count of bytes, decoded, and
made into a sparse matrix; on the way out the slots of the engine are encoded, copied
into a buffer, and decoded.  Nothing is lost on either way: it is as if the values had
been handed over themselves.

  * **In** (`ofDense_of_reads`, `illegible_short_iff`): the matrix is made of the values,
    and values are too few exactly if their bytes are.
  * **Out** (`Predicts`): the latest run, if it succeeded, and the slots that it left.
  * **Sessions** (`floats_come_through`).
-/

namespace ModelAdapter.Treelite

/-! ## §1. In -/

section
variable {m : Model} {shape : List Int} {values : List Binary32} {matrix : Csr}

/-- What is read of encoded values is the sparse form of the values. -/
theorem ofDense_of_reads (h : m.Reads shape (Binary32.encode values) matrix) :
    ∃ rows cols : Nat, shape = [(rows : Int), (cols : Int)] ∧
      Csr.ofDense values rows cols m.schema.numFeature = .ok matrix := by
  obtain ⟨rows, cols, hlegible, taken, -, hencode, hform⟩ := h
  -- As many values are taken as their bytes are counted.
  have htaken : taken = values.take (rows * cols) := by
    rw [← Binary32.decode_encode taken, hencode, ← Binary32.decode_encode (values.take _),
      Binary32.encode_take]
    rfl
  rw [htaken, Csr.ofDense_take] at hform
  exact ⟨rows, cols, hlegible.shape_eq, hform⟩

/-- Encoded values are too few bytes exactly if they are too few values. -/
theorem illegible_short_iff {features needed actual : Nat} :
    Illegible features (Binary32.encode values).length shape (.bufferTooSmall needed actual) ↔
      ∃ rows cols : Nat, shape = [(rows : Int), (cols : Int)] ∧ cols ≤ features ∧
        rows * cols * floatBytes < wordLimit ∧ values.length < rows * cols ∧
        needed = rows * cols * floatBytes ∧ actual = values.length * floatBytes := by
  have hbytes : (Binary32.encode values).length = values.length * floatBytes :=
    Binary32.length_encode values
  have hfewer {count : Nat} :
      values.length * floatBytes < count * floatBytes ↔ values.length < count :=
    Nat.mul_lt_mul_right (by decide)
  rw [hbytes]
  constructor
  · intro h
    cases h with
    | @short rows cols hnarrow hcountable hshort =>
      exact ⟨rows, cols, rfl, hnarrow, hcountable, hfewer.mp hshort, rfl, rfl⟩
  · rintro ⟨rows, cols, rfl, hnarrow, hcountable, hshort, rfl, rfl⟩
    exact .short hnarrow hcountable (hfewer.mpr hshort)

/-- Values that were set were read, and the engine assembled a batch of them. -/
theorem setInputFloats_inv {σ : Type} (E : Engine interface σ) (w : World interface σ)
    {name : String} {m' : Model} {answer : Answer}
    (h : (m.operate (.setInputFloats name shape values) E w).1 = (.ok answer, m')) :
    ∃ matrix batch, m.Reads shape (Binary32.encode values) matrix ∧
      m' = { m with input := some { matrix, batch }, output := [], outputReady := false } := by
  -- Values are set as their bytes are.
  have hbytes : (m.operate (.setInput name shape (Binary32.encode values)) E w).1
      = (.ok answer, m') := h
  rcases illegible_or_assembling E w m shape (Binary32.encode values) with
    ⟨_, hillegible⟩ | ⟨_, _, hreads, hreply⟩ | ⟨matrix, batch, hreads, hreply⟩
  · rw [setInput_of_illegible E w hillegible] at hbytes
    cases hbytes
  · rw [setInput_of_notAssembled E w hreads hreply] at hbytes
    cases hbytes
  · rw [setInput_of_assembled E w hreads hreply] at hbytes
    cases hbytes
    exact ⟨matrix, batch, hreads, rfl⟩

end

/-! ## §2. Out -/

/-- A run was one prediction of the batch that the model has, and the output can be read and is what
the engine left of the slots. -/
structure Predicts (run : Step interface) (m : Model) (input : Input) (slots : List Binary32)
    (reply : Except Fault Nat × List Binary32) : Prop where
  current : m.input = some input
  call : run.exchanges
    = [⟨Call.predictBatch m.predictor input.batch false false slots, reply⟩]
  room : slots.length = wrap (input.matrix.numRow * m.schema.numOutputGroup)
  ready : m.outputReady = true
  output : m.output = overwrite slots reply.2

section
variable {m₀ m m' : Model} {steps : List (Step interface)} {run : Step interface}

/-- **One run** that succeeds is such a prediction. -/
theorem predicts_of_run (h : Transition m run.operation run.exchanges run.outcome m')
    (hrun : run.isRun = true) (hok : run.succeeded = true) :
    ∃ input slots reply, Predicts run m' input slots reply := by
  obtain ⟨result, houtcome, hruns⟩ := isRun_inv h hrun
  -- A run that failed is none of those that count here.
  have hsucceeded : result.isOk = true := by
    unfold Step.succeeded at hok
    rw [houtcome] at hok
    cases result with
    | error => cases hok
    | ok => rfl
  generalize hxs : run.exchanges = xs at hruns
  cases hruns with
  | noInput => cases hsucceeded
  | @predicted input hset reply left =>
    refine ⟨input, m.slots input, (reply, left), hset, hxs, ?_, ?_, rfl⟩
    · exact length_resize _ _ _
    · cases reply with
      | ok => simp [Except.isOk, Except.toBool]
      | error => cases hsucceeded

/-- **A run of operations** keeps what the latest run left, up to the next input. -/
theorem predicts_of_reaches (h : Reaches Transition m₀ steps m)
    (hlast : (runsSinceInput steps).getLast? = some run) (hok : run.succeeded = true) :
    ∃ input slots reply, Predicts run m input slots reply := by
  -- On the operations: the last run is the one that left the output.
  induction h with
  | start => cases hlast
  | @step steps m m' s _ hs ih =>
    by_cases hsets : s.setsInput = true
    · rw [runsSinceInput_of_sets hsets] at hlast
      cases hlast
    rw [Bool.not_eq_true] at hsets
    by_cases hrun : s.isRun = true
    · rw [runsSinceInput_of_run hsets hrun, List.getLast?_concat] at hlast
      cases hlast
      exact predicts_of_run hs hrun hok
    · rw [Bool.not_eq_true] at hrun
      rw [runsSinceInput_of_other hsets hrun] at hlast
      rw [eq_of_other hs hsets hrun]
      exact ih hlast

end

/-! ## §3. Whole sessions -/

/-- **Values come through** bit for bit.  Encoding and decoding are inverse to each other, but for
up to three bytes at the end that make no value.  So, whatever the engine replies and whatever the
operations were, setting an input from values takes the sparse form of these values themselves; it
fails for want of bytes exactly if a shape that passes the checks before that asks for more values,
unless that is what the engine fails with; and when the latest run since the input was set
succeeded, the values read are the first slots as that run left them, one for each row and output
of a row, provided that slots and bytes can be counted in a word. -/
theorem floats_come_through {σ : Type} (E : Engine interface σ) (engine : σ)
    (artifact : Artifact) (device : Device) (threads : Int32) (operations : List Operation) :
    (∀ values, Binary32.decode (Binary32.encode values) = values) ∧
    (∀ bytes, (Binary32.decode bytes).length = bytes.length / floatBytes ∧
      Binary32.encode (Binary32.decode bytes)
        = bytes.take (bytes.length / floatBytes * floatBytes)) ∧
    let (l, _) := (lifecycle artifact device threads).life operations E (.start engine)
    ∀ m, l.model = .ok m →
      (∀ w name shape values m' answer,
        (m.operate (.setInputFloats name shape values) E w).1 = (.ok answer, m') →
        ∃ (rows cols : Nat) (matrix : Csr) (batch : Handle),
          shape = [(rows : Int), (cols : Int)] ∧
          Csr.ofDense values rows cols m.schema.numFeature = .ok matrix ∧ matrix.numRow = rows ∧
          m' = { m with input := some { matrix, batch }, output := [], outputReady := false }) ∧
      (∀ w name shape values needed actual,
        (m.operate (.setInputFloats name shape values) E w).1.1
            = .error (.bufferTooSmall needed actual) ↔
          (∃ rows cols : Nat, shape = [(rows : Int), (cols : Int)] ∧
            cols ≤ m.schema.numFeature ∧ rows * cols * floatBytes < wordLimit ∧
            values.length < rows * cols ∧
            needed = rows * cols * floatBytes ∧ actual = values.length * floatBytes) ∨
          ∃ matrix, m.Reads shape (Binary32.encode values) matrix ∧
            assembling E w matrix = .error (.bufferTooSmall needed actual)) ∧
      ∀ run, (runsSinceInput l.steps).getLast? = some run → run.succeeded = true →
        ∃ input slots reply, Predicts run m input slots reply ∧
          (input.matrix.numRow * m.schema.numOutputGroup < wordLimit →
            input.matrix.numRow * m.schema.outputWidth * floatBytes < wordLimit →
            slots.length = input.matrix.numRow * m.schema.numOutputGroup ∧
            ∃ values, m.answer (.getOutputFloats 0) = .ok (.floats values) ∧
              values = (overwrite slots reply.2).take
                (input.matrix.numRow * m.schema.outputWidth) ∧
              values.length = input.matrix.numRow * m.schema.outputWidth) := by
  refine ⟨Binary32.decode_encode, fun bytes => ⟨Binary32.length_decode bytes,
    Binary32.encode_decode_take bytes⟩, ?_⟩
  have h := life_lived E engine artifact device threads operations
  generalize (lifecycle artifact device threads).life operations E (.start engine) = r at h ⊢
  obtain ⟨l, w⟩ := r
  obtain ⟨-, hlived⟩ := h
  intro m hm
  refine ⟨?_, ?_, ?_⟩
  · -- The matrix is made of the values themselves, since their bytes are read back as they are.
    intro w name shape values m' answer hset
    obtain ⟨matrix, batch, hreads, rfl⟩ := setInputFloats_inv E w hset
    obtain ⟨rows, cols, hshape, hform⟩ := ofDense_of_reads hreads
    exact ⟨rows, cols, matrix, batch, hshape, hform, (Csr.represents_of_ofDense hform).height, rfl⟩
  · intro w name shape values needed actual
    rw [← illegible_short_iff]
    exact setInput_error_iff E w m name shape (Binary32.encode values) _
  · intro run hlast hok
    -- What is read are the slots that the last run handed over, as the engine left them.
    obtain ⟨_, -, hreaches, -, -⟩ := recalls_of_lived hlived hm
    obtain ⟨-, hfilled, hwidth⟩ := knows_of_lived hlived hm
    obtain ⟨input, slots, reply, hpredicts⟩ := predicts_of_reaches hreaches hlast hok
    refine ⟨input, slots, reply, hpredicts, ?_⟩
    intro hslots hfits
    refine ⟨hpredicts.room.trans (wrap_of_lt hslots), _,
      answer_getOutputFloats_of_ready hpredicts.current hpredicts.ready hfilled hwidth hslots hfits,
      ?_, length_read hpredicts.current hpredicts.ready hfilled hwidth hslots⟩
    rw [hpredicts.output]

/-- One row of two values is set and run: one value is read.  Then two rows of two values are four
values too few, and one row of one value replaces the input. -/
theorem value_comes_through :
    let E := Script.direct { schema := ⟨2, 1, 1⟩, failures := fun _ => [] }
    let (l, _) := (lifecycle ⟨"model.so", none⟩ .cpu (-1)).life
      [.setInputFloats "data" [1, 2] [⟨0x3F800000⟩, ⟨0x40000000⟩], .run] E (.start .start)
    ∃ m, l.model = .ok m ∧
      (∃ value, m.answer (.getOutputFloats 0) = .ok (.floats [value])) ∧
      (m.operate (.setInputFloats "x" [2, 2] []) E (.start .start)).1.1
        = .error (.bufferTooSmall 16 0) ∧
      ∃ m' matrix batch,
        (m.operate (.setInputFloats "x" [1, 1] [⟨0x3F800000⟩]) E (.start .start)).1
          = (.ok .done, m') ∧
        Csr.ofDense [⟨0x3F800000⟩] 1 1 2 = .ok matrix ∧ m'.input = some { matrix, batch } := by
  intro E
  obtain ⟨-, -, h⟩ := floats_come_through E .start ⟨"model.so", none⟩ .cpu (-1)
    [.setInputFloats "data" [1, 2] [⟨0x3F800000⟩, ⟨0x40000000⟩], .run]
  refine ⟨_, rfl, ?_⟩
  obtain ⟨hset, hshort, hrun⟩ := h _ rfl
  refine ⟨?_, ?_, ?_⟩
  · obtain ⟨input, _, _, hpredicts, hread⟩ := hrun _ rfl rfl
    cases hpredicts.current
    obtain ⟨-, values, hvalues, -, hlength⟩ := hread (by decide) (by decide)
    obtain ⟨value, rfl⟩ := List.length_eq_one_iff.mp hlength
    exact ⟨value, hvalues⟩
  · exact (hshort _ _ _ _ _ _).mpr
      (.inl ⟨2, 2, rfl, by decide, by decide, by decide, rfl, rfl⟩)
  · -- The shape that was given is the one that was read.
    obtain ⟨rows, cols, matrix, batch, hshape, hform, -, hm'⟩ :=
      hset (.start .start) "x" [1, 1] [⟨0x3F800000⟩] _ .done rfl
    obtain ⟨rfl, rfl⟩ : rows = 1 ∧ cols = 1 := by
      simp only [List.cons.injEq, and_true] at hshape
      omega
    exact ⟨_, matrix, batch, rfl, hform, congrArg Model.input hm'⟩

end ModelAdapter.Treelite
