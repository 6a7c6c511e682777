import Mathlib.Algebra.Ring.Int.Defs
import ModelAdapter.Proofs.Treelite.Rounds

/-! # Metadata and data agree

A caller sizes its buffers by what the model tells of its input and its output: the
shape, the number of elements, the rank.  Each of these answers is worked out anew from
the state, and so is how much a reading of the output copies.  This module proves that
in every state they fit each other and the operations so far.

  * **Shapes** (`shapeAfter`): the rows are those that the latest input was given with,
    and -1 as long as there is none.  The width is that of the schema, also when the
    input came with fewer columns.
  * **Sizes and ranks** (`Tells`): the product of the extents, in which -1 counts as one,
    and how many extents there are.
  * **Reading** (`Refuses`, `Copies`): without an input, and without a run that succeeded
    since it was set, nothing is copied.  After a run that succeeded, four bytes for each
    element of the output go to the start of the caller's buffer, which otherwise stays
    as it was.

Rows and elements are counted in machine words, and what is asked is that the row
products fit in them (`InRange`).
-/

namespace ModelAdapter.Treelite

/-! ## §1. What the answers should be -/

/-- The rows that the latest input was given with: the first extent of its shape. -/
def rowsGiven (steps : List (Step interface)) : Option Int :=
  (latestInput steps).bind fun s => s.operation.payload?.bind (·.shape.head?)

/-- The shape of a tensor that has a row for each row of the input. -/
def shapeAfter (steps : List (Step interface)) (width : Nat) : List Int :=
  [(rowsGiven steps).getD (-1), width]

/-- How many elements a tensor of a shape has; an extent that is not known counts as one. -/
def elements (extents : List Int) : Int :=
  (extents.map (fun n => if n = -1 then 1 else n)).prod

/-- A shape, a size and a rank are asked for, and the answers are those for the same extents. -/
structure Tells (m : Model) (shape size dim : Query) (extents : List Int) : Prop where
  shape : m.answer shape = .ok (.shape extents)
  size : m.answer size = .ok (.size (elements extents))
  dim : m.answer dim = .ok (.count extents.length)

/-- Reading the output fails, and the caller's buffer stays as it was. -/
structure Refuses (m : Model) (fault : Fault) : Prop where
  copy : ∀ buffer, m.getOutput 0 buffer = (.error fault, buffer)
  floats : m.answer (.getOutputFloats 0) = .error fault

/-- Reading the output puts some values at the start of any buffer that has room for them and keeps
the rest of it; a shorter buffer is refused and stays as it was. -/
structure Copies (m : Model) (values : List Binary32) : Prop where
  copy : ∀ buffer, values.length * floatBytes ≤ buffer.length →
    m.getOutput 0 buffer
      = (.ok (), Binary32.encode values ++ buffer.drop (values.length * floatBytes))
  short : ∀ buffer, buffer.length < values.length * floatBytes →
    m.getOutput 0 buffer
      = (.error (.bufferTooSmall (values.length * floatBytes) buffer.length), buffer)
  floats : m.answer (.getOutputFloats 0) = .ok (.floats values)

/-- The products of a number of rows with the widths of a schema fit in the words that keep them. -/
structure Schema.Fits (schema : Schema) (rows : Nat) : Prop where
  features : rows * schema.numFeature < 0x8000000000000000
  bytes : rows * schema.outputWidth * floatBytes < wordLimit
  slots : rows * schema.numOutputGroup < wordLimit

/-- The row products fit for the rows of the input, and for the one row that stands for rows that
are not known. -/
def InRange (m : Model) : Prop :=
  m.schema.Fits 1 ∧ ∀ rows, m.numRow? = some rows → m.schema.Fits rows

/-! ## §2. The rows of the input -/

/-- A matrix that the model reads has as many rows as its shape says, few enough to be indexed. -/
theorem rows_of_readMatrix {m : Model} {shape : List Int} {bytes : List UInt8} {matrix : Csr}
    (h : m.readMatrix shape bytes = .ok matrix) :
    ∃ numCol : Nat, shape = [(matrix.numRow : Int), (numCol : Int)] ∧
      numCol ≤ m.schema.numFeature ∧ matrix.numRow < Csr.rowLimit := by
  obtain ⟨numRow, numCol, hshape, hcols, -, -, hdense⟩ := readMatrix_inv h
  obtain ⟨-, -, -, hlimit, rfl⟩ := Csr.ofDense_inv hdense
  exact ⟨numCol, hshape, hcols, hlimit⟩

section
variable {m₀ m : Model} {steps : List (Step interface)}

/-- The input of a model has the rows that it was given with. -/
theorem given_of_reaches (h : Reaches Transition m₀ steps m) {s : Step interface}
    (hlatest : latestInput steps = some s) :
    ∃ payload input, ∃ numCol : Nat, s.operation.payload? = some payload ∧
      m.input = some input ∧ payload.shape = [(input.matrix.numRow : Int), (numCol : Int)] ∧
      numCol ≤ m.schema.numFeature ∧ input.matrix.numRow < Csr.rowLimit := by
  obtain ⟨payload, matrix, r, hpayload, hread, hran, hround⟩ := inRound_of_reaches h hlatest
  obtain ⟨input, hset, -⟩ := Option.map_eq_some_iff.mp hround
  have hmatrix : input.matrix = matrix := matrix_of_round hset hround hran
  obtain ⟨numCol, hshape, hcols, hlimit⟩ := rows_of_readMatrix hread
  rw [← hmatrix] at hshape hlimit
  exact ⟨payload, input, numCol, hpayload, hset, hshape, hcols, hlimit⟩

/-- The model counts the rows that the latest input was given with, if there is one. -/
theorem rowsGiven_of_reaches (h : Reaches Transition m₀ steps m) (hrecalls : Recalls m₀ steps m) :
    rowsGiven steps = m.numRow?.map Int.ofNat := by
  cases hlatest : latestInput steps with
  | none =>
    have hunset : m.input = none := by
      rw [hrecalls.input, currentInput, hlatest]
      rfl
    simp [rowsGiven, hlatest, Model.numRow?, hunset]
  | some s =>
    obtain ⟨payload, input, numCol, hpayload, hset, hshape, -, -⟩ := given_of_reaches h hlatest
    simp [rowsGiven, hlatest, hpayload, hshape, Model.numRow?, hset]

/-- The rows of an input are few enough to be handed out as a signed number. -/
theorem rows_lt_of_reaches (h : Reaches Transition m₀ steps m) (hrecalls : Recalls m₀ steps m)
    {rows : Nat} (hrows : m.numRow? = some rows) : rows < 0x8000000000000000 := by
  obtain ⟨input, hset, rfl⟩ := Option.map_eq_some_iff.mp hrows
  cases hlatest : latestInput steps with
  | none =>
    rw [hrecalls.input, currentInput, hlatest] at hset
    cases hset
  | some s =>
    obtain ⟨_, input', _, -, hset', -, -, hlimit⟩ := given_of_reaches h hlatest
    cases hset.symm.trans hset'
    unfold Csr.rowLimit at hlimit
    omega

end

/-! ## §3. Shapes, sizes and ranks -/

section
variable {m : Model} {steps : List (Step interface)} {width : Nat}

/-- A shape is that of the rows given, when rows and width can be handed out. -/
theorem shapeOf_eq_shapeAfter (hgiven : rowsGiven steps = m.numRow?.map Int.ofNat)
    (hrows : ∀ rows, m.numRow? = some rows → rows < 0x8000000000000000)
    (hwidth : width < 0x8000000000000000) : m.shapeOf width = shapeAfter steps width := by
  unfold Model.shapeOf shapeAfter
  rw [hgiven, signed_of_lt hwidth]
  cases hknown : m.numRow? with
  | none => rfl
  | some rows =>
    simp only [signed_of_lt (hrows rows hknown)]
    rfl

/-- The elements of a shape are counted by its rows, of which there is one when they are not
known. -/
theorem elements_shapeAfter (hgiven : rowsGiven steps = m.numRow?.map Int.ofNat) (width : Nat) :
    elements (shapeAfter steps width) = ((m.numRow?.getD 1 * width : Nat) : Int) := by
  have hwidth : (width : Int) ≠ -1 := by omega
  unfold elements shapeAfter
  rw [hgiven]
  cases m.numRow? with
  | none => simp [hwidth]
  | some rows =>
    have hrows : (rows : Int) ≠ -1 := by omega
    simp [hrows, hwidth]

/-- A size is the number of elements of the shape, when the product can be handed out. -/
theorem sizeOf_eq_elements (hgiven : rowsGiven steps = m.numRow?.map Int.ofNat)
    (hproduct : m.numRow?.getD 1 * width < 0x8000000000000000) :
    m.sizeOf width = elements (shapeAfter steps width) := by
  have hword : m.numRow?.getD 1 * width < wordLimit := by
    unfold wordLimit
    omega
  rw [elements_shapeAfter hgiven, Model.sizeOf, wrap_of_lt hword, signed_of_lt hproduct]

/-- A row product that fits with four bytes for each element fits by far without them. -/
theorem lt_of_bytes {n : Nat} (h : n * floatBytes < wordLimit) : n < 0x8000000000000000 := by
  unfold floatBytes wordLimit at h
  omega

theorem InRange.fits (h : InRange m) : m.schema.Fits (m.numRow?.getD 1) := by
  obtain ⟨hone, hrows⟩ := h
  cases hknown : m.numRow? with
  | none => exact hone
  | some rows => exact hrows rows hknown

/-- What the model tells of a tensor of some width that has a row for each row of the input. -/
theorem tells_of_width {shape size dim : Query}
    (hshape : m.answer shape = .ok (.shape (m.shapeOf width)))
    (hsize : m.answer size = .ok (.size (m.sizeOf width))) (hdim : m.answer dim = .ok (.count 2))
    (hgiven : rowsGiven steps = m.numRow?.map Int.ofNat)
    (hrows : ∀ rows, m.numRow? = some rows → rows < 0x8000000000000000)
    (hwidth : width < 0x8000000000000000)
    (hproduct : m.numRow?.getD 1 * width < 0x8000000000000000) :
    Tells m shape size dim (shapeAfter steps width) := by
  constructor
  case shape => rw [hshape, shapeOf_eq_shapeAfter hgiven hrows hwidth]
  case size => rw [hsize, sizeOf_eq_elements hgiven hproduct]
  case dim => exact hdim

/-! ## §4. Reading the output -/

/-- What cannot be copied out is refused, when the size of the output is known. -/
theorem refuses_of_outputBytes {fault : Fault} {size : Nat} (hsize : m.outputSize 0 = .ok size)
    (h : ∀ length, m.outputBytes 0 length = .error fault) : Refuses m fault := by
  have hnonneg : ¬ (size : Int) < 0 := by omega
  constructor
  case copy =>
    intro buffer
    simp [Model.getOutput, copyOut, h]
  case floats =>
    have hread : readFloats 0 (.ok (size : Int)) (m.outputBytes 0) = .error fault := by
      simp [readFloats, hnonneg, h, bind, Except.bind]
    rw [answer_getOutputFloats, hsize, hread]
    rfl

/-- A readable output is copied to the start of a buffer that has room for it. -/
theorem copies_of_ready {input : Input} (hset : m.input = some input)
    (hready : m.outputReady = true) (hfilled : Filled m)
    (hwidth : m.schema.outputWidth ≤ m.schema.numOutputGroup)
    (hfits : m.schema.Fits input.matrix.numRow) :
    (m.output.take (input.matrix.numRow * m.schema.outputWidth)).length
        = input.matrix.numRow * m.schema.outputWidth ∧
      Copies m (m.output.take (input.matrix.numRow * m.schema.outputWidth)) := by
  have hlength := length_read hset hready hfilled hwidth hfits.slots
  have hbytes := outputBytes_of_ready hset hready hfits.bytes
  have hfloats := answer_getOutputFloats_of_ready hset hready hfilled hwidth hfits.slots hfits.bytes
  -- What is read is so many values, and nothing else matters about them.
  generalize input.matrix.numRow * m.schema.outputWidth = count at *
  generalize m.output.take count = values at *
  subst hlength
  refine ⟨rfl, ?_, ?_, hfloats⟩
  · intro buffer hroom
    have hle : (Binary32.encode values).length ≤ buffer.length := by
      rw [Binary32.length_encode]
      exact hroom
    rw [Model.getOutput, hbytes, if_neg (Nat.not_lt.mpr hroom)]
    simp only [copyOut]
    rw [overwrite_of_length_le hle, Binary32.length_encode]
    rfl
  · intro buffer hshort
    rw [Model.getOutput, hbytes, if_pos hshort]
    rfl

end

/-! ## §5. Whole sessions -/

/-- **Metadata and data agree.**  Whatever the engine replies and whatever the operations were, what
the model tells of its input and its output are the rows that the latest input was given with
beside the widths of the schema, with the sizes and ranks of these shapes.  The output is refused
without an input and without a run that succeeded since; after a run that succeeded, it is copied
as far as its size says, from the slots as that run left them. -/
theorem life_agrees_on_metadata {σ : Type} (E : Engine interface σ) (engine : σ)
    (artifact : Artifact) (device : Device) (threads : Int32) (operations : List Operation) :
    let (l, _) := (lifecycle artifact device threads).life operations E (.start engine)
    ∀ m, l.model = .ok m → InRange m →
      (latestInput l.steps = none → rowsGiven l.steps = none) ∧
      (∀ s, latestInput l.steps = some s → ∃ payload, ∃ numRow numCol : Nat,
        s.operation.payload? = some payload ∧
        payload.shape = [(numRow : Int), (numCol : Int)] ∧ numCol ≤ m.schema.numFeature ∧
        rowsGiven l.steps = some (numRow : Int)) ∧
      Tells m (.inputShape 0) (.inputSize 0) (.inputDim 0)
        (shapeAfter l.steps m.schema.numFeature) ∧
      Tells m (.outputShape 0) (.outputSize 0) (.outputDim 0)
        (shapeAfter l.steps m.schema.outputWidth) ∧
      (latestInput l.steps = none → Refuses m .inputNotSet) ∧
      (latestInput l.steps ≠ none → (∀ run ∈ runsSinceInput l.steps, run.succeeded = false) →
        Refuses m .outputNotReady) ∧
      ∀ run, (runsSinceInput l.steps).getLast? = some run → run.succeeded = true →
        ∃ values rest, slotsAfter run = values ++ rest ∧
          (values.length : Int) = elements (shapeAfter l.steps m.schema.outputWidth) ∧
          Copies m values := by
  have h := life_lived E engine artifact device threads operations
  generalize (lifecycle artifact device threads).life operations E (.start engine) = r at h ⊢
  obtain ⟨l, w⟩ := r
  obtain ⟨-, hlived⟩ := h
  intro m hm hrange
  obtain ⟨-, hfilled, hwidth⟩ := knows_of_lived hlived hm
  obtain ⟨m₀, -, hrun, -, hrecalls⟩ := recalls_of_lived hlived hm
  have hgiven := rowsGiven_of_reaches hrun hrecalls
  have hrows : ∀ rows, m.numRow? = some rows → rows < 0x8000000000000000 :=
    fun _ => rows_lt_of_reaches hrun hrecalls
  -- Both widths fit by themselves, as the products for one row.
  have hfeatures : m.schema.numFeature < 0x8000000000000000 := by
    have hone := hrange.1.features
    omega
  have houtputs : m.schema.outputWidth < 0x8000000000000000 := by
    have hone := lt_of_bytes hrange.1.bytes
    omega
  have houtput := lt_of_bytes hrange.fits.bytes
  have hsize : m.outputSize 0 = .ok ((m.numRow?.getD 1 * m.schema.outputWidth : Nat) : Int) := by
    rw [← elements_shapeAfter hgiven, ← sizeOf_eq_elements hgiven houtput]
    rfl
  refine ⟨?_, ?_, ?_, ?_, ?_, ?_, ?_⟩
  · intro hnone
    rw [rowsGiven, hnone]
    rfl
  · intro s hlatest
    obtain ⟨payload, input, numCol, hpayload, hset, hshape, hcols, -⟩ :=
      given_of_reaches hrun hlatest
    refine ⟨payload, input.matrix.numRow, numCol, hpayload, hshape, hcols, ?_⟩
    rw [hgiven, Model.numRow?, hset]
    rfl
  · exact tells_of_width rfl rfl rfl hgiven hrows hfeatures hrange.fits.features
  · exact tells_of_width rfl rfl rfl hgiven hrows houtputs houtput
  · intro hnone
    have hunset : m.input = none := by
      rw [hrecalls.input, currentInput, hnone]
      rfl
    exact refuses_of_outputBytes hsize (outputBytes_of_unset hunset)
  · intro hsome hfailed
    obtain ⟨s, hlatest⟩ := Option.ne_none_iff_exists'.mp hsome
    obtain ⟨_, input, _, -, hset, -, -, -⟩ := given_of_reaches hrun hlatest
    have hunready : m.outputReady = false := by
      rw [hrecalls.outputReady, List.any_eq_false]
      intro run hmem
      simp [hfailed run hmem]
    exact refuses_of_outputBytes hsize (outputBytes_of_unready hset hunready)
  · intro run hlast hsucceeded
    have hready : m.outputReady = true := by
      rw [hrecalls.outputReady, List.any_eq_true]
      exact ⟨run, List.mem_of_getLast? hlast, hsucceeded⟩
    have hleft : m.output = slotsAfter run := by
      rw [hrecalls.output, leftSlots, hlast]
      rfl
    obtain ⟨input, hset, -⟩ := hfilled hready
    have hknown : m.numRow? = some input.matrix.numRow := by
      rw [Model.numRow?, hset]
      rfl
    obtain ⟨hlength, hcopies⟩ := copies_of_ready hset hready hfilled hwidth
      (hrange.2 _ hknown)
    refine ⟨_, _, hleft.symm.trans (List.take_append_drop _ m.output).symm, ?_, hcopies⟩
    rw [elements_shapeAfter hgiven, hknown, hlength]
    rfl

/-- Two rows that come with one column where the model has two features, and a slot for each row
that is not read. -/
theorem narrow_rows_are_told :
    let (l, _) := (lifecycle ⟨"model.so", none⟩ .cpu (-1)).life
      [.setInputFloats "data" [2, 1] [⟨0x3F800000⟩, ⟨0x40000000⟩], .run]
      (Script.direct { schema := ⟨2, 2, 1⟩, failures := fun _ => [] }) (.start .start)
    ∃ m, l.model = .ok m ∧ InRange m ∧ m.answer (.inputShape 0) = .ok (.shape [2, 2]) ∧
      m.answer (.outputSize 0) = .ok (.size 2) ∧
      ∃ values, values.length = 2 ∧ Copies m values := by
  have h := life_agrees_on_metadata
    (Script.direct { schema := ⟨2, 2, 1⟩, failures := fun _ => [] }) .start ⟨"model.so", none⟩
    .cpu (-1) [.setInputFloats "data" [2, 1] [⟨0x3F800000⟩, ⟨0x40000000⟩], .run]
  -- Two rows are in range of any word.
  have hrange : ∀ m : Model, m.schema = ⟨2, 2, 1⟩ → m.numRow? = some 2 → InRange m := by
    intro m hschema htwo
    refine ⟨?_, ?_⟩
    · rw [hschema]
      exact ⟨by decide, by decide, by decide⟩
    · intro rows hrows
      cases hrows.symm.trans htwo
      rw [hschema]
      exact ⟨by decide, by decide, by decide⟩
  obtain ⟨-, -, hinput, houtput, -, -, hreads⟩ := h _ rfl (hrange _ rfl rfl)
  obtain ⟨values, _, -, hlength, hcopies⟩ := hreads _ rfl rfl
  have htwo : (values.length : Int) = 2 := hlength
  exact ⟨_, rfl, hrange _ rfl rfl, hinput.shape, houtput.size, values, by omega, hcopies⟩

end ModelAdapter.Treelite
