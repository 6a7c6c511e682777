import ModelAdapter.Proofs.SparseRows
import ModelAdapter.Proofs.Treelite.Buffers
import ModelAdapter.Proofs.Treelite.Replay
import ModelAdapter.Treelite.Script

/-! # Which inputs are accepted

Two layers look at an input before the engine gets it.  The model checks the shape and
counts bytes; the sparse matrix is then made of the values, with checks of its own that
count elements.  They ask the same questions in different units, so the checks of the
second layer are all decided by those of the first one, but for the number of rows.

  * **Inputs** (`Legible`, `Illegible`): what a shape and a number of bytes must be, and
    which fault tells what is wrong; of several things that are wrong it is the first.
  * **Matrices** (`MadeOf`): what is made of the bytes of a legible input.
  * **Setting the input** (`setInput_accepts_exactly`): it succeeds for the legible inputs
    of which the engine assembles a batch, and for no others.
-/

namespace ModelAdapter.Treelite

/-! ## §1. Inputs -/

/-- A shape of rows and columns that so many bytes are enough for. -/
structure Legible (features length : Nat) (shape : List Int) (rows cols : Nat) : Prop where
  shape_eq : shape = [(rows : Int), (cols : Int)]
  narrow : cols ≤ features
  countable : rows * cols * floatBytes < wordLimit
  long : rows * cols * floatBytes ≤ length
  indexable : rows < Csr.rowLimit

/-- What can be wrong with a shape and a number of bytes, and the fault that tells it.  Each of them
counts only if there is nothing wrong before it. -/
inductive Illegible (features length : Nat) : List Int → Fault → Prop
  | rank {shape : List Int} (odd : shape.length ≠ 2) :
      Illegible features length shape (.dimMismatch 2 shape.length)
  | rows {rows cols : Int} (negative : rows < 0) :
      Illegible features length [rows, cols]
        (.shapeMismatch 0 ("negative extent " ++ toString rows))
  | cols {rows : Nat} {cols : Int} (negative : cols < 0) :
      Illegible features length [(rows : Int), cols]
        (.shapeMismatch 1 ("negative extent " ++ toString cols))
  | wide {rows cols : Nat} (wide : features < cols) :
      Illegible features length [(rows : Int), (cols : Int)]
        (.shapeMismatch 1 ("ClientError: Value read: " ++ toString cols ++ ", Expected: "
          ++ toString features ++ " or less"))
  | uncountable {rows cols : Nat} (narrow : cols ≤ features)
      (many : wordLimit ≤ rows * cols * floatBytes) :
      Illegible features length [(rows : Int), (cols : Int)]
        (.shapeMismatch 0 (toString rows ++ " x " ++ toString cols ++ " float32 values overflow"))
  | short {rows cols : Nat} (narrow : cols ≤ features)
      (countable : rows * cols * floatBytes < wordLimit)
      (short : length < rows * cols * floatBytes) :
      Illegible features length [(rows : Int), (cols : Int)]
        (.bufferTooSmall (rows * cols * floatBytes) length)
  | unindexable {rows cols : Nat} (narrow : cols ≤ features)
      (countable : rows * cols * floatBytes < wordLimit)
      (long : rows * cols * floatBytes ≤ length) (many : Csr.rowLimit ≤ rows) :
      Illegible features length [(rows : Int), (cols : Int)]
        (.shapeMismatch 0 ("cannot index " ++ toString rows ++ " rows"))

/-- Every shape is legible or not, whatever the number of bytes. -/
theorem legible_or_illegible (features length : Nat) (shape : List Int) :
    (∃ rows cols, Legible features length shape rows cols) ∨
      ∃ fault, Illegible features length shape fault := by
  -- One question after the other, in the order of the constructors.
  by_cases hrank : shape.length = 2
  case neg => exact .inr ⟨_, .rank hrank⟩
  obtain ⟨rows, cols, rfl⟩ := List.length_eq_two.mp hrank
  by_cases hrows : rows < 0
  · exact .inr ⟨_, .rows hrows⟩
  lift rows to Nat using Int.not_lt.mp hrows
  by_cases hcols : cols < 0
  · exact .inr ⟨_, .cols hcols⟩
  lift cols to Nat using Int.not_lt.mp hcols
  by_cases hwide : features < cols
  · exact .inr ⟨_, .wide hwide⟩
  have hnarrow : cols ≤ features := Nat.not_lt.mp hwide
  by_cases hmany : wordLimit ≤ rows * cols * floatBytes
  · exact .inr ⟨_, .uncountable hnarrow hmany⟩
  have hcountable : rows * cols * floatBytes < wordLimit := Nat.not_le.mp hmany
  by_cases hshort : length < rows * cols * floatBytes
  · exact .inr ⟨_, .short hnarrow hcountable hshort⟩
  have hlong : rows * cols * floatBytes ≤ length := Nat.not_lt.mp hshort
  by_cases hindex : Csr.rowLimit ≤ rows
  · exact .inr ⟨_, .unindexable hnarrow hcountable hlong hindex⟩
  · exact .inl ⟨rows, cols, rfl, hnarrow, hcountable, hlong, Nat.not_le.mp hindex⟩

/-! ## §2. Matrices -/

/-- A sparse matrix, of the width that the features ask for, that is made of the first `rows * cols`
values in some bytes. -/
def MadeOf (bytes : List UInt8) (rows cols features : Nat) (matrix : Csr) : Prop :=
  ∃ values : List Binary32, values.length = rows * cols ∧
    Binary32.encode values = bytes.take (rows * cols * floatBytes) ∧
    Csr.ofDense values rows cols features = .ok matrix

/-- Enough bytes are the encoding of as many values. -/
theorem exists_encode_eq_take {bytes : List UInt8} {count : Nat}
    (hlong : count * floatBytes ≤ bytes.length) :
    ∃ values : List Binary32, values.length = count ∧
      Binary32.encode values = bytes.take (count * floatBytes) := by
  have hlength : (bytes.take (count * floatBytes)).length = count * 4 := by
    rw [List.length_take, Nat.min_eq_left hlong]
    rfl
  have hcount : (Binary32.decode (bytes.take (count * floatBytes))).length = count := by
    rw [Binary32.length_decode, hlength]
    omega
  exact ⟨_, hcount, Binary32.encode_decode hlength⟩

/-- For a shape that passes the checks before it, the sparse form has one reason left to fail: there
are more rows than can be indexed. -/
theorem ofDense_of_countable {rows cols features : Nat} {values : List Binary32}
    (hnarrow : cols ≤ features) (hcountable : rows * cols * floatBytes < wordLimit)
    (hlength : values.length = rows * cols) :
    Csr.ofDense values rows cols features =
      if Csr.rowLimit ≤ rows then
        .error (.shapeMismatch 0 ("cannot index " ++ toString rows ++ " rows"))
      else .ok (Csr.ofRows ((Csr.rowsOf cols rows values).map Csr.present) rows features) := by
  -- Elements that can be counted in bytes can be counted.
  have hproduct : rows * cols < wordLimit := by
    unfold floatBytes at hcountable
    omega
  by_cases hrows : Csr.rowLimit ≤ rows
  · rw [if_pos hrows, Csr.ofDense, if_neg (Nat.not_lt.mpr hnarrow),
      if_neg (Nat.not_le.mpr hproduct), if_neg (by omega), if_pos hrows]
  · rw [if_neg hrows]
    exact Csr.ofDense_of_fits hnarrow hproduct hlength.ge (Nat.not_le.mp hrows)

theorem Legible.exists_madeOf {features rows cols : Nat} {shape : List Int} {bytes : List UInt8}
    (h : Legible features bytes.length shape rows cols) :
    ∃ matrix, MadeOf bytes rows cols features matrix := by
  obtain ⟨values, hlength, hencode⟩ := exists_encode_eq_take h.long
  have hform := ofDense_of_countable h.narrow h.countable hlength
  rw [if_neg (Nat.not_le.mpr h.indexable)] at hform
  exact ⟨_, values, hlength, hencode, hform⟩

/-- The bytes determine the matrix. -/
theorem MadeOf.unique {bytes : List UInt8} {rows cols features : Nat} {matrix matrix' : Csr}
    (h : MadeOf bytes rows cols features matrix) (h' : MadeOf bytes rows cols features matrix') :
    matrix' = matrix := by
  obtain ⟨values, -, hencode, hform⟩ := h
  obtain ⟨values', -, hencode', hform'⟩ := h'
  -- Values are told apart by their bytes.
  have hvalues : values' = values := by
    rw [← Binary32.decode_encode values', hencode', ← hencode, Binary32.decode_encode]
  rw [hvalues, hform] at hform'
  exact (Except.ok.inj hform').symm

/-- The matrix that a legible input stands for. -/
def Model.Reads (m : Model) (shape : List Int) (bytes : List UInt8) (matrix : Csr) : Prop :=
  ∃ rows cols, Legible m.schema.numFeature bytes.length shape rows cols ∧
    MadeOf bytes rows cols m.schema.numFeature matrix

section
variable {m : Model} {shape : List Int} {bytes : List UInt8} {rows cols : Nat}

/-- A shape without negative extents and not too wide passes to the checks that count. -/
theorem readMatrix_of_narrow (hnarrow : cols ≤ m.schema.numFeature) :
    m.readMatrix [(rows : Int), (cols : Int)] bytes =
      if wordLimit ≤ rows * cols * floatBytes then
        .error (.shapeMismatch 0 (toString rows ++ " x " ++ toString cols
          ++ " float32 values overflow"))
      else if bytes.length < rows * cols * floatBytes then
        .error (.bufferTooSmall (rows * cols * floatBytes) bytes.length)
      else
        Csr.ofDense (Binary32.decode (bytes.take (rows * cols * floatBytes))) rows cols
          m.schema.numFeature := by
  have hshape : m.checkShape [(rows : Int), (cols : Int)] = .ok (rows, cols) := by
    show (if m.schema.numFeature < cols then _ else Except.ok (rows, cols)) = .ok (rows, cols)
    rw [if_neg (Nat.not_lt.mpr hnarrow)]
  rw [Model.readMatrix, hshape]
  rfl

/-- The model reads a legible input as the matrix that is made of it. -/
theorem readMatrix_of_reads {matrix : Csr} (h : m.Reads shape bytes matrix) :
    m.readMatrix shape bytes = .ok matrix := by
  obtain ⟨rows, cols, h, values, -, hencode, hform⟩ := h
  rw [h.shape_eq, readMatrix_of_narrow h.narrow, if_neg (Nat.not_le.mpr h.countable),
    if_neg (Nat.not_lt.mpr h.long), ← hencode, Binary32.decode_encode]
  exact hform

/-- What is not legible is refused with the fault that tells why. -/
theorem readMatrix_of_illegible {fault : Fault}
    (h : Illegible m.schema.numFeature bytes.length shape fault) :
    m.readMatrix shape bytes = .error fault := by
  -- The first four are told by the check of the shape, and the others where things are counted.
  cases h with
  | rank hodd =>
    have hshape : m.checkShape shape = .error (.dimMismatch 2 shape.length) := by
      unfold Model.checkShape
      split
      · exact absurd rfl hodd
      · rfl
    rw [Model.readMatrix, hshape]
    rfl
  | @rows rows cols hnegative =>
    have hextent : extent 0 rows
        = .error (.shapeMismatch 0 ("negative extent " ++ toString rows)) :=
      if_pos hnegative
    rw [Model.readMatrix, Model.checkShape, hextent]
    rfl
  | @cols rows cols hnegative =>
    have hextent : extent 1 cols
        = .error (.shapeMismatch 1 ("negative extent " ++ toString cols)) :=
      if_pos hnegative
    rw [Model.readMatrix, Model.checkShape, hextent]
    rfl
  | @wide rows cols hwide =>
    have hshape : m.checkShape [(rows : Int), (cols : Int)] = .error (.shapeMismatch 1
        ("ClientError: Value read: " ++ toString cols ++ ", Expected: "
          ++ toString m.schema.numFeature ++ " or less")) :=
      if_pos hwide
    rw [Model.readMatrix, hshape]
    rfl
  | uncountable hnarrow hmany => rw [readMatrix_of_narrow hnarrow, if_pos hmany]
  | short hnarrow hcountable hshort =>
    rw [readMatrix_of_narrow hnarrow, if_neg (Nat.not_le.mpr hcountable), if_pos hshort]
  | unindexable hnarrow hcountable hlong hmany =>
    obtain ⟨values, hlength, hencode⟩ := exists_encode_eq_take hlong
    rw [readMatrix_of_narrow hnarrow, if_neg (Nat.not_le.mpr hcountable),
      if_neg (Nat.not_lt.mpr hlong), ← hencode, Binary32.decode_encode,
      ofDense_of_countable hnarrow hcountable hlength, if_pos hmany]

end

/-! ## §3. Setting the input -/

section
variable {σ : Type} (E : Engine interface σ) (w : World interface σ) {m : Model} {name : String}
  {shape : List Int} {bytes : List UInt8} {rows cols : Nat} {matrix : Csr} {fault : Fault}

/-- What the engine replies when it is asked for a batch. -/
def assembling (matrix : Csr) : Except Fault Handle := (E.respond (Call.assemble matrix) w.engine).1

theorem exists_released (engine : σ) (input : Option Input) :
    ∃ xs t, Released input xs ∧ E.Replays engine xs t := by
  cases input with
  | none => exact ⟨_, _, .nothing, .done engine⟩
  | some input =>
    let reply : Except Fault Unit := (E.respond (Call.delete input.batch) engine).1
    exact ⟨_, _, .batch input reply, .step rfl (.done _)⟩

theorem setInput_of_illegible (h : Illegible m.schema.numFeature bytes.length shape fault) :
    m.operate (.setInput name shape bytes) E w = ((.error fault, m), w) := by
  show (m.setInput shape bytes >>= _) E w = _
  rw [Model.setInput, readMatrix_of_illegible h]
  rfl

theorem setInput_of_notAssembled (h : m.Reads shape bytes matrix)
    (hreply : assembling E w matrix = .error fault) :
    (m.operate (.setInput name shape bytes) E w).1 = (.error fault, m) :=
  (operate_retraces (.setInput (.notAssembled (readMatrix_of_reads h) fault)) E w _
    (.step hreply (.done _))).1

theorem setInput_of_assembled {batch : Handle} (h : m.Reads shape bytes matrix)
    (hreply : assembling E w matrix = .ok batch) :
    (m.operate (.setInput name shape bytes) E w).1 = (.ok .done,
      { m with input := some { matrix, batch }, output := [], outputReady := false }) := by
  obtain ⟨xs, t, hreleased, hreplays⟩ :=
    exists_released E (E.respond (Call.assemble matrix) w.engine).2 m.input
  exact (operate_retraces (.setInput (.replaced (readMatrix_of_reads h) batch hreleased)) E w t
    (.step hreply hreplays)).1

/-- There is no other way to go. -/
theorem illegible_or_assembling (m : Model) (shape : List Int) (bytes : List UInt8) :
    (∃ fault, Illegible m.schema.numFeature bytes.length shape fault) ∨
      (∃ matrix fault, m.Reads shape bytes matrix ∧ assembling E w matrix = .error fault) ∨
      ∃ matrix batch, m.Reads shape bytes matrix ∧ assembling E w matrix = .ok batch := by
  rcases legible_or_illegible m.schema.numFeature bytes.length shape with ⟨rows, cols, h⟩ | h
  · obtain ⟨matrix, hmade⟩ := h.exists_madeOf
    have hreads : m.Reads shape bytes matrix := ⟨rows, cols, h, hmade⟩
    cases hreply : assembling E w matrix with
    | error fault => exact .inr (.inl ⟨matrix, fault, hreads, hreply⟩)
    | ok batch => exact .inr (.inr ⟨matrix, batch, hreads, hreply⟩)
  · exact .inl h

/-- Setting the input succeeds exactly when it becomes the input of the model. -/
theorem setInput_ok_iff (m : Model) (name : String) (shape : List Int) (bytes : List UInt8) :
    (m.operate (.setInput name shape bytes) E w).1.1 = .ok .done ↔
      ∃ matrix batch, m.Reads shape bytes matrix ∧ assembling E w matrix = .ok batch := by
  constructor
  · intro hok
    -- In the other two cases the outcome is a fault.
    rcases illegible_or_assembling E w m shape bytes with ⟨_, h⟩ | ⟨_, _, hreads, hreply⟩ | h
    · rw [setInput_of_illegible E w h] at hok
      cases hok
    · rw [setInput_of_notAssembled E w hreads hreply] at hok
      cases hok
    · exact h
  · intro ⟨matrix, batch, hreads, hreply⟩
    rw [setInput_of_assembled E w hreads hreply]

/-- Setting the input fails exactly with the fault of an illegible input, or with that of the
engine. -/
theorem setInput_error_iff (m : Model) (name : String) (shape : List Int) (bytes : List UInt8)
    (fault : Fault) :
    (m.operate (.setInput name shape bytes) E w).1.1 = .error fault ↔
      Illegible m.schema.numFeature bytes.length shape fault ∨
        ∃ matrix, m.Reads shape bytes matrix ∧ assembling E w matrix = .error fault := by
  constructor
  · intro herror
    -- An input is illegible, or the engine refuses its batch, or it is set.
    rcases illegible_or_assembling E w m shape bytes with
      ⟨_, h⟩ | ⟨matrix, _, hreads, hreply⟩ | ⟨_, _, hreads, hreply⟩
    · rw [setInput_of_illegible E w h] at herror
      cases herror
      exact .inl h
    · rw [setInput_of_notAssembled E w hreads hreply] at herror
      cases herror
      exact .inr ⟨matrix, hreads, hreply⟩
    · rw [setInput_of_assembled E w hreads hreply] at herror
      cases herror
  · intro h
    rcases h with h | ⟨matrix, hreads, hreply⟩
    · rw [setInput_of_illegible E w h]
    · rw [setInput_of_notAssembled E w hreads hreply]

/-- Bytes past the ones that a shape needs are not looked at. -/
theorem readMatrix_congr_take {bytes' : List UInt8}
    (hlong : rows * cols * floatBytes ≤ bytes.length)
    (htake : bytes'.take (rows * cols * floatBytes) = bytes.take (rows * cols * floatBytes)) :
    m.readMatrix [(rows : Int), (cols : Int)] bytes'
      = m.readMatrix [(rows : Int), (cols : Int)] bytes := by
  have hlong' : rows * cols * floatBytes ≤ bytes'.length := by
    have hlength := congrArg List.length htake
    rw [List.length_take, List.length_take] at hlength
    omega
  -- Whether there are too many columns is asked before the bytes are.
  by_cases hwide : m.schema.numFeature < cols
  · rw [readMatrix_of_illegible (.wide hwide), readMatrix_of_illegible (.wide hwide)]
  · have hnarrow : cols ≤ m.schema.numFeature := Nat.not_lt.mp hwide
    rw [readMatrix_of_narrow hnarrow, readMatrix_of_narrow hnarrow, htake,
      if_neg (Nat.not_lt.mpr hlong), if_neg (Nat.not_lt.mpr hlong')]

end

/-- **Which inputs are accepted.**  Whatever the model is, whatever the engine replies, and whatever
the name, the shape and the bytes are, setting the input succeeds exactly if the shape is legible
for that many bytes and the engine assembles a batch of the matrix that is made of them, which then
are the input of the model.  Otherwise it fails exactly with the fault that tells what is not
legible, or with that of the engine, and the model stays as it was.  Of every legible input one
matrix is made: for a shape that got that far its own checks add nothing but the limit on rows.
Neither the name nor the bytes past those of the matrix make a difference. -/
theorem setInput_accepts_exactly {σ : Type} (E : Engine interface σ) (w : World interface σ)
    (m : Model) (name : String) (shape : List Int) (bytes : List UInt8) :
    let features := m.schema.numFeature
    let result := (m.operate (.setInput name shape bytes) E w).1
    (result.1 = .ok .done ↔
        ∃ matrix batch, m.Reads shape bytes matrix ∧ assembling E w matrix = .ok batch) ∧
      (∀ fault, result.1 = .error fault ↔ Illegible features bytes.length shape fault ∨
        ∃ matrix, m.Reads shape bytes matrix ∧ assembling E w matrix = .error fault) ∧
      (∀ matrix batch, m.Reads shape bytes matrix → assembling E w matrix = .ok batch →
        result.2 = { m with input := some { matrix, batch }, output := [], outputReady := false }) ∧
      (∀ fault, result.1 = .error fault → result.2 = m) ∧
      (∀ rows cols, Legible features bytes.length shape rows cols →
        ∃! matrix, MadeOf bytes rows cols features matrix) ∧
      (∀ (rows cols : Nat) (values : List Binary32) (fault : Fault), cols ≤ features →
        rows * cols * floatBytes < wordLimit → values.length = rows * cols →
        Csr.ofDense values rows cols features = .error fault →
        fault = .shapeMismatch 0 ("cannot index " ++ toString rows ++ " rows")) ∧
      (∀ name', m.operate (.setInput name' shape bytes) E w
        = m.operate (.setInput name shape bytes) E w) ∧
      ∀ (rows cols : Nat) (bytes' : List UInt8), shape = [(rows : Int), (cols : Int)] →
        rows * cols * floatBytes ≤ bytes.length →
        bytes'.take (rows * cols * floatBytes) = bytes.take (rows * cols * floatBytes) →
        m.operate (.setInput name shape bytes') E w
          = m.operate (.setInput name shape bytes) E w := by
  refine ⟨setInput_ok_iff E w m name shape bytes, setInput_error_iff E w m name shape bytes,
    ?_, ?_, ?_, ?_, fun _ => rfl, ?_⟩
  · intro matrix batch hreads hreply
    exact congrArg (·.2) (setInput_of_assembled E w hreads hreply)
  · intro fault herror
    -- Of the two ways to fail, neither gets as far as giving up the input before.
    rcases (setInput_error_iff E w m name shape bytes fault).mp herror with h | ⟨_, hreads, hreply⟩
    · exact congrArg (·.1.2) (setInput_of_illegible E w h)
    · exact congrArg (·.2) (setInput_of_notAssembled E w hreads hreply)
  · intro rows cols h
    obtain ⟨matrix, hmade⟩ := h.exists_madeOf
    exact ⟨matrix, hmade, fun _ hother => hmade.unique hother⟩
  · intro rows cols values fault hnarrow hcountable hlength herror
    rw [ofDense_of_countable hnarrow hcountable hlength] at herror
    split at herror
    · exact (Except.error.inj herror).symm
    · cases herror
  · intro rows cols bytes' hshape hlong htake
    subst hshape
    show (m.setInput _ bytes' >>= _) E w = (m.setInput _ bytes >>= _) E w
    rw [Model.setInput, Model.setInput, readMatrix_congr_take hlong htake]

/-- A model of two features that has no input yet. -/
def unset : Model where
  device := .cpu
  artifact := ⟨"model.so", none⟩
  predictor := Script.predictor
  schema := ⟨2, 1, 1⟩
  input := none
  output := []
  outputReady := false

/-- An engine that refuses nothing. -/
def obliging : Engine interface Script.State :=
  Script.direct { schema := ⟨2, 1, 1⟩, failures := fun _ => [] }

/-- One value with two bytes too many is read as one value; three columns are too many, and so are
`2 ^ 59` rows, also when they are empty. -/
theorem value_is_read_from_long_buffer :
    let w := World.start Script.State.start
    (∃ matrix, unset.Reads [1, 1] [0, 0, 128, 63, 7, 7] matrix ∧
      (unset.operate (.setInput "x" [1, 1] [0, 0, 128, 63, 7, 7]) obliging w).1
        = (.ok .done, { unset with input := some { matrix, batch := 1 } })) ∧
    unset.operate (.setInput "x" [1, 1] [0, 0, 128, 63, 7, 7]) obliging w
      = unset.operate (.setInput "data" [1, 1] [0, 0, 128, 63]) obliging w ∧
    (∃ fault, Illegible 2 0 [1, 3] fault ∧
      (unset.operate (.setInput "x" [1, 3] []) obliging w).1 = (.error fault, unset)) ∧
    ∀ fault, Csr.ofDense [] (2 ^ 59) 0 2 = .error fault →
      fault = .shapeMismatch 0 ("cannot index " ++ toString (2 ^ 59) ++ " rows") := by
  intro w
  obtain ⟨-, -, hset, -, hmade, hindex, hname, hrest⟩ :=
    setInput_accepts_exactly obliging w unset "x" [1, 1] [0, 0, 128, 63, 7, 7]
  -- One value is four bytes, and the two behind it do not matter.
  have hlegible : Legible 2 6 [1, 1] 1 1 := ⟨rfl, by decide, by decide, by decide, by decide⟩
  obtain ⟨matrix, hmatrix, -⟩ := hmade 1 1 hlegible
  have hreads : unset.Reads [1, 1] [0, 0, 128, 63, 7, 7] matrix := ⟨1, 1, hlegible, hmatrix⟩
  refine ⟨⟨matrix, hreads, Prod.ext rfl (hset matrix 1 hreads rfl)⟩, ?_, ?_, ?_⟩
  · rw [← hrest 1 1 [0, 0, 128, 63] rfl (by decide) rfl]
    rfl
  · -- Three columns are more than the features.
    obtain ⟨-, -, -, hkept, -⟩ := setInput_accepts_exactly obliging w unset "x" [1, 3] []
    have hwide : Illegible 2 0 [1, 3] _ := .wide (by decide)
    exact ⟨_, hwide, Prod.ext rfl (hkept _ rfl)⟩
  · intro fault herror
    exact hindex (2 ^ 59) 0 [] fault (by decide) (by decide) rfl herror

end ModelAdapter.Treelite
