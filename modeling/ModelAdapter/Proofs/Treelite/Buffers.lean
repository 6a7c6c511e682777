import ModelAdapter.Proofs.Sparse
import ModelAdapter.Proofs.Treelite.Resources
import ModelAdapter.Treelite.Script

/-! # Buffers match what the engine reads and writes

The engine gets its arrays as bare addresses and reads and writes as far as it was
told: by the counts that it gave for the predictor, by the row starts of a matrix,
and by the number of rows of a batch.  This module proves that the model always
hands over arrays of these sizes (`Sized`), so the engine never leaves one, and that
the model itself never reads past its output buffer.

What the engine has been told is read off the exchanges before a call
(`featureCount`, `groupCount`, `lastAccepted`).  The proof keeps two things along
the exchanges: that every call was right (`Sizes`), and that the model knows
what the exchanges say (`Knows`).
-/

namespace ModelAdapter.Treelite

/-! ## §1. What the exchanges say -/

/-- How many features the engine says an instance has. -/
def featureCount? : Exchange interface → Option Nat
  | ⟨.numFeature _, reply⟩ => (reply : Except Fault Nat).toOption
  | _ => none

/-- How many values the engine says it may write for each row. -/
def groupCount? : Exchange interface → Option Nat
  | ⟨.numOutputGroup _, reply⟩ => (reply : Except Fault Nat).toOption
  | _ => none

def featureCount (xs : List (Exchange interface)) : Option Nat := xs.findSome? featureCount?

def groupCount (xs : List (Exchange interface)) : Option Nat := xs.findSome? groupCount?

/-- The matrix that was assembled last, with the batch made of it. -/
def lastAccepted (xs : List (Exchange interface)) : Option Input :=
  (xs.filterMap accepted?).getLast?

/-- What the engine relies on when it gets a call after the exchanges `ys`. -/
def Sized (ys : List (Exchange interface)) : Call → Prop
  | .predictInst _ entries _ slots =>
      featureCount ys = some entries.length ∧ (∀ e ∈ entries, e = .value .zero) ∧
        groupCount ys = some slots.length
  | .assemble matrix =>
      featureCount ys = some matrix.numCol ∧ matrix.WellFormed ∧ matrix.rebuilt = some matrix
  | .predictBatch _ batch _ _ slots =>
      ∃ input groups, lastAccepted ys = some input ∧ input.batch = batch ∧
        groupCount ys = some groups ∧
        (input.matrix.numRow * groups < wordLimit →
          slots.length = input.matrix.numRow * groups)
  | _ => True

/-! ## §2. Sizes along the exchanges -/

/-- Every call among `xs` is as the engine relies on, after `ys` and the ones before it. -/
inductive Sizes : (ys xs : List (Exchange interface)) → Prop
  | nil (ys : List (Exchange interface)) : Sizes ys []
  | cons {ys xs : List (Exchange interface)} {x : Exchange interface} (first : Sized ys x.call)
      (rest : Sizes (ys ++ [x]) xs) : Sizes ys (x :: xs)

namespace Sizes

variable {ys xs zs : List (Exchange interface)}

theorem append (hxs : Sizes ys xs) (hzs : Sizes (ys ++ xs) zs) : Sizes ys (xs ++ zs) := by
  induction hxs with
  | nil => rwa [List.append_nil] at hzs
  | cons hfirst hrest ih =>
    refine .cons hfirst (ih ?_)
    rwa [List.append_assoc]

theorem at_split {x : Exchange interface} (h : Sizes ys (xs ++ x :: zs)) :
    Sized (ys ++ xs) x.call := by
  induction xs generalizing ys with
  | nil =>
    cases h with
    | cons hfirst _ => rwa [List.append_nil]
  | cons x' xs ih =>
    cases h with
    | cons _ hrest =>
      have hx := ih hrest
      rwa [List.append_assoc] at hx

theorem of_released {input : Option Input} (h : Released input xs) : Sizes ys xs := by
  cases h with
  | nothing => exact .nil ys
  | batch => exact .cons trivial (.nil _)

theorem of_closed {input : Option Input} {predictor : Handle} (h : Closed input predictor xs) :
    Sizes ys xs := by
  cases h with
  | freed hreleased => exact (of_released hreleased).append (.cons trivial (.nil _))

end Sizes

/-! ## §3. What the model knows -/

/-- The model knows what the exchanges so far say. -/
structure Knows (ys : List (Exchange interface)) (m : Model) : Prop where
  features : featureCount ys = some m.schema.numFeature
  groups : groupCount ys = some m.schema.numOutputGroup
  input : lastAccepted ys = m.input

theorem findSome?_append_of_some {f : Exchange interface → Option Nat} {n : Nat}
    {ys : List (Exchange interface)} (h : ys.findSome? f = some n)
    (xs : List (Exchange interface)) : (ys ++ xs).findSome? f = some n := by
  rw [List.findSome?_append, h, Option.some_or]

/-- The model goes on to know what the exchanges say when its schema stays and its input is the
one assembled last. -/
theorem Knows.append {ys xs : List (Exchange interface)} {m m' : Model} (h : Knows ys m)
    (hschema : m'.schema = m.schema) (hinput : m'.input = (lastAccepted xs).or m.input) :
    Knows (ys ++ xs) m' where
  features := by
    rw [hschema]
    exact findSome?_append_of_some h.features xs
  groups := by
    rw [hschema]
    exact findSome?_append_of_some h.groups xs
  input := by
    rw [hinput, ← h.input]
    unfold lastAccepted
    rw [List.filterMap_append, List.getLast?_append]

theorem accepted_of_released {input : Option Input} {xs : List (Exchange interface)}
    (h : Released input xs) : xs.filterMap accepted? = [] := by
  cases h <;> rfl

theorem extent_inv {axis : Nat} {n : Int} {count : Nat} (h : extent axis n = .ok count) :
    n = count := by
  unfold extent at h
  split at h
  · cases h
  · rename_i hsign
    cases h
    omega

/-- A shape that passes the check has two extents, and no more columns than there are features. -/
theorem checkShape_inv {m : Model} {shape : List Int} {numRow numCol : Nat}
    (h : m.checkShape shape = .ok (numRow, numCol)) :
    shape = [(numRow : Int), (numCol : Int)] ∧ numCol ≤ m.schema.numFeature := by
  unfold Model.checkShape at h
  split at h
  · obtain ⟨_, hrow, h⟩ := exists_of_bind_eq_ok h
    obtain ⟨_, hcol, h⟩ := exists_of_bind_eq_ok h
    split at h
    · cases h
    · rename_i hwide
      cases h
      rw [extent_inv hrow, extent_inv hcol]
      exact ⟨rfl, Nat.not_lt.mp hwide⟩
  · cases h

/-- What the model reads as a matrix came with a shape of rows and columns, of which there are no
more columns than features, and with all of its bytes. -/
theorem readMatrix_inv {m : Model} {shape : List Int} {bytes : List UInt8} {matrix : Csr}
    (h : m.readMatrix shape bytes = .ok matrix) :
    ∃ numRow numCol : Nat, shape = [(numRow : Int), (numCol : Int)] ∧
      numCol ≤ m.schema.numFeature ∧ numRow * numCol * floatBytes < wordLimit ∧
      numRow * numCol * floatBytes ≤ bytes.length ∧
      Csr.ofDense (Binary32.decode (bytes.take (numRow * numCol * floatBytes))) numRow numCol
        m.schema.numFeature = .ok matrix := by
  obtain ⟨⟨numRow, numCol⟩, hshape, h⟩ := exists_of_bind_eq_ok h
  obtain ⟨hshape, hcols⟩ := checkShape_inv hshape
  simp only at h
  split at h
  · cases h
  split at h
  · cases h
  rename_i hword hlength
  exact ⟨numRow, numCol, hshape, hcols, Nat.not_le.mp hword, Nat.not_lt.mp hlength, h⟩

/-- A matrix that the model reads has the sizes that the engine relies on. -/
theorem sized_of_readMatrix {ys : List (Exchange interface)} {m : Model} {shape : List Int}
    {bytes : List UInt8} {matrix : Csr} (h : Knows ys m)
    (hread : m.readMatrix shape bytes = .ok matrix) : Sized ys (.assemble matrix) := by
  obtain ⟨_, _, -, -, -, -, hdense⟩ := readMatrix_inv hread
  -- The declared width is the number of features that the engine gave.
  obtain ⟨hformed, hrebuilt, hcols⟩ := Csr.sound_of_ofDense hdense
  exact ⟨hcols ▸ h.features, hformed, hrebuilt⟩

theorem sizes_of_setsInput {ys xs : List (Exchange interface)} {m m' : Model}
    {shape : List Int} {bytes : List UInt8} {result : Except Fault Unit} (h : Knows ys m)
    (hsets : SetsInput m shape bytes xs result m') : Sizes ys xs ∧ Knows (ys ++ xs) m' := by
  cases hsets with
  | refused => exact ⟨.nil ys, h.append rfl rfl⟩
  | notAssembled hread fault =>
    exact ⟨.cons (sized_of_readMatrix h hread) (.nil _), h.append rfl rfl⟩
  | @replaced matrix xs hread batch hreleased =>
    refine ⟨.cons (sized_of_readMatrix h hread) (.of_released hreleased), h.append rfl ?_⟩
    show some (Input.mk matrix batch)
      = ((Input.mk matrix batch :: xs.filterMap accepted?).getLast?).or m.input
    rw [accepted_of_released hreleased]
    rfl

theorem sizes_of_runs {ys xs : List (Exchange interface)} {m m' : Model}
    {result : Except Fault Unit} (h : Knows ys m) (hruns : Runs m xs result m') :
    Sizes ys xs ∧ Knows (ys ++ xs) m' := by
  cases hruns with
  | noInput => exact ⟨.nil ys, h.append rfl rfl⟩
  | @predicted input hset reply left =>
    refine ⟨.cons ?_ (.nil _), h.append rfl rfl⟩
    -- The buffer may have any length before, but it is brought to the right one for the call.
    refine ⟨input, m.schema.numOutputGroup, h.input.trans hset, rfl, h.groups, ?_⟩
    intro hfits
    show (m.slots input).length = _
    rw [Model.slots, length_resize, wrap_of_lt hfits]

/-- **One operation** makes calls of the right sizes, and the model goes on to know what the
exchanges say. -/
theorem sizes_of_transition {ys xs : List (Exchange interface)} {m m' : Model}
    {operation : Operation} {outcome : Outcome} (h : Knows ys m)
    (ht : Transition m operation xs outcome m') : Sizes ys xs ∧ Knows (ys ++ xs) m' := by
  cases ht with
  | asked | setNumThreads | useCpuAffinity => exact ⟨.nil ys, h.append rfl rfl⟩
  | setInput hsets | setInputFloats hsets => exact sizes_of_setsInput h hsets
  | run hruns => exact sizes_of_runs h hruns

/-- **A run** does so too. -/
theorem sizes_of_reaches {ys : List (Exchange interface)} {m₀ m : Model}
    {steps : List (Step interface)} (h : Knows ys m₀) (hrun : Reaches Transition m₀ steps m) :
    Sizes ys (steps.flatMap (·.exchanges)) ∧ Knows (ys ++ steps.flatMap (·.exchanges)) m := by
  induction hrun with
  | start => exact ⟨.nil ys, by rwa [List.flatMap_nil, List.append_nil]⟩
  | step _ hlast ih =>
    obtain ⟨hsizes, hknows⟩ := ih
    obtain ⟨hsizes', hknows'⟩ := sizes_of_transition hknows hlast
    rw [List.flatMap_append, List.flatMap_singleton, ← List.append_assoc]
    exact ⟨hsizes.append hsizes', hknows'⟩

/-! ## §4. Building -/

section
variable {library : Path} {threads : Int32} {predictor : Handle} {xs : List (Exchange interface)}

/-- The throwaway prediction gets as many features and slots as the engine said. -/
theorem sizes_of_probed (features groups : Nat) (reply : Except Fault Nat) :
    Sizes [⟨Call.load library threads, (.ok predictor : Except Fault Handle)⟩]
      (counted predictor features groups ++ [⟨probe predictor features groups, reply⟩]) := by
  -- Only the third call has arrays; the first two replies are what it is measured by.
  refine .cons trivial (.cons trivial (.cons ⟨?_, ?_, ?_⟩ (.nil _)))
  · rw [List.length_replicate]
    rfl
  · intro e he
    exact List.eq_of_mem_replicate he
  · rw [List.length_replicate]
    rfl

theorem sizes_of_queried {result : Except Report Schema} (h : Queried predictor result xs) :
    Sizes [⟨Call.load library threads, (.ok predictor : Except Fault Handle)⟩] xs := by
  cases h with
  | noFeatures => exact .cons trivial (.nil _)
  | noGroups => exact .cons trivial (.cons trivial (.nil _))
  | noWidth | tooWide | known => exact sizes_of_probed _ _ _

/-- The schema is what the engine said, and an output is no wider than its slots. -/
theorem schema_of_queried {schema : Schema} (h : Queried predictor (.ok schema) xs) :
    featureCount xs = some schema.numFeature ∧ groupCount xs = some schema.numOutputGroup ∧
      lastAccepted xs = none ∧ schema.outputWidth ≤ schema.numOutputGroup := by
  cases h with
  | known features groups width hfits => exact ⟨rfl, rfl, rfl, hfits⟩

end

theorem sizes_of_building {artifact : Artifact} {device : Device} {threads : Int32}
    {built : Except Report Model} {xs : List (Exchange interface)}
    (h : Building artifact device threads built xs) : Sizes [] xs := by
  cases h with
  | notLoaded => exact .cons trivial (.nil _)
  | notQueried hqueried hclosed =>
    exact .cons trivial ((sizes_of_queried hqueried).append (.of_closed hclosed))
  | ready hqueried => exact .cons trivial (sizes_of_queried hqueried)

/-- A new model knows what the exchanges say. -/
theorem knows_of_building {artifact : Artifact} {device : Device} {threads : Int32} {m : Model}
    {xs : List (Exchange interface)} (h : Building artifact device threads (.ok m) xs) :
    Knows xs m ∧ m.schema.outputWidth ≤ m.schema.numOutputGroup := by
  cases h with
  | ready hqueried =>
    obtain ⟨hfeatures, hgroups, hinput, hfits⟩ := schema_of_queried hqueried
    exact ⟨⟨hfeatures, hgroups, hinput⟩, hfits⟩

/-! ## §5. The output buffer -/

/-- A readable output has a slot for each row of the input and output group. -/
def Filled (m : Model) : Prop :=
  m.outputReady = true → ∃ input, m.input = some input ∧
    m.output.length = wrap (input.matrix.numRow * m.schema.numOutputGroup)

theorem filled_of_runs {m m' : Model} {xs : List (Exchange interface)}
    {result : Except Fault Unit} (h : Filled m) (hruns : Runs m xs result m') : Filled m' := by
  cases hruns with
  | noInput => exact h
  | @predicted input hset reply left =>
    -- Whether the engine failed or not, the buffer has the length of the slots.
    intro _
    refine ⟨input, hset, ?_⟩
    show (overwrite (m.slots input) left).length = _
    rw [length_overwrite, Model.slots, length_resize]

theorem filled_of_reaches {m₀ m : Model} {steps : List (Step interface)}
    (h : Reaches Transition m₀ steps m) (hready : m₀.outputReady = false) : Filled m := by
  -- On the operations: an input takes the output away, and a run brings it back.
  induction h with
  | start =>
    intro hm
    cases hready.symm.trans hm
  | @step steps m m' s hbefore hlast ih =>
    cases hsets : s.setsInput with
    | true =>
      obtain ⟨_, _, _, _, -, -, -, -, rfl⟩ := setsInput_inv hlast hsets
      intro hm
      cases hm
    | false =>
      cases hrun : s.isRun with
      | true =>
        obtain ⟨_, -, hruns⟩ := isRun_inv hlast hrun
        exact filled_of_runs ih hruns
      | false =>
        rw [eq_of_other hlast hsets hrun]
        exact ih

/-- The part of the buffer that is read lies in it. -/
theorem Filled.in_range {m : Model} (h : Filled m)
    (hwidth : m.schema.outputWidth ≤ m.schema.numOutputGroup) (hready : m.outputReady = true) :
    ∃ input, m.input = some input ∧
      (input.matrix.numRow * m.schema.numOutputGroup < wordLimit →
        input.matrix.numRow * m.schema.outputWidth ≤ m.output.length) := by
  obtain ⟨input, hset, hlength⟩ := h hready
  refine ⟨input, hset, ?_⟩
  intro hfits
  rw [hlength, wrap_of_lt hfits]
  exact Nat.mul_le_mul_left input.matrix.numRow hwidth

/-! ## §6. Whole sessions -/

/-- All calls of a life have the right sizes. -/
theorem sizes_of_lived {artifact : Artifact} {device : Device} {threads : Int32}
    {operations : List Operation} {l : Life interface Model}
    (h : LivedModel artifact device threads operations l) : Sizes [] l.exchanges := by
  cases h with
  | unbuilt hbuilding =>
    simp only [Life.exchanges, List.flatMap_nil, List.append_nil]
    exact sizes_of_building hbuilding
  | built hbuilding hrun _ hclosed =>
    obtain ⟨hknows, -⟩ := knows_of_building hbuilding
    obtain ⟨hsteps, -⟩ := sizes_of_reaches hknows hrun
    exact ((sizes_of_building hbuilding).append hsteps).append (.of_closed hclosed)

/-- What is known of the last model of a life. -/
theorem knows_of_lived {artifact : Artifact} {device : Device} {threads : Int32}
    {operations : List Operation} {l : Life interface Model} {m : Model}
    (h : LivedModel artifact device threads operations l) (hm : l.model = .ok m) :
    Knows (l.exchangesUpTo l.steps.length) m ∧ Filled m ∧
      m.schema.outputWidth ≤ m.schema.numOutputGroup := by
  obtain ⟨m₀, hbuilding, hrun, hready, hrecalls⟩ := recalls_of_lived h hm
  obtain ⟨hknows, hwidth⟩ := knows_of_building hbuilding
  obtain ⟨-, hknows'⟩ := sizes_of_reaches hknows hrun
  rw [Life.exchangesUpTo, List.take_length, hrecalls.schema]
  exact ⟨hknows', filled_of_reaches hrun hready, hwidth⟩

/-- **Buffers match.**  Whatever the engine replies and whatever the operations are, every call
hands over arrays of the sizes that the engine relies on.  After the operations the input is the
matrix that was assembled last, and its batch is the only one not deleted; an output is no wider
than its slots; and what is read of a readable output lies in the buffer. -/
theorem life_matches_buffers {σ : Type} (E : Engine interface σ) (engine : σ)
    (artifact : Artifact) (device : Device) (threads : Int32) (operations : List Operation) :
    let (l, w) := (lifecycle artifact device threads).life operations E (.start engine)
    (∀ ys x zs, w.exchanges = ys ++ x :: zs → Sized ys x.call) ∧
      ∀ m, l.model = .ok m →
        m.input = lastAccepted (l.exchangesUpTo l.steps.length) ∧
        (m.input.map (·.batch)).toList = outstanding (l.exchangesUpTo l.steps.length) ∧
        m.schema.outputWidth ≤ m.schema.numOutputGroup ∧
        (m.outputReady = true → ∃ input, m.input = some input ∧
          (input.matrix.numRow * m.schema.numOutputGroup < wordLimit →
            input.matrix.numRow * m.schema.outputWidth ≤ m.output.length)) := by
  have h := life_lived E engine artifact device threads operations
  generalize (lifecycle artifact device threads).life operations E (.start engine) = r at h ⊢
  obtain ⟨l, w⟩ := r
  obtain ⟨hw, hlived⟩ := h
  constructor
  · intro ys x zs hxs
    -- The sizes of each call are told by the exchanges before it.
    have hsizes := sizes_of_lived hlived
    rw [← hw, hxs] at hsizes
    exact hsizes.at_split
  · intro m hm
    obtain ⟨hknows, hfilled, hwidth⟩ := knows_of_lived hlived hm
    refine ⟨hknows.input.symm, ?_, hwidth, hfilled.in_range hwidth⟩
    -- The batch of the input is the one batch that is outstanding.
    obtain ⟨_, -, -, -, hrecalls⟩ := recalls_of_lived hlived hm
    rw [outstanding_of_lived hlived, List.take_length]
    exact live_eq_latestBatch hrecalls

/-- Two rows, each with one value missing, and two slots for each of them. -/
theorem two_rows_match_buffers :
    let (l, _) := (lifecycle ⟨"model.so", none⟩ .cpu (-1)).life
      [.setInputFloats "data" [2, 2] [⟨0x3F800000⟩, ⟨0x7FC00000⟩, ⟨0x7FC00000⟩, ⟨0x40000000⟩], .run]
      (Script.direct { schema := ⟨2, 2, 1⟩, failures := fun _ => [] }) (.start .start)
    ∃ m input, l.model = .ok m ∧ m.input = some input ∧ input.matrix.rowPtr = [0, 1, 2] ∧
      input.matrix.numRow * m.schema.outputWidth ≤ m.output.length := by
  have h := life_matches_buffers (Script.direct { schema := ⟨2, 2, 1⟩, failures := fun _ => [] })
    .start ⟨"model.so", none⟩ .cpu (-1)
    [.setInputFloats "data" [2, 2] [⟨0x3F800000⟩, ⟨0x7FC00000⟩, ⟨0x7FC00000⟩, ⟨0x40000000⟩], .run]
  obtain ⟨-, hmodel⟩ := h
  obtain ⟨-, -, -, hready⟩ := hmodel _ rfl
  obtain ⟨input, hset, hrange⟩ := hready rfl
  refine ⟨_, input, rfl, hset, ?_, hrange ?_⟩
  · cases hset
    rfl
  · cases hset
    decide

end ModelAdapter.Treelite
