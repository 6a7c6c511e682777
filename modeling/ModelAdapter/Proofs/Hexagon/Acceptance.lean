import ModelAdapter.Hexagon.Script
import ModelAdapter.Proofs.Hexagon.InputBuffer

/-! # Which tensors are accepted

Three operations move a tensor between the caller and the engine: an input is set, an
input is read back, and an output is read.  Each of them first finds the description of
the tensor, then checks what the caller hands over, and looks for the buffer of the
engine last.  The first check that fails decides the fault.

  * **Checks** (`ShapeFault`, `BufferFault`): what can be wrong with a shape, and with the
    two buffers.
  * **Laws** (`TakesTensor`, `GivesTensor`): when a tensor is taken from the caller or given
    to it, which fault there is otherwise, and what is written in either case.
  * **Sessions** (`tensors_are_accepted_exactly`): the three operations keep these laws.
-/

namespace ModelAdapter.Hexagon

/-! ## §1. Shapes -/

/-- Two shapes are the same before an axis, and differ there. -/
structure DiffersAt (want got : List Int) (axis : Nat) (w g : Int) : Prop where
  before : got.take axis = want.take axis
  wanted : want[axis]? = some w
  given : got[axis]? = some g
  differs : g ≠ w

/-- What can be wrong with a shape: the rank, and if not that, the first extent that differs. -/
inductive ShapeFault (want got : List Int) : Fault → Prop
  | rank (differs : got.length ≠ want.length) :
      ShapeFault want got (.dimMismatch want.length got.length)
  | extent {axis : Nat} {w g : Int} (ranked : got.length = want.length)
      (differs : DiffersAt want got axis w g) :
      ShapeFault want got
        (.shapeMismatch axis ("expected " ++ toString w ++ ", got " ++ toString g))

/-- Shapes that differ past the first axis have that one in common. -/
theorem differsAt_succ_iff {want got : List Int} {w' g' : Int} {axis : Nat} {w g : Int} :
    DiffersAt (w' :: want) (g' :: got) (axis + 1) w g ↔ g' = w' ∧ DiffersAt want got axis w g := by
  constructor
  · intro h
    have hbefore := h.before
    rw [List.take_succ_cons, List.take_succ_cons, List.cons.injEq] at hbefore
    exact ⟨hbefore.1, hbefore.2, h.wanted, h.given, h.differs⟩
  · intro ⟨hfirst, h⟩
    refine ⟨?_, h.wanted, h.given, h.differs⟩
    rw [List.take_succ_cons, List.take_succ_cons, hfirst, h.before]

/-- What is found is the first axis where shapes differ. -/
theorem firstDifference_inv {want got : List Int} {start n : Nat} {w g : Int}
    (h : firstDifference start want got = some (n, w, g)) :
    ∃ axis, n = start + axis ∧ DiffersAt want got axis w g := by
  -- On the shape wanted; an axis that is the same moves the others by one.
  induction want generalizing got start with
  | nil => simp [firstDifference] at h
  | cons w' want ih =>
    cases got with
    | nil => simp [firstDifference] at h
    | cons g' got =>
      by_cases hsame : g' = w'
      · -- The first extents are the same, so the difference is in the others.
        simp only [firstDifference, ne_eq, hsame, not_true, if_false] at h
        obtain ⟨axis, hn, hdiffers⟩ := ih h
        exact ⟨axis + 1, by omega, differsAt_succ_iff.mpr ⟨hsame, hdiffers⟩⟩
      · simp only [firstDifference, ne_eq, hsame, not_false_eq_true, if_true, Option.some.injEq,
          Prod.mk.injEq] at h
        obtain ⟨rfl, rfl, rfl⟩ := h
        exact ⟨0, rfl, rfl, rfl, rfl, hsame⟩

/-- The first axis where shapes differ is found. -/
theorem firstDifference_of_differsAt {want got : List Int} {axis : Nat} {w g : Int}
    (h : DiffersAt want got axis w g) (start : Nat) :
    firstDifference start want got = some (start + axis, w, g) := by
  induction want generalizing got axis start with
  | nil => cases h.wanted
  | cons w' want ih =>
    cases got with
    | nil => cases h.given
    | cons g' got =>
      -- The difference is here, or in the extents behind, where the count goes on from the next
      -- axis.
      cases axis with
      | zero =>
        obtain ⟨-, hwanted, hgiven, hdiffers⟩ := h
        cases hwanted
        cases hgiven
        exact if_pos hdiffers
      | succ axis =>
        obtain ⟨hsame, hrest⟩ := differsAt_succ_iff.mp h
        have hfound := ih hrest (start + 1)
        rw [Nat.add_right_comm, Nat.add_assoc] at hfound
        simpa [firstDifference, hsame] using hfound

/-- Shapes of one rank differ nowhere exactly if they are the same. -/
theorem firstDifference_eq_none_iff {want got : List Int} (hrank : got.length = want.length)
    (start : Nat) : firstDifference start want got = none ↔ got = want := by
  induction want generalizing got start with
  | nil =>
    obtain rfl : got = [] := List.length_eq_zero_iff.mp hrank
    simp [firstDifference]
  | cons w want ih =>
    obtain ⟨g, got, rfl⟩ := List.exists_cons_of_length_eq_add_one hrank
    have hrest : got.length = want.length := Nat.succ.inj hrank
    by_cases hdiffers : g = w
    · simp [firstDifference, hdiffers, ih hrest]
    · simp [firstDifference, hdiffers]

section
variable {spec : TensorSpec} {shape : List Int} (hdim : spec.dim = spec.shape.length)
include hdim

/-- A shape passes exactly if it is the one of the description. -/
theorem checkShape_eq_ok_iff {done : Unit} :
    checkShape spec shape = .ok done ↔ shape = spec.shape := by
  unfold checkShape
  by_cases hrank : shape.length = spec.dim
  · -- The comparison stops with the shorter shape, but here they are as long as each other.
    have hnone := firstDifference_eq_none_iff (hrank.trans hdim) 0
    rw [if_neg (not_not_intro hrank)]
    cases hfirst : firstDifference 0 spec.shape shape with
    | none => exact iff_of_true rfl (hnone.mp hfirst)
    | some first =>
      refine iff_of_false (by simp) ?_
      intro hshape
      rw [hnone.mpr hshape] at hfirst
      cases hfirst
  · rw [if_pos hrank]
    refine iff_of_false (by simp) ?_
    rintro rfl
    exact hrank hdim.symm

/-- It fails exactly for what is wrong with it. -/
theorem checkShape_eq_error_iff {fault : Fault} :
    checkShape spec shape = .error fault ↔ ShapeFault spec.shape shape fault := by
  constructor
  · intro h
    unfold checkShape at h
    by_cases hrank : shape.length = spec.dim
    · rw [if_neg (not_not_intro hrank)] at h
      cases hfirst : firstDifference 0 spec.shape shape with
      | none => simp [hfirst] at h
      | some first =>
        -- Of the same rank, the shapes differ along an axis.
        obtain ⟨n, w, g⟩ := first
        obtain ⟨axis, rfl, hdiffers⟩ := firstDifference_inv hfirst
        rw [hfirst] at h
        cases h
        rw [Nat.zero_add]
        exact .extent (hrank.trans hdim) hdiffers
    · rw [if_pos hrank] at h
      cases h
      rw [hdim] at hrank ⊢
      exact .rank hrank
  · intro h
    unfold checkShape
    -- The rank is checked first, so a difference along an axis is only told when it fits.
    cases h with
    | rank hrank => rw [hdim, if_pos hrank]
    | @extent axis w g hrank hdiffers =>
      rw [hdim, if_neg (not_not_intro hrank), firstDifference_of_differsAt hdiffers 0, Nat.zero_add]

end

/-! ## §2. Buffers -/

/-- What can be wrong with the two buffers of a tensor: the one of the caller is too short, and if
not that, there is none of the engine. -/
inductive BufferFault (spec : TensorSpec) (buffer : Option Address) (length : Nat) : Fault → Prop
  | short (short : length < spec.bytes) :
      BufferFault spec buffer length (.bufferTooSmall spec.bytes length)
  | null (enough : spec.bytes ≤ length) (null : buffer = none) :
      BufferFault spec buffer length (.precondition "backend buffer is null")

/-- Where a tensor is in the engine's memory, once the caller's buffer has been checked. -/
def Model.located (m : Model) (spec : TensorSpec) (source : Session → Option Address)
    (length : Nat) : Except Fault Address := do
  checkLength spec.bytes length
  let session ← m.liveSession
  present (source session)

section
variable {m : Model} {session : Session} (hlive : m.session = some session) {spec : TensorSpec}
  {source : Session → Option Address} {length : Nat}
include hlive

/-- A model with a session finds the tensor unless one of the two buffers is missing or short. -/
theorem located_eq : m.located spec source length =
    if length < spec.bytes then .error (.bufferTooSmall spec.bytes length)
    else present (source session) := by
  rw [Model.located, checkLength, Model.liveSession, hlive]
  split <;> rfl

theorem located_eq_ok_iff {address : Address} :
    m.located spec source length = .ok address ↔
      spec.bytes ≤ length ∧ source session = some address := by
  rw [located_eq hlive]
  by_cases hshort : length < spec.bytes
  · simp [hshort, Nat.not_le.mpr hshort]
  · cases hsource : source session <;> simp [hshort, Nat.not_lt.mp hshort, present]

theorem located_eq_error_iff {fault : Fault} :
    m.located spec source length = .error fault ↔
      BufferFault spec (source session) length fault := by
  rw [located_eq hlive]
  -- The length is checked before the buffer is looked for.
  by_cases hshort : length < spec.bytes
  · rw [if_pos hshort]
    constructor
    · intro h
      cases h
      exact .short hshort
    · intro h
      cases h with
      | short => rfl
      | null henough => exact absurd henough (Nat.not_le.mpr hshort)
  · rw [if_neg hshort]
    constructor
    · intro h
      cases hsource : source session with
      | none =>
        rw [hsource] at h
        cases h
        exact .null (Nat.not_lt.mp hshort) rfl
      | some address =>
        rw [hsource] at h
        cases h
    · intro h
      cases h with
      | short h => exact absurd h hshort
      | null _ hnull => rw [hnull]; rfl

end

/-! ## §3. Laws -/

/-- When a tensor is taken from the caller: `found` is its description, if there is one, and
`missing` is the fault if there is none. -/
structure TakesTensor (m : Model) (found : Option TensorSpec) (missing : Fault)
    (buffer : Option Address) (shape : List Int) (bytes : List UInt8)
    (result : Outcome × Model) : Prop where
  succeeds : result.1 = .ok .done ↔ ∃ spec address, found = some spec ∧ shape = spec.shape ∧
    spec.bytes ≤ bytes.length ∧ buffer = some address
  fails : ∀ fault, result.1 = .error fault ↔ (found = none ∧ fault = missing) ∨
    ∃ spec, found = some spec ∧ (ShapeFault spec.shape shape fault ∨
      shape = spec.shape ∧ BufferFault spec buffer bytes.length fault)
  written : ∀ spec address, found = some spec → buffer = some address → result.1 = .ok .done →
    result.2 = { m with memory := m.memory.write address (bytes.take spec.bytes) } ∧
    result.2.memory address = bytes.take spec.bytes ++ (m.memory address).drop spec.bytes
  kept : ∀ fault, result.1 = .error fault → result.2 = m

/-- When a tensor is given to the caller. -/
structure GivesTensor (m : Model) (found : Option TensorSpec) (missing : Fault)
    (buffer : Option Address) (out : List UInt8) (result : Except Fault Unit × List UInt8) :
    Prop where
  succeeds : result.1 = .ok () ↔ ∃ spec address, found = some spec ∧
    spec.bytes ≤ out.length ∧ buffer = some address
  fails : ∀ fault, result.1 = .error fault ↔ (found = none ∧ fault = missing) ∨
    ∃ spec, found = some spec ∧ BufferFault spec buffer out.length fault
  copied : ∀ spec address, found = some spec → buffer = some address → result.1 = .ok () →
    ((m.memory address).take spec.bytes).length = spec.bytes ∧
    result.2 = (m.memory address).take spec.bytes ++ out.drop spec.bytes
  untouched : ∀ fault, result.1 = .error fault → result.2 = out

/-- The result of looking a description up. -/
def lookedUp (found : Option TensorSpec) (missing : Fault) : Except Fault TensorSpec :=
  found.elim (.error missing) .ok

theorem lookedUp_eq_ok_iff {found : Option TensorSpec} {missing : Fault} {spec : TensorSpec} :
    lookedUp found missing = .ok spec ↔ found = some spec := by
  cases found <;> simp [lookedUp]

theorem lookedUp_eq_error_iff {found : Option TensorSpec} {missing fault : Fault} :
    lookedUp found missing = .error fault ↔ found = none ∧ fault = missing := by
  cases found <;> simp [lookedUp, eq_comm]

section
variable {read : Except Fault (List UInt8)} {buffer bytes : List UInt8} {fault : Fault}

theorem copyOut_eq_ok_iff : (copyOut read buffer).1 = .ok () ↔ ∃ bytes, read = .ok bytes := by
  cases read <;> simp [copyOut]

theorem copyOut_eq_error_iff : (copyOut read buffer).1 = .error fault ↔ read = .error fault := by
  cases read <;> simp [copyOut]

end

section
variable {m : Model} {session : Session} (hlive : m.session = some session)
  {found : Option TensorSpec} {missing : Fault} {source : Session → Option Address}

theorem tensorBytes_eq (m : Model) (spec : TensorSpec) (source : Session → Option Address)
    (length : Nat) : m.tensorBytes spec source length = (do
      let address ← m.located spec source length
      return (m.memory address).take spec.bytes) := by
  simp [Model.tensorBytes, Model.located]

theorem setInput_eq (m : Model) (name : String) (shape : List Int) (bytes : List UInt8) :
    m.setInput name shape bytes = (do
      let spec ← m.namedInput name
      checkShape spec shape
      let address ← m.located spec (·.input) bytes.length
      return { m with memory := m.memory.write address (bytes.take spec.bytes) }) := by
  simp [Model.setInput, Model.located]

include hlive

/-- A tensor is read if it is looked up and located, and comes from the start of its buffer. -/
theorem read_eq_ok_iff {length : Nat} {bytes : List UInt8} :
    (do m.tensorBytes (← lookedUp found missing) source length) = .ok bytes ↔
      ∃ spec address, found = some spec ∧ spec.bytes ≤ length ∧ source session = some address ∧
        bytes = (m.memory address).take spec.bytes := by
  simp only [bind_eq_ok_iff, tensorBytes_eq, lookedUp_eq_ok_iff, located_eq_ok_iff hlive]
  constructor
  · intro ⟨spec, hfound, address, ⟨henough, hsource⟩, hbytes⟩
    exact ⟨spec, address, hfound, henough, hsource, (Except.ok.inj hbytes).symm⟩
  · intro h
    obtain ⟨spec, address, hfound, henough, hsource, rfl⟩ := h
    exact ⟨spec, hfound, address, ⟨henough, hsource⟩, rfl⟩

theorem read_eq_error_iff {length : Nat} {fault : Fault} :
    (do m.tensorBytes (← lookedUp found missing) source length) = .error fault ↔
      (found = none ∧ fault = missing) ∨
        ∃ spec, found = some spec ∧ BufferFault spec (source session) length fault := by
  simp only [bind_eq_error_iff, tensorBytes_eq, lookedUp_eq_ok_iff, lookedUp_eq_error_iff,
    located_eq_error_iff hlive]
  -- Nothing is left to fail once the tensor has been located.
  simp [pure, Except.pure]

/-- A tensor that is looked up, located and copied is given to the caller. -/
theorem givesTensor_of_copyOut (found : Option TensorSpec) (missing : Fault)
    (source : Session → Option Address) (out : List UInt8)
    (hroom : ∀ spec address, found = some spec → source session = some address →
      spec.bytes ≤ (m.memory address).length) :
    GivesTensor m found missing (source session) out
      (copyOut (do m.tensorBytes (← lookedUp found missing) source out.length) out) := by
  constructor
  case succeeds =>
    rw [copyOut_eq_ok_iff]
    constructor
    · intro ⟨bytes, hread⟩
      obtain ⟨spec, address, hfound, henough, hsource, -⟩ := (read_eq_ok_iff hlive).mp hread
      exact ⟨spec, address, hfound, henough, hsource⟩
    · intro ⟨spec, address, hfound, henough, hsource⟩
      exact ⟨_, (read_eq_ok_iff hlive).mpr ⟨spec, address, hfound, henough, hsource, rfl⟩⟩
  case fails =>
    intro fault
    rw [copyOut_eq_error_iff]
    exact read_eq_error_iff hlive
  case copied =>
    intro spec address hfound hsource hok
    obtain ⟨bytes, hread⟩ := copyOut_eq_ok_iff.mp hok
    -- What was read comes from the only description and the only buffer that there are.
    obtain ⟨spec', address', hfound', henough, hsource', rfl⟩ := (read_eq_ok_iff hlive).mp hread
    obtain rfl : spec = spec' := Option.some.inj (hfound.symm.trans hfound')
    obtain rfl : address = address' := Option.some.inj (hsource.symm.trans hsource')
    have hcomplete : ((m.memory address).take spec.bytes).length = spec.bytes :=
      List.length_take_of_le (hroom spec address hfound hsource)
    refine ⟨hcomplete, ?_⟩
    rw [hread]
    show overwrite out _ = _
    rw [overwrite_of_length_le (by omega), hcomplete]
  case untouched =>
    intro fault herror
    rw [copyOut_eq_error_iff.mp herror]
    rfl

end

theorem store_eq_error_iff {m : Model} {name : String} {shape : List Int} {bytes : List UInt8}
    {fault : Fault} :
    (m.store name shape bytes).1 = .error fault ↔ m.setInput name shape bytes = .error fault := by
  unfold Model.store
  cases m.setInput name shape bytes <;> simp

section
variable {m : Model} {session : Session} (hlive : m.session = some session)
  {found : Option TensorSpec} {missing : Fault} {name : String}
  (hnamed : m.namedInput name = lookedUp found missing)
  (hranked : ∀ spec, found = some spec → spec.dim = spec.shape.length)
  {shape : List Int} {bytes : List UInt8}
include hlive hnamed hranked

/-- An input is set if it is looked up, its shape is the declared one, and it is located; it is then
written to the start of its buffer. -/
theorem setInput_eq_ok_iff {m' : Model} :
    m.setInput name shape bytes = .ok m' ↔
      ∃ spec address, found = some spec ∧ shape = spec.shape ∧ spec.bytes ≤ bytes.length ∧
        session.input = some address ∧
        m' = { m with memory := m.memory.write address (bytes.take spec.bytes) } := by
  rw [setInput_eq, hnamed]
  simp only [bind_eq_ok_iff, lookedUp_eq_ok_iff, located_eq_ok_iff hlive]
  constructor
  · intro ⟨spec, hfound, _, hshape, address, ⟨henough, hinput⟩, hm'⟩
    rw [checkShape_eq_ok_iff (hranked spec hfound)] at hshape
    exact ⟨spec, address, hfound, hshape, henough, hinput, (Except.ok.inj hm').symm⟩
  · intro h
    obtain ⟨spec, address, hfound, hshape, henough, hinput, rfl⟩ := h
    have hpasses : checkShape spec shape = .ok () :=
      (checkShape_eq_ok_iff (hranked spec hfound)).mpr hshape
    exact ⟨spec, hfound, (), hpasses, address, ⟨henough, hinput⟩, rfl⟩

theorem setInput_eq_error_iff {fault : Fault} :
    m.setInput name shape bytes = .error fault ↔ (found = none ∧ fault = missing) ∨
      ∃ spec, found = some spec ∧ (ShapeFault spec.shape shape fault ∨
        shape = spec.shape ∧ BufferFault spec session.input bytes.length fault) := by
  rw [setInput_eq, hnamed]
  simp only [bind_eq_error_iff, lookedUp_eq_ok_iff, lookedUp_eq_error_iff,
    located_eq_error_iff hlive]
  refine or_congr_right (exists_congr fun spec => and_congr_right fun hfound => ?_)
  -- Nothing is left to fail once the tensor has been located.
  simp [checkShape_eq_ok_iff (hranked spec hfound), checkShape_eq_error_iff (hranked spec hfound),
    pure, Except.pure]

/-- An input that is looked up, checked and located is taken from the caller. -/
theorem takesTensor_of_store
    (hroom : ∀ spec address, found = some spec → session.input = some address →
      spec.bytes ≤ (m.memory address).length) :
    TakesTensor m found missing session.input shape bytes (m.store name shape bytes) := by
  constructor
  case succeeds =>
    constructor
    · intro hok
      obtain ⟨spec, address, hfound, hshape, henough, hinput, -⟩ :=
        (setInput_eq_ok_iff hlive hnamed hranked).mp
          (setInput_of_store (congrArg Outcome.result hok))
      exact ⟨spec, address, hfound, hshape, henough, hinput⟩
    · intro ⟨spec, address, hfound, hshape, henough, hinput⟩
      have hset := (setInput_eq_ok_iff hlive hnamed hranked).mpr
        ⟨spec, address, hfound, hshape, henough, hinput, rfl⟩
      rw [Model.store, hset]
  case fails =>
    intro fault
    rw [store_eq_error_iff]
    exact setInput_eq_error_iff hlive hnamed hranked
  case written =>
    intro spec address hfound hinput hok
    obtain ⟨spec', address', hfound', -, henough, hinput', hm'⟩ :=
      (setInput_eq_ok_iff hlive hnamed hranked).mp (setInput_of_store (congrArg Outcome.result hok))
    obtain rfl : spec = spec' := Option.some.inj (hfound.symm.trans hfound')
    obtain rfl : address = address' := Option.some.inj (hinput.symm.trans hinput')
    -- The buffer has room for all that is written, so nothing of it is cut off.
    have hlength : (bytes.take spec.bytes).length = spec.bytes := List.length_take_of_le henough
    have hfits : (bytes.take spec.bytes).length ≤ (m.memory address).length := by
      rw [hlength]
      exact hroom spec address hfound hinput
    refine ⟨hm', ?_⟩
    rw [hm']
    show m.memory.write address (bytes.take spec.bytes) address = _
    rw [Memory.write_self, overwrite_of_length_le hfits, hlength]
  case kept => exact fun _ herror => store_of_fault (congrArg Outcome.result herror)

end

/-! ## §4. Whole sessions -/

/-- The descriptions of the inputs say as many extents as their rank, and the buffers that the
engine handed out have room for every tensor. -/
structure Measured (m : Model) : Prop where
  ranked : ∀ spec ∈ m.inputs, spec.dim = spec.shape.length
  input : ∀ session address, m.session = some session → session.input = some address →
    ∀ spec ∈ m.inputs, spec.bytes ≤ (m.memory address).length
  output : ∀ session address, m.session = some session → session.output = some address →
    ∀ spec ∈ m.outputs, spec.bytes ≤ (m.memory address).length

/-- A model that was built has a session, and the names that it keeps are those of its inputs. -/
theorem session_and_names_of_lived {artifact : Artifact} {device : Device} {debugLevel : Int32}
    {operations : List Operation} {l : Life interface Model} {m : Model}
    (h : LivedModel artifact device debugLevel operations l) (hm : l.model = .ok m) :
    ∃ session, m.session = some session ∧ m.inputNames = m.inputs.map (·.name) := by
  obtain ⟨m₀, hbuilding, hrun⟩ := h.of_model hm
  obtain ⟨opened, read, ys, hxs, -, -⟩ := session_of_building hbuilding
  rw [hxs] at hbuilding
  obtain ⟨hlive, -, hnamed⟩ := built_inv hbuilding rfl
  -- Operations change nothing but the memory.
  obtain ⟨memory, rfl⟩ := memory_only_of_reaches hrun
  exact ⟨opened.session, hlive, hnamed⟩

theorem namedInput_eq_lookedUp {m : Model} (hnamed : m.inputNames = m.inputs.map (·.name))
    (name : String) :
    m.namedInput name = lookedUp (specNamed m.inputs name) (.inputNotFound name) := by
  rw [namedInput_eq hnamed]
  cases specNamed m.inputs name <;> rfl

theorem outputSpec_eq_lookedUp (m : Model) (index : Nat) :
    m.outputSpec index
      = lookedUp m.outputs[index]? (.indexOutOfRange "Output" index m.outputs.length) := by
  rw [Model.outputSpec]
  cases m.outputs[index]? <;> rfl

/-- What the operations that move a tensor come to is what the model says of the tensor, whatever
engine they are carried out over; no call is put to it. -/
structure Moves {σ : Type} (m : Model) (E : Engine interface σ) (w : World interface σ) : Prop where
  setInput : ∀ name shape bytes,
    m.operate (.setInput name shape bytes) E w = (m.store name shape bytes, w)
  setInputFloats : ∀ name shape values,
    m.operate (.setInputFloats name shape values) E w
      = (m.store name shape (Binary32.encode values), w)
  getInput : ∀ name out,
    m.operate (.ask (.getInput name out)) E w = ((.filled (m.getInput name out), m), w)
  getOutput : ∀ index out,
    m.operate (.ask (.getOutput index out)) E w = ((.filled (m.getOutput index out), m), w)

theorem moves {σ : Type} (m : Model) (E : Engine interface σ) (w : World interface σ) :
    Moves m E w :=
  ⟨fun _ _ _ => rfl, fun _ _ _ => rfl, fun _ _ => rfl, fun _ _ => rfl⟩

theorem Moves.of_getInput {σ : Type} {m : Model} {E : Engine interface σ} {w : World interface σ}
    (h : Moves m E w) {name : String} {out : List UInt8} {result : Except Fault Unit × List UInt8}
    (hread : m.getInput name out = result) :
    m.operate (.ask (.getInput name out)) E w = ((.filled result, m), w) := by
  rw [h.getInput, hread]

/-- **Which tensors are accepted.**  Whatever the engine replies and whatever the operations were, a
model whose descriptions and buffers are measured right takes an input under a name, gives it back,
and gives an output of an index as the laws say, by the description of the first input of that name
and the output of that index; and that is what one more operation comes to. -/
theorem tensors_are_accepted_exactly {σ : Type} (E : Engine interface σ) (engine : σ)
    (artifact : Artifact) (device : Device) (debugLevel : Int32) (operations : List Operation) :
    let (l, _) := (lifecycle artifact device debugLevel).life operations E (.start engine)
    ∀ m, l.model = .ok m → Measured m → ∃ session, m.session = some session ∧
      (∀ name shape bytes, TakesTensor m (specNamed m.inputs name) (.inputNotFound name)
        session.input shape bytes (m.store name shape bytes)) ∧
      (∀ name out, GivesTensor m (specNamed m.inputs name) (.inputNotFound name)
        session.input out (m.getInput name out)) ∧
      (∀ index out, GivesTensor m m.outputs[index]?
        (.indexOutOfRange "Output" index m.outputs.length) session.output out
        (m.getOutput index out)) ∧
      ∀ w, Moves m E w := by
  have h := life_lived E engine artifact device debugLevel operations
  generalize (lifecycle artifact device debugLevel).life operations E (.start engine) = r at h ⊢
  obtain ⟨l, w⟩ := r
  obtain ⟨-, hlived⟩ := h
  intro m hm hmeasured
  obtain ⟨session, hlive, hnamed⟩ := session_and_names_of_lived hlived hm
  -- A description that is found by its name is one of the inputs, so its buffer has room for it.
  have hinput (name : String) (spec : TensorSpec) (address : Address)
      (hfound : specNamed m.inputs name = some spec) (hsource : session.input = some address) :
      spec.bytes ≤ (m.memory address).length :=
    hmeasured.input session address hlive hsource spec (List.mem_of_find?_eq_some hfound)
  refine ⟨session, hlive, ?_, ?_, ?_, moves m E⟩
  · intro name shape bytes
    have hranked (spec : TensorSpec) (hfound : specNamed m.inputs name = some spec) :
        spec.dim = spec.shape.length :=
      hmeasured.ranked spec (List.mem_of_find?_eq_some hfound)
    exact takesTensor_of_store hlive (namedInput_eq_lookedUp hnamed name) hranked (hinput name)
  · intro name out
    have hgives := givesTensor_of_copyOut hlive (specNamed m.inputs name) (.inputNotFound name)
      (·.input) out (hinput name)
    rw [← namedInput_eq_lookedUp hnamed] at hgives
    exact hgives
  · intro index out
    have hroom (spec : TensorSpec) (address : Address) (hfound : m.outputs[index]? = some spec)
        (hsource : session.output = some address) : spec.bytes ≤ (m.memory address).length :=
      hmeasured.output session address hlive hsource spec (List.mem_of_getElem? hfound)
    have hgives := givesTensor_of_copyOut hlive m.outputs[index]?
      (.indexOutOfRange "Output" index m.outputs.length) (·.output) out hroom
    rw [← outputSpec_eq_lookedUp] at hgives
    exact hgives

/-- A script of an input with two axes and an output with one. -/
def square : Script Script.Described where
  inputs := [.ok (some ⟨"x", 2, [2, 2], 4, 4⟩)]
  outputs := [.ok (some ⟨"y", 1, [3], 3, 3⟩)]
  input := [0, 0, 0, 0, 0]
  output := [7, 8, 9, 10]
  log := []
  logStatus := 0
  initStatus := 0
  graph := 1
  exec := []
  nullInput := false
  nullOutput := false
  endStatus := 1

/-- A shape that differs along the second axis is refused for that axis, a tensor with a byte too
many is taken and read back without it, and an output is read into a longer buffer. -/
theorem second_axis_is_refused :
    let (l, w) := (lifecycle ⟨".", "m_hexagon_model.so", none⟩ .cpu 0).life
      [.setInput "x" [2, 2] [1, 2, 3, 4, 5]] square.direct (.start 0)
    ∃ m, l.model = .ok m ∧
      m.store "x" [2, 3] [1, 2, 3, 4, 5, 6]
        = (.error (.shapeMismatch 1 ("expected " ++ toString (2 : Int) ++ ", got "
          ++ toString (3 : Int))), m) ∧
      (m.store "x" [2, 2] [5, 6, 7, 8, 9]).1 = .ok .done ∧
      (m.store "x" [2, 2] [5, 6, 7, 8, 9]).2.memory Script.inputAddress = [5, 6, 7, 8, 0] ∧
      m.getInput "y" [6] = (.error (.inputNotFound "y"), [6]) ∧
      m.getOutput 0 [0, 0, 0, 6] = (.ok (), [7, 8, 9, 6]) ∧
      m.operate (.ask (.getInput "x" [0, 0, 0, 0, 6])) square.direct w
        = ((.filled (.ok (), [1, 2, 3, 4, 6]), m), w) ∧
      m.operate (.ask (.getInput "x" [6])) square.direct w
        = ((.filled (.error (.bufferTooSmall 4 1), [6]), m), w) := by
  have h := tensors_are_accepted_exactly square.direct 0 ⟨".", "m_hexagon_model.so", none⟩ .cpu 0
    [.setInput "x" [2, 2] [1, 2, 3, 4, 5]]
  refine ⟨_, rfl, ?_⟩
  obtain ⟨session, hlive, htakes, hgives, houtputs, hmoves⟩ := h _ rfl ⟨by decide, by
    rintro _ _ ⟨⟩ ⟨⟩
    decide, by
    rintro _ _ ⟨⟩ ⟨⟩
    decide⟩
  cases hlive
  refine ⟨?_, ?_, ?_, ?_, ?_, ?_, ?_⟩
  · -- The second extent is not that of the tensor.
    have hset := htakes "x" [2, 3] [1, 2, 3, 4, 5, 6]
    have hdiffers : DiffersAt [2, 2] [2, 3] 1 2 3 := ⟨rfl, rfl, rfl, by decide⟩
    have herror := (hset.fails _).mpr (.inr ⟨_, rfl, .inl (.extent rfl hdiffers)⟩)
    exact Prod.ext herror (hset.kept _ herror)
  · exact (htakes "x" [2, 2] [5, 6, 7, 8, 9]).succeeds.mpr ⟨_, _, rfl, rfl, by decide, rfl⟩
  · -- Five bytes are enough for four, and the fifth is not written.
    have hset := htakes "x" [2, 2] [5, 6, 7, 8, 9]
    have hok := hset.succeeds.mpr ⟨_, _, rfl, rfl, by decide, rfl⟩
    exact (hset.written _ _ rfl rfl hok).2
  · -- There is no other input.
    have hread := hgives "y" [6]
    have herror := (hread.fails _).mpr (.inl ⟨rfl, rfl⟩)
    exact Prod.ext herror (hread.untouched _ herror)
  · have hread := houtputs 0 [0, 0, 0, 6]
    have hok := hread.succeeds.mpr ⟨_, _, rfl, by decide, rfl⟩
    exact Prod.ext hok (hread.copied _ _ rfl rfl hok).2
  · have hread := hgives "x" [0, 0, 0, 0, 6]
    have hok := hread.succeeds.mpr ⟨_, _, rfl, by decide, rfl⟩
    exact (hmoves _).of_getInput (Prod.ext hok (hread.copied _ _ rfl rfl hok).2)
  · -- A buffer of one byte is left as it was.
    have hread := hgives "x" [6]
    have herror := (hread.fails _).mpr (.inr ⟨_, rfl, .short (by decide)⟩)
    exact (hmoves _).of_getInput (Prod.ext herror (hread.untouched _ herror))

end ModelAdapter.Hexagon
