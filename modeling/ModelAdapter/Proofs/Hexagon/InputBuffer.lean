import ModelAdapter.Hexagon.Script
import ModelAdapter.Proofs.Hexagon.Protocol

/-! # The input buffer holds what was set

All inputs of a model share one buffer, which the engine set aside, and an input
takes only as many bytes at its start as its description says.  So what the buffer
holds is the outcome of the whole session: the content that the engine opened it
with, and over that, in order, the bytes of every input that was set.

  * **What is laid over** (`laid`, `overlaid`): an operation that sets an input
    replaces the first bytes of the buffer and keeps the rest; no other operation
    changes it, whether it fails or succeeds.
  * **What is read back** (`readBack`): the first bytes again, laid over the start of
    the caller's buffer, which is left alone when it is too short for them.

Two things are asked of the engine: the buffer has room for every input (`Roomy`),
and the engine does not write to it (`Spares`).  Then one operation lays over the
buffer what it should (`overlaid_of_transition`), and so does a run of them
(`overlaid_of_reaches`).  For a caller it follows that an input reads back as it was
set last (`readBack_latest`).
-/

namespace ModelAdapter.Hexagon

/-! ## §1. What a buffer holds -/

/-- The description of the first input of a given name. -/
def specNamed (inputs : List TensorSpec) (name : String) : Option TensorSpec :=
  inputs.find? (fun spec => spec.name == name)

/-- A buffer after some bytes were laid over its start. -/
def layOver (buffer bytes : List UInt8) : List UInt8 := bytes ++ buffer.drop bytes.length

/-- The bytes that an operation lays over the input buffer: if it set an input, as many as that
input takes. -/
def laid (inputs : List TensorSpec) (s : Step interface) : Option (List UInt8) :=
  if s.setsInput then do
    let payload ← s.operation.payload?
    let spec ← specNamed inputs payload.name
    return payload.bytes.take spec.bytes
  else none

/-- A buffer after everything that some operations laid over it, in their order. -/
def overlaid (inputs : List TensorSpec) (buffer : List UInt8) (steps : List (Step interface)) :
    List UInt8 :=
  (steps.filterMap (laid inputs)).foldl layOver buffer

/-- What comes of reading an input back, from the content of the input buffer: the result, and the
caller's buffer afterwards. -/
def readBack (inputs : List TensorSpec) (content : List UInt8) (name : String)
    (buffer : List UInt8) : Except Fault Unit × List UInt8 :=
  match specNamed inputs name with
  | none => (.error (.inputNotFound name), buffer)
  | some spec =>
      if buffer.length < spec.bytes then
        (.error (.bufferTooSmall spec.bytes buffer.length), buffer)
      else (.ok (), content.take spec.bytes ++ buffer.drop spec.bytes)

/-- The engine does not write to a buffer. -/
def Spares (address : Address) : Exchange interface → Prop
  | ⟨.exec _ memory, reply⟩ =>
      (reply : Except Int32 Unit × Memory).2 address = memory address
  | _ => True

section
variable {inputs : List TensorSpec} {steps : List (Step interface)} {s : Step interface}

theorem overlaid_of_laid (buffer : List UInt8) {bytes : List UInt8}
    (h : laid inputs s = some bytes) :
    overlaid inputs buffer (steps ++ [s]) = layOver (overlaid inputs buffer steps) bytes := by
  simp [overlaid, List.filterMap_append, h]

theorem overlaid_of_not_sets (buffer : List UInt8) (h : s.setsInput = false) :
    overlaid inputs buffer (steps ++ [s]) = overlaid inputs buffer steps := by
  simp [overlaid, List.filterMap_append, laid, h]

/-- An operation set the input of a description: it handed over enough bytes, and what it lays over
the buffer are as many of them as the description says. -/
def Lays (inputs : List TensorSpec) (s : Step interface) (payload : Payload)
    (spec : TensorSpec) : Prop :=
  s.operation.payload? = some payload ∧ specNamed inputs payload.name = some spec ∧
    spec.bytes ≤ payload.bytes.length ∧ laid inputs s = some (payload.bytes.take spec.bytes)

theorem take_layOver (buffer bytes : List UInt8) :
    (layOver buffer bytes).take bytes.length = bytes := by
  simp [layOver]

end

/-! ## §2. One operation -/

/-- A model with an input buffer, and with room in it for every input. -/
structure Roomy (address : Address) (m : Model) : Prop where
  bound : ∃ session, m.session = some session ∧ session.input = some address
  named : m.inputNames = m.inputs.map (·.name)
  room : ∀ spec ∈ m.inputs, spec.bytes ≤ (m.memory address).length

section
variable {m m' : Model} {address : Address} {s : Step interface}

/-- The input of a name is described by the first description of that name, since the names that a
model keeps are those of its descriptions. -/
theorem namedInput_eq (hnamed : m.inputNames = m.inputs.map (·.name)) (name : String) :
    m.namedInput name = match specNamed m.inputs name with
      | some spec => .ok spec
      | none => .error (.inputNotFound name) := by
  have hindex : m.inputNames.findIdx? (· == name)
      = m.inputs.findIdx? (fun spec => spec.name == name) := by
    rw [hnamed, List.findIdx?_map]
    rfl
  rw [specNamed, List.find?_eq_bind_findIdx?_getElem?, ← hindex]
  unfold Model.namedInput Model.inputIndex
  cases hfound : m.inputNames.findIdx? (· == name) with
  | none => rfl
  | some index =>
    -- An index that was found is one of a description.
    rw [hindex] at hfound
    obtain ⟨hlt, -, -⟩ := List.findIdx?_eq_some_iff_getElem.mp hfound
    have hspec : m.inputs[index]? = some m.inputs[index] := List.getElem?_eq_getElem hlt
    simp [Model.inputSpec, hspec, bind, Except.bind]

theorem specNamed_of_namedInput {name : String} {spec : TensorSpec}
    (hnamed : m.inputNames = m.inputs.map (·.name)) (h : m.namedInput name = .ok spec) :
    specNamed m.inputs name = some spec := by
  rw [namedInput_eq hnamed] at h
  cases hspec : specNamed m.inputs name with
  | none => simp [hspec] at h
  | some spec' =>
    simp only [hspec, Except.ok.injEq] at h
    rw [h]

theorem Roomy.room_of_named {name : String} {spec : TensorSpec} (hroomy : Roomy address m)
    (h : specNamed m.inputs name = some spec) : spec.bytes ≤ (m.memory address).length :=
  hroomy.room spec (List.mem_of_find?_eq_some h)

/-- An operation that sets an input lays as many bytes over the input buffer as the input takes,
and changes nothing but the memory. -/
theorem lays_of_sets (hroomy : Roomy address m)
    (h : Transition m s.operation s.exchanges s.outcome m') (hsets : s.setsInput = true) :
    ∃ payload spec, Lays m.inputs s payload spec ∧
      m' = { m with memory := m.memory.write address (payload.bytes.take spec.bytes) } := by
  obtain ⟨payload, hpayload, -, hset⟩ := setsInput_inv h hsets
  obtain ⟨spec, session, address', hnamed, henough, hlive, hinput, hm'⟩ := setInput_inv hset
  -- There is one session, and it has one input buffer.
  obtain ⟨session', hlive', hinput'⟩ := hroomy.bound
  cases hlive.symm.trans hlive'
  cases hinput.symm.trans hinput'
  have hspec : specNamed m.inputs payload.name = some spec :=
    specNamed_of_namedInput hroomy.named hnamed
  refine ⟨payload, spec, ⟨hpayload, hspec, henough, ?_⟩, hm'⟩
  simp [laid, hsets, hpayload, hspec]

/-- A run with an engine that spares the input buffer leaves its content, and changes nothing but
the memory. -/
theorem spared_of_run (h : Transition m s.operation s.exchanges s.outcome m')
    (hrun : s.isRun = true) (hspares : ∀ x ∈ s.exchanges, Spares address x) :
    ∃ memory, m' = { m with memory } ∧ memory address = m.memory address := by
  obtain ⟨result, -, hruns⟩ := isRun_inv h hrun
  generalize s.exchanges = xs at hruns hspares
  cases hruns with
  | unopened hclosed => exact ⟨m.memory, rfl, rfl⟩
  | executed hlive status memory => exact ⟨memory, rfl, hspares _ (List.mem_singleton_self _)⟩

/-- **One operation** keeps the room and the descriptions, and lays over the input buffer what it
should. -/
theorem overlaid_of_transition (hroomy : Roomy address m)
    (h : Transition m s.operation s.exchanges s.outcome m')
    (hspares : ∀ x ∈ s.exchanges, Spares address x) :
    Roomy address m' ∧ m'.inputs = m.inputs ∧
      m'.memory address = overlaid m.inputs (m.memory address) [s] := by
  cases hsets : s.setsInput with
  | true =>
    -- What is laid over the buffer fits into it, so its length and the room of the others stay.
    obtain ⟨payload, spec, ⟨_, hspec, henough, hlaid⟩, rfl⟩ := lays_of_sets hroomy h hsets
    have hlength : (payload.bytes.take spec.bytes).length = spec.bytes :=
      List.length_take_of_le henough
    have hroom : (payload.bytes.take spec.bytes).length ≤ (m.memory address).length := by
      rw [hlength]
      exact hroomy.room_of_named hspec
    refine ⟨⟨hroomy.bound, hroomy.named, ?_⟩, rfl, ?_⟩
    · intro spec' hspec'
      simp only [Memory.write_self, length_overwrite]
      exact hroomy.room spec' hspec'
    · simp only [Memory.write_self]
      rw [overwrite_of_length_le hroom]
      have hlay : overlaid m.inputs (m.memory address) ([] ++ [s])
          = layOver (m.memory address) (payload.bytes.take spec.bytes) := overlaid_of_laid _ hlaid
      exact hlay.symm
  | false =>
    have hkept : overlaid m.inputs (m.memory address) ([] ++ [s]) = m.memory address :=
      overlaid_of_not_sets _ hsets
    rw [List.nil_append] at hkept
    rw [hkept]
    cases hrun : s.isRun with
    | true =>
      -- A run may write anywhere but here.
      obtain ⟨memory, rfl, hspared⟩ := spared_of_run h hrun hspares
      refine ⟨⟨hroomy.bound, hroomy.named, ?_⟩, rfl, hspared⟩
      intro spec hspec
      show spec.bytes ≤ (memory address).length
      rw [hspared]
      exact hroomy.room spec hspec
    | false =>
      rw [eq_of_other h hsets hrun]
      exact ⟨hroomy, rfl, rfl⟩

/-- Reading an input back takes it from the start of the input buffer. -/
theorem getInput_eq_readBack (hroomy : Roomy address m) (name : String) (buffer : List UInt8) :
    m.getInput name buffer = readBack m.inputs (m.memory address) name buffer := by
  obtain ⟨session, hlive, hinput⟩ := hroomy.bound
  unfold Model.getInput readBack
  rw [namedInput_eq hroomy.named]
  cases hspec : specNamed m.inputs name with
  | none => rfl
  | some spec =>
    -- The length of the buffer is checked before the session, which is open in any case.
    by_cases hshort : buffer.length < spec.bytes
    · simp [Model.tensorBytes, checkLength, hshort, copyOut, bind, Except.bind]
    · have hroom : spec.bytes ≤ (m.memory address).length := hroomy.room_of_named hspec
      have hlength : ((m.memory address).take spec.bytes).length = spec.bytes :=
        List.length_take_of_le hroom
      have hfits : ((m.memory address).take spec.bytes).length ≤ buffer.length := by omega
      simp [Model.tensorBytes, checkLength, hshort, Model.liveSession, hlive, present, hinput,
        copyOut, bind, Except.bind, pure, Except.pure, overwrite_of_length_le hfits, hroom]

end

/-! ## §3. Runs -/

section
variable {m₀ m : Model} {address : Address} {steps : List (Step interface)}

/-- **A run** of operations lays over the input buffer what they should, in their order. -/
theorem overlaid_of_reaches (hroomy : Roomy address m₀) (h : Reaches Transition m₀ steps m)
    (hspares : ∀ s ∈ steps, ∀ x ∈ s.exchanges, Spares address x) :
    Roomy address m ∧ m.inputs = m₀.inputs ∧
      m.memory address = overlaid m₀.inputs (m₀.memory address) steps := by
  -- On the operations; the inputs stay, so each one lays over what those before it came to.
  induction h with
  | start => exact ⟨hroomy, rfl, rfl⟩
  | @step steps m m' last hbefore hlast ih =>
    have hearlier : ∀ s ∈ steps, ∀ x ∈ s.exchanges, Spares address x := by
      intro s hs
      exact hspares s (List.mem_append_left _ hs)
    obtain ⟨hroomy₁, hinputs, hcontent⟩ := ih hearlier
    obtain ⟨hroomy₂, hinputs', hcontent'⟩ := overlaid_of_transition hroomy₁ hlast
      (hspares last (List.mem_append_right _ (List.mem_singleton_self _)))
    refine ⟨hroomy₂, hinputs'.trans hinputs, ?_⟩
    rw [hcontent', hcontent, hinputs]
    simp only [overlaid, List.filterMap_append, List.foldl_append]

/-- Every operation of a run that set an input laid it over the buffer. -/
theorem lays_of_reaches (hroomy : Roomy address m₀) (h : Reaches Transition m₀ steps m)
    (hspares : ∀ s ∈ steps, ∀ x ∈ s.exchanges, Spares address x) :
    ∀ s ∈ steps, s.setsInput = true → ∃ payload spec, Lays m₀.inputs s payload spec := by
  intro s hs hsets
  -- Up to the operation the model has kept its inputs and room for them.
  obtain ⟨before, after, rfl⟩ := List.append_of_mem hs
  obtain ⟨m₁, m₂, hbefore, hstep⟩ := h.at_step
  have hearlier : ∀ t ∈ before, ∀ x ∈ t.exchanges, Spares address x := by
    intro t ht
    exact hspares t (List.mem_append_left _ ht)
  obtain ⟨hroomy₁, hinputs, -⟩ := overlaid_of_reaches hroomy hbefore hearlier
  obtain ⟨payload, spec, hlays, -⟩ := lays_of_sets hroomy₁ hstep hsets
  rw [hinputs] at hlays
  exact ⟨payload, spec, hlays⟩

end

/-- Whatever was laid over a buffer before, it begins with what was laid last. -/
theorem take_overlaid_of_latest {inputs : List TensorSpec} {steps : List (Step interface)}
    {s : Step interface} {payload : Payload} {spec : TensorSpec} (buffer : List UInt8)
    (hlatest : latestInput steps = some s) (hlays : Lays inputs s payload spec) :
    (overlaid inputs buffer steps).take spec.bytes = payload.bytes.take spec.bytes := by
  obtain ⟨-, -, henough, hlaid⟩ := hlays
  -- From the last operation back to the one that set the input.
  induction steps using List.reverseRecOn with
  | nil => cases hlatest
  | append_singleton steps last ih =>
    cases hsets : last.setsInput with
    | true =>
      rw [latestInput_of_sets hsets] at hlatest
      cases hlatest
      have hlength : (payload.bytes.take spec.bytes).length = spec.bytes :=
        List.length_take_of_le henough
      have hstart := take_layOver (overlaid inputs buffer steps) (payload.bytes.take spec.bytes)
      rw [hlength] at hstart
      rw [overlaid_of_laid buffer hlaid]
      exact hstart
    | false =>
      rw [latestInput_of_not_sets hsets] at hlatest
      rw [overlaid_of_not_sets buffer hsets]
      exact ih hlatest

/-- An input that was set last is read back as it was handed over. -/
theorem readBack_latest {inputs : List TensorSpec} {steps : List (Step interface)}
    {s : Step interface} {payload : Payload} {spec : TensorSpec} (content buffer : List UInt8)
    (hlatest : latestInput steps = some s) (hlays : Lays inputs s payload spec)
    (hroom : spec.bytes ≤ buffer.length) :
    readBack inputs (overlaid inputs content steps) payload.name buffer
      = (.ok (), payload.bytes.take spec.bytes ++ buffer.drop spec.bytes) := by
  have hstart := take_overlaid_of_latest content hlatest hlays
  obtain ⟨-, hspec, -, -⟩ := hlays
  simp [readBack, hspec, Nat.not_lt.mpr hroom, hstart]

theorem readBack_of_short {inputs : List TensorSpec} {name : String} {spec : TensorSpec}
    {buffer : List UInt8} (content : List UInt8) (hspec : specNamed inputs name = some spec)
    (hshort : buffer.length < spec.bytes) :
    readBack inputs content name buffer
      = (.error (.bufferTooSmall spec.bytes buffer.length), buffer) := by
  simp only [readBack, hspec, hshort, if_true]

/-! ## §4. Whole sessions -/

/-- What a new model has of the session that was opened, and of the descriptions. -/
theorem built_inv {artifact : Artifact} {device : Device} {debugLevel : Int32} {m : Model}
    {xs : List (Exchange interface)} {opened : Opened}
    (h : Building artifact device debugLevel (.ok m) xs)
    (hopened : xs.head? = some ⟨Call.init debugLevel, (.ok opened : Except InitFailure Opened)⟩) :
    m.session = some opened.session ∧ m.memory = opened.memory ∧
      m.inputNames = m.inputs.map (·.name) := by
  cases h with
  | ready hopens hdiscovers =>
    cases hopens with
    | opened session memory read =>
      cases hopened
      cases hdiscovers with
      | discovered => exact ⟨rfl, rfl, rfl⟩

/-- **The input buffer holds what was set.**  A model was built over a session with an input buffer
that has room for every input, and the engine never wrote to that buffer.  Then the buffer holds
what it was opened with and over that, in their order, what the operations that set inputs laid over
it, each with as many bytes as its input takes.  Every input that is read is read back from what
the buffer held at that time; so it comes as it was handed over if it was set last. -/
theorem life_keeps_inputBuffer {σ : Type} (E : Engine interface σ) (engine : σ)
    (artifact : Artifact) (device : Device) (debugLevel : Int32) (operations : List Operation) :
    let (l, _) := (lifecycle artifact device debugLevel).life operations E (.start engine)
    ∀ m opened address, l.model = .ok m →
      l.building.head? = some ⟨Call.init debugLevel, (.ok opened : Except InitFailure Opened)⟩ →
      opened.session.input = some address →
      (∀ spec ∈ m.inputs, spec.bytes ≤ (opened.memory address).length) →
      (∀ s ∈ l.steps, ∀ x ∈ s.exchanges, Spares address x) →
      m.memory address = overlaid m.inputs (opened.memory address) l.steps ∧
      (∀ s ∈ l.steps, s.setsInput = true → ∃ payload spec, Lays m.inputs s payload spec) ∧
      (∀ before s after name buffer, l.steps = before ++ s :: after →
        s.operation = .ask (.getInput name buffer) →
        s.outcome = .filled (readBack m.inputs
          (overlaid m.inputs (opened.memory address) before) name buffer)) ∧
      (∀ s ∈ l.steps, ∀ name buffer spec, s.operation = .ask (.getInput name buffer) →
        specNamed m.inputs name = some spec → buffer.length < spec.bytes →
        s.outcome = .filled (.error (.bufferTooSmall spec.bytes buffer.length), buffer)) ∧
      (∀ name buffer, m.getInput name buffer
        = readBack m.inputs (overlaid m.inputs (opened.memory address) l.steps) name buffer) ∧
      (∀ before t s after payload buffer, l.steps = before ++ s :: after →
        latestInput before = some t → t.operation.payload? = some payload →
        s.operation = .ask (.getInput payload.name buffer) →
        ∃ spec, specNamed m.inputs payload.name = some spec ∧
          (spec.bytes ≤ buffer.length → s.outcome
            = .filled (.ok (), payload.bytes.take spec.bytes ++ buffer.drop spec.bytes))) := by
  have h := life_lived E engine artifact device debugLevel operations
  generalize (lifecycle artifact device debugLevel).life operations E (.start engine) = r at h ⊢
  obtain ⟨l, w⟩ := r
  obtain ⟨-, hlived⟩ := h
  intro m opened address hm hopened hinput hroom hspares
  obtain ⟨m₀, hbuilding, hrun⟩ := hlived.of_model hm
  obtain ⟨hlive, hmemory, hnamed⟩ := built_inv hbuilding hopened
  -- The descriptions are those of the new model, so the room was there when it was built.
  have hinputs : m.inputs = m₀.inputs := by
    obtain ⟨memory, rfl⟩ := memory_only_of_reaches hrun
    rfl
  rw [hinputs, ← hmemory] at hroom
  rw [hinputs, ← hmemory]
  have hroomy : Roomy address m₀ := ⟨⟨opened.session, hlive, hinput⟩, hnamed, hroom⟩
  obtain ⟨hroomy', hinputs', hcontent⟩ := overlaid_of_reaches hroomy hrun hspares
  have hlays := lays_of_reaches hroomy hrun hspares
  -- What an input is read back from is the content of the buffer at that time.
  have hreads : ∀ before s after name buffer, l.steps = before ++ s :: after →
      s.operation = .ask (.getInput name buffer) →
      s.outcome = .filled (readBack m₀.inputs
        (overlaid m₀.inputs (m₀.memory address) before) name buffer) := by
    intro before s after name buffer hsteps hread
    rw [hsteps] at hrun hspares
    obtain ⟨m₁, m₂, hbefore, hstep⟩ := hrun.at_step
    obtain ⟨hroomy₁, hinputs₁, hcontent₁⟩ := overlaid_of_reaches hroomy hbefore
      (fun t ht => hspares t (List.mem_append_left _ ht))
    rw [← hcontent₁, ← hinputs₁, ← getInput_eq_readBack hroomy₁]
    exact answer_of_asked hstep hread
  refine ⟨hcontent, hlays, hreads, ?_, ?_, ?_⟩
  · intro s hs name buffer spec hread hspec hshort
    obtain ⟨before, after, hsteps⟩ := List.append_of_mem hs
    rw [hreads before s after name buffer hsteps hread,
      readBack_of_short (overlaid m₀.inputs (m₀.memory address) before) hspec hshort]
  · intro name buffer
    rw [← hcontent, ← hinputs']
    exact getInput_eq_readBack hroomy' name buffer
  intro before t s after payload buffer hsteps hlatest hpayload hread
  have ht : t ∈ l.steps := by
    rw [hsteps]
    exact List.mem_append_left _ (mem_of_latestInput hlatest)
  obtain ⟨payload', spec, hlay⟩ := hlays t ht (sets_of_latestInput hlatest)
  cases hlay.1.symm.trans hpayload
  refine ⟨spec, hlay.2.1, ?_⟩
  intro hfits
  rw [hreads before s after payload.name buffer hsteps hread,
    readBack_latest (m₀.memory address) buffer hlatest hlay hfits]

/-- A script of a model with a longer and a shorter input. -/
def twoInputs : Script Script.Described where
  inputs := [.ok (some ⟨"a", 1, [3], 3, 3⟩), .ok (some ⟨"b", 1, [1], 1, 1⟩)]
  outputs := []
  input := [9, 9, 9, 9]
  output := []
  log := []
  logStatus := 0
  initStatus := 0
  graph := 1
  exec := []
  nullInput := false
  nullOutput := false
  endStatus := 1

/-- Two inputs are set, the graph is run, and the longer input is read into a buffer with room for
it and into one without. -/
def overSetting : List Operation :=
  [.setInput "a" [3] [1, 2, 3], .setInput "b" [1] [7], .run, .ask (.getInput "a" [0, 0, 0, 0]),
    .ask (.getInput "a" [5, 6])]

/-- The shorter input is laid over the longer one and is read back with it, also after a run; into
a short buffer it is not. -/
theorem shorter_input_over_longer :
    let (l, _) := (lifecycle ⟨".", "m_hexagon_model.so", none⟩ .cpu 0).life overSetting
      twoInputs.direct (.start 0)
    ∃ m, l.model = .ok m ∧ m.memory Script.inputAddress = [7, 2, 3, 9] ∧
      (l.steps.map (·.outcome)).drop 3
        = [.filled (.ok (), [7, 2, 3, 0]), .filled (.error (.bufferTooSmall 3 2), [5, 6])] := by
  have h := life_keeps_inputBuffer twoInputs.direct 0 ⟨".", "m_hexagon_model.so", none⟩ .cpu 0
    overSetting
  obtain ⟨hcontent, -, hreads, hshort, -⟩ := h _ _ Script.inputAddress rfl rfl rfl (by decide) (by
    -- Only the run puts a call to the engine, which writes to the output buffer.
    intro s hs x hx
    rcases hs with _ | ⟨_, _ | ⟨_, _ | ⟨_, _ | ⟨_, _ | ⟨_, _ | _⟩⟩⟩⟩⟩
    · cases hx
    · cases hx
    · cases List.mem_singleton.mp hx
      rfl
    · cases hx
    · cases hx)
  have hread := hreads [_, _, _] _ [_] "a" [0, 0, 0, 0] rfl rfl
  have hleft := hshort _ (List.mem_of_getLast? rfl) "a" [5, 6] ⟨"a", 1, [3], 3, 3⟩ rfl rfl
    (by decide)
  exact ⟨_, rfl, hcontent, congrArg₂ (fun read left => [read, left]) hread hleft⟩

end ModelAdapter.Hexagon
