import ModelAdapter.Proofs.Hexagon.InputBuffer

/-! # Inputs share one buffer

A session has one input buffer, and every input lies at its start.  So an input that
is set takes the place of as many bytes of the others as it has itself, and what is
read back of an input is not always what was set under its name.

Byte by byte it is simple: each is the one of the latest operation that reached it
(`latestByte`), whatever input that operation set.  An input therefore reads back as
it was set up to the inputs set since then: these decide as many bytes at its start
as the longest of them has, and no others.
-/

namespace ModelAdapter.Hexagon

/-! ## §1. The latest byte -/

/-- The byte at an index of the input buffer that the latest operation laid there of those that
reached it. -/
def latestByte (inputs : List TensorSpec) (steps : List (Step interface)) (i : Nat) :
    Option UInt8 :=
  ((steps.filterMap (laid inputs)).filterMap (·[i]?)).getLast?

/-- Bytes laid over a buffer hide those below them. -/
theorem getElem?_layOver (buffer bytes : List UInt8) (i : Nat) :
    (layOver buffer bytes)[i]? = bytes[i]?.or buffer[i]? := by
  unfold layOver
  by_cases hi : i < bytes.length
  · rw [List.getElem?_append_left hi, List.getElem?_eq_getElem hi]
    rfl
  · have hle : bytes.length ≤ i := by omega
    have hrest : bytes.length + (i - bytes.length) = i := by omega
    rw [List.getElem?_append_right hle, List.getElem?_drop, hrest, List.getElem?_eq_none hle,
      Option.none_or]

/-- A buffer holds the latest bytes, and its own where nothing was laid. -/
theorem getElem?_overlaid (inputs : List TensorSpec) (buffer : List UInt8)
    (steps : List (Step interface)) (i : Nat) :
    (overlaid inputs buffer steps)[i]? = (latestByte inputs steps i).or buffer[i]? := by
  unfold overlaid latestByte
  generalize steps.filterMap (laid inputs) = chunks
  -- On what was laid, from the last of it, which hides the rest as far as it reaches.
  induction chunks using List.reverseRecOn with
  | nil => rfl
  | append_singleton chunks bytes ih =>
    rw [List.foldl_concat, getElem?_layOver, ih, List.filterMap_append]
    cases hbyte : bytes[i]? with
    | none => simp [hbyte]
    | some byte => simp [hbyte]

/-- The latest bytes of two runs are those of the second, and below them those of the first. -/
theorem latestByte_append (inputs : List TensorSpec) (before after : List (Step interface))
    (i : Nat) :
    latestByte inputs (before ++ after) i
      = (latestByte inputs after i).or (latestByte inputs before i) := by
  simp [latestByte, List.filterMap_append, List.getLast?_append]

/-- An operation that set an input reached the bytes of that input. -/
theorem latestByte_of_lays {inputs : List TensorSpec} {s : Step interface} {payload : Payload}
    {spec : TensorSpec} (hlays : Lays inputs s payload spec) {i : Nat} (hi : i < spec.bytes) :
    latestByte inputs [s] i = payload.bytes[i]? := by
  obtain ⟨-, -, -, hlaid⟩ := hlays
  have hbyte : (payload.bytes.take spec.bytes)[i]? = payload.bytes[i]? :=
    List.getElem?_take_of_lt hi
  simp only [latestByte, List.filterMap_cons, List.filterMap_nil, hlaid, hbyte]
  cases payload.bytes[i]? with
  | none => rfl
  | some byte => rfl

/-- Nothing was laid at an index that no operation reached. -/
theorem latestByte_eq_none_iff {inputs : List TensorSpec} {steps : List (Step interface)}
    {i : Nat} :
    latestByte inputs steps i = none ↔
      ∀ s ∈ steps, ∀ bytes, laid inputs s = some bytes → bytes.length ≤ i := by
  simp only [latestByte, List.getLast?_eq_none_iff, List.filterMap_eq_nil_iff, List.mem_filterMap,
    List.getElem?_eq_none_iff]
  constructor
  · intro h s hs bytes hlaid
    exact h bytes ⟨s, hs, hlaid⟩
  · rintro h bytes ⟨s, hs, hlaid⟩
    exact h s hs bytes hlaid

/-! ## §2. Reading back -/

/-- What is read back of an input after some further operations: the latest bytes of these, and
below them what was set. -/
structure ReadsOver (m : Model) (payload : Payload) (later : List (Step interface))
    (spec : TensorSpec) (tensor : List UInt8) : Prop where
  named : specNamed m.inputs payload.name = some spec
  enough : spec.bytes ≤ payload.bytes.length
  complete : tensor.length = spec.bytes
  latest : ∀ i < spec.bytes,
    tensor[i]? = (latestByte m.inputs later i).or payload.bytes[i]?
  copied : ∀ buffer, spec.bytes ≤ buffer.length →
    m.getInput payload.name buffer = (.ok (), tensor ++ buffer.drop spec.bytes)

section
variable {m₀ m : Model} {address : Address} {earlier later : List (Step interface)}
  {t : Step interface} {payload : Payload} {spec : TensorSpec} {tensor : List UInt8}

/-- An input is read back as it was set if the operations since then laid the same bytes where they
reached it, and only then. -/
theorem ReadsOver.unchanged_iff (h : ReadsOver m payload later spec tensor) :
    tensor = payload.bytes.take spec.bytes ↔
      ∀ i < spec.bytes, ∀ byte, latestByte m.inputs later i = some byte →
        payload.bytes[i]? = some byte := by
  constructor
  · intro hsame i hi byte hbyte
    have hread := h.latest i hi
    rw [hsame, List.getElem?_take_of_lt hi, hbyte] at hread
    exact hread
  · intro hsame
    -- Byte by byte: one that was laid since is the same, and any other is as it was set.
    apply List.ext_getElem?
    intro i
    by_cases hi : i < spec.bytes
    · rw [h.latest i hi, List.getElem?_take_of_lt hi]
      cases hbyte : latestByte m.inputs later i with
      | none => rfl
      | some byte => exact (hsame i hi byte hbyte).symm
    · -- Behind the description both have ended.
      have htensor : tensor.length ≤ i := by
        rw [h.complete]
        omega
      have htaken : (payload.bytes.take spec.bytes).length ≤ i := by
        rw [List.length_take]
        omega
      rw [List.getElem?_eq_none htensor, List.getElem?_eq_none htaken]

/-- Behind all that was laid since, an input is read back as it was set. -/
theorem ReadsOver.eq_of_unreached (h : ReadsOver m payload later spec tensor) {i : Nat}
    (hi : i < spec.bytes)
    (hshort : ∀ s ∈ later, ∀ bytes, laid m.inputs s = some bytes → bytes.length ≤ i) :
    tensor[i]? = payload.bytes[i]? := by
  rw [h.latest i hi, latestByte_eq_none_iff.mpr hshort, Option.none_or]

/-- **A run** that set an input, and went on, leaves it under what was set since. -/
theorem readsOver_of_reaches (hroomy : Roomy address m₀)
    (h : Reaches Transition m₀ (earlier ++ t :: later) m)
    (hspares : ∀ s ∈ earlier ++ t :: later, ∀ x ∈ s.exchanges, Spares address x)
    (hsets : t.setsInput = true) (hpayload : t.operation.payload? = some payload) :
    ∃ spec tensor, ReadsOver m payload later spec tensor := by
  obtain ⟨hroomy', hinputs, hcontent⟩ := overlaid_of_reaches hroomy h hspares
  have ht : t ∈ earlier ++ t :: later := List.mem_append_right _ (List.mem_cons_self ..)
  obtain ⟨payload', spec, hlays⟩ := lays_of_reaches hroomy h hspares t ht hsets
  cases hlays.1.symm.trans hpayload
  rw [← hinputs] at hlays hcontent
  have hspec : specNamed m.inputs payload.name = some spec := hlays.2.1
  have henough : spec.bytes ≤ payload.bytes.length := hlays.2.2.1
  have hroom : spec.bytes ≤ (m.memory address).length := hroomy'.room_of_named hspec
  refine ⟨spec, (m.memory address).take spec.bytes, hspec, henough,
    List.length_take_of_le hroom, ?_, ?_⟩
  · intro i hi
    -- The operation itself reached every byte of its input, so nothing earlier shows.
    have hown : latestByte m.inputs (t :: later) i
        = (latestByte m.inputs later i).or payload.bytes[i]? := by
      rw [← latestByte_of_lays hlays hi]
      exact latestByte_append m.inputs [t] later i
    have hlt : i < payload.bytes.length := by omega
    rw [List.getElem?_take_of_lt hi, hcontent, getElem?_overlaid, latestByte_append, hown,
      List.getElem?_eq_getElem hlt]
    cases latestByte m.inputs later i with
    | none => rfl
    | some byte => rfl
  · intro buffer hfits
    rw [getInput_eq_readBack hroomy']
    simp [readBack, hspec, Nat.not_lt.mpr hfits]

end

/-! ## §3. Whole sessions -/

/-- **Inputs share the buffer.**  A model was built over a session with an input buffer that has
room for every input, and the engine never wrote to that buffer.  Then every input that was set, at
any time, is read back with the latest bytes that were laid over it since, and with its own where
none were: as it was set exactly when these are the same, and always behind the longest of the
inputs that were set since. -/
theorem life_shares_inputBuffer {σ : Type} (E : Engine interface σ) (engine : σ)
    (artifact : Artifact) (device : Device) (debugLevel : Int32) (operations : List Operation) :
    let (l, _) := (lifecycle artifact device debugLevel).life operations E (.start engine)
    ∀ m opened address, l.model = .ok m →
      l.building.head? = some ⟨Call.init debugLevel, (.ok opened : Except InitFailure Opened)⟩ →
      opened.session.input = some address →
      (∀ spec ∈ m.inputs, spec.bytes ≤ (opened.memory address).length) →
      (∀ s ∈ l.steps, ∀ x ∈ s.exchanges, Spares address x) →
      ∀ earlier t later payload, l.steps = earlier ++ t :: later → t.setsInput = true →
        t.operation.payload? = some payload →
        ∃ spec tensor, ReadsOver m payload later spec tensor ∧
          (tensor = payload.bytes.take spec.bytes ↔
            ∀ i < spec.bytes, ∀ byte, latestByte m.inputs later i = some byte →
              payload.bytes[i]? = some byte) ∧
          ∀ i < spec.bytes,
            (∀ s ∈ later, ∀ bytes, laid m.inputs s = some bytes → bytes.length ≤ i) →
            tensor[i]? = payload.bytes[i]? := by
  have h := life_lived E engine artifact device debugLevel operations
  generalize (lifecycle artifact device debugLevel).life operations E (.start engine) = r at h ⊢
  obtain ⟨l, w⟩ := r
  obtain ⟨-, hlived⟩ := h
  intro m opened address hm hopened hinput hroom hspares earlier t later payload hsteps hsets
    hpayload
  obtain ⟨m₀, hbuilding, hrun⟩ := hlived.of_model hm
  -- Nothing but the memory has changed since the model was built.
  have hroomy : Roomy address m₀ := by
    obtain ⟨hlive, hmemory, hnamed⟩ := built_inv hbuilding hopened
    obtain ⟨memory, rfl⟩ := memory_only_of_reaches hrun
    rw [← hmemory] at hroom
    exact ⟨⟨opened.session, hlive, hinput⟩, hnamed, hroom⟩
  rw [hsteps] at hrun hspares
  obtain ⟨spec, tensor, hreads⟩ := readsOver_of_reaches hroomy hrun hspares hsets hpayload
  exact ⟨spec, tensor, hreads, hreads.unchanged_iff, fun _ => hreads.eq_of_unreached⟩

/-- Of a longer input, the rest behind a shorter one that was set later is read back. -/
theorem rest_behind_shorter_input :
    let (l, _) := (lifecycle ⟨".", "m_hexagon_model.so", none⟩ .cpu 0).life
      [.setInput "a" [3] [1, 2, 3], .setInput "b" [1] [7], .run] twoInputs.direct (.start 0)
    ∃ m tensor, l.model = .ok m ∧ tensor[0]? = some 7 ∧ tensor[2]? = some 3 ∧
      m.getInput "a" [0, 0, 0, 0] = (.ok (), tensor ++ [0]) := by
  have h := life_shares_inputBuffer twoInputs.direct 0 ⟨".", "m_hexagon_model.so", none⟩ .cpu 0
    [.setInput "a" [3] [1, 2, 3], .setInput "b" [1] [7], .run]
  obtain ⟨spec, tensor, hreads, -, -⟩ := h _ _ Script.inputAddress rfl rfl rfl (by decide) (by
    -- Only the run puts a call to the engine, which writes to the output buffer.
    intro s hs x hx
    rcases hs with _ | ⟨_, _ | ⟨_, _ | ⟨_, _ | _⟩⟩⟩
    · cases hx
    · cases hx
    · cases List.mem_singleton.mp hx
      rfl) [] _ [_, _] ⟨"a", [3], [1, 2, 3]⟩ rfl rfl rfl
  have hspec : spec = ⟨"a", 1, [3], 3, 3⟩ := (Option.some.inj hreads.named).symm
  subst hspec
  refine ⟨_, tensor, rfl, hreads.latest 0 (by decide), hreads.latest 2 (by decide), ?_⟩
  exact hreads.copied [0, 0, 0, 0] (by decide)

/-- The start of an input is not read back as it was set when another input was set since. -/
theorem later_input_hides_earlier :
    let (l, _) := (lifecycle ⟨".", "m_hexagon_model.so", none⟩ .cpu 0).life
      [.setInput "a" [3] [1, 2, 3], .setInput "b" [1] [7]] twoInputs.direct (.start 0)
    ∃ m, l.model = .ok m ∧ (m.inputs.map (·.name)).Nodup ∧
      l.steps.map (·.outcome) = [.ok .done, .ok .done] ∧
      m.getInput "a" [0, 0, 0] = (.ok (), [7, 2, 3]) ∧
      (m.getInput "a" [0, 0, 0]).2 ≠ [1, 2, 3] := by
  exact ⟨_, rfl, by decide, rfl, rfl, by decide⟩

end ModelAdapter.Hexagon
