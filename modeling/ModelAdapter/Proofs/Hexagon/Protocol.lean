import ModelAdapter.Proofs.Hexagon.Transitions

/-! # A session is opened and closed once

This module proves which calls a session puts to the engine, and in which order,
whatever the engine replies and whatever operations there are:

  * the session is opened and the diagnostic log is read;
  * the inputs are described, and then the outputs, each by ascending numbers, up to
    and with the first number that has no description or fails;
  * each run is one call, with the session that was opened, and no other operation
    makes one;
  * the graph is closed last, once, when the session was opened with a graph other
    than 0, also when the descriptions could not be had.

The invariant behind it is small: no operation changes the session of a model
(`session_of_transition`).  It also means that an operation on a built model never
finds the session missing (`answer_initialized`).
-/

namespace ModelAdapter.Hexagon

/-! ## §1. The protocol -/

/-- What is exchanged to get a session and its diagnostic log. -/
def opening (debugLevel : Int32) (opened : Opened) (read : Except Int32 Unit × List UInt8) :
    List (Exchange interface) :=
  [⟨Call.init debugLevel, (.ok opened : Except InitFailure Opened)⟩,
    ⟨Call.readLog opened.session.graph logCapacity, read⟩]

/-- What is exchanged to get the descriptions, and whether all of them were had. -/
inductive Discovery : (known : Bool) → List (Exchange interface) → Prop
  | noInputs {fault : Fault} {xs : List (Exchange interface)}
      (inputs : Scanned inputQuestion specLimit 0 (.error fault) xs) : Discovery false xs
  | noOutputs {specs : List TensorSpec} {fault : Fault} {xs ys : List (Exchange interface)}
      (inputs : Scanned inputQuestion specLimit 0 (.ok specs) xs)
      (outputs : Scanned outputQuestion specLimit 0 (.error fault) ys) :
      Discovery false (xs ++ ys)
  | known {specs specs' : List TensorSpec} {xs ys : List (Exchange interface)}
      (inputs : Scanned inputQuestion specLimit 0 (.ok specs) xs)
      (outputs : Scanned outputQuestion specLimit 0 (.ok specs') ys) : Discovery true (xs ++ ys)

/-- A run is one call with the session, and any other operation makes no call. -/
def Executes (session : Session) (s : Step interface) : Prop :=
  if s.isRun then
    ∃ (memory : Memory) (reply : Except Int32 Unit × Memory),
      s.exchanges = [⟨Call.exec session memory, reply⟩]
  else s.exchanges = []

/-- What is exchanged in a whole session, with whether a model was built and the operations that
were carried out on it. -/
inductive SessionProtocol (debugLevel : Int32) :
    (built : Bool) → List (Step interface) → List (Exchange interface) → Prop
  /-- A session that cannot be opened only has its log read. -/
  | refused (failure : InitFailure) (read : Except Int32 Unit × List UInt8) :
      SessionProtocol debugLevel false []
        [⟨Call.init debugLevel, (.error failure : Except InitFailure Opened)⟩,
          ⟨Call.readLog failure.graph logCapacity, read⟩]
  /-- A session without all descriptions is closed at once. -/
  | undescribed (opened : Opened) (read : Except Int32 Unit × List UInt8)
      {xs : List (Exchange interface)} (discovery : Discovery false xs) :
      SessionProtocol debugLevel false []
        (opening debugLevel opened read ++ xs ++ closing opened.session.graph)
  /-- A session with a model is closed after the operations. -/
  | served (opened : Opened) (read : Except Int32 Unit × List UInt8)
      {xs : List (Exchange interface)} (discovery : Discovery true xs)
      {steps : List (Step interface)} (executes : ∀ s ∈ steps, Executes opened.session s) :
      SessionProtocol debugLevel true steps
        (opening debugLevel opened read ++ xs ++ steps.flatMap (·.exchanges)
          ++ closing opened.session.graph)

/-! ## §2. The session stays -/

section
variable {m m' : Model} {session : Session}

/-- **One operation** leaves the session as it is, and makes a call only if it is a run. -/
theorem session_of_transition {s : Step interface} (hlive : m.session = some session)
    (h : Transition m s.operation s.exchanges s.outcome m') :
    m'.session = some session ∧ Executes session s := by
  have hkept : m'.session = m.session := by
    obtain ⟨memory, rfl⟩ := memory_only h
    rfl
  refine ⟨hkept.trans hlive, ?_⟩
  obtain ⟨operation, outcome, exchanges⟩ := s
  -- Only a run puts a call, and it puts it to the session that is open.
  cases h with
  | asked | setInput | setInputFloats | setNumThreads | useCpuAffinity => exact rfl
  | run hruns =>
    cases hruns with
    | unopened hclosed => cases hlive.symm.trans hclosed
    | executed hlive' status memory =>
      cases hlive.symm.trans hlive'
      exact ⟨m.memory, (status, memory), rfl⟩

/-- **A run** does so too. -/
theorem session_of_reaches {steps : List (Step interface)} (hlive : m.session = some session)
    (h : Reaches Transition m steps m') :
    m'.session = some session ∧ ∀ s ∈ steps, Executes session s := by
  -- On the operations; each starts from the session that the one before it left.
  induction h with
  | start => exact ⟨hlive, by simp⟩
  | @step steps m₁ m₂ last _ hlast ih =>
    obtain ⟨hlive₁, hsteps⟩ := ih
    obtain ⟨hlive₂, hexecutes⟩ := session_of_transition hlive₁ hlast
    refine ⟨hlive₂, ?_⟩
    intro s hs
    rcases List.mem_append.mp hs with hbefore | hs
    · exact hsteps s hbefore
    · rw [List.mem_singleton.mp hs]
      exact hexecutes

end

/-! ## §3. The session is there -/

/-- The fault of an operation that needs a session when there is none. -/
def uninitialized : Fault := .precondition "Hexagon session is not initialized"

/-- Something that does not fail for want of a session. -/
def Initialized {α : Type} (r : Except Fault α) : Prop := r ≠ .error uninitialized

namespace Initialized

variable {α β : Type}

theorem ok (a : α) : Initialized (.ok a) := by
  simp [Initialized]

theorem bind {x : Except Fault α} {f : α → Except Fault β} (hx : Initialized x)
    (hf : ∀ a, Initialized (f a)) : Initialized (x >>= f) := by
  cases x with
  | error fault =>
    intro h
    cases h
    exact hx rfl
  | ok a => exact hf a

theorem map {x : Except Fault α} (hx : Initialized x) (f : α → β) : Initialized (x.map f) := by
  cases x with
  | error fault =>
    intro h
    cases h
    exact hx rfl
  | ok a => exact ok (f a)

theorem inputSpec (m : Model) (index : Nat) : Initialized (m.inputSpec index) := by
  unfold Model.inputSpec
  split <;> simp [Initialized, uninitialized]

theorem outputSpec (m : Model) (index : Nat) : Initialized (m.outputSpec index) := by
  unfold Model.outputSpec
  split <;> simp [Initialized, uninitialized]

theorem inputIndex (m : Model) (name : String) : Initialized (m.inputIndex name) := by
  unfold Model.inputIndex
  split <;> simp [Initialized, uninitialized]

theorem checkShape (spec : TensorSpec) (shape : List Int) :
    Initialized (checkShape spec shape) := by
  unfold Hexagon.checkShape
  split
  · simp [Initialized, uninitialized]
  · split <;> simp [Initialized, uninitialized]

theorem checkLength (needed actual : Nat) : Initialized (checkLength needed actual) := by
  unfold Hexagon.checkLength
  split <;> simp [Initialized, uninitialized]

/-- A missing buffer is another complaint than a missing session. -/
theorem present (buffer : Option Address) : Initialized (present buffer) := by
  unfold Hexagon.present
  split <;> simp [Initialized, uninitialized]

theorem liveSession {m : Model} {session : Session} (hlive : m.session = some session) :
    Initialized m.liveSession := by
  unfold Model.liveSession
  rw [hlive]
  exact ok session

/-- The complaint about an unknown size is another one. -/
theorem readFloats {index : Nat} {size : Except Fault Int}
    {read : Nat → Except Fault (List UInt8)} (hsize : Initialized size)
    (hread : ∀ n, Initialized (read n)) :
    Initialized (readFloats index size read) := by
  apply hsize.bind
  intro n
  by_cases hneg : n < 0
  · simp only [hneg, if_true]
    intro h
    injection h with h
    injection h with htext
    -- The two texts differ in their first character.
    have hchars := congrArg String.toList htext
    rw [String.toList_append, String.toList_append, String.toList_append] at hchars
    have hhead := congrArg List.head? hchars
    simp at hhead
  · simp only [hneg, if_false]
    apply (hread _).bind
    intro bytes
    exact ok _

end Initialized

section
variable {m : Model} {session : Session}

theorem tensorBytes_initialized (hlive : m.session = some session) (spec : TensorSpec)
    (source : Session → Option Address) (length : Nat) :
    Initialized (m.tensorBytes spec source length) := by
  apply (Initialized.checkLength _ _).bind
  intro _
  apply (Initialized.liveSession hlive).bind
  intro session
  apply (Initialized.present _).bind
  intro address
  exact .ok _

theorem outputBytes_initialized (hlive : m.session = some session) (index length : Nat) :
    Initialized (m.outputBytes index length) := by
  apply (Initialized.outputSpec m index).bind
  intro spec
  exact tensorBytes_initialized hlive spec _ length

theorem namedInput_initialized (m : Model) (name : String) : Initialized (m.namedInput name) := by
  apply (Initialized.inputIndex m name).bind
  intro index
  exact .inputSpec m index

/-- What is copied out was found if what was read was. -/
theorem filled_copyOut_initialized {read : Except Fault (List UInt8)} (h : Initialized read)
    (buffer : List UInt8) : Initialized (Outcome.filled (copyOut read buffer)).result := by
  cases read with
  | error fault =>
    intro hfault
    cases hfault
    exact h rfl
  | ok bytes => exact .ok _

theorem store_initialized (hlive : m.session = some session) (name : String) (shape : List Int)
    (bytes : List UInt8) : Initialized (m.store name shape bytes).1.result := by
  -- Of the five steps only the one for the session could fail for want of it.
  have hset : Initialized (m.setInput name shape bytes) := by
    apply (namedInput_initialized m name).bind
    intro spec
    apply (Initialized.checkShape _ _).bind
    intro _
    apply (Initialized.checkLength _ _).bind
    intro _
    apply (Initialized.liveSession hlive).bind
    intro session
    apply (Initialized.present _).bind
    intro address
    exact .ok _
  unfold Model.store
  cases hresult : m.setInput name shape bytes with
  | error fault =>
    rw [hresult] at hset
    intro h
    cases h
    exact hset rfl
  | ok next => exact .ok _

theorem answer_initialized (hlive : m.session = some session) (query : Query) :
    Initialized (m.answer query).result := by
  cases query with
  | backend | device | numInputs | numOutputs | numWeights => exact .ok _
  | inputType | outputType | weightNames | weightName =>
    simp [Model.answer, Initialized, uninitialized]
  | inputName i =>
    apply Initialized.map
    apply (Initialized.inputSpec m i).bind
    intro spec
    exact .ok _
  | inputShape i | inputSize i | inputDim i => exact (Initialized.inputSpec m i).map _
  | inputIndex name => exact (Initialized.inputIndex m name).map _
  | outputShape i | outputDim i => exact (Initialized.outputSpec m i).map _
  | outputSize i => exact ((Initialized.outputSpec m i).map _).map _
  -- What reads a buffer needs the session, which is there.
  | getInput name buffer =>
    apply filled_copyOut_initialized
    apply (namedInput_initialized m name).bind
    intro spec
    exact tensorBytes_initialized hlive spec _ _
  | getOutput i buffer =>
    exact filled_copyOut_initialized (outputBytes_initialized hlive i _) buffer
  | getOutputFloats i =>
    apply Initialized.map
    apply Initialized.readFloats ((Initialized.outputSpec m i).map _)
    exact outputBytes_initialized hlive i

/-- No operation on a model with a session fails for want of one. -/
theorem outcome_initialized {m' : Model} {operation : Operation} {xs : List (Exchange interface)}
    {outcome : Outcome} (hlive : m.session = some session)
    (h : Transition m operation xs outcome m') : Initialized outcome.result := by
  cases h with
  | asked query => exact answer_initialized hlive query
  | setInput | setInputFloats => exact store_initialized hlive _ _ _
  | setNumThreads | useCpuAffinity => simp [Initialized, uninitialized]
  | run hruns =>
    cases hruns with
    | unopened hclosed => cases hlive.symm.trans hclosed
    | executed _ status memory =>
      apply Initialized.map
      cases status <;> simp [Except.mapError, Initialized, uninitialized]

end

/-! ## §4. Whole sessions -/

/-- Discovery leaves the session as it is, and succeeds with all descriptions. -/
theorem discovery_of_discovers {m m' : Model} {xs : List (Exchange interface)}
    {result : Except Report Unit} (h : Discovers m xs result m') :
    Discovery result.isOk xs ∧ m'.session = m.session := by
  cases h with
  | noInputs hinputs => exact ⟨.noInputs hinputs, rfl⟩
  | noOutputs hinputs houtputs => exact ⟨.noOutputs hinputs houtputs, rfl⟩
  | discovered hinputs houtputs => exact ⟨.known hinputs houtputs, rfl⟩

/-- A model that cannot be built keeps the protocol. -/
theorem protocol_of_unbuilt {artifact : Artifact} {device : Device} {debugLevel : Int32}
    {report : Report} {xs : List (Exchange interface)}
    (h : Building artifact device debugLevel (.error report) xs) :
    SessionProtocol debugLevel false [] xs := by
  cases h with
  | refused hopens =>
    cases hopens with
    | refused failure read => exact .refused failure read
  | undescribed hopens hdiscovers =>
    cases hopens with
    | opened session memory read =>
      -- Whatever was discovered, the session to close is the one that was opened.
      obtain ⟨hdiscovery, hsession⟩ := discovery_of_discovers hdiscovers
      rw [Model.closing, hsession, ← List.append_assoc]
      exact .undescribed ⟨session, memory⟩ read hdiscovery

/-- A new model has the session that was opened. -/
theorem session_of_building {artifact : Artifact} {device : Device} {debugLevel : Int32}
    {m : Model} {xs : List (Exchange interface)}
    (h : Building artifact device debugLevel (.ok m) xs) :
    ∃ opened read ys, xs = opening debugLevel opened read ++ ys ∧ Discovery true ys ∧
      m.session = some opened.session := by
  cases h with
  | ready hopens hdiscovers =>
    cases hopens with
    | opened session memory read =>
      obtain ⟨hdiscovery, hsession⟩ := discovery_of_discovers hdiscovers
      exact ⟨⟨session, memory⟩, read, _, rfl, hdiscovery, hsession⟩

/-- **Sessions are opened and closed once.**  Whatever the engine replies and whatever the
operations are, the exchanges of a session keep the protocol, with all operations carried out if a
model was built, and none of them fails for want of a session. -/
theorem life_keeps_sessionProtocol {σ : Type} (E : Engine interface σ) (engine : σ)
    (artifact : Artifact) (device : Device) (debugLevel : Int32) (operations : List Operation) :
    let (l, w) := (lifecycle artifact device debugLevel).life operations E (.start engine)
    SessionProtocol debugLevel l.model.isOk l.steps w.exchanges ∧
      (l.model.isOk = true → l.steps.map (·.operation) = operations) ∧
      ∀ s ∈ l.steps, s.outcome.result
        ≠ .error (.precondition "Hexagon session is not initialized") := by
  have h := life_lived E engine artifact device debugLevel operations
  generalize (lifecycle artifact device debugLevel).life operations E (.start engine) = r at h ⊢
  obtain ⟨l, w⟩ := r
  obtain ⟨hw, hlived⟩ := h
  refine ⟨?_, ?_, ?_⟩
  · rw [hw]
    cases hlived with
    | unbuilt hbuilding =>
      simp only [Life.exchanges, List.flatMap_nil, List.append_nil]
      exact protocol_of_unbuilt hbuilding
    | built hbuilding hrun _ hclosed =>
      obtain ⟨opened, read, xs, rfl, hdiscovery, hlive⟩ := session_of_building hbuilding
      obtain ⟨hlive', hexecutes⟩ := session_of_reaches hlive hrun
      rw [Model.closing, hlive'] at hclosed
      subst hclosed
      exact .served opened read hdiscovery hexecutes
  · intro hbuilt
    cases hlived with
    | unbuilt => cases hbuilt
    | built _ _ hcomplete _ => exact hcomplete
  · intro s hs
    obtain ⟨before, after, hcut⟩ := List.append_of_mem hs
    obtain ⟨m₀, m, m', hbuilding, hbefore, hlast⟩ := hlived.at_step hcut
    -- The operation was carried out on a model that has kept the session it was built with.
    obtain ⟨opened, _, _, -, -, hlive⟩ := session_of_building hbuilding
    obtain ⟨hlive', -⟩ := session_of_reaches hlive hbefore
    exact outcome_initialized hlive' hlast

end ModelAdapter.Hexagon
