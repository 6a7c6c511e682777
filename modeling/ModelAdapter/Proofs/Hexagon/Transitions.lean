import ModelAdapter.Hexagon.Model
import ModelAdapter.Proofs.Session

/-! # What models of the DSP engine can do

Each relation here says once, for every engine, what a part of the model can do:
which exchanges it has, and what comes out with which replies.

  * `Opens`: opening the session, with the diagnostic log.
  * `Scanned`, `Discovers`: asking for the descriptions of the tensors.
  * `Model.closing`: the last call, if there is one.
  * `Building`, `Runs`, `Transition`: building, and the operations.

The computations of the model satisfy them (`build_satisfies`,
`operate_satisfies`), so a session is a life in their sense (`life_lived`).
-/

namespace ModelAdapter.Hexagon

open Drive (Satisfies)

/-! ## §1. Relations -/

/-- Opening takes the call that opens the session and the call for the diagnostic log of the
graph that it named, whether it succeeded or not, and whatever comes of the log. -/
inductive Opens (m : Model) (debugLevel : Int32) :
    List (Exchange interface) → Except Report Unit → Model → Prop
  | opened (session : Session) (memory : Memory) (read : Except Int32 Unit × List UInt8) :
      Opens m debugLevel
        [⟨Call.init debugLevel, (.ok ⟨session, memory⟩ : Except InitFailure Opened)⟩,
          ⟨Call.readLog session.graph logCapacity, read⟩]
        (.ok ()) { m with session := some session, memory }
  | refused (failure : InitFailure) (read : Except Int32 Unit × List UInt8) :
      Opens m debugLevel
        [⟨Call.init debugLevel, (.error failure : Except InitFailure Opened)⟩,
          ⟨Call.readLog failure.graph logCapacity, read⟩]
        (.error ((Report.bare (.backendStatus "dlr_hexagon_model_init" failure.status)).note
          ("debug level " ++ toString debugLevel.toInt))) m

/-- One kind of question about the tensors: the exchange that it makes with a number and the
reply. -/
abbrev Question := Nat → Except Fault (Option TensorSpec) → Exchange interface

def inputQuestion : Question := fun id reply => ⟨Call.inputSpec id, reply⟩

def outputQuestion : Question := fun id reply => ⟨Call.outputSpec id, reply⟩

/-- Questions with ascending numbers, from `id` on, that were answered with some descriptions. -/
def described (question : Question) : (id : Nat) → List TensorSpec → List (Exchange interface)
  | _, [] => []
  | id, spec :: rest => question id (.ok (some spec)) :: described question (id + 1) rest

/-- The questions go on, by ascending numbers from `id` on, up to and with the first one that fails
or has no description.  It is a failure, too, when all `ids` numbers have a description. -/
inductive Scanned (question : Question) (ids id : Nat) :
    Except Fault (List TensorSpec) → List (Exchange interface) → Prop
  | ended (specs : List TensorSpec) (left : specs.length < ids) :
      Scanned question ids id (.ok specs)
        (described question id specs ++ [question (id + specs.length) (.ok none)])
  | failed (specs : List TensorSpec) (fault : Fault) (left : specs.length < ids) :
      Scanned question ids id (.error fault)
        (described question id specs ++ [question (id + specs.length) (.error fault)])
  | exhausted (specs : List TensorSpec) (all : specs.length = ids) :
      Scanned question ids id (.error overflowed) (described question id specs)

/-- The inputs are asked for first, and only with all of them known the outputs. -/
inductive Discovers (m : Model) :
    List (Exchange interface) → Except Report Unit → Model → Prop
  | noInputs {fault : Fault} {xs : List (Exchange interface)}
      (scanned : Scanned inputQuestion specLimit 0 (.error fault) xs) :
      Discovers m xs (.error ((Report.bare fault).note "discovering input tensor specs")) m
  | noOutputs {inputs : List TensorSpec} {fault : Fault} {xs ys : List (Exchange interface)}
      (scannedInputs : Scanned inputQuestion specLimit 0 (.ok inputs) xs)
      (scannedOutputs : Scanned outputQuestion specLimit 0 (.error fault) ys) :
      Discovers m (xs ++ ys)
        (.error ((Report.bare fault).note "discovering output tensor specs"))
        { m with inputs, inputNames := inputs.map (·.name) }
  | discovered {inputs outputs : List TensorSpec} {xs ys : List (Exchange interface)}
      (scannedInputs : Scanned inputQuestion specLimit 0 (.ok inputs) xs)
      (scannedOutputs : Scanned outputQuestion specLimit 0 (.ok outputs) ys) :
      Discovers m (xs ++ ys) (.ok ())
        { m with inputs, inputNames := inputs.map (·.name), outputs }

/-- What is exchanged for a graph at the end: a graph of 0 is not closed. -/
def closing (graph : Int32) : List (Exchange interface) :=
  if graph ≠ 0 then [⟨Call.close graph, ()⟩] else []

/-- What is exchanged when a model is given up. -/
def Model.closing (m : Model) : List (Exchange interface) :=
  match m.session with
  | some session => Hexagon.closing session.graph
  | none => []

/-- Building opens the session and asks for the descriptions; a model that is not finished is
given up. -/
inductive Building (artifact : Artifact) (device : Device) (debugLevel : Int32) :
    Except Report Model → List (Exchange interface) → Prop
  | refused {m : Model} {report : Report} {xs : List (Exchange interface)}
      (opens : Opens (.unopened artifact device) debugLevel xs (.error report) m) :
      Building artifact device debugLevel (.error report) (xs ++ m.closing)
  | undescribed {m m' : Model} {report : Report} {xs ys : List (Exchange interface)}
      (opens : Opens (.unopened artifact device) debugLevel xs (.ok ()) m)
      (discovers : Discovers m ys (.error report) m') :
      Building artifact device debugLevel (.error report) (xs ++ (ys ++ m'.closing))
  | ready {m m' : Model} {xs ys : List (Exchange interface)}
      (opens : Opens (.unopened artifact device) debugLevel xs (.ok ()) m)
      (discovers : Discovers m ys (.ok ()) m') :
      Building artifact device debugLevel (.ok m') (xs ++ ys)

/-- A run needs a session, and makes one call.  The memory is kept as the engine left it also
when the call failed. -/
inductive Runs (m : Model) : List (Exchange interface) → Except Fault Unit → Model → Prop
  | unopened (closed : m.session = none) :
      Runs m [] (.error (.precondition "Hexagon session is not initialized")) m
  | executed {session : Session} (live : m.session = some session) (status : Except Int32 Unit)
      (memory : Memory) :
      Runs m [⟨Call.exec session m.memory, ((status, memory) : Except Int32 Unit × Memory)⟩]
        (status.mapError (.backendStatus "dlr_hexagon_model_exec")) { m with memory }

/-- What a single operation can do. -/
inductive Transition (m : Model) :
    Operation → List (Exchange interface) → Outcome → Model → Prop
  | asked (query : Query) : Transition m (.ask query) [] (m.answer query) m
  | setInput (name : String) (shape : List Int) (bytes : List UInt8) :
      Transition m (.setInput name shape bytes) [] (m.store name shape bytes).1
        (m.store name shape bytes).2
  | setInputFloats (name : String) (shape : List Int) (values : List Binary32) :
      Transition m (.setInputFloats name shape values) []
        (m.store name shape (Binary32.encode values)).1
        (m.store name shape (Binary32.encode values)).2
  | run {xs : List (Exchange interface)} {result : Except Fault Unit} {m' : Model}
      (runs : Runs m xs result m') : Transition m .run xs (.plain (result.map (fun _ => .done))) m'
  | setNumThreads (threads : Int32) :
      Transition m (.setNumThreads threads) [] (.error (.unsupported "SetNumThreads" .hexagon)) m
  | useCpuAffinity (enabled : Bool) :
      Transition m (.useCpuAffinity enabled) []
        (.error (.unsupported "UseCPUAffinity" .hexagon)) m

/-! ## §2. The computations satisfy them -/

section
variable {σ : Type}

/-- Whatever comes of the log, it took one call. -/
theorem drainLog_satisfies (graph : Int32) :
    (drainLog (σ := σ) graph).Satisfies
      (fun _ xs => ∃ read, xs = [⟨Call.readLog graph logCapacity, read⟩]) := by
  apply Satisfies.ask_bind
  intro reply
  rcases reply with ⟨status | ⟨⟩, written⟩
  · exact .pure ⟨_, rfl⟩
  · -- What was read is at most an event, and an event is no exchange.
    cases htext : logText written with
    | nil =>
      simp only [htext]
      exact .pure ⟨_, rfl⟩
    | cons byte rest =>
      simp only [htext]
      exact .log ⟨_, rfl⟩

/-- A description, and then the questions that follow it. -/
theorem Scanned.cons {question : Question} {ids id : Nat}
    {result : Except Fault (List TensorSpec)} {xs : List (Exchange interface)}
    (h : Scanned question ids (id + 1) result xs) (spec : TensorSpec) :
    Scanned question (ids + 1) id (result.map (spec :: ·))
      (question id (.ok (some spec)) :: xs) := by
  -- The numbers after the first one are as many fewer.
  have hnext (specs : List TensorSpec) : id + 1 + specs.length = id + (spec :: specs).length := by
    rw [List.length_cons]
    omega
  cases h with
  | ended specs hleft =>
    rw [hnext specs]
    exact .ended (spec :: specs) (Nat.succ_lt_succ hleft)
  | failed specs fault hleft =>
    rw [hnext specs]
    exact .failed (spec :: specs) fault (Nat.succ_lt_succ hleft)
  | exhausted specs hall => exact .exhausted (spec :: specs) (congrArg Nat.succ hall)

/-- The questions are asked one after the other. -/
theorem collect_satisfies (question : Question)
    {query : Nat → Drive interface σ (Except Fault (Option TensorSpec))}
    (hquery : ∀ id, (query id).Satisfies (fun reply xs => xs = [question id reply])) :
    ∀ ids id, (collect query ids id).Satisfies (Scanned question ids id) := by
  intro ids
  -- On how many numbers are left; the number asked for next goes up along with it.
  induction ids with
  | zero =>
    intro id
    exact .pure (.exhausted [] rfl)
  | succ ids ih =>
    intro id
    apply (hquery id).bind
    intro reply xs hxs
    subst hxs
    rcases reply with fault | spec | spec
    · exact .pure (.failed [] fault (Nat.succ_pos ids))
    · exact .pure (.ended [] (Nat.succ_pos ids))
    · apply (ih (id + 1)).bind
      intro rest ys hrest
      refine .pure ?_
      rw [List.append_nil]
      exact hrest.cons spec

theorem collectInputs_satisfies :
    (collectInputs (σ := σ)).Satisfies (Scanned inputQuestion specLimit 0) := by
  apply collect_satisfies inputQuestion
  intro id
  apply Satisfies.ask
  intro reply
  rfl

theorem collectOutputs_satisfies :
    (collectOutputs (σ := σ)).Satisfies (Scanned outputQuestion specLimit 0) := by
  apply collect_satisfies outputQuestion
  intro id
  apply Satisfies.ask
  intro reply
  rfl

theorem openSession_satisfies (m : Model) (debugLevel : Int32) :
    (m.openSession (σ := σ) debugLevel).Satisfies (fun r xs => Opens m debugLevel xs r.1 r.2) := by
  apply Satisfies.ask_bind
  intro opening
  rcases opening with failure | ⟨session, memory⟩
  · apply (drainLog_satisfies failure.graph).bind
    intro _ xs hxs
    obtain ⟨read, rfl⟩ := hxs
    exact .pure (.refused failure read)
  · apply (drainLog_satisfies session.graph).bind
    intro _ xs hxs
    obtain ⟨read, rfl⟩ := hxs
    exact .pure (.opened session memory read)

theorem discover_satisfies (m : Model) :
    (m.discover (σ := σ)).Satisfies (fun r xs => Discovers m xs r.1 r.2) := by
  -- The outputs are asked for when the inputs are known.
  apply collectInputs_satisfies.bind
  intro scanned xs hinputs
  rcases scanned with fault | inputs
  · refine .pure ?_
    rw [List.append_nil]
    exact .noInputs hinputs
  · apply collectOutputs_satisfies.bind
    intro scanned ys houtputs
    rcases scanned with fault | outputs
    · refine .pure ?_
      rw [List.append_nil]
      exact .noOutputs hinputs houtputs
    · refine .pure ?_
      rw [List.append_nil]
      exact .discovered hinputs houtputs

theorem drop_satisfies (m : Model) :
    (m.drop (σ := σ)).Satisfies (fun _ xs => xs = m.closing) := by
  unfold Model.drop Model.closing
  cases m.session with
  | none => exact .log rfl
  | some session =>
    by_cases hgraph : session.graph ≠ 0
    · simp only [closing, if_pos hgraph]
      apply Satisfies.ask_bind
      intro _
      exact .log rfl
    · simp only [closing, if_neg hgraph]
      exact .log rfl

theorem build_satisfies (artifact : Artifact) (device : Device) (debugLevel : Int32) :
    (build (σ := σ) artifact device debugLevel).Satisfies
      (Building artifact device debugLevel) := by
  -- Each part may end the building, and what it has opened is closed then.
  apply (openSession_satisfies _ debugLevel).bind
  intro r xs hopens
  rcases r with ⟨report | ⟨⟩, m⟩
  · apply (drop_satisfies m).bind
    intro _ ys hys
    subst hys
    refine .pure ?_
    rw [List.append_nil]
    exact .refused hopens
  · apply (discover_satisfies m).bind
    intro r ys hdiscovers
    rcases r with ⟨report | ⟨⟩, m'⟩
    · -- The half-built model has its session already.
      apply (drop_satisfies m').bind
      intro _ zs hzs
      subst hzs
      refine .pure ?_
      rw [List.append_nil]
      exact .undescribed hopens hdiscovers
    · apply Satisfies.log_bind
      refine .pure ?_
      rw [List.append_nil]
      exact .ready hopens hdiscovers

theorem run_satisfies (m : Model) :
    (m.run (σ := σ)).Satisfies (fun r xs => Runs m xs r.1 r.2) := by
  obtain ⟨device, artifact, session, memory, inputs, inputNames, outputs⟩ := m
  cases session with
  | none => exact .pure (.unopened rfl)
  | some session =>
    apply Satisfies.ask_bind
    intro reply
    obtain ⟨status, memory⟩ := reply
    exact .pure (.executed rfl status memory)

theorem operate_satisfies (m : Model) (operation : Operation) :
    (m.operate (σ := σ) operation).Satisfies (fun r xs => Transition m operation xs r.1 r.2) := by
  cases operation with
  | ask query => exact .pure (.asked query)
  | setInput name shape bytes => exact .pure (.setInput name shape bytes)
  | setInputFloats name shape values => exact .pure (.setInputFloats name shape values)
  | run =>
    apply (run_satisfies m).bind
    intro r xs hruns
    refine .pure ?_
    rw [List.append_nil]
    exact .run hruns
  | setNumThreads threads => exact .pure (.setNumThreads threads)
  | useCpuAffinity enabled => exact .pure (.useCpuAffinity enabled)

end

/-! ## §3. Three kinds of operations

For the model, an operation is one that sets an input, or a run, or one that changes nothing. -/

section
variable {m m' : Model} {s : Step interface} {name : String} {shape : List Int} {bytes : List UInt8}

/-- Storing an input brings the model in which it is set, or keeps the model. -/
theorem setInput_of_store {answer : Answer} (h : (m.store name shape bytes).1.result = .ok answer) :
    m.setInput name shape bytes = .ok (m.store name shape bytes).2 := by
  unfold Model.store at h ⊢
  cases hset : m.setInput name shape bytes with
  | ok next => rfl
  | error fault =>
    rw [hset] at h
    cases h

theorem store_of_fault {fault : Fault} (h : (m.store name shape bytes).1.result = .error fault) :
    (m.store name shape bytes).2 = m := by
  unfold Model.store at h ⊢
  cases hset : m.setInput name shape bytes with
  | ok next =>
    rw [hset] at h
    cases h
  | error fault => rfl

theorem checkLength_inv {needed actual : Nat} {result : Unit}
    (h : checkLength needed actual = .ok result) : needed ≤ actual := by
  by_contra hshort
  simp [checkLength, Nat.not_le.mp hshort] at h

theorem present_inv {buffer : Option Address} {address : Address}
    (h : present buffer = .ok address) : buffer = some address := by
  unfold present at h
  split at h
  · rw [Except.ok.inj h]
  · cases h

theorem liveSession_inv {session : Session} (h : m.liveSession = .ok session) :
    m.session = some session := by
  unfold Model.liveSession at h
  split at h
  case h_1 session' hlive =>
    rw [hlive, Except.ok.inj h]
  case h_2 => cases h

/-- An input that was set was described, and enough bytes were handed over; it is then written to
the buffer that the session names. -/
theorem setInput_inv {name : String} {shape : List Int} {bytes : List UInt8}
    (h : m.setInput name shape bytes = .ok m') :
    ∃ spec session address, m.namedInput name = .ok spec ∧ spec.bytes ≤ bytes.length ∧
      m.session = some session ∧ session.input = some address ∧
      m' = { m with memory := m.memory.write address (bytes.take spec.bytes) } := by
  obtain ⟨spec, hspec, h⟩ := exists_of_bind_eq_ok h
  obtain ⟨_, -, h⟩ := exists_of_bind_eq_ok h
  obtain ⟨_, hlength, h⟩ := exists_of_bind_eq_ok h
  obtain ⟨session, hsession, h⟩ := exists_of_bind_eq_ok h
  obtain ⟨address, haddress, h⟩ := exists_of_bind_eq_ok h
  exact ⟨spec, session, address, hspec, checkLength_inv hlength, liveSession_inv hsession,
    present_inv haddress, (Except.ok.inj h).symm⟩

/-- An operation that sets an input hands over what the model takes, and makes no call. -/
theorem setsInput_inv (h : Transition m s.operation s.exchanges s.outcome m')
    (hsets : s.setsInput = true) :
    ∃ payload, s.operation.payload? = some payload ∧ s.exchanges = [] ∧
      m.setInput payload.name payload.shape payload.bytes = .ok m' := by
  obtain ⟨operation, outcome, exchanges⟩ := s
  -- Only these two set an input, and only when they succeed.
  cases h with
  | setInput name shape bytes =>
    cases hstored : (m.store name shape bytes).1.result with
    | ok answer => exact ⟨_, rfl, rfl, setInput_of_store hstored⟩
    | error fault => simp [Step.setsInput, hstored] at hsets
  | setInputFloats name shape values =>
    cases hstored : (m.store name shape (Binary32.encode values)).1.result with
    | ok answer => exact ⟨_, rfl, rfl, setInput_of_store hstored⟩
    | error fault => simp [Step.setsInput, hstored] at hsets
  | asked | run | setNumThreads | useCpuAffinity => cases hsets

theorem isRun_inv (h : Transition m s.operation s.exchanges s.outcome m')
    (hrun : s.isRun = true) :
    ∃ result, s.outcome = .plain (result.map (fun _ => .done)) ∧ Runs m s.exchanges result m' := by
  obtain ⟨operation, outcome, exchanges⟩ := s
  cases h with
  | run hruns => exact ⟨_, rfl, hruns⟩
  | asked | setInput | setInputFloats | setNumThreads | useCpuAffinity => cases hrun

/-- Any other operation leaves the model as it was. -/
theorem eq_of_other (h : Transition m s.operation s.exchanges s.outcome m')
    (hsets : s.setsInput = false) (hrun : s.isRun = false) : m' = m := by
  obtain ⟨operation, outcome, exchanges⟩ := s
  cases h with
  | asked | setNumThreads | useCpuAffinity => rfl
  | setInput name shape bytes =>
    cases hstored : (m.store name shape bytes).1.result with
    | ok answer => simp [Step.setsInput, hstored] at hsets
    | error fault => exact store_of_fault hstored
  | setInputFloats name shape values =>
    cases hstored : (m.store name shape (Binary32.encode values)).1.result with
    | ok answer => simp [Step.setsInput, hstored] at hsets
    | error fault => exact store_of_fault hstored
  | run => cases hrun

theorem answer_of_asked {query : Query} (h : Transition m s.operation s.exchanges s.outcome m')
    (hasked : s.operation = .ask query) : s.outcome = m.answer query := by
  obtain ⟨operation, outcome, exchanges⟩ := s
  cases hasked
  cases h
  rfl

/-- **One operation** changes nothing but the memory. -/
theorem memory_only (h : Transition m s.operation s.exchanges s.outcome m') :
    ∃ memory, m' = { m with memory } := by
  cases hsets : s.setsInput with
  | true =>
    obtain ⟨_, -, -, hset⟩ := setsInput_inv h hsets
    obtain ⟨_, _, _, -, -, -, -, hm'⟩ := setInput_inv hset
    exact ⟨_, hm'⟩
  | false =>
    cases hrun : s.isRun with
    | true =>
      obtain ⟨_, -, hruns⟩ := isRun_inv h hrun
      generalize s.exchanges = xs at hruns
      cases hruns with
      | unopened => exact ⟨m.memory, rfl⟩
      | executed _ _ memory => exact ⟨memory, rfl⟩
    | false => exact ⟨m.memory, eq_of_other h hsets hrun⟩

/-- **A run** of operations changes nothing but the memory. -/
theorem memory_only_of_reaches {steps : List (Step interface)}
    (h : Reaches Transition m steps m') : ∃ memory, m' = { m with memory } := by
  induction h with
  | start => exact ⟨m.memory, rfl⟩
  | step _ hlast ih =>
    obtain ⟨_, rfl⟩ := ih
    obtain ⟨memory, rfl⟩ := memory_only hlast
    exact ⟨memory, rfl⟩

end

/-! ## §4. Lives -/

/-- How models are built, used and dropped. -/
def lifecycle {σ : Type} (artifact : Artifact) (device : Device) (debugLevel : Int32) :
    Lifecycle interface σ Model where
  build := build artifact device debugLevel
  operate := Model.operate
  drop := Model.drop

/-- The lives that models can have. -/
abbrev LivedModel (artifact : Artifact) (device : Device) (debugLevel : Int32)
    (operations : List Operation) : Life interface Model → Prop :=
  Lived (Building artifact device debugLevel) Transition (fun m xs => xs = m.closing) operations

/-- A session, whatever the engine is and whatever operations there are, goes as the relations
say. -/
theorem life_lived {σ : Type} (E : Engine interface σ) (engine : σ) (artifact : Artifact)
    (device : Device) (debugLevel : Int32) (operations : List Operation) :
    let (l, w) := (lifecycle artifact device debugLevel).life operations E (.start engine)
    w.exchanges = l.exchanges ∧ LivedModel artifact device debugLevel operations l := by
  obtain ⟨xs, hxs, hl, hlived⟩ := Lifecycle.life_satisfies
    (L := lifecycle artifact device debugLevel) (build_satisfies artifact device debugLevel)
    operate_satisfies drop_satisfies operations E (.start engine)
  exact ⟨hxs.trans hl.symm, hlived⟩

end ModelAdapter.Hexagon
