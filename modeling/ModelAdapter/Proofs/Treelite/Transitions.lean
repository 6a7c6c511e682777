import ModelAdapter.Proofs.Session
import ModelAdapter.Treelite.Model

/-! # What models of the tree-ensemble engine can do

Each relation here says once, for every engine, what a part of the model can do:
which exchanges it has, and what comes out with which replies.

  * `Released`, `Closed`: giving up an input, and giving up a model.
  * `Queried`, `Building`: asking for the schema, and building.
  * `SetsInput`, `Runs`, `Transition`: the operations.

The computations of the model satisfy them (`build_satisfies`,
`operate_satisfies`), so a session is a life in their sense (`life_lived`), and
what is proved of sessions needs nothing else of the computations.
-/

namespace ModelAdapter.Treelite

open Drive (Satisfies)

/-! ## §1. Relations -/

/-- An input is given up by one deletion of its batch, granted or not. -/
inductive Released : Option Input → List (Exchange interface) → Prop
  | nothing : Released none []
  | batch (input : Input) (reply : Except Fault Unit) :
      Released (some input) [⟨Call.delete input.batch, reply⟩]

/-- A model is given up by giving up its input and then freeing its predictor. -/
inductive Closed (input : Option Input) (predictor : Handle) : List (Exchange interface) → Prop
  | freed {xs : List (Exchange interface)} (released : Released input xs)
      (reply : Except Fault Unit) : Closed input predictor (xs ++ [⟨Call.free predictor, reply⟩])

/-- The throwaway prediction of one instance whose features are all zero. -/
def probe (predictor : Handle) (features groups : Nat) : Call :=
  .predictInst predictor (List.replicate features Entry.default) false
    (List.replicate groups Binary32.zero)

/-- The answers to the first two questions about a predictor. -/
def counted (predictor : Handle) (features groups : Nat) : List (Exchange interface) :=
  [⟨Call.numFeature predictor, (.ok features : Except Fault Nat)⟩,
    ⟨Call.numOutputGroup predictor, (.ok groups : Except Fault Nat)⟩]

/-- The schema of a predictor takes up to three questions; each can fail, and so can the check
that comes last. -/
inductive Queried (predictor : Handle) : Except Report Schema → List (Exchange interface) → Prop
  | noFeatures (fault : Fault) : Queried predictor (.error (.bare fault))
      [⟨Call.numFeature predictor, (.error fault : Except Fault Nat)⟩]
  | noGroups (features : Nat) (fault : Fault) : Queried predictor (.error (.bare fault))
      [⟨Call.numFeature predictor, (.ok features : Except Fault Nat)⟩,
        ⟨Call.numOutputGroup predictor, (.error fault : Except Fault Nat)⟩]
  | noWidth (features groups : Nat) (fault : Fault) :
      Queried predictor (.error ((Report.bare fault).note "probing output width"))
        (counted predictor features groups ++
          [⟨probe predictor features groups, (.error fault : Except Fault Nat)⟩])
  | tooWide (features groups width : Nat) (wide : groups < width) :
      Queried predictor (.error (.bare (.precondition ("output width " ++ toString width
          ++ " exceeds output group count " ++ toString groups))))
        (counted predictor features groups ++
          [⟨probe predictor features groups, (.ok width : Except Fault Nat)⟩])
  | known (features groups width : Nat) (fits : width ≤ groups) :
      Queried predictor (.ok ⟨features, groups, width⟩)
        (counted predictor features groups ++
          [⟨probe predictor features groups, (.ok width : Except Fault Nat)⟩])

/-- Building loads a predictor and asks for its schema; without a schema the predictor is freed
again. -/
inductive Building (artifact : Artifact) (device : Device) (threads : Int32) :
    Except Report Model → List (Exchange interface) → Prop
  | notLoaded (fault : Fault) :
      Building artifact device threads
        (.error ((Report.bare fault).note ("loading " ++ artifact.modelLib.display)))
        [⟨Call.load artifact.modelLib threads, (.error fault : Except Fault Handle)⟩]
  | notQueried {predictor : Handle} {report : Report} {xs ys : List (Exchange interface)}
      (queried : Queried predictor (.error report) xs) (closed : Closed none predictor ys) :
      Building artifact device threads (.error report)
        (⟨Call.load artifact.modelLib threads, (.ok predictor : Except Fault Handle)⟩
          :: (xs ++ ys))
  | ready {predictor : Handle} {schema : Schema} {xs : List (Exchange interface)}
      (queried : Queried predictor (.ok schema) xs) :
      Building artifact device threads
        (.ok { device, artifact, predictor, schema,
               input := none, output := [], outputReady := false })
        (⟨Call.load artifact.modelLib threads, (.ok predictor : Except Fault Handle)⟩ :: xs)

/-- Setting an input can be refused without a call, can fail in the one call that assembles
the batch, or replaces the input. -/
inductive SetsInput (m : Model) (shape : List Int) (bytes : List UInt8) :
    List (Exchange interface) → Except Fault Unit → Model → Prop
  | refused {fault : Fault} (unread : m.readMatrix shape bytes = .error fault) :
      SetsInput m shape bytes [] (.error fault) m
  | notAssembled {matrix : Csr} (read : m.readMatrix shape bytes = .ok matrix) (fault : Fault) :
      SetsInput m shape bytes
        [⟨Call.assemble matrix, (.error fault : Except Fault Handle)⟩] (.error fault) m
  | replaced {matrix : Csr} {xs : List (Exchange interface)}
      (read : m.readMatrix shape bytes = .ok matrix) (batch : Handle)
      (released : Released m.input xs) :
      SetsInput m shape bytes
        (⟨Call.assemble matrix, (.ok batch : Except Fault Handle)⟩ :: xs) (.ok ())
        { m with input := some { matrix, batch }, output := [], outputReady := false }

def Model.slots (m : Model) (input : Input) : List Binary32 :=
  resize m.output (wrap (input.matrix.numRow * m.schema.numOutputGroup)) Binary32.zero

/-- The call that a run makes. -/
def Model.prediction (m : Model) (input : Input) : Call :=
  .predictBatch m.predictor input.batch false false (m.slots input)

/-- A run needs an input, and makes one call.  The slots are kept as the engine left them also
when the call failed.  A success makes the output readable; a failure leaves it as readable as it
was. -/
inductive Runs (m : Model) : List (Exchange interface) → Except Fault Unit → Model → Prop
  | noInput (unset : m.input = none) : Runs m [] (.error .inputNotSet) m
  | predicted {input : Input} (set : m.input = some input) (result : Except Fault Nat)
      (left : List Binary32) :
      Runs m [⟨m.prediction input, ((result, left) : Except Fault Nat × List Binary32)⟩]
        (result.map (fun _ => ()))
        { m with output := overwrite (m.slots input) left
                 outputReady := m.outputReady || result.isOk }

/-- What a single operation can do. -/
inductive Transition (m : Model) :
    Operation → List (Exchange interface) → Outcome → Model → Prop
  | asked (query : Query) : Transition m (.ask query) [] (m.answer query) m
  | setInput {name : String} {shape : List Int} {bytes : List UInt8}
      {xs : List (Exchange interface)} {result : Except Fault Unit} {m' : Model}
      (sets : SetsInput m shape bytes xs result m') :
      Transition m (.setInput name shape bytes) xs (.plain (result.map (fun _ => .done))) m'
  | setInputFloats {name : String} {shape : List Int} {values : List Binary32}
      {xs : List (Exchange interface)} {result : Except Fault Unit} {m' : Model}
      (sets : SetsInput m shape (Binary32.encode values) xs result m') :
      Transition m (.setInputFloats name shape values) xs (.plain (result.map (fun _ => .done))) m'
  | run {xs : List (Exchange interface)} {result : Except Fault Unit} {m' : Model}
      (runs : Runs m xs result m') : Transition m .run xs (.plain (result.map (fun _ => .done))) m'
  | setNumThreads (threads : Int32) :
      Transition m (.setNumThreads threads) [] (.error (.unsupported "SetNumThreads" .treelite)) m
  | useCpuAffinity (enabled : Bool) :
      Transition m (.useCpuAffinity enabled) []
        (.error (.unsupported "UseCPUAffinity" .treelite)) m

/-! ## §2. The computations satisfy them -/

section
variable {σ : Type}

theorem release_satisfies (input : Option Input) :
    (release (σ := σ) input).Satisfies (fun _ xs => Released input xs) := by
  cases input with
  | none => exact .pure .nothing
  | some input =>
    apply Satisfies.ask_bind
    intro reply
    rcases reply with fault | done
    · exact .log (.batch input (.error fault))
    · exact .pure (.batch input (.ok done))

theorem close_satisfies (input : Option Input) (predictor : Handle) :
    (close (σ := σ) input predictor).Satisfies (fun _ xs => Closed input predictor xs) := by
  apply (release_satisfies input).bind
  intro _ xs hreleased
  apply Satisfies.ask_bind
  intro reply
  rcases reply with fault | done
  · exact .log_bind (.log (.freed hreleased (.error fault)))
  · exact .log (.freed hreleased (.ok done))

theorem querySchema_satisfies (predictor : Handle) :
    (querySchema (σ := σ) predictor).Satisfies (Queried predictor) := by
  apply Satisfies.ask_bind
  intro reply
  rcases reply with fault | features
  · exact .pure (.noFeatures fault)
  apply Satisfies.ask_bind
  intro reply
  rcases reply with fault | groups
  · exact .pure (.noGroups features fault)
  apply Satisfies.ask_bind
  intro reply
  rcases reply with fault | width
  · exact .pure (.noWidth features groups fault)
  -- All questions are answered; what is left is the check of the width.
  by_cases hwide : groups < width
  · simp only [hwide, if_true]
    exact .pure (.tooWide features groups width hwide)
  · simp only [hwide, if_false]
    exact .pure (.known features groups width (Nat.not_lt.mp hwide))

theorem build_satisfies (artifact : Artifact) (device : Device) (threads : Int32) :
    (build (σ := σ) artifact device threads).Satisfies (Building artifact device threads) := by
  -- Without a predictor there is nothing to give back.
  apply Satisfies.ask_bind
  intro reply
  rcases reply with fault | predictor
  · exact .pure (.notLoaded fault)
  apply (querySchema_satisfies predictor).bind
  intro queried xs hqueried
  rcases queried with report | schema
  · apply (close_satisfies none predictor).bind
    intro _ ys hclosed
    refine .pure ?_
    rw [List.append_nil]
    exact .notQueried hqueried hclosed
  · apply Satisfies.log_bind
    refine .pure ?_
    rw [List.append_nil]
    exact .ready hqueried

theorem setInput_satisfies (m : Model) (shape : List Int) (bytes : List UInt8) :
    (m.setInput (σ := σ) shape bytes).Satisfies
      (fun r xs => SetsInput m shape bytes xs r.1 r.2) := by
  unfold Model.setInput
  cases hread : m.readMatrix shape bytes with
  | error fault => exact .pure (.refused hread)
  | ok matrix =>
    apply Satisfies.ask_bind
    intro reply
    rcases reply with fault | batch
    · exact .pure (.notAssembled hread fault)
    · -- The old batch goes only now that the new one is there.
      apply (release_satisfies m.input).bind
      intro _ xs hreleased
      refine .pure ?_
      rw [List.append_nil]
      exact .replaced hread batch hreleased

theorem run_satisfies (m : Model) :
    (m.run (σ := σ)).Satisfies (fun r xs => Runs m xs r.1 r.2) := by
  obtain ⟨device, artifact, predictor, schema, input, output, outputReady⟩ := m
  cases input with
  | none => exact .pure (.noInput rfl)
  | some input =>
    apply Satisfies.ask_bind
    intro reply
    obtain ⟨result, left⟩ := reply
    have hruns := Runs.predicted (m := ⟨device, artifact, predictor, schema, some input, output,
      outputReady⟩) rfl result left
    -- Only a success changes whether the output can be read.
    cases result with
    | error fault =>
      simp only [Except.isOk, Except.toBool, Bool.or_false] at hruns
      exact .pure hruns
    | ok count =>
      simp only [Except.isOk, Except.toBool, Bool.or_true] at hruns
      exact .pure hruns

theorem operate_satisfies (m : Model) (operation : Operation) :
    (m.operate (σ := σ) operation).Satisfies (fun r xs => Transition m operation xs r.1 r.2) := by
  cases operation with
  -- Only an input and a run exchange anything.
  | ask query => exact .pure (.asked query)
  | setInput name shape bytes =>
    apply (setInput_satisfies m shape bytes).bind
    intro r xs hsets
    refine .pure ?_
    rw [List.append_nil]
    exact .setInput hsets
  | setInputFloats name shape values =>
    apply (setInput_satisfies m shape (Binary32.encode values)).bind
    intro r xs hsets
    refine .pure ?_
    rw [List.append_nil]
    exact .setInputFloats hsets
  | run =>
    apply (run_satisfies m).bind
    intro r xs hruns
    refine .pure ?_
    rw [List.append_nil]
    exact .run hruns
  | setNumThreads threads => exact .pure (.setNumThreads threads)
  | useCpuAffinity enabled => exact .pure (.useCpuAffinity enabled)

end

/-! ## §3. Three kinds of operations

For the model, an operation is one that sets the input, or a run, or one that changes nothing. -/

section
variable {m m' : Model} {s : Step interface}

/-- An operation that sets the input hands over what the model reads as a matrix, assembles a
batch of it, gives the old input up, and leaves nothing of the old output. -/
theorem setsInput_inv (h : Transition m s.operation s.exchanges s.outcome m')
    (hsets : s.setsInput = true) :
    ∃ payload matrix batch xs, s.operation.payload? = some payload ∧
      m.readMatrix payload.shape payload.bytes = .ok matrix ∧
      s.exchanges = ⟨Call.assemble matrix, (.ok batch : Except Fault Handle)⟩ :: xs ∧
      Released m.input xs ∧
      m' = { m with input := some { matrix, batch }, output := [], outputReady := false } := by
  obtain ⟨operation, outcome, exchanges⟩ := s
  -- Two operations can set the input, and of how they go only one way is a success.
  cases h with
  | setInput hset =>
    cases hset with
    | refused | notAssembled => cases hsets
    | replaced hread batch hreleased => exact ⟨_, _, batch, _, rfl, hread, rfl, hreleased, rfl⟩
  | setInputFloats hset =>
    cases hset with
    | refused | notAssembled => cases hsets
    | replaced hread batch hreleased => exact ⟨_, _, batch, _, rfl, hread, rfl, hreleased, rfl⟩
  | asked | run | setNumThreads | useCpuAffinity => cases hsets

theorem isRun_inv (h : Transition m s.operation s.exchanges s.outcome m')
    (hrun : s.isRun = true) :
    ∃ result, s.outcome = .plain (result.map (fun _ => .done)) ∧ Runs m s.exchanges result m' := by
  obtain ⟨operation, outcome, exchanges⟩ := s
  cases h with
  | run hruns => exact ⟨_, rfl, hruns⟩
  | asked | setInput | setInputFloats | setNumThreads | useCpuAffinity => cases hrun

/-- Any other operation leaves the model as it was. -/
theorem eq_of_other (h : Transition m s.operation s.exchanges s.outcome m')
    (hsets : s.setsInput = false) (hrun : s.isRun = false) : m' = m := by
  obtain ⟨operation, outcome, exchanges⟩ := s
  cases h with
  | asked | setNumThreads | useCpuAffinity => rfl
  | setInput hset | setInputFloats hset =>
    -- One that did not set the input has failed, and a failure changes nothing.
    cases hset with
    | refused | notAssembled => rfl
    | replaced => cases hsets
  | run => cases hrun

end

/-! ## §4. Lives -/

/-- How models are built, used and dropped. -/
def lifecycle {σ : Type} (artifact : Artifact) (device : Device) (threads : Int32) :
    Lifecycle interface σ Model where
  build := build artifact device threads
  operate := Model.operate
  drop := Model.drop

/-- The lives that models can have. -/
abbrev LivedModel (artifact : Artifact) (device : Device) (threads : Int32)
    (operations : List Operation) : Life interface Model → Prop :=
  Lived (Building artifact device threads) Transition
    (fun m xs => Closed m.input m.predictor xs) operations

/-- A session, whatever the engine is and whatever operations there are, goes as the relations
say. -/
theorem life_lived {σ : Type} (E : Engine interface σ) (engine : σ) (artifact : Artifact)
    (device : Device) (threads : Int32) (operations : List Operation) :
    let (l, w) := (lifecycle artifact device threads).life operations E (.start engine)
    w.exchanges = l.exchanges ∧ LivedModel artifact device threads operations l := by
  obtain ⟨xs, hxs, hl, hlived⟩ := Lifecycle.life_satisfies
    (L := lifecycle artifact device threads) (build_satisfies artifact device threads)
    operate_satisfies (fun m => close_satisfies m.input m.predictor) operations E (.start engine)
  exact ⟨hxs.trans hl.symm, hlived⟩

end ModelAdapter.Treelite
