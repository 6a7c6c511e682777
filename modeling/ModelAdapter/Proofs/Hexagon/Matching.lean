import ModelAdapter.Proofs.Hexagon.Transitions
import ModelAdapter.Proofs.Lockstep

/-! # Models of two DSP engines that match

A model works with its engine through calls whose replies decide what comes next, with
one exception: the diagnostic log is read and passed on, and nothing else is done with
it.  So whatever relates the worlds of two engines relates the whole course of a model
over them, as soon as a few steps keep it.

  * **Steps** (`Matching`): a call that works, the reading and passing on of the log as
    one step, and an event about anything else.
  * **Models** (`build_matches`, `operate_matches`, `drop_matches`): what these steps
    keep is kept by building a model, by any operation on it and by dropping it.
  * **Engines in step** (`life_agrees`) are the case in which replies are the same.
-/

namespace ModelAdapter.Hexagon

open Drive (Matches Agrees)

/-! ## §1. Steps -/

/-- A call whose reply decides what comes next, unlike the one for the diagnostic log. -/
def Call.Works : Call → Prop
  | .readLog _ _ => False
  | _ => True

/-- Every call can be made on both sides. -/
def AnyCall : Call → Prop := fun _ => True

section
variable {σ τ : Type}

/-- A relation between the worlds of two engines that the steps of a model keep, with the same
results over both. -/
structure Matching (E : Engine interface σ) (F : Engine interface τ)
    (S : World interface σ → World interface τ → Prop) : Prop where
  work : ∀ call : Call, call.Works → Matches E F S Eq (ask call) (ask call)
  drainLog : ∀ graph, Matches E F S Eq (drainLog graph) (drainLog graph)
  log : ∀ event : Event, event.channel? = none →
    Matches E F S Eq (Drive.log event) (Drive.log event)

variable {E : Engine interface σ} {F : Engine interface τ}
  {S : World interface σ → World interface τ → Prop}

/-- What every call and every event keeps. -/
theorem Matching.of_steps (hask : ∀ call : Call, Matches E F S Eq (ask call) (ask call))
    (hlog : ∀ event, Matches E F S Eq (Drive.log event) (Drive.log event)) : Matching E F S where
  work call _ := hask call
  drainLog graph := by
    -- A log is one call, and an event if there is anything in it.
    refine (hask (.readLog graph logCapacity)).bind_eq ?_
    intro reply
    rcases reply with ⟨status | ⟨⟩, written⟩
    · exact .pure rfl
    · cases htext : logText written with
      | nil =>
        simp only [htext]
        exact .pure rfl
      | cons byte rest =>
        simp only [htext]
        exact hlog _
  log event _ := hlog event

/-! ## §2. Models -/

/-- What building comes to once a session was opened, or could not be. -/
def afterOpening : Except Report Unit × Model → Drive interface σ (Except Report Model)
  | (.error report, m) => do
      m.drop
      return .error report
  | (.ok (), m) => do
      let (discovered, m) ← m.discover
      match discovered with
      | .error report =>
          m.drop
          return .error report
      | .ok () =>
          Drive.log (.hexagonReady m.inputs.length m.outputs.length)
          return .ok m

theorem build_eq (artifact : Artifact) (device : Device) (debugLevel : Int32) :
    build (σ := σ) artifact device debugLevel
      = ((Model.unopened artifact device).openSession debugLevel >>= afterOpening) := by
  refine congrArg ((Model.unopened artifact device).openSession debugLevel >>= ·)
    (funext fun r => ?_)
  rcases r with ⟨report | ⟨⟩, m⟩
  · rfl
  · rfl

/-- Questions that match one by one match in a row. -/
theorem collect_matches {query : Nat → Drive interface σ (Except Fault (Option TensorSpec))}
    {query' : Nat → Drive interface τ (Except Fault (Option TensorSpec))}
    (hquery : ∀ id, Matches E F S Eq (query id) (query' id)) :
    ∀ ids id, Matches E F S Eq (collect query ids id) (collect query' ids id) := by
  intro ids
  -- On the numbers that are left to ask for.
  induction ids with
  | zero =>
    intro id
    exact .pure rfl
  | succ ids ih =>
    intro id
    apply (hquery id).bind_eq
    intro reply
    -- The scan goes on only behind a description.
    rcases reply with fault | spec | spec
    · exact .pure rfl
    · exact .pure rfl
    · apply (ih (id + 1)).bind_eq
      intro rest
      exact .pure rfl

section
variable (h : Matching E F S)
include h

theorem openSession_matches (m : Model) (debugLevel : Int32) :
    Matches E F S Eq (m.openSession debugLevel) (m.openSession debugLevel) := by
  refine (h.work (.init debugLevel) trivial).bind_eq ?_
  intro opening
  rcases opening with failure | ⟨session, memory⟩
  · apply (h.drainLog failure.graph).bind_eq
    intro _
    exact .pure rfl
  · apply (h.drainLog session.graph).bind_eq
    intro _
    exact .pure rfl

theorem discover_matches (m : Model) : Matches E F S Eq m.discover m.discover := by
  have hinputs : Matches E F S Eq collectInputs collectInputs :=
    collect_matches (fun id => h.work (.inputSpec id) trivial) _ _
  have houtputs : Matches E F S Eq collectOutputs collectOutputs :=
    collect_matches (fun id => h.work (.outputSpec id) trivial) _ _
  apply hinputs.bind_eq
  intro scanned
  rcases scanned with fault | inputs
  · exact .pure rfl
  apply houtputs.bind_eq
  intro scanned
  rcases scanned with fault | outputs
  · exact .pure rfl
  · exact .pure rfl

theorem drop_matches (m : Model) : Matches E F S Eq m.drop m.drop := by
  unfold Model.drop
  cases m.session with
  | none => exact h.log _ rfl
  | some session =>
    by_cases hgraph : session.graph ≠ 0
    · simp only [if_pos hgraph]
      refine (h.work (.close session.graph) trivial).bind_eq ?_
      intro _
      exact h.log _ rfl
    · simp only [if_neg hgraph]
      exact h.log _ rfl

theorem afterOpening_matches (r : Except Report Unit × Model) :
    Matches E F S Eq (afterOpening r) (afterOpening r) := by
  -- Each of the two ways to fail drops the model.
  rcases r with ⟨report | ⟨⟩, m⟩
  · apply (drop_matches h m).bind_eq
    intro _
    exact .pure rfl
  apply (discover_matches h m).bind_eq
  intro r
  rcases r with ⟨report | ⟨⟩, m'⟩
  · apply (drop_matches h m').bind_eq
    intro _
    exact .pure rfl
  · apply (h.log _ rfl).bind_eq
    intro _
    exact .pure rfl

theorem build_matches (artifact : Artifact) (device : Device) (debugLevel : Int32) :
    Matches E F S Eq (build artifact device debugLevel) (build artifact device debugLevel) := by
  rw [build_eq, build_eq]
  exact (openSession_matches h _ debugLevel).bind_eq (afterOpening_matches h)

theorem run_matches (m : Model) : Matches E F S Eq m.run m.run := by
  unfold Model.run
  cases m.liveSession with
  | error fault => exact .pure rfl
  | ok session =>
    refine (h.work (.exec session m.memory) trivial).bind_eq ?_
    intro reply
    exact .pure rfl

theorem operate_matches (m : Model) (operation : Operation) :
    Matches E F S Eq (m.operate operation) (m.operate operation) := by
  cases operation with
  | ask | setInput | setInputFloats | setNumThreads | useCpuAffinity => exact .pure rfl
  | run =>
    apply (run_matches h m).bind_eq
    intro r
    exact .pure rfl

end

/-! ## §3. Engines in step -/

/-- **A life** goes the same over two engines in step. -/
theorem life_agrees {R : List Call → σ → τ → Prop} (hstep : InStep E F AnyCall R)
    (artifact : Artifact) (device : Device) (debugLevel : Int32) (operations : List Operation) :
    Agrees E F R ((lifecycle artifact device debugLevel).life operations)
      ((lifecycle artifact device debugLevel).life operations) := by
  have hmatching : Matching E F (Alike R) :=
    .of_steps (fun _ => Agrees.ask hstep trivial) Agrees.log
  have hbuild : Agrees E F R (lifecycle artifact device debugLevel).build
      (lifecycle artifact device debugLevel).build :=
    build_matches hmatching artifact device debugLevel
  exact Lifecycle.life_agrees hbuild (operate_matches hmatching) (drop_matches hmatching) operations

end

end ModelAdapter.Hexagon
