import ModelAdapter.Proofs.Treelite.Replay
import ModelAdapter.Proofs.Treelite.Resources
import ModelAdapter.Treelite.Script

/-! # Inputs that could not be set

Setting the input can fail at many points: at the shape, at the number of bytes, and
at the engine, which may refuse to assemble the batch.  Each of them comes before
anything of the model is touched, so the model goes on with the input, the batch and
the output that it had.

  * **Leaving out** (`Lived.without`): an operation that changes nothing can be left out
    of a life.
  * **Sessions** (`failed_input_leaves_no_trace`): a session in which setting the input
    failed is the session without that operation.
-/

namespace ModelAdapter

variable {I : Interface} {μ : Type}

/-! ## §1. Leaving an operation out -/

/-- A life without its operation `k`. -/
def Life.without (l : Life I μ) (k : Nat) : Life I μ := { l with steps := l.steps.eraseIdx k }

section
variable {T : Transitions I μ} {k : Nat} {s : Step I}

/-- An operation that changes nothing can be left out of a run. -/
theorem Reaches.without {m₀ m : μ} {steps : List (Step I)} (h : Reaches T m₀ steps m)
    (hs : steps[k]? = some s)
    (hkept : ∀ {m₁ m₂}, T m₁ s.operation s.exchanges s.outcome m₂ → m₂ = m₁) :
    Reaches T m₀ (steps.eraseIdx k) m := by
  obtain ⟨hk, rfl⟩ := List.getElem?_eq_some_iff.mp hs
  -- The run up to the operation, the operation, and the run from there.
  obtain ⟨m₁, hbefore, hrest⟩ := h.split (List.take_append_drop k steps).symm
  rw [List.drop_eq_getElem_cons hk] at hrest
  obtain ⟨m₂, hlast, hafter⟩ := hrest.of_cons
  rw [hkept hlast] at hafter
  rw [List.eraseIdx_eq_take_drop_succ]
  exact hbefore.append hafter

/-- An operation that changes nothing can be left out of a life. -/
theorem Lived.without {B : Except Report μ → List (Exchange I) → Prop}
    {D : μ → List (Exchange I) → Prop} {operations : List Operation} {l : Life I μ}
    (h : Lived B T D operations l) (hs : l.steps[k]? = some s)
    (hkept : ∀ {m₁ m₂}, T m₁ s.operation s.exchanges s.outcome m₂ → m₂ = m₁) :
    Lived B T D (operations.eraseIdx k) (l.without k) := by
  cases h with
  | unbuilt => cases hs
  | built hbuilding hrun hops hdropping =>
    subst hops
    refine .built hbuilding (hrun.without hs hkept) ?_ hdropping
    rw [List.eraseIdx_eq_take_drop_succ, List.eraseIdx_eq_take_drop_succ, List.map_append,
      List.map_take, List.map_drop]

end

namespace Treelite

/-! ## §2. Failures -/

/-- Setting the input that fails leaves the model as it was, after no call at all or after the one
call that failed. -/
theorem failedInput_inv {m m' : Model} {s : Step interface} {fault : Fault}
    (h : Transition m s.operation s.exchanges s.outcome m')
    (hpayload : s.operation.payload?.isSome) (hfault : s.outcome = .error fault) :
    m' = m ∧ (s.exchanges = [] ∨
      ∃ matrix, s.exchanges = [⟨Call.assemble matrix, (.error fault : Except Fault Handle)⟩]) := by
  obtain ⟨operation, outcome, exchanges⟩ := s
  cases h with
  | setInput hset | setInputFloats hset =>
    -- Only the last way of setting the input changes the model, and it succeeds.
    cases hset with
    | refused => exact ⟨rfl, .inl rfl⟩
    | notAssembled =>
      cases hfault
      exact ⟨rfl, .inr ⟨_, rfl⟩⟩
    | replaced => cases hfault
  | asked | run | setNumThreads | useCpuAffinity => cases hpayload

/-- Dropping a model deletes the batch of its input, and no other. -/
theorem deleted_of_closed {input : Option Input} {predictor : Handle}
    {xs : List (Exchange interface)} (h : Closed input predictor xs) :
    deleted xs = (input.map (·.batch)).toList := by
  obtain ⟨hreleased, reply⟩ := h
  rw [deleted, List.filterMap_append]
  cases hreleased <;> rfl

/-- In the end the batch is deleted of the latest operation that set the input, and no other. -/
theorem deleted_of_lived {artifact : Artifact} {device : Device} {threads : Int32}
    {operations : List Operation} {l : Life interface Model}
    (h : LivedModel artifact device threads operations l) :
    deleted l.dropping = latestBatch l.steps := by
  cases h with
  | unbuilt => rfl
  | built hbuilding hrun hops hclosed =>
    obtain ⟨hinput, houtput, hready⟩ := empty_of_building hbuilding
    rw [deleted_of_closed hclosed]
    exact live_eq_latestBatch (recalls_of_reaches hrun hinput houtput hready)

/-! ## §3. Whole sessions -/

/-- **A failure to set the input leaves no trace.**  Whatever the engine replies and whatever the
other operations are, an operation that was to set the input and failed has made no call but the one
to assemble the batch, if that is what failed.  Over every engine that gives the same replies to the
other calls, the session without that operation is the same in everything else: every other
operation has the same outcome and makes the same calls, and the model is the same in the end.
Dropping it deletes the batch of the latest operation that did set the input. -/
theorem failed_input_leaves_no_trace {σ : Type} (E : Engine interface σ) (engine : σ)
    (artifact : Artifact) (device : Device) (threads : Int32) (operations : List Operation) :
    let l := ((lifecycle artifact device threads).life operations E (.start engine)).1
    ∀ k s fault, l.steps[k]? = some s → s.operation.payload?.isSome → s.outcome = .error fault →
      (s.exchanges = [] ∨ ∃ matrix,
        s.exchanges = [⟨Call.assemble matrix, (.error fault : Except Fault Handle)⟩]) ∧
      deleted l.dropping = latestBatch (l.steps.eraseIdx k) ∧
      ∀ (τ : Type) (F : Engine interface τ) (origin final : τ),
        F.Replays origin (l.without k).exchanges final →
          ((lifecycle artifact device threads).life (operations.eraseIdx k) F
            (.start origin)).1 = l.without k := by
  have h := life_lived E engine artifact device threads operations
  generalize (lifecycle artifact device threads).life operations E (.start engine) = r at h ⊢
  obtain ⟨l, w⟩ := r
  obtain ⟨-, hlived⟩ := h
  intro l k s fault hs hpayload hfault
  have hwithout : LivedModel artifact device threads _ (l.without k) :=
    hlived.without hs (fun hlast => (failedInput_inv hlast hpayload hfault).1)
  refine ⟨?_, deleted_of_lived hwithout, ?_⟩
  · -- What it did itself is told by the step alone.
    obtain ⟨before, after, hcut⟩ := List.append_of_mem (List.mem_of_getElem? hs)
    obtain ⟨_, _, _, -, -, hlast⟩ := hlived.at_step hcut
    exact (failedInput_inv hlast hpayload hfault).2
  · -- The life without it is one that the relations allow, so it is had over any engine that
    -- replays it.
    intro τ F origin final hreplays
    exact (life_retraces hwithout F (.start origin) final hreplays).1

/-- An engine that takes one value in each row and gives one back. -/
def willing : Engine interface Script.State :=
  Script.direct { schema := ⟨1, 1, 1⟩, failures := fun _ => [] }

/-- The same, but it refuses to assemble a second batch. -/
def reluctant : Engine interface Script.State :=
  Script.direct
    { schema := ⟨1, 1, 1⟩
      failures := fun f =>
        if f = .assemble then
          [none, some (.treelite "TreeliteAssembleSparseBatch" "out of memory")]
        else [] }

/-- After a run, a second input, and then what was predicted is read. -/
def secondInput : List Operation :=
  [.setInputFloats "data" [1, 1] [⟨0x3F800000⟩], .run,
    .setInputFloats "data" [1, 1] [⟨0x40000000⟩], .ask (.getOutput 0 [0, 0, 0, 0])]

/-- When the second input is refused, the first prediction is still read, and the session is the one
without the second input. -/
theorem refused_batch_leaves_no_trace :
    let l := ((lifecycle ⟨"model.so", none⟩ .cpu (-1)).life secondInput reluctant (.start .start)).1
    let l' := ((lifecycle ⟨"model.so", none⟩ .cpu (-1)).life (secondInput.eraseIdx 2) willing
      (.start .start)).1
    l.steps.map (·.outcome) = [.ok .done, .ok .done,
      .error (.treelite "TreeliteAssembleSparseBatch" "out of memory"),
      .filled (.ok (), [0, 0, 128, 63])] ∧
    l' = l.without 2 := by
  have h := failed_input_leaves_no_trace reluctant .start ⟨"model.so", none⟩ .cpu (-1) secondInput
  obtain ⟨-, -, hreplay⟩ := h 2 _ _ rfl rfl rfl
  refine ⟨rfl, ?_⟩
  apply hreplay _ willing .start
  -- Eight calls are made without the second input, and each has the same reply.
  iterate 8 apply Engine.Replays.step; rfl
  exact .done _

end Treelite

end ModelAdapter
