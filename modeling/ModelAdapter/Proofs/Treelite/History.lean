import ModelAdapter.Proofs.Treelite.Transitions

/-! # The state of a model in terms of what happened

A model keeps its input, its output buffer and whether the output may be read.  All
of it can be told from the operations so far and their exchanges, without the model:

  * the input is the one that the latest operation that set an input handed over,
    with the batch that the engine gave for it (`currentInput`);
  * the output buffer is what the latest run since then left of it (`leftSlots`);
  * the output may be read when some run since then succeeded.

`Recalls` puts the three together, and `recalls_of_reaches` proves it of every run.
-/

namespace ModelAdapter.Treelite

/-! ## §1. Reading exchanges -/

/-- The input that a successful assembly makes: the matrix, and the batch made of it. -/
def accepted? : Exchange interface → Option Input
  | ⟨.assemble matrix, reply⟩ =>
      (reply : Except Fault Handle).toOption.map (fun batch => { matrix, batch })
  | _ => none

/-- The slots of a prediction as the engine left them, whether it succeeded or not. -/
def left? : Exchange interface → Option (List Binary32)
  | ⟨.predictBatch _ _ _ _ slots, reply⟩ =>
      some (overwrite slots (reply : Except Fault Nat × List Binary32).2)
  | _ => none

/-- The input that the latest operation that set one handed over. -/
def currentInput (steps : List (Step interface)) : Option Input :=
  (latestInput steps).bind (·.exchanges.findSome? accepted?)

/-- The slots as a run left them; a run without an input has none. -/
def slotsAfter (run : Step interface) : List Binary32 :=
  (run.exchanges.findSome? left?).getD []

/-- The output buffer after some operations: as the latest run since the input was set left it,
and empty if there was none. -/
def leftSlots (steps : List (Step interface)) : List Binary32 :=
  ((runsSinceInput steps).getLast?.map slotsAfter).getD []

/-! ## §2. The state that they stand for -/

/-- What a model `m` that was `m₀` when it was new has to do with the operations since. -/
structure Recalls (m₀ : Model) (steps : List (Step interface)) (m : Model) : Prop where
  predictor : m.predictor = m₀.predictor
  schema : m.schema = m₀.schema
  input : m.input = currentInput steps
  output : m.output = leftSlots steps
  outputReady : m.outputReady = (runsSinceInput steps).any (·.succeeded)
  /-- Without an input nothing was ever written. -/
  unwritten : m.input = none → m.output = []

section
variable {m₀ m m' : Model} {steps : List (Step interface)} {s : Step interface}

theorem Recalls.sets (h : Recalls m₀ steps m)
    (hlast : Transition m s.operation s.exchanges s.outcome m') (hsets : s.setsInput = true) :
    Recalls m₀ (steps ++ [s]) m' := by
  obtain ⟨payload, matrix, batch, xs, -, -, hxs, -, rfl⟩ := setsInput_inv hlast hsets
  constructor
  case predictor => exact h.predictor
  case schema => exact h.schema
  case input =>
    rw [currentInput, latestInput_of_sets hsets, Option.bind_some, hxs]
    rfl
  case output => rw [leftSlots, runsSinceInput_of_sets hsets]; rfl
  case outputReady => rw [runsSinceInput_of_sets hsets]; rfl
  case unwritten => exact fun _ => rfl

theorem Recalls.run (h : Recalls m₀ steps m)
    (hlast : Transition m s.operation s.exchanges s.outcome m')
    (hsets : s.setsInput = false) (hrun : s.isRun = true) : Recalls m₀ (steps ++ [s]) m' := by
  obtain ⟨result, houtcome, hruns⟩ := isRun_inv hlast hrun
  have hinput : currentInput (steps ++ [s]) = currentInput steps := by
    rw [currentInput, latestInput_of_not_sets hsets, currentInput]
  have hsince : runsSinceInput (steps ++ [s]) = runsSinceInput steps ++ [s] :=
    runsSinceInput_of_run hsets hrun
  -- From now on this run is the latest one, so the slots are as it left them.
  have hleft : leftSlots (steps ++ [s]) = slotsAfter s := by
    rw [leftSlots, hsince, List.getLast?_concat]
    rfl
  have hany : (runsSinceInput (steps ++ [s])).any (·.succeeded)
      = (m.outputReady || s.succeeded) := by
    rw [hsince, List.any_append, ← h.outputReady, List.any_cons, List.any_nil, Bool.or_false]
  have hsucceeded : s.succeeded = result.isOk := by
    rw [Step.succeeded, houtcome]
    cases result <;> rfl
  rw [hsucceeded] at hany
  generalize hxs : s.exchanges = xs at hruns
  cases hruns with
  | noInput hunset =>
    -- Such a run has no slots, and the buffer is empty as long as there is no input.
    refine ⟨h.predictor, h.schema, hinput ▸ h.input, ?_, ?_, h.unwritten⟩
    · rw [hleft, slotsAfter, hxs]
      exact h.unwritten hunset
    · rw [hany]
      exact (Bool.or_false _).symm
  | predicted hset reply left =>
    refine ⟨h.predictor, h.schema, hinput ▸ h.input, ?_, ?_, ?_⟩
    · rw [hleft, slotsAfter, hxs]
      rfl
    · rw [hany]
      cases reply <;> rfl
    · intro hunset
      cases hset.symm.trans hunset

theorem Recalls.other (h : Recalls m₀ steps m)
    (hlast : Transition m s.operation s.exchanges s.outcome m')
    (hsets : s.setsInput = false) (hrun : s.isRun = false) : Recalls m₀ (steps ++ [s]) m' := by
  rw [eq_of_other hlast hsets hrun]
  have hinput : currentInput (steps ++ [s]) = currentInput steps := by
    rw [currentInput, latestInput_of_not_sets hsets, currentInput]
  have hsince : runsSinceInput (steps ++ [s]) = runsSinceInput steps :=
    runsSinceInput_of_other hsets hrun
  refine ⟨h.predictor, h.schema, hinput ▸ h.input, ?_, ?_, h.unwritten⟩
  · rw [h.output, leftSlots, leftSlots, hsince]
  · rw [h.outputReady, hsince]

/-- A new model has no input and nothing to read. -/
theorem empty_of_building {artifact : Artifact} {device : Device} {threads : Int32}
    {xs : List (Exchange interface)} (h : Building artifact device threads (.ok m) xs) :
    m.input = none ∧ m.output = [] ∧ m.outputReady = false := by
  cases h with
  | ready => exact ⟨rfl, rfl, rfl⟩

/-- **What happened tells the state**, for a model that starts without an input. -/
theorem recalls_of_reaches (h : Reaches Transition m₀ steps m) (hinput : m₀.input = none)
    (houtput : m₀.output = []) (hready : m₀.outputReady = false) : Recalls m₀ steps m := by
  -- On the operations; each one sets the input, is a run, or changes nothing.
  induction h with
  | start => exact ⟨rfl, rfl, hinput, houtput, hready, fun _ => houtput⟩
  | @step steps m m' s hbefore hlast ih =>
    cases hsets : s.setsInput with
    | true => exact ih.sets hlast hsets
    | false =>
      cases hrun : s.isRun with
      | true => exact ih.run hlast hsets hrun
      | false => exact ih.other hlast hsets hrun

end

/-- What happened tells the last model of a life. -/
theorem recalls_of_lived {artifact : Artifact} {device : Device} {threads : Int32}
    {operations : List Operation} {l : Life interface Model} {m : Model}
    (h : LivedModel artifact device threads operations l) (hm : l.model = .ok m) :
    ∃ m₀, Building artifact device threads (.ok m₀) l.building ∧
      Reaches Transition m₀ l.steps m ∧ m₀.outputReady = false ∧ Recalls m₀ l.steps m := by
  obtain ⟨m₀, hbuilding, hrun⟩ := h.of_model hm
  obtain ⟨hinput, houtput, hready⟩ := empty_of_building hbuilding
  exact ⟨m₀, hbuilding, hrun, hready, recalls_of_reaches hrun hinput houtput hready⟩

end ModelAdapter.Treelite
