import Mathlib.Data.List.DropRight
import ModelAdapter.Engine
import ModelAdapter.Operation

/-! # Sessions

A session is the life of one model: it is built, used for some operations, and
dropped.  What is proved about a session holds for every engine, so the engine is
never looked into: all that counts is that it may give any reply to any call.

  * **Specifications** (`Drive.Satisfies`): which results a computation may bring,
    and which exchanges it may have had on the way.  There is one law for each way
    of putting computations together.
  * **Records** (`Step`, `Life`): a session as it went, cut into what was exchanged
    while building, in each operation, and while dropping.
  * **Runs** (`Reaches`): what a list of operations makes of a model, when it is
    known what a single operation can do.

`Lifecycle.life_satisfies` leads from the three specifications of building, one
operation, and dropping to the whole session.
-/

namespace ModelAdapter

variable {I : Interface} {σ α β μ : Type}

namespace Drive

/-! ## §1. Specifications -/

/-- However the engine replies, and whatever happened before, the computation only adds to the
exchanges, and `P` allows what it adds together with its result. -/
def Satisfies (d : Drive I σ α) (P : α → List (Exchange I) → Prop) : Prop :=
  ∀ (E : Engine I σ) (w : World I σ), ∃ xs,
    (d E w).2.exchanges = w.exchanges ++ xs ∧ P (d E w).1 xs

theorem Satisfies.pure {P : α → List (Exchange I) → Prop} {a : α} (h : P a []) :
    Satisfies (σ := σ) (Pure.pure a) P := by
  intro E w
  exact ⟨[], (List.append_nil _).symm, h⟩

theorem Satisfies.ask {call : I.Call} {P : I.Reply call → List (Exchange I) → Prop}
    (h : ∀ reply, P reply [⟨call, reply⟩]) : Satisfies (σ := σ) (Drive.ask call) P := by
  intro E w
  exact ⟨_, rfl, h _⟩

theorem Satisfies.log {event : Event} {P : Unit → List (Exchange I) → Prop} (h : P () []) :
    Satisfies (σ := σ) (Drive.log event) P := by
  intro E w
  exact ⟨[], (List.append_nil _).symm, h⟩

theorem Satisfies.bind {d : Drive I σ α} {f : α → Drive I σ β}
    {P : α → List (Exchange I) → Prop} {Q : β → List (Exchange I) → Prop}
    (hd : d.Satisfies P) (hf : ∀ a xs, P a xs → (f a).Satisfies (fun b ys => Q b (xs ++ ys))) :
    (d >>= f).Satisfies Q := by
  intro E w
  obtain ⟨xs, hxs, hP⟩ := hd E w
  -- The second computation starts in the world that the first one leaves.
  obtain ⟨ys, hys, hQ⟩ := hf _ _ hP E (d E w).2
  refine ⟨xs ++ ys, ?_, hQ⟩
  show (f (d E w).1 E (d E w).2).2.exchanges = w.exchanges ++ (xs ++ ys)
  rw [hys, hxs, List.append_assoc]

theorem Satisfies.imp {d : Drive I σ α} {P Q : α → List (Exchange I) → Prop} (hd : d.Satisfies P)
    (h : ∀ a xs, P a xs → Q a xs) : d.Satisfies Q := by
  intro E w
  obtain ⟨xs, hxs, hP⟩ := hd E w
  exact ⟨xs, hxs, h _ _ hP⟩

theorem Satisfies.ask_bind {call : I.Call} {f : I.Reply call → Drive I σ β}
    {Q : β → List (Exchange I) → Prop}
    (hf : ∀ reply, (f reply).Satisfies (fun b ys => Q b (⟨call, reply⟩ :: ys))) :
    (Drive.ask call >>= f).Satisfies Q := by
  apply Satisfies.bind (P := fun reply xs => xs = [⟨call, reply⟩]) (.ask fun _ => rfl)
  intro reply xs hxs
  subst hxs
  exact hf reply

theorem Satisfies.log_bind {event : Event} {d : Drive I σ β} {Q : β → List (Exchange I) → Prop}
    (hd : d.Satisfies Q) : (Drive.log event >>= fun _ => d).Satisfies Q := by
  apply Satisfies.bind (P := fun _ xs => xs = []) (.log rfl)
  intro _ xs hxs
  subst hxs
  exact hd

/-! ## §2. Records -/

/-- Carries out a computation and keeps the exchanges that it had. -/
def recorded (d : Drive I σ α) : Drive I σ (α × List (Exchange I)) := fun E w =>
  (((d E w).1, (d E w).2.exchanges.drop w.exchanges.length), (d E w).2)

theorem Satisfies.recorded {d : Drive I σ α} {P : α → List (Exchange I) → Prop}
    (hd : d.Satisfies P) :
    (Drive.recorded d).Satisfies (fun r xs => r.2 = xs ∧ P r.1 xs) := by
  intro E w
  obtain ⟨xs, hxs, hP⟩ := hd E w
  refine ⟨xs, hxs, ?_, hP⟩
  show (d E w).2.exchanges.drop w.exchanges.length = xs
  rw [hxs, List.drop_left]

end Drive

/-- What an operation hands over as an input: the name it is meant for, a shape, and bytes. -/
structure Payload where
  name : String
  shape : List Int
  bytes : List UInt8
  deriving DecidableEq

/-- What an operation hands over, if it is one that sets an input; values go as their bytes. -/
def Operation.payload? : Operation → Option Payload
  | .setInput name shape bytes => some ⟨name, shape, bytes⟩
  | .setInputFloats name shape values => some ⟨name, shape, Binary32.encode values⟩
  | _ => none

/-- One operation as it was carried out. -/
structure Step (I : Interface) where
  operation : Operation
  outcome : Outcome
  exchanges : List (Exchange I)

namespace Step

/-- Whether an operation set the input of the model. -/
def setsInput (s : Step I) : Bool :=
  match s.operation, s.outcome.result with
  | .setInput _ _ _, .ok _ => true
  | .setInputFloats _ _ _, .ok _ => true
  | _, _ => false

/-- Whether an operation was a run, successful or not. -/
def isRun (s : Step I) : Bool := s.operation = .run

/-- Whether an operation succeeded. -/
def succeeded (s : Step I) : Bool := s.outcome.result.isOk

end Step

/-- The latest operation that set the input. -/
def latestInput (steps : List (Step I)) : Option (Step I) :=
  (steps.filter (·.setsInput)).getLast?

/-- The runs after the latest operation that set the input. -/
def runsSinceInput (steps : List (Step I)) : List (Step I) :=
  (steps.rtakeWhile (fun s => !s.setsInput)).filter (·.isRun)

section
variable {steps : List (Step I)} {s : Step I}

theorem latestInput_of_sets (h : s.setsInput = true) : latestInput (steps ++ [s]) = some s := by
  simp [latestInput, h]

theorem latestInput_of_not_sets (h : s.setsInput = false) :
    latestInput (steps ++ [s]) = latestInput steps := by
  simp [latestInput, h]

theorem mem_of_latestInput (h : latestInput steps = some s) : s ∈ steps :=
  (List.mem_filter.mp (List.mem_of_getLast? h)).1

theorem sets_of_latestInput (h : latestInput steps = some s) : s.setsInput = true :=
  (List.mem_filter.mp (List.mem_of_getLast? h)).2

theorem runsSinceInput_of_sets (h : s.setsInput = true) : runsSinceInput (steps ++ [s]) = [] := by
  simp [runsSinceInput, h]

theorem runsSinceInput_of_run (h : s.setsInput = false) (hrun : s.isRun = true) :
    runsSinceInput (steps ++ [s]) = runsSinceInput steps ++ [s] := by
  simp [runsSinceInput, h, hrun]

theorem runsSinceInput_of_other (h : s.setsInput = false) (hrun : s.isRun = false) :
    runsSinceInput (steps ++ [s]) = runsSinceInput steps := by
  simp [runsSinceInput, h, hrun]

end

/-- The life of a model as it went. -/
structure Life (I : Interface) (μ : Type) where
  /-- What was exchanged while building. -/
  building : List (Exchange I)
  /-- The operations on the model, when there was one. -/
  steps : List (Step I)
  /-- The model as it was after the operations, or why there was none. -/
  model : Except Report μ
  /-- What was exchanged while dropping. -/
  dropping : List (Exchange I)

/-- All exchanges of a life. -/
def Life.exchanges (l : Life I μ) : List (Exchange I) :=
  l.building ++ l.steps.flatMap (·.exchanges) ++ l.dropping

/-- The exchanges up to the time when `k` operations had been carried out. -/
def Life.exchangesUpTo (l : Life I μ) (k : Nat) : List (Exchange I) :=
  l.building ++ (l.steps.take k).flatMap (·.exchanges)

/-- How the models of an engine are built, used and dropped. -/
structure Lifecycle (I : Interface) (σ μ : Type) where
  build : Drive I σ (Except Report μ)
  operate : μ → Operation → Drive I σ (Outcome × μ)
  drop : μ → Drive I σ Unit

namespace Lifecycle

/-- Carries out operations on a model, one after the other. -/
def carryOut (L : Lifecycle I σ μ) (m : μ) : List Operation → Drive I σ (List (Step I) × μ)
  | [] => pure ([], m)
  | operation :: rest => do
      let ((outcome, m), exchanges) ← (L.operate m operation).recorded
      let (steps, m) ← L.carryOut m rest
      return ({ operation, outcome, exchanges } :: steps, m)

/-- Builds a model, carries out operations on it, and drops it. -/
def life (L : Lifecycle I σ μ) (operations : List Operation) : Drive I σ (Life I μ) := do
  let (built, building) ← L.build.recorded
  match built with
  | .error report => return { building, steps := [], model := .error report, dropping := [] }
  | .ok m =>
      let (steps, m) ← L.carryOut m operations
      let ((), dropping) ← (L.drop m).recorded
      return { building, steps, model := .ok m, dropping }

end Lifecycle

/-! ## §3. Runs -/

/-- What a single operation can do: `T m operation xs outcome m'` says that `operation` can turn
the model `m` into `m'`, with the exchanges `xs` and the given outcome. -/
abbrev Transitions (I : Interface) (μ : Type) :=
  μ → Operation → List (Exchange I) → Outcome → μ → Prop

/-- The models that a list of operations can lead to. -/
inductive Reaches (T : Transitions I μ) (m₀ : μ) : List (Step I) → μ → Prop
  | start : Reaches T m₀ [] m₀
  | step {steps : List (Step I)} {m m' : μ} {s : Step I} (before : Reaches T m₀ steps m)
      (last : T m s.operation s.exchanges s.outcome m') : Reaches T m₀ (steps ++ [s]) m'

namespace Reaches

variable {T : Transitions I μ}

/-- A run that is cut in two has a model at the cut. -/
theorem split {m₀ m : μ} {steps : List (Step I)} (h : Reaches T m₀ steps m) :
    ∀ {before after : List (Step I)}, steps = before ++ after →
      ∃ m₁, Reaches T m₀ before m₁ ∧ Reaches T m₁ after m := by
  induction h with
  | start =>
    intro before after hcut
    obtain ⟨rfl, rfl⟩ := List.append_eq_nil_iff.mp hcut.symm
    exact ⟨m₀, .start, .start⟩
  | @step steps m m' last hbefore hlast ih =>
    intro before after hcut
    -- The cut is behind the last operation, or it cuts the run before that.
    rcases List.eq_nil_or_concat after with rfl | ⟨after', t, rfl⟩
    · rw [List.append_nil] at hcut
      subst hcut
      exact ⟨m', hbefore.step hlast, .start⟩
    · rw [List.concat_eq_append, ← List.append_assoc] at hcut
      obtain ⟨hsteps, hcell⟩ := List.append_inj' hcut rfl
      obtain rfl : last = t := by simpa using hcell
      obtain ⟨m₁, hhead, htail⟩ := ih hsteps
      exact ⟨m₁, hhead, by rw [List.concat_eq_append]; exact htail.step hlast⟩

/-- A run of one operation is one transition. -/
theorem of_singleton {m m' : μ} {s : Step I} (h : Reaches T m [s] m') :
    T m s.operation s.exchanges s.outcome m' := by
  generalize hsteps : [s] = steps at h
  cases h with
  | start => simp at hsteps
  | @step steps m₁ m' last hbefore hlast =>
    -- One operation leaves no room for others before it.
    obtain ⟨hnil, rfl⟩ : steps = [] ∧ last = s := by
      cases steps with
      | nil => simpa using hsteps.symm
      | cons t rest => simp at hsteps
    subst hnil
    generalize hearlier : ([] : List (Step I)) = earlier at hbefore
    cases hbefore with
    | start => exact hlast
    | step => simp at hearlier

/-- At each operation of a run there was a model that it was carried out on. -/
theorem at_step {m₀ m : μ} {before after : List (Step I)} {s : Step I}
    (h : Reaches T m₀ (before ++ s :: after) m) :
    ∃ m₁ m₂, Reaches T m₀ before m₁ ∧ T m₁ s.operation s.exchanges s.outcome m₂ := by
  obtain ⟨m₁, hbefore, hrest⟩ := h.split rfl
  obtain ⟨m₂, hs, -⟩ := hrest.split (List.singleton_append).symm
  exact ⟨m₁, m₂, hbefore, hs.of_singleton⟩

end Reaches

/-- The lives that models can have: `B` says how building can go, `T` what a single operation
can do, and `D` how dropping can go. -/
inductive Lived (B : Except Report μ → List (Exchange I) → Prop) (T : Transitions I μ)
    (D : μ → List (Exchange I) → Prop) (operations : List Operation) : Life I μ → Prop
  | unbuilt {report : Report} {xs : List (Exchange I)} (building : B (.error report) xs) :
      Lived B T D operations ⟨xs, [], .error report, []⟩
  | built {m₀ m : μ} {xs ys : List (Exchange I)} {steps : List (Step I)}
      (building : B (.ok m₀) xs) (run : Reaches T m₀ steps m)
      (complete : steps.map (·.operation) = operations) (dropping : D m ys) :
      Lived B T D operations ⟨xs, steps, .ok m, ys⟩

/-- In a life that has an operation the model was built, and there was a model that the operation
was carried out on. -/
theorem Lived.at_step {B : Except Report μ → List (Exchange I) → Prop} {T : Transitions I μ}
    {D : μ → List (Exchange I) → Prop} {operations : List Operation} {l : Life I μ}
    (h : Lived B T D operations l) {before after : List (Step I)} {s : Step I}
    (hsteps : l.steps = before ++ s :: after) :
    ∃ m₀ m m', B (.ok m₀) l.building ∧ Reaches T m₀ before m ∧
      T m s.operation s.exchanges s.outcome m' := by
  cases h with
  | unbuilt => cases List.nil_eq_append_iff.mp hsteps |>.2
  | @built m₀ _ _ _ _ hbuilding hrun =>
    subst hsteps
    obtain ⟨m, m', hbefore, hs⟩ := hrun.at_step
    exact ⟨m₀, m, m', hbuilding, hbefore, hs⟩

/-- In a life that ends with a model, the model was built and its operations led to the last one. -/
theorem Lived.of_model {B : Except Report μ → List (Exchange I) → Prop} {T : Transitions I μ}
    {D : μ → List (Exchange I) → Prop} {operations : List Operation} {l : Life I μ} {m : μ}
    (h : Lived B T D operations l) (hm : l.model = .ok m) :
    ∃ m₀, B (.ok m₀) l.building ∧ Reaches T m₀ l.steps m := by
  cases h with
  | unbuilt => cases hm
  | built hbuilding hrun =>
    cases hm
    exact ⟨_, hbuilding, hrun⟩

namespace Lifecycle

variable {L : Lifecycle I σ μ} {B : Except Report μ → List (Exchange I) → Prop}
  {T : Transitions I μ} {D : μ → List (Exchange I) → Prop}

/-- Operations carried out after a run continue it. -/
theorem carryOut_satisfies
    (hT : ∀ m operation, (L.operate m operation).Satisfies (fun r xs => T m operation xs r.1 r.2))
    {m₀ : μ} (operations : List Operation) : ∀ {before : List (Step I)} {m : μ},
      Reaches T m₀ before m →
      (L.carryOut m operations).Satisfies (fun r xs => Reaches T m₀ (before ++ r.1) r.2 ∧
        r.1.map (·.operation) = operations ∧ r.1.flatMap (·.exchanges) = xs) := by
  induction operations with
  | nil =>
    intro before m hbefore
    exact .pure ⟨by rwa [List.append_nil], rfl, rfl⟩
  | cons operation rest ih =>
    intro before m hbefore
    apply (hT m operation).recorded.bind
    intro r xs hr
    obtain ⟨⟨outcome, m'⟩, exchanges⟩ := r
    obtain ⟨hxs, hlast⟩ := hr
    obtain rfl : exchanges = xs := hxs
    -- This operation is the last one of the run so far, and the rest goes on from there.
    have hafter : Reaches T m₀ (before ++ [⟨operation, outcome, exchanges⟩]) m' :=
      hbefore.step hlast
    apply (ih hafter).bind
    intro r ys hr
    obtain ⟨steps, m''⟩ := r
    obtain ⟨hrun, hops, hys⟩ := hr
    refine .pure ⟨?_, ?_, ?_⟩
    · rw [List.append_assoc] at hrun
      exact hrun
    · exact congrArg (operation :: ·) hops
    · show exchanges ++ steps.flatMap (·.exchanges) = exchanges ++ (ys ++ [])
      rw [hys, List.append_nil]

/-- From the specifications of building, of one operation and of dropping, that of a life. -/
theorem life_satisfies (hB : L.build.Satisfies B)
    (hT : ∀ m operation, (L.operate m operation).Satisfies (fun r xs => T m operation xs r.1 r.2))
    (hD : ∀ m, (L.drop m).Satisfies (fun _ xs => D m xs)) (operations : List Operation) :
    (L.life operations).Satisfies (fun l xs => l.exchanges = xs ∧ Lived B T D operations l) := by
  apply hB.recorded.bind
  intro r xs hr
  obtain ⟨built, building⟩ := r
  obtain ⟨hxs, hbuilt⟩ := hr
  obtain rfl : building = xs := hxs
  cases built with
  | error report =>
    -- There is no model to operate on, and building has dropped what there was.
    exact .pure ⟨by simp [Life.exchanges], .unbuilt hbuilt⟩
  | ok m₀ =>
    apply (carryOut_satisfies hT operations .start).bind
    intro r ys hr
    obtain ⟨steps, m⟩ := r
    obtain ⟨hrun, hops, hys⟩ := hr
    apply (hD m).recorded.bind
    intro r zs hr
    obtain ⟨⟨⟩, dropping⟩ := r
    obtain ⟨hzs, hdropped⟩ := hr
    obtain rfl : dropping = zs := hzs
    refine .pure ⟨?_, .built hbuilt hrun hops hdropped⟩
    show building ++ steps.flatMap (·.exchanges) ++ dropping = building ++ (ys ++ (dropping ++ []))
    rw [hys, List.append_nil, List.append_assoc]

end Lifecycle

end ModelAdapter
