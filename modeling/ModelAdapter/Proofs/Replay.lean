import ModelAdapter.Proofs.Session

/-! # Replaying exchanges

A computation learns nothing of its engine but the replies.  So an engine that gives
the replies of some exchanges to their calls can stand in for the one that they were
recorded with: what happened over the one happens again over the other.

The relations that say what a computation can do say it in terms of exchanges.  That
every result of it is among them is `Drive.Satisfies`; this module is about the other
direction, that everything they allow does happen.

  * **Engines** (`Engine.Replays`): an engine that gives these replies to these calls.
  * **Computations** (`Drive.Retraces`): over every such engine, this result comes out
    and there are these exchanges.  There is one law for each way of putting
    computations together.
  * **Lives** (`Lifecycle.life_retraces`): a life that the relations allow happens over
    every engine that replays its exchanges.
-/

namespace ModelAdapter

variable {I : Interface} {σ α β μ : Type}

/-! ## §1. Engines -/

/-- An engine in state `s` gives the replies of some exchanges to their calls, one after the other,
and is in state `t` then. -/
inductive Engine.Replays (E : Engine I σ) : σ → List (Exchange I) → σ → Prop
  | done (s : σ) : Engine.Replays E s [] s
  | step {s t : σ} {x : Exchange I} {xs : List (Exchange I)}
      (first : (E.respond x.call s).1 = x.reply)
      (rest : Engine.Replays E (E.respond x.call s).2 xs t) : Engine.Replays E s (x :: xs) t

namespace Engine.Replays

variable {E : Engine I σ} {s u : σ} {xs ys : List (Exchange I)}

/-- Replies to exchanges one after the other: first to some of them, then to what comes after. -/
theorem split (h : E.Replays s (xs ++ ys) u) : ∃ t, E.Replays s xs t ∧ E.Replays t ys u := by
  induction xs generalizing s with
  | nil => exact ⟨s, .done s, h⟩
  | cons x xs ih =>
    cases h with
    | step hfirst hrest =>
      obtain ⟨t, hxs, hys⟩ := ih hrest
      exact ⟨t, .step hfirst hxs, hys⟩

end Engine.Replays

/-! ## §2. Computations -/

namespace Drive

/-- Over every engine that replays the exchanges `xs`, and whatever happened before, the computation
brings `a`, and `xs` is what it exchanges. -/
def Retraces (d : Drive I σ α) (a : α) (xs : List (Exchange I)) : Prop :=
  ∀ (E : Engine I σ) (w : World I σ) (t : σ), E.Replays w.engine xs t →
    (d E w).1 = a ∧ (d E w).2.engine = t ∧ (d E w).2.exchanges = w.exchanges ++ xs

theorem Retraces.pure (a : α) : Retraces (σ := σ) (Pure.pure a : Drive I σ α) a [] := by
  intro E w t h
  cases h
  exact ⟨rfl, rfl, (List.append_nil _).symm⟩

theorem Retraces.log (event : Event) : Retraces (I := I) (σ := σ) (Drive.log event) () [] := by
  intro E w t h
  cases h
  exact ⟨rfl, rfl, (List.append_nil _).symm⟩

theorem Retraces.bind {d : Drive I σ α} {f : α → Drive I σ β} {a : α} {b : β}
    {xs ys : List (Exchange I)} (hd : d.Retraces a xs) (hf : (f a).Retraces b ys) :
    (d >>= f).Retraces b (xs ++ ys) := by
  intro E w u h
  obtain ⟨t, hxs, hys⟩ := h.split
  obtain ⟨hresult, hengine, hexchanges⟩ := hd E w t hxs
  -- The second computation starts where the replies to the first one have led the engine.
  rw [← hengine] at hys
  obtain ⟨hresult', hengine', hexchanges'⟩ := hf E (d E w).2 u hys
  show (f (d E w).1 E (d E w).2).1 = b ∧ (f (d E w).1 E (d E w).2).2.engine = u ∧
    (f (d E w).1 E (d E w).2).2.exchanges = w.exchanges ++ (xs ++ ys)
  rw [hresult]
  refine ⟨hresult', hengine', ?_⟩
  rw [hexchanges', hexchanges, List.append_assoc]

/-- A call, and then what its reply leads to. -/
theorem Retraces.ask_bind {call : I.Call} {reply : I.Reply call} {f : I.Reply call → Drive I σ β}
    {b : β} {ys : List (Exchange I)} (hf : (f reply).Retraces b ys) :
    (Drive.ask call >>= f).Retraces b (⟨call, reply⟩ :: ys) := by
  have hask : Retraces (σ := σ) (Drive.ask call) reply [⟨call, reply⟩] := by
    intro E w t h
    cases h with
    | step hfirst hrest =>
      cases hrest
      refine ⟨hfirst, rfl, ?_⟩
      show w.exchanges ++ [⟨call, (E.respond call w.engine).1⟩] = w.exchanges ++ [⟨call, reply⟩]
      rw [hfirst]
  exact hask.bind hf

theorem Retraces.log_bind {event : Event} {d : Drive I σ β} {b : β} {ys : List (Exchange I)}
    (hd : d.Retraces b ys) : (Drive.log event >>= fun _ => d).Retraces b ys :=
  (Retraces.log event).bind hd

/-- What comes last may take no call. -/
theorem Retraces.bind_last {d : Drive I σ α} {f : α → Drive I σ β} {a : α} {b : β}
    {xs : List (Exchange I)} (hd : d.Retraces a xs) (hf : (f a).Retraces b []) :
    (d >>= f).Retraces b xs := by
  have hbind := hd.bind hf
  rwa [List.append_nil] at hbind

theorem Retraces.recorded {d : Drive I σ α} {a : α} {xs : List (Exchange I)}
    (hd : d.Retraces a xs) : d.recorded.Retraces (a, xs) xs := by
  intro E w t h
  obtain ⟨hresult, hengine, hexchanges⟩ := hd E w t h
  refine ⟨?_, hengine, hexchanges⟩
  show ((d E w).1, (d E w).2.exchanges.drop w.exchanges.length) = (a, xs)
  rw [hresult, hexchanges, List.drop_left]

end Drive

/-! ## §3. Lives -/

namespace Reaches

variable {T : Transitions I μ} {m m' : μ}

theorem eq_of_nil (h : Reaches T m [] m') : m' = m := by
  generalize hsteps : ([] : List (Step I)) = steps at h
  cases h with
  | start => rfl
  | step => simp at hsteps

theorem of_cons {s : Step I} {steps : List (Step I)} (h : Reaches T m (s :: steps) m') :
    ∃ m₁, T m s.operation s.exchanges s.outcome m₁ ∧ Reaches T m₁ steps m' := by
  obtain ⟨m₁, hfirst, hrest⟩ := h.split (List.singleton_append).symm
  exact ⟨m₁, hfirst.of_singleton, hrest⟩

theorem append {m₁ : μ} {before after : List (Step I)} (hbefore : Reaches T m before m₁)
    (hafter : Reaches T m₁ after m') : Reaches T m (before ++ after) m' := by
  induction hafter with
  | start => rwa [List.append_nil]
  | step _ hlast ih =>
    rw [← List.append_assoc]
    exact ih.step hlast

end Reaches

namespace Lifecycle

variable {L : Lifecycle I σ μ} {B : Except Report μ → List (Exchange I) → Prop}
  {T : Transitions I μ} {D : μ → List (Exchange I) → Prop}

/-- A run happens again over every engine that replays its exchanges. -/
theorem carryOut_retraces
    (hT : ∀ {m operation xs outcome m'}, T m operation xs outcome m' →
      (L.operate m operation).Retraces (outcome, m') xs) {m' : μ} (steps : List (Step I)) :
    ∀ {m : μ}, Reaches T m steps m' →
      (L.carryOut m (steps.map (·.operation))).Retraces (steps, m')
        (steps.flatMap (·.exchanges)) := by
  induction steps with
  | nil =>
    intro m h
    rw [h.eq_of_nil]
    exact .pure _
  | cons s rest ih =>
    intro m h
    obtain ⟨m₁, hfirst, hrest⟩ := h.of_cons
    exact (hT hfirst).recorded.bind ((ih hrest).bind_last (.pure _))

/-- A life happens again over every engine that replays its exchanges. -/
theorem life_retraces (hB : ∀ {built xs}, B built xs → L.build.Retraces built xs)
    (hT : ∀ {m operation xs outcome m'}, T m operation xs outcome m' →
      (L.operate m operation).Retraces (outcome, m') xs)
    (hD : ∀ {m xs}, D m xs → (L.drop m).Retraces () xs) {operations : List Operation}
    {l : Life I μ} (h : Lived B T D operations l) : (L.life operations).Retraces l l.exchanges := by
  cases h with
  | @unbuilt report xs hbuilding =>
    have hexchanges : Life.exchanges (μ := μ) ⟨xs, [], .error report, []⟩ = xs := by
      simp [Life.exchanges]
    rw [hexchanges]
    exact (hB hbuilding).recorded.bind_last (.pure _)
  | @built m₀ m xs ys steps hbuilding hrun hops hdropping =>
    subst hops
    -- Building, operations and dropping each replay their own part of the record.
    have hexchanges : Life.exchanges ⟨xs, steps, .ok m, ys⟩
        = xs ++ (steps.flatMap (·.exchanges) ++ ys) := List.append_assoc ..
    rw [hexchanges]
    exact (hB hbuilding).recorded.bind
      ((carryOut_retraces hT steps hrun).bind ((hD hdropping).recorded.bind_last (.pure _)))

end Lifecycle

end ModelAdapter
