import ModelAdapter.Proofs.Lockstep

/-! # Sessions seen from below

When an engine is reached through another one, each of its calls becomes some calls
of that other engine.  A session can then be told by what arrives there: this module
carries a session out once more, with the exchanges below on record instead of
those above, and shows that it is the same session.

  * **Computations** (`Drive.through`): the same computation, seen from below.
  * **Sessions** (`Lifecycle.life_through`): the same operations have the same
    outcomes, the engine below is asked the same, and the same events are logged, if
    no computation looks at what was exchanged above (`SameBelow`).
-/

namespace ModelAdapter

variable {I J : Interface} {σ α μ : Type} {serve : (call : I.Call) → Drive J σ (I.Reply call)}
  {E : Engine J σ}

open Drive (Matches Recorded)

/-! ## §1. Computations -/

/-- A computation over an engine that is reached through another one, as a computation over that
other engine. -/
def Drive.through (serve : (call : I.Call) → Drive J σ (I.Reply call))
    (d : Drive I (World J σ) α) : Drive J σ α := fun E w =>
  let (a, above) :=
    d (Engine.over serve E) { engine := { w with events := [] }, events := w.events }
  (a, { above.engine with events := above.events })

/-- Models whose engine is reached through another one, as models of that other engine. -/
def Lifecycle.through (serve : (call : I.Call) → Drive J σ (I.Reply call))
    (L : Lifecycle I (World J σ) μ) : Lifecycle J σ μ where
  build := L.build.through serve
  operate m operation := (L.operate m operation).through serve
  drop m := (L.drop m).through serve

/-- Two worlds that differ in what was exchanged above, and in nothing else; no event is logged
below. -/
structure SameBelow (above above' : World I (World J σ)) : Prop where
  engine : above.engine = above'.engine
  events : above.events = above'.events
  quiet : above.engine.events = []

/-- A world, and the world below it with the events of both. -/
structure SeenBelow (above : World I (World J σ)) (w : World J σ) : Prop where
  engine : above.engine = { w with events := [] }
  events : above.events = w.events

theorem SeenBelow.exchanges {above : World I (World J σ)} {w : World J σ} (h : SeenBelow above w) :
    above.engine.exchanges = w.exchanges := by
  rw [h.engine]

theorem SameBelow.ask {call : I.Call} (hquiet : ∀ w, (serve call E w).2.events = w.events) :
    Matches (Engine.over serve E) (Engine.over serve E) SameBelow Eq (Drive.ask call)
      (Drive.ask call) := by
  rintro ⟨below, xs, events⟩ ⟨_, ys, _⟩ ⟨rfl, rfl, hbelow⟩
  exact ⟨rfl, rfl, rfl, (hquiet below).trans hbelow⟩

theorem SameBelow.log (event : Event) :
    Matches (Engine.over serve E) (Engine.over serve E) SameBelow Eq (Drive.log event)
      (Drive.log event) := by
  rintro ⟨below, xs, events⟩ ⟨_, ys, _⟩ ⟨rfl, rfl, hbelow⟩
  exact ⟨rfl, rfl, rfl, hbelow⟩

/-- A computation that does not look at what was exchanged above is the same seen from below. -/
theorem matches_through {d : Drive I (World J σ) α}
    (hd : Matches (Engine.over serve E) (Engine.over serve E) SameBelow Eq d d) :
    Matches (Engine.over serve E) E SeenBelow (Recorded fun _ _ => True) d.recorded
      (d.through serve).recorded := by
  intro above w h
  obtain ⟨hresult, hengine, hevents, hquiet⟩ :=
    hd above { engine := { w with events := [] }, events := w.events }
      ⟨h.engine, h.events, congrArg World.events h.engine⟩
  -- No event is logged below, so to take those away changes nothing.
  have hsame {below : World J σ} (hbelow : below.events = []) :
      below = { below with events := [] } := by
    obtain ⟨engine, exchanges, events⟩ := below
    cases hbelow
    rfl
  exact ⟨⟨hresult, trivial⟩, hengine.trans (hsame (hengine ▸ hquiet)), hevents⟩

/-! ## §2. Sessions -/

/-- **A session seen from below** has the same operations with the same outcomes and ends with the
same model; the engine below is asked the same, and the same events are logged. -/
theorem Lifecycle.life_through {L : Lifecycle I (World J σ) μ}
    (hbuild : Matches (Engine.over serve E) (Engine.over serve E) SameBelow Eq L.build L.build)
    (hoperate : ∀ m operation, Matches (Engine.over serve E) (Engine.over serve E) SameBelow Eq
      (L.operate m operation) (L.operate m operation))
    (hdrop : ∀ m, Matches (Engine.over serve E) (Engine.over serve E) SameBelow Eq (L.drop m)
      (L.drop m)) (operations : List Operation) :
    Matches (Engine.over serve E) E SeenBelow (Life.Like fun _ _ => True) (L.life operations)
      ((L.through serve).life operations) :=
  life_matches trivial (matches_through hbuild)
    (fun m operation => matches_through (hoperate m operation))
    (fun m => matches_through (hdrop m)) operations

end ModelAdapter
