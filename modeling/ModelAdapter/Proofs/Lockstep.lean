import Mathlib.Data.List.Forall2
import ModelAdapter.Proofs.Session

/-! # Two engines in step

Whether an engine is reached in one way or in another should make no difference to
what drives it.  This module says so for any two engines of one interface: as long
as they give the same replies to the same calls, no computation can tell them apart.

  * **Computations** (`Drive.Matches`): from worlds that are related, two computations
    bring related results and lead to worlds that are related again.  There is one law
    for each way of putting computations together, as for `Drive.Satisfies`.
  * **Lives** (`Lifecycle.life_matches`): what holds for building, for one operation
    and for dropping holds for a whole session.
  * **Engines** (`InStep`): a relation between the states of two engines, after the
    calls so far, that makes them give the same reply and that the call keeps.
    Calls that are never made need not be answered alike (`admitted`).
  * **Agreement** (`Drive.Agrees`): over two engines in step, one computation brings the
    same result and leaves the worlds alike.
-/

namespace ModelAdapter

variable {I J : Interface} {σ τ α β γ δ μ : Type}

/-! ## §1. Computations -/

namespace Drive

/-- From related worlds, two computations bring related results and lead to related worlds. -/
def Matches (E : Engine I σ) (F : Engine J τ) (S : World I σ → World J τ → Prop)
    (Q : α → β → Prop) (d : Drive I σ α) (d' : Drive J τ β) : Prop :=
  ∀ w w', S w w' → Q (d E w).1 (d' F w').1 ∧ S (d E w).2 (d' F w').2

variable {E : Engine I σ} {F : Engine J τ} {S : World I σ → World J τ → Prop}

theorem Matches.pure {Q : α → β → Prop} {a : α} {b : β} (h : Q a b) :
    Matches E F S Q (Pure.pure a) (Pure.pure b) := by
  intro w w' hw
  exact ⟨h, hw⟩

theorem Matches.bind {P : α → β → Prop} {Q : γ → δ → Prop} {d : Drive I σ α} {d' : Drive J τ β}
    {f : α → Drive I σ γ} {f' : β → Drive J τ δ} (hd : Matches E F S P d d')
    (hf : ∀ a b, P a b → Matches E F S Q (f a) (f' b)) : Matches E F S Q (d >>= f) (d' >>= f') := by
  intro w w' hw
  obtain ⟨hresult, hworlds⟩ := hd w w' hw
  exact hf _ _ hresult _ _ hworlds

/-- Two computations that bring the same result, each followed by what that result leads to. -/
theorem Matches.bind_eq {Q : γ → δ → Prop} {d : Drive I σ α} {d' : Drive J τ α}
    {f : α → Drive I σ γ} {f' : α → Drive J τ δ} (hd : Matches E F S Eq d d')
    (hf : ∀ a, Matches E F S Q (f a) (f' a)) : Matches E F S Q (d >>= f) (d' >>= f') := by
  refine hd.bind ?_
  rintro a _ rfl
  exact hf a

/-- What two computations bring when their exchanges are recorded: the same result, and related
exchanges. -/
def Recorded (X : List (Exchange I) → List (Exchange J) → Prop)
    (r : α × List (Exchange I)) (r' : α × List (Exchange J)) : Prop :=
  r.1 = r'.1 ∧ X r.2 r'.2

theorem Matches.recorded {X : List (Exchange I) → List (Exchange J) → Prop} {d : Drive I σ α}
    {d' : Drive J τ α} (hd : Matches E F S Eq d d')
    (hX : ∀ w w', S w w' → X ((d E w).2.exchanges.drop w.exchanges.length)
      ((d' F w').2.exchanges.drop w'.exchanges.length)) :
    Matches E F S (Recorded X) d.recorded d'.recorded := by
  intro w w' h
  obtain ⟨hresult, hworlds⟩ := hd w w' h
  exact ⟨⟨hresult, hX w w' h⟩, hworlds⟩

/-- Logs an event, if there is one. -/
def logAny (event? : Option Event) : Drive I σ Unit :=
  match event? with
  | some event => log event
  | none => Pure.pure ()

theorem logAny_next (event? : Option Event) (E : Engine I σ) (w : World I σ) :
    (logAny event? E w).2 = { w with events := w.events ++ event?.toList } := by
  cases event? with
  | some event => rfl
  | none =>
    rw [Option.toList_none, List.append_nil]
    rfl

end Drive

/-! ## §2. Lives -/

/-- Two operations that are the same and have the same outcome, with related exchanges. -/
structure Step.Like (X : List (Exchange I) → List (Exchange J) → Prop) (s : Step I) (t : Step J) :
    Prop where
  operation : s.operation = t.operation
  outcome : s.outcome = t.outcome
  exchanges : X s.exchanges t.exchanges

/-- Two lives of the same operations and outcomes, and of the same model in the end, with related
exchanges. -/
structure Life.Like (X : List (Exchange I) → List (Exchange J) → Prop) (l : Life I μ)
    (l' : Life J μ) : Prop where
  building : X l.building l'.building
  steps : List.Forall₂ (Step.Like X) l.steps l'.steps
  model : l.model = l'.model
  dropping : X l.dropping l'.dropping

/-- Lives with the same exchanges are the same. -/
theorem Life.Like.eq {l l' : Life I μ} (h : l.Like Eq l') : l = l' := by
  have hsteps : l.steps = l'.steps := by
    refine List.forall₂_eq_eq_eq ▸ h.steps.imp ?_
    rintro ⟨_, _, _⟩ ⟨_, _, _⟩ ⟨rfl, rfl, rfl⟩
    rfl
  obtain ⟨building, steps, model, dropping⟩ := l
  obtain ⟨hbuilding, -, hmodel, hdropping⟩ := h
  cases hbuilding
  cases hsteps
  cases hmodel
  cases hdropping
  rfl

namespace Lifecycle

open Drive (Matches Recorded)

variable {E : Engine I σ} {F : Engine J τ} {S : World I σ → World J τ → Prop}
  {X : List (Exchange I) → List (Exchange J) → Prop} {L : Lifecycle I σ μ} {L' : Lifecycle J τ μ}

/-- Operations that match one by one match in a row. -/
theorem carryOut_matches
    (hoperate : ∀ m operation, Matches E F S (Recorded X) (L.operate m operation).recorded
      (L'.operate m operation).recorded) (operations : List Operation) :
    ∀ m, Matches E F S (fun r r' => List.Forall₂ (Step.Like X) r.1 r'.1 ∧ r.2 = r'.2)
      (L.carryOut m operations) (L'.carryOut m operations) := by
  induction operations with
  | nil =>
    intro m
    exact .pure ⟨.nil, rfl⟩
  | cons operation rest ih =>
    intro m
    apply (hoperate m operation).bind
    -- The same operation leaves the same model, which the rest goes on from.
    rintro ⟨⟨outcome, m'⟩, xs⟩ ⟨_, ys⟩ ⟨rfl, hexchanges⟩
    apply (ih m').bind
    rintro ⟨steps, last⟩ ⟨steps', _⟩ ⟨hsteps, rfl⟩
    exact .pure ⟨.cons ⟨rfl, rfl, hexchanges⟩ hsteps, rfl⟩

/-- From how building, one operation and dropping match, how lives do. -/
theorem life_matches (hnone : X [] [])
    (hbuild : Matches E F S (Recorded X) L.build.recorded L'.build.recorded)
    (hoperate : ∀ m operation, Matches E F S (Recorded X) (L.operate m operation).recorded
      (L'.operate m operation).recorded)
    (hdrop : ∀ m, Matches E F S (Recorded X) (L.drop m).recorded (L'.drop m).recorded)
    (operations : List Operation) :
    Matches E F S (Life.Like X) (L.life operations) (L'.life operations) := by
  apply hbuild.bind
  rintro ⟨built, xs⟩ ⟨_, ys⟩ ⟨rfl, hbuilding⟩
  cases built with
  | error report => exact .pure ⟨hbuilding, .nil, rfl, hnone⟩
  | ok m =>
    apply (carryOut_matches hoperate operations m).bind
    rintro ⟨steps, m'⟩ ⟨steps', _⟩ ⟨hsteps, rfl⟩
    apply (hdrop m').bind
    rintro ⟨⟨⟩, xs'⟩ ⟨⟨⟩, ys'⟩ ⟨-, hdropping⟩
    exact .pure ⟨hbuilding, hsteps, rfl, hdropping⟩

end Lifecycle

/-! ## §3. Engines -/

/-- Two engines give the same replies to admitted calls in states that are related, and each such
call leaves them in related states.  The relation may depend on the calls so far. -/
structure InStep (E : Engine I σ) (F : Engine I τ) (admitted : I.Call → Prop)
    (R : List I.Call → σ → τ → Prop) : Prop where
  reply : ∀ {calls : List I.Call} {a : σ} {b : τ} {call : I.Call}, R calls a b → admitted call →
    (E.respond call a).1 = (F.respond call b).1
  next : ∀ {calls : List I.Call} {a : σ} {b : τ} {call : I.Call}, R calls a b → admitted call →
    R (calls ++ [call]) (E.respond call a).2 (F.respond call b).2

/-- Two worlds in which the same was exchanged and logged, with engines in related states. -/
structure Alike (R : List I.Call → σ → τ → Prop) (w : World I σ) (w' : World I τ) : Prop where
  exchanges : w.exchanges = w'.exchanges
  events : w.events = w'.events
  engines : R w.calls w.engine w'.engine

theorem Alike.start {R : List I.Call → σ → τ → Prop} {a : σ} {b : τ} (h : R [] a b) :
    Alike R (.start a) (.start b) :=
  ⟨rfl, rfl, h⟩

/-! ## §4. Agreement -/

namespace Drive

/-- In worlds that are alike, two computations bring the same result, and they leave the worlds
alike. -/
def Agrees (E : Engine I σ) (F : Engine I τ) (R : List I.Call → σ → τ → Prop)
    (d : Drive I σ α) (d' : Drive I τ α) : Prop :=
  ∀ w w', Alike R w w' → (d E w).1 = (d' F w').1 ∧ Alike R (d E w).2 (d' F w').2

variable {E : Engine I σ} {F : Engine I τ} {admitted : I.Call → Prop}
  {R : List I.Call → σ → τ → Prop}

theorem Agrees.ask {call : I.Call} (hstep : InStep E F admitted R) (hcall : admitted call) :
    Agrees E F R (Drive.ask call) (Drive.ask call) := by
  intro w w' h
  have hreply : (E.respond call w.engine).1 = (F.respond call w'.engine).1 :=
    hstep.reply h.engines hcall
  refine ⟨hreply, ?_, h.events, ?_⟩
  · show w.exchanges ++ [⟨call, (E.respond call w.engine).1⟩]
      = w'.exchanges ++ [⟨call, (F.respond call w'.engine).1⟩]
    rw [h.exchanges, hreply]
  · have hcalls : (Drive.ask call E w).2.calls = w.calls ++ [call] := List.map_append
    rw [hcalls]
    exact hstep.next h.engines hcall

theorem Agrees.log (event : Event) : Agrees E F R (Drive.log event) (Drive.log event) := by
  intro w w' h
  exact ⟨rfl, h.exchanges, congrArg (· ++ [event]) h.events, h.engines⟩

theorem Agrees.recorded {d : Drive I σ α} {d' : Drive I τ α} (hd : Agrees E F R d d') :
    Matches E F (Alike R) (Recorded Eq) d.recorded d'.recorded := by
  apply Matches.recorded hd
  intro w w' h
  rw [(hd w w' h).2.exchanges, h.exchanges]

end Drive

/-- From the agreement in building, in one operation and in dropping, that in a life. -/
theorem Lifecycle.life_agrees {E : Engine I σ} {F : Engine I τ} {R : List I.Call → σ → τ → Prop}
    {L : Lifecycle I σ μ} {L' : Lifecycle I τ μ} (hbuild : Drive.Agrees E F R L.build L'.build)
    (hoperate : ∀ m operation, Drive.Agrees E F R (L.operate m operation) (L'.operate m operation))
    (hdrop : ∀ m, Drive.Agrees E F R (L.drop m) (L'.drop m)) (operations : List Operation) :
    Drive.Agrees E F R (L.life operations) (L'.life operations) := by
  intro w w' h
  obtain ⟨hlives, halike⟩ := life_matches rfl hbuild.recorded
    (fun m operation => (hoperate m operation).recorded) (fun m => (hdrop m).recorded)
    operations w w' h
  exact ⟨hlives.eq, halike⟩

end ModelAdapter
