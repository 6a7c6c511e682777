import ModelAdapter.Proofs.Treelite.Refusals

/-! # Refusals over a whole session

A model gives a batch back when it has a new one, and everything when it is dropped or
cannot be built.  The engine may refuse to take it.  Nobody can do anything about that
by then, so it is only logged; but the last error is overwritten, and the failure that
an operation is about to report must not be mixed up with it.

  * **Warnings** (`Warned`): one for each refusal to give something back, with the name
    of the C function and the text that was read right after it.
  * **Forgiving** (`forgiving`): the same session over an engine of which such a refusal
    is taken for a success.
  * **Sessions** (`refusals_accounted_for`): every failure of a session has its cause
    told right, and what is refused while tidying up makes no difference but for the
    warnings.
-/

namespace ModelAdapter.Treelite

open Drive (Matches Recorded)

/-! ## §1. Warnings -/

/-- The warnings that some calls lead to. -/
def warnings (xs : List (Exchange interface)) : List Event :=
  xs.flatMap (fun x => (warning? x.call x.reply).toList)

/-- The warnings that belong to what C functions were called: one for each refusal to give something
back, with the text that was read right after it. -/
inductive Warned : List (Exchange Abi.interface) → List Event → Prop
  | nil : Warned [] []
  | batch {batch : Handle} {status : Int32} {text : Option (List UInt8)}
      {ys : List (Exchange Abi.interface)} {events : List Event} (refused : status ≠ 0)
      (rest : Warned ys events) :
      Warned (⟨Abi.Call.delete batch, status⟩ :: ⟨Abi.Call.lastError, text⟩ :: ys)
        (.batchKept (.treelite "TreeliteDeleteSparseBatch" (errorText text)) :: events)
  | predictor {predictor : Handle} {status : Int32} {text : Option (List UInt8)}
      {ys : List (Exchange Abi.interface)} {events : List Event} (refused : status ≠ 0)
      (rest : Warned ys events) :
      Warned (⟨Abi.Call.free predictor, status⟩ :: ⟨Abi.Call.lastError, text⟩ :: ys)
        (.predictorKept (.treelite "TreelitePredictorFree" (errorText text)) :: events)
  /-- Anything else, which works or was not refused. -/
  | other {y : Exchange Abi.interface} {ys : List (Exchange Abi.interface)} {events : List Event}
      (other : y.call.Works ∨ Abi.status y.call y.reply = 0) (rest : Warned ys events) :
      Warned (y :: ys) events

/-- The warnings above are those that belong to the C functions below. -/
theorem Served.warned {xs : List (Exchange interface)} {ys : List (Exchange Abi.interface)}
    (h : Served xs ys) : Warned ys (warnings xs) := by
  induction h with
  | nil => exact .nil
  | @cons x xs chunk zs hfirst _ ih =>
    have hwarnings : warnings (x :: xs) = (warning? x.call x.reply).toList ++ warnings xs :=
      List.flatMap_cons
    rw [hwarnings]
    -- A call that was accepted says nothing of the kind, and one that was refused is followed by
    -- the text of its error.
    cases hfirst with
    | @accepted call reply answer haccepted hsilent =>
      have hnone : warning? call reply = none := by
        cases call <;> simp [warning?, hsilent]
      rw [hnone]
      exact .other (.inr haccepted) ih
    | @refused call reply answer hrefused text htold =>
      by_cases hworks : call.Works
      · rw [warning?_of_works hworks]
        exact .other (.inl (works_toAbi_iff.mpr hworks)) (.other (.inr rfl) ih)
      · -- What does not work gives something back.
        cases call with
        | delete batch =>
          simp only [warning?, htold]
          exact .batch hrefused ih
        | free predictor =>
          simp only [warning?, htold]
          exact .predictor hrefused ih
        | _ => exact absurd trivial hworks

section
variable {σ : Type}

theorem warnings_concat (xs : List (Exchange interface)) (x : Exchange interface) :
    warnings (xs ++ [x]) = warnings xs ++ (warning? x.call x.reply).toList := by
  simp [warnings]

theorem isKept_of_warning? {call : Call} {reply : Reply call} {event : Event}
    (h : warning? call reply = some event) : event.isKept = true := by
  cases call with
  | delete | free =>
    obtain ⟨fault, -, rfl⟩ := Option.map_eq_some_iff.mp h
    rfl
  | _ => cases h

/-- To give something back is one call, and the warning that it leads to, if any. -/
theorem giveBack_next (call : Call) (E : Engine interface σ) (w : World interface σ) :
    (giveBack call E w).2
      = { engine := (E.respond call w.engine).2
          exchanges := w.exchanges ++ [⟨call, (E.respond call w.engine).1⟩]
          events := w.events ++ (warning? call (E.respond call w.engine).1).toList } :=
  Drive.logAny_next _ E _

/-- The warnings logged are those that the calls lead to. -/
def Ledger (w : World interface σ) : Prop :=
  w.events.filter Event.isKept = warnings w.exchanges

/-- Nothing but a refusal to give something back leads to a warning. -/
theorem ledger_kept (E : Engine interface σ) :
    Matching E E (fun w w' => w = w' ∧ Ledger w) where
  work call hworks _ := by
    rintro w _ ⟨rfl, hw⟩
    refine ⟨rfl, rfl, ?_⟩
    -- A call that works leads to no warning, whatever the reply is.
    have hnone : warning? call (E.respond call w.engine).1 = none := warning?_of_works hworks _
    show w.events.filter Event.isKept = warnings (w.exchanges ++ [_])
    rw [warnings_concat]
    show w.events.filter Event.isKept
      = warnings w.exchanges ++ (warning? call (E.respond call w.engine).1).toList
    rw [hnone]
    exact hw.trans (List.append_nil _).symm
  giveBack call _ := by
    rintro w _ ⟨rfl, hw⟩
    refine ⟨rfl, rfl, ?_⟩
    rw [giveBack_next]
    show (w.events ++ _).filter Event.isKept = warnings (w.exchanges ++ [_])
    rw [warnings_concat, List.filter_append, hw]
    -- To give something back logs the warning that the reply leads to.
    refine congrArg (warnings w.exchanges ++ ·) ?_
    show (warning? call (E.respond call w.engine).1).toList.filter Event.isKept
      = (warning? call (E.respond call w.engine).1).toList
    cases hwarning : warning? call (E.respond call w.engine).1 with
    | none => rfl
    | some event => simp [isKept_of_warning? hwarning]
  log event hevent := by
    rintro w _ ⟨rfl, hw⟩
    refine ⟨rfl, rfl, ?_⟩
    show (w.events ++ [event]).filter Event.isKept = warnings w.exchanges
    rw [List.filter_append, List.filter_cons_of_neg (by simp [hevent]), List.filter_nil,
      List.append_nil]
    exact hw

/-! ## §2. Forgiving -/

/-- The reply with which something is taken to be given back, whether it was or not. -/
def forgive : (call : Call) → Reply call → Reply call
  | .delete _, _ => (.ok () : Except Fault Unit)
  | .free _, _ => (.ok () : Except Fault Unit)
  | _, reply => reply

/-- Serves a call by the same C functions, and takes a refusal to give something back for a
success. -/
def forgiving (call : Call) : Drive Abi.interface σ (Reply call) :=
  serve call >>= fun reply => pure (forgive call reply)

theorem forgive_of_works {call : Call} (h : call.Works) (reply : Reply call) :
    forgive call reply = reply := by
  cases call with
  | delete | free => exact h.elim
  | _ => rfl

theorem warning?_forgive (call : Call) (reply : Reply call) :
    warning? call (forgive call reply) = none := by
  cases call <;> rfl

/-- Two worlds over one engine that differ in the warnings, which only the first one has, and in
what was exchanged above. -/
structure Forgiven (w w' : World interface (World Abi.interface σ)) : Prop where
  engine : w.engine = w'.engine
  events : w'.events = w.events.filter (fun event => !event.isKept)

/-- Whether a refusal is forgiven makes no difference but for the warning. -/
theorem forgiven_kept (E : Engine Abi.interface σ) :
    Matching (binding E) (Engine.over forgiving E) Forgiven where
  work call hworks _ := by
    rintro ⟨below, xs, events⟩ ⟨_, ys, _⟩ ⟨rfl, rfl⟩
    exact ⟨(forgive_of_works hworks _).symm, rfl, rfl⟩
  giveBack call _ := by
    rintro ⟨below, xs, events⟩ ⟨_, ys, _⟩ ⟨rfl, rfl⟩
    refine ⟨rfl, ?_⟩
    rw [giveBack_next, giveBack_next]
    refine ⟨rfl, ?_⟩
    -- One side has the warning, if there is one, and it is filtered out.
    have hforgiven : warning? call (forgive call (serve call E below).1) = none :=
      warning?_forgive call _
    show _ ++ (warning? call (forgive call (serve call E below).1)).toList
      = (_ ++ (warning? call (serve call E below).1).toList).filter _
    rw [hforgiven, List.filter_append]
    cases hwarning : warning? call (serve call E below).1 with
    | none => simp
    | some event => simp [isKept_of_warning? hwarning]
  log event hevent := by
    rintro ⟨below, xs, events⟩ ⟨_, ys, _⟩ ⟨rfl, rfl⟩
    refine ⟨rfl, rfl, ?_⟩
    simp [Drive.log, hevent]

/-- Two worlds of C functions that differ in the warnings, which only the first one has. -/
def Spared (w w' : World Abi.interface σ) : Prop :=
  w' = { w with events := w.events.filter (fun event => !event.isKept) }

/-- A computation for which forgiving makes no difference above makes none below. -/
theorem spared_through {α : Type} {E : Engine Abi.interface σ}
    {d : Drive interface (World Abi.interface σ) α}
    (hd : Matches (binding E) (Engine.over forgiving E) Forgiven Eq d d) :
    Matches E E Spared (Recorded Eq) (d.through serve).recorded (d.through forgiving).recorded := by
  have hthrough : Matches E E Spared Eq (d.through serve) (d.through forgiving) := by
    rintro w _ rfl
    -- A world of C functions is the engine of a world above it that has the same events.
    let above : World interface (World Abi.interface σ) :=
      { engine := { w with events := [] }, events := w.events }
    let above' : World interface (World Abi.interface σ) :=
      { above with events := w.events.filter (fun event => !event.isKept) }
    obtain ⟨hresult, hengine, hevents⟩ := hd above above' ⟨rfl, rfl⟩
    refine ⟨hresult, ?_⟩
    show ({ (d (Engine.over forgiving E) above').2.engine with
        events := (d (Engine.over forgiving E) above').2.events } : World Abi.interface σ)
      = { (d (binding E) above).2.engine with
          events := (d (binding E) above).2.events.filter (fun event => !event.isKept) }
    rw [← hengine, hevents]
  apply hthrough.recorded
  rintro w _ rfl
  rw [(hthrough w _ rfl).2]

/-- Models for which forgiving makes no difference above have the same sessions below. -/
theorem life_spared {μ : Type} {E : Engine Abi.interface σ}
    {L : Lifecycle interface (World Abi.interface σ) μ}
    (hbuild : Matches (binding E) (Engine.over forgiving E) Forgiven Eq L.build L.build)
    (hoperate : ∀ m operation, Matches (binding E) (Engine.over forgiving E) Forgiven Eq
      (L.operate m operation) (L.operate m operation))
    (hdrop : ∀ m, Matches (binding E) (Engine.over forgiving E) Forgiven Eq (L.drop m) (L.drop m))
    (operations : List Operation) :
    Matches E E Spared (Life.Like Eq) ((L.through serve).life operations)
      ((L.through forgiving).life operations) :=
  Lifecycle.life_matches rfl (spared_through hbuild)
    (fun m operation => spared_through (hoperate m operation))
    (fun m => spared_through (hdrop m)) operations

end

/-! ## §3. Sessions -/

section
variable {σ : Type} {artifact : Artifact} (hpath : '\x00' ∉ artifact.modelLib.display.toList)
  (device : Device) (threads : Int32) (operations : List Operation)

/-- The models whose engine stands behind C functions, seen from there. -/
def abiLifecycle (artifact : Artifact) (device : Device) (threads : Int32) :
    Lifecycle Abi.interface σ Model :=
  (lifecycle artifact device threads).through serve

section
include hpath

/-- Each part of a session fails for a refused C function, the last one that works, or for good. -/
theorem lived_abi (E : Engine Abi.interface σ) (engine : σ) :
    let below := (abiLifecycle artifact device threads).life operations E (.start engine)
    below.2.exchanges = below.1.exchanges ∧
      Lived (fun built ys => Attributed (reported? built) ys)
        (fun _ _ ys outcome _ => Attributed (faultOf? outcome.result) ys)
        (fun _ ys => Attributed none ys) operations below.1 := by
  -- What each part exchanges above is blamed, and so is what it exchanges below.
  have hbuild : ((abiLifecycle (σ := σ) artifact device threads).build).Satisfies
      (fun built ys => Attributed (reported? built) ys) := by
    apply (through_satisfies (.of_matches (fun h => build_matches h hpath device threads))
      (build_satisfies artifact device threads)).imp
    rintro built ys ⟨xs, hbuilding, hserved⟩
    exact hserved.attributed (blamed_of_building hbuilding)
  have hoperate (m : Model) (operation : Operation) :
      ((abiLifecycle (σ := σ) artifact device threads).operate m operation).Satisfies
        (fun r ys => Attributed (faultOf? r.1.result) ys) := by
    apply (through_satisfies (.of_matches (fun h => operate_matches h m operation))
      (operate_satisfies m operation)).imp
    rintro r ys ⟨xs, htransition, hserved⟩
    exact hserved.attributed (blamed_of_transition htransition)
  have hdrop (m : Model) :
      ((abiLifecycle (σ := σ) artifact device threads).drop m).Satisfies
        (fun _ ys => Attributed none ys) := by
    apply (through_satisfies (.of_matches (fun h => drop_matches h m))
      (close_satisfies m.input m.predictor)).imp
    rintro _ ys ⟨xs, hclosed, hserved⟩
    have hnone : Blamed none ([] ++ xs) :=
      (@Blamed.model none [] nofun (by simp)).append (not_works_of_closed hclosed)
    exact hserved.attributed hnone
  obtain ⟨ys, hys, hl, hlived⟩ :=
    Lifecycle.life_satisfies (T := fun _ _ ys outcome _ => Attributed (faultOf? outcome.result) ys)
      hbuild hoperate hdrop operations E (.start engine)
  exact ⟨hys.trans hl.symm, hlived⟩

/-- A session is the same seen from the C functions. -/
theorem life_seenBelow (E : Engine Abi.interface σ) :
    Matches (binding E) E SeenBelow (Life.Like fun _ _ => True)
      ((lifecycle artifact device threads).life operations)
      ((abiLifecycle artifact device threads).life operations) := by
  have hsame : Matching (binding E) (binding E) SameBelow :=
    .of_steps (fun call _ => SameBelow.ask (events_serve call E)) SameBelow.log
  exact Lifecycle.life_through (L := lifecycle artifact device threads)
    (build_matches hsame hpath device threads) (operate_matches hsame) (drop_matches hsame)
    operations

/-- A session in which refusals to give something back are forgiven is the same but for the
warnings. -/
theorem life_forgiven (E : Engine Abi.interface σ) (engine : σ) :
    let below := (abiLifecycle artifact device threads).life operations E (.start engine)
    ((lifecycle artifact device threads).through forgiving).life operations E (.start engine)
      = (below.1,
        { below.2 with events := below.2.events.filter (fun event => !event.isKept) }) := by
  have hforgiven := forgiven_kept E
  -- The same computation over both engines, one of which is forgiven.
  have hlives : Matches E E Spared (Life.Like Eq)
      ((abiLifecycle artifact device threads).life operations)
      (((lifecycle artifact device threads).through forgiving).life operations) :=
    life_spared (build_matches hforgiven hpath device threads) (operate_matches hforgiven)
      (drop_matches hforgiven) operations
  obtain ⟨hlike, hspared⟩ := hlives (.start engine) (.start engine) rfl
  exact Prod.ext hlike.eq.symm hspared

/-- The warnings of a session are those that belong to what the C functions were called for. -/
theorem warned_abi (E : Engine Abi.interface σ) (engine : σ) :
    let below := (abiLifecycle artifact device threads).life operations E (.start engine)
    Warned below.1.exchanges (below.2.events.filter Event.isKept) := by
  intro below
  let start : World interface (World Abi.interface σ) := .start (.start engine)
  let above := (lifecycle artifact device threads).life operations (binding E) start
  have hledger : Ledger above.2 :=
    (life_like (ledger_kept (binding E)) hpath device threads operations start start
      ⟨rfl, rfl⟩).2.2
  obtain ⟨xs, ys, hxs, hys, hserved⟩ :=
    exists_served (.of_matches (fun h => life_like h hpath device threads operations)) E start
  have hwarned : Warned above.2.engine.exchanges (warnings above.2.exchanges) := by
    have hxs' : above.2.exchanges = xs := hxs
    have hys' : above.2.engine.exchanges = ys := hys
    rw [hxs', hys']
    exact hserved.warned
  -- What was exchanged and logged is that of the session below.
  have hbelow : SeenBelow above.2 below.2 :=
    (life_seenBelow hpath device threads operations E start (.start engine) ⟨rfl, rfl⟩).2
  have hcalls : above.2.engine.exchanges = below.1.exchanges :=
    hbelow.exchanges.trans (lived_abi hpath device threads operations E engine).1
  rw [← hledger, hcalls, hbelow.events] at hwarned
  exact hwarned

end

/-- **Refusals are accounted for.**  Whatever C functions an engine consists of, and whatever
operations there are, the session is cut below into what was called for building, for each operation
and for dropping.  A part of it fails with a recoverable fault exactly if a C function that works
returned a status other than 0; the fault has the name of that function and the text that was read
right after it, and no function that works was called after it.  Every other failure is fatal.  A
refusal to give something back leads to a warning with its name and text, and to nothing else: the
session in which it is forgiven has the same outcomes, the same model in the end, and the same calls
of C functions, and logs the same but for the warnings.  When a model is looked for in directories
first, the loading as a whole fails in the same two ways. -/
theorem refusals_accounted_for {artifact : Artifact}
    (hpath : '\x00' ∉ artifact.modelLib.display.toList)
    (device : Device) (threads : Int32) (operations : List Operation)
    (E : Engine Abi.interface σ) (engine : σ) :
    let above := (lifecycle artifact device threads).life operations (binding E)
      (.start (.start engine))
    let below := (abiLifecycle artifact device threads).life operations E (.start engine)
    (above.1.Like (fun _ _ => True) below.1 ∧ above.2.events = below.2.events ∧
      above.2.engine.exchanges = below.2.exchanges ∧ below.2.exchanges = below.1.exchanges) ∧
    (Attributed (reported? below.1.model) below.1.building ∧
      (∀ step ∈ below.1.steps, Attributed (faultOf? step.outcome.result) step.exchanges) ∧
      Attributed none below.1.dropping) ∧
    (∀ failure? ys, Attributed failure? ys →
      ((∃ fault, failure? = some fault ∧ fault.severity = .recoverable) ↔
        ∃ y ∈ ys, Abi.Refused y)) ∧
    Warned below.1.exchanges (below.2.events.filter Event.isKept) ∧
    ((lifecycle artifact device threads).through forgiving).life operations E (.start engine)
      = (below.1,
        { below.2 with events := below.2.events.filter (fun event => !event.isKept) }) ∧
    ∀ {ρ : Type} (m : Machine ρ σ) (engines : Engines ρ σ) (dirs : List Path) (config : Config),
      (∀ located, (locate m.files dirs).1 = .ok located →
        '\x00' ∉ located.modelLib.display.toList) →
      ∃ ys, (m.loadTreelite engines dirs device config).2.treelite.engine.exchanges
          = m.treelite.engine.exchanges ++ ys ∧
        Attributed (reported? (m.loadTreelite engines dirs device config).1) ys := by
  intro above below
  obtain ⟨hlike, hbelow⟩ : above.1.Like (fun _ _ => True) below.1 ∧ SeenBelow above.2 below.2 :=
    life_seenBelow hpath device threads operations E (.start (.start engine)) (.start engine)
      ⟨rfl, rfl⟩
  have hlived := (lived_abi hpath device threads operations E engine).2
  refine ⟨⟨hlike, hbelow.events, hbelow.exchanges,
    (lived_abi hpath device threads operations E engine).1⟩, ?_, fun _ _ h => h.recoverable_iff,
    warned_abi hpath device threads operations E engine,
    life_forgiven hpath device threads operations E engine,
    fun m engines dirs config hlocated =>
      m.loadTreelite_attributed engines dirs device config hlocated⟩
  change Lived _ _ _ _ below.1 at hlived
  generalize below.1 = session at hlived
  refine ⟨?_, ?_, ?_⟩
  · cases hlived with
    | unbuilt hbuilding => exact hbuilding
    | built hbuilding => exact hbuilding
  · intro step hstep
    obtain ⟨before, after, hcut⟩ := List.append_of_mem hstep
    obtain ⟨_, _, _, -, -, hattributed⟩ := hlived.at_step hcut
    exact hattributed
  · cases hlived with
    | unbuilt =>
      -- What was not built is not dropped, and nothing is called.
      exact .accepted nofun (by simp)
    | built _ _ _ hdropping => exact hdropping

end

/-- An engine that refuses the first prediction with a text, and the first batch that is given back
without one. -/
def stubborn : Script Script.Failure where
  schema := ⟨1, 1, 1⟩
  failures r :=
    match r with
    | .predictBatch => [some ⟨-1, some [0x6E, 0x6F]⟩]
    | .delete => [some ⟨-1, none⟩]
    | _ => []

/-- A new input after a refused prediction: the batch that it replaces is refused as well. -/
def newInputAfterRefusal : List Operation :=
  [.setInputFloats "data" [1, 1] [⟨0x3F800000⟩], .run,
    .setInputFloats "data" [1, 1] [⟨0x40000000⟩]]

/-- The refused prediction is a failure with its own text, and the refused batch only a warning. -/
theorem prediction_fails_and_batch_is_kept :
    let below := (abiLifecycle ⟨"model.so", none⟩ .cpu 1).life newInputAfterRefusal
      stubborn.exported (.start .start)
    below.1.steps.map (·.outcome)
      = [.ok .done, .error (.treelite "TreelitePredictorPredictBatch" "no"), .ok .done] ∧
    below.2.events.filter Event.isKept
      = [.batchKept (.treelite "TreeliteDeleteSparseBatch" "Unknown error")] ∧
    (∀ step ∈ below.1.steps, Attributed (faultOf? step.outcome.result) step.exchanges) ∧
    Warned below.1.exchanges (below.2.events.filter Event.isKept) := by
  have hpath : '\x00' ∉ (⟨"model.so", none⟩ : Artifact).modelLib.display.toList := by decide
  obtain ⟨-, ⟨-, hsteps, -⟩, -, hwarned, -⟩ :=
    refusals_accounted_for hpath .cpu 1 newInputAfterRefusal stubborn.exported .start
  exact ⟨rfl, rfl, hsteps, hwarned⟩

end ModelAdapter.Treelite
