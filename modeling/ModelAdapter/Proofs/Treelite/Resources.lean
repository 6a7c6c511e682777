import ModelAdapter.Proofs.Treelite.History

/-! # Handles are released

A session asks the engine for two kinds of handles: one predictor, and a batch for
each input.  This module proves the protocol that a session keeps, whatever the
engine replies and whatever operations there are:

  * the predictor is loaded first, and when that succeeds it is freed last, once;
  * in between, every batch that is assembled is deleted once, later, and nothing
    else is deleted;
  * between two operations at most the batch of the latest input is not deleted;
  * every prediction is made by the loaded predictor for that batch.

An engine may give the same handle twice, so a batch is told from another by the
order in which they are assembled: the n-th deletion is that of the n-th batch
(`Held`).

The proof runs an automaton over the exchanges (`Keeps`).  Its state is the queue
of the batches that are not deleted, and the invariant that links it to the model
is that the queue holds the batch of the current input and nothing else
(`keeps_of_transition`).
-/

namespace ModelAdapter.Treelite

/-! ## §1. Batches in a trace -/

/-- The handle of a batch that was assembled. -/
def assembled? : Exchange interface → Option Handle
  | ⟨.assemble _, reply⟩ => (reply : Except Fault Handle).toOption
  | _ => none

/-- The handle of a batch whose deletion was asked for, granted or not. -/
def deleted? : Exchange interface → Option Handle
  | ⟨.delete batch, _⟩ => some batch
  | _ => none

/-- The batches that were assembled, in their order. -/
def assembled (xs : List (Exchange interface)) : List Handle := xs.filterMap assembled?

/-- The batches whose deletion was asked for, in their order. -/
def deleted (xs : List (Exchange interface)) : List Handle := xs.filterMap deleted?

/-- The batches that were assembled and not deleted, when deletions come in the order of the
batches. -/
def outstanding (xs : List (Exchange interface)) : List Handle :=
  (assembled xs).drop (deleted xs).length

/-- The batch of the latest operation that set the input, if there was one. -/
def latestBatch (steps : List (Step interface)) : List Handle :=
  ((currentInput steps).map (·.batch)).toList

/-! ## §2. The protocol -/

/-- What is exchanged while a predictor is held. -/
structure Held (predictor : Handle) (xs : List (Exchange interface)) : Prop where
  /-- Nothing is loaded. -/
  not_loaded : ∀ x ∈ xs, ∀ library threads, x.call ≠ Call.load library threads
  /-- Nothing is freed. -/
  not_freed : ∀ x ∈ xs, ∀ other, x.call ≠ Call.free other
  /-- At any time, the deletions so far are those of the first batches so far. -/
  in_order : ∀ ys, ys <+: xs → deleted ys <+: assembled ys
  /-- In the end, all batches are deleted. -/
  settled : deleted xs = assembled xs
  /-- Every prediction is made by this predictor for the one batch that is not deleted. -/
  predicts_live : ∀ ys x zs, xs = ys ++ x :: zs →
    ∀ other batch verbose margin slots,
      x.call = Call.predictBatch other batch verbose margin slots →
        other = predictor ∧ outstanding ys = [batch]

/-- What is exchanged in a whole session. -/
inductive ResourceProtocol (library : Path) (threads : Int32) :
    List (Exchange interface) → Prop
  /-- If the predictor cannot be loaded, nothing else is asked. -/
  | refused (fault : Fault) : ResourceProtocol library threads
      [⟨Call.load library threads, (.error fault : Except Fault Handle)⟩]
  /-- If it can, the last call frees it, granted or not. -/
  | held {predictor : Handle} {xs : List (Exchange interface)} (holds : Held predictor xs)
      (freed : Except Fault Unit) : ResourceProtocol library threads
      (⟨Call.load library threads, (.ok predictor : Except Fault Handle)⟩
        :: xs ++ [⟨Call.free predictor, freed⟩])

/-! ## §3. The queue of batches -/

/-- Exchanges that neither make nor delete a batch, nor use one. -/
inductive Idle (predictor : Handle) : Exchange interface → Prop
  | numFeature (reply : Except Fault Nat) : Idle predictor ⟨Call.numFeature predictor, reply⟩
  | numOutputGroup (reply : Except Fault Nat) :
      Idle predictor ⟨Call.numOutputGroup predictor, reply⟩
  | predictInst (entries : List Entry) (margin : Bool) (slots : List Binary32)
      (reply : Except Fault Nat) :
      Idle predictor ⟨Call.predictInst predictor entries margin slots, reply⟩
  | notAssembled (matrix : Csr) (fault : Fault) :
      Idle predictor ⟨Call.assemble matrix, (.error fault : Except Fault Handle)⟩

/-- One step of the automaton: which exchange is right, and what it makes of the queue of batches
that are not deleted, the oldest first. -/
inductive Advances (predictor : Handle) :
    List Handle → Exchange interface → List Handle → Prop
  | idles {x : Exchange interface} (idle : Idle predictor x) (live : List Handle) :
      Advances predictor live x live
  | assembles (matrix : Csr) (batch : Handle) (live : List Handle) :
      Advances predictor live ⟨Call.assemble matrix, (.ok batch : Except Fault Handle)⟩
        (live ++ [batch])
  | deletes (batch : Handle) (reply : Except Fault Unit) (live : List Handle) :
      Advances predictor (batch :: live) ⟨Call.delete batch, reply⟩ live
  | predicts (batch : Handle) (verbose margin : Bool) (slots : List Binary32)
      (reply : Except Fault Nat × List Binary32) :
      Advances predictor [batch]
        ⟨Call.predictBatch predictor batch verbose margin slots, reply⟩ [batch]

/-- A run of the automaton. -/
inductive Keeps (predictor : Handle) :
    List Handle → List (Exchange interface) → List Handle → Prop
  | done (live : List Handle) : Keeps predictor live [] live
  | step {x : Exchange interface} {xs : List (Exchange interface)} {live mid live' : List Handle}
      (first : Advances predictor live x mid) (rest : Keeps predictor mid xs live') :
      Keeps predictor live (x :: xs) live'

/-- What was in the queue or comes into it leaves it or stays there. -/
theorem Advances.balance {predictor : Handle} {x : Exchange interface} {live live' : List Handle}
    (h : Advances predictor live x live') : live ++ assembled [x] = deleted [x] ++ live' := by
  cases h with
  | idles hidle live => cases hidle <;> exact List.append_nil _
  | assembles matrix batch live => rfl
  | deletes batch reply live => exact List.append_nil _
  | predicts batch verbose margin slots reply => rfl

/-- The predictor is held: nothing is loaded and nothing is freed. -/
theorem Advances.holds {predictor : Handle} {x : Exchange interface} {live live' : List Handle}
    (h : Advances predictor live x live') :
    (∀ library threads, x.call ≠ Call.load library threads) ∧
      ∀ other, x.call ≠ Call.free other := by
  cases h with
  | idles hidle live => cases hidle <;> exact ⟨nofun, nofun⟩
  | assembles | deletes | predicts => exact ⟨nofun, nofun⟩

namespace Keeps

variable {predictor : Handle} {xs ys : List (Exchange interface)} {live live' live'' : List Handle}

theorem append (hxs : Keeps predictor live xs live') (hys : Keeps predictor live' ys live'') :
    Keeps predictor live (xs ++ ys) live'' := by
  induction hxs with
  | done => exact hys
  | step hfirst _ ih => exact .step hfirst (ih hys)

theorem split (h : Keeps predictor live (xs ++ ys) live'') :
    ∃ live', Keeps predictor live xs live' ∧ Keeps predictor live' ys live'' := by
  induction xs generalizing live with
  | nil => exact ⟨live, .done live, h⟩
  | cons x xs ih =>
    cases h with
    | step hfirst hrest =>
      obtain ⟨live', hxs, hys⟩ := ih hrest
      exact ⟨live', .step hfirst hxs, hys⟩

/-- What was in the queue or came into it has left it or is still there. -/
theorem balance (h : Keeps predictor live xs live') :
    live ++ assembled xs = deleted xs ++ live' := by
  -- On the calls; each takes its own batch out of the queue or puts one into it.
  induction h with
  | done => simp [assembled, deleted]
  | @step x xs live mid live' hfirst _ ih =>
    calc live ++ assembled (x :: xs)
        = live ++ assembled [x] ++ assembled xs := by
          rw [List.append_assoc]
          exact congrArg (live ++ ·) (List.filterMap_append (l := [x]))
      _ = deleted [x] ++ (mid ++ assembled xs) := by rw [hfirst.balance, List.append_assoc]
      _ = deleted [x] ++ deleted xs ++ live' := by rw [ih, List.append_assoc]
      _ = deleted (x :: xs) ++ live' :=
          congrArg (· ++ live') (List.filterMap_append (l := [x])).symm

theorem outstanding_eq (h : Keeps predictor [] xs live) : outstanding xs = live := by
  have hbalance := h.balance
  rw [List.nil_append] at hbalance
  rw [outstanding, hbalance, List.drop_left]

theorem advances_of_mem (h : Keeps predictor live xs live') {x : Exchange interface}
    (hx : x ∈ xs) : ∃ mid mid', Advances predictor mid x mid' := by
  induction h with
  | done => cases hx
  | step hfirst _ ih =>
    rcases List.mem_cons.mp hx with rfl | hrest
    · exact ⟨_, _, hfirst⟩
    · exact ih hrest

end Keeps

/-- A trace that leads from the empty queue back to it keeps the protocol. -/
theorem held_of_keeps {predictor : Handle} {xs : List (Exchange interface)}
    (h : Keeps predictor [] xs []) : Held predictor xs where
  not_loaded := by
    intro x hx
    obtain ⟨_, _, hadvances⟩ := h.advances_of_mem hx
    exact hadvances.holds.1
  not_freed := by
    intro x hx
    obtain ⟨_, _, hadvances⟩ := h.advances_of_mem hx
    exact hadvances.holds.2
  in_order := by
    intro ys hys
    obtain ⟨zs, rfl⟩ := hys
    obtain ⟨live, hkeeps, -⟩ := h.split
    exact ⟨live, hkeeps.balance.symm⟩
  settled := by
    have hbalance := h.balance
    rw [List.nil_append, List.append_nil] at hbalance
    exact hbalance.symm
  predicts_live := by
    -- A prediction advances the automaton only with one batch in the queue, which is its own.
    intro ys x zs hxs other batch verbose margin slots hcall
    subst hxs
    obtain ⟨live, hys, hzs⟩ := h.split
    rw [hys.outstanding_eq]
    cases hzs with
    | step hfirst hrest =>
      rcases hfirst with ⟨hidle, -⟩ | _ | _ | _
      · cases hidle <;> cases hcall
      · cases hcall
      · cases hcall
      · cases hcall
        exact ⟨rfl, rfl⟩

/-! ## §4. The model keeps the queue -/

/-- The queue that fits a model: the batch of its input, if it has one. -/
def Model.live (m : Model) : List Handle := (m.input.map (·.batch)).toList

/-- Releasing an input takes its batch from the front of the queue. -/
theorem keeps_of_released {predictor : Handle} {input : Option Input}
    {xs : List (Exchange interface)} (h : Released input xs) (live : List Handle) :
    Keeps predictor ((input.map (·.batch)).toList ++ live) xs live := by
  cases h with
  | nothing => exact .done live
  | batch input reply => exact .step (.deletes input.batch reply live) (.done live)

theorem keeps_of_queried {predictor : Handle} {result : Except Report Schema}
    {xs : List (Exchange interface)} (h : Queried predictor result xs) (live : List Handle) :
    Keeps predictor live xs live := by
  cases h with
  | noFeatures => exact .step (.idles (.numFeature _) live) (.done live)
  | noGroups =>
    exact .step (.idles (.numFeature _) live) (.step (.idles (.numOutputGroup _) live) (.done live))
  | noWidth | tooWide | known =>
    exact .step (.idles (.numFeature _) live) (.step (.idles (.numOutputGroup _) live)
      (.step (.idles (.predictInst _ _ _ _) live) (.done live)))

theorem keeps_of_setsInput {m m' : Model} {shape : List Int} {bytes : List UInt8}
    {xs : List (Exchange interface)} {result : Except Fault Unit}
    (h : SetsInput m shape bytes xs result m') :
    Keeps m.predictor m.live xs m'.live ∧ m'.predictor = m.predictor := by
  cases h with
  | refused => exact ⟨.done _, rfl⟩
  | notAssembled _ fault => exact ⟨.step (.idles (.notAssembled _ fault) _) (.done _), rfl⟩
  | @replaced matrix ys _ batch hreleased =>
    -- The new batch comes in behind the old one, which then leaves.
    exact ⟨.step (.assembles matrix batch m.live) (keeps_of_released hreleased [batch]), rfl⟩

theorem keeps_of_runs {m m' : Model} {xs : List (Exchange interface)}
    {result : Except Fault Unit} (h : Runs m xs result m') :
    Keeps m.predictor m.live xs m'.live ∧ m'.predictor = m.predictor := by
  cases h with
  | noInput => exact ⟨.done _, rfl⟩
  | @predicted input hset result left =>
    have hlive : m.live = [input.batch] := by simp [Model.live, hset]
    refine ⟨?_, rfl⟩
    show Keeps m.predictor m.live _ m.live
    rw [hlive]
    -- The queue holds the batch of the input and no other, as a prediction needs.
    exact .step (.predicts input.batch false false (m.slots input) _) (.done _)

/-- **One operation** leads from the queue that fits the model before to the one that fits the
model after. -/
theorem keeps_of_transition {m m' : Model} {operation : Operation}
    {xs : List (Exchange interface)} {outcome : Outcome}
    (h : Transition m operation xs outcome m') :
    Keeps m.predictor m.live xs m'.live ∧ m'.predictor = m.predictor := by
  cases h with
  | asked => exact ⟨.done _, rfl⟩
  | setInput hsets => exact keeps_of_setsInput hsets
  | setInputFloats hsets => exact keeps_of_setsInput hsets
  | run hruns => exact keeps_of_runs hruns
  | setNumThreads => exact ⟨.done _, rfl⟩
  | useCpuAffinity => exact ⟨.done _, rfl⟩

/-- **A run** does so too. -/
theorem keeps_of_reaches {m₀ m : Model} {steps : List (Step interface)}
    (h : Reaches Transition m₀ steps m) :
    Keeps m₀.predictor m₀.live (steps.flatMap (·.exchanges)) m.live ∧
      m.predictor = m₀.predictor := by
  induction h with
  | start => exact ⟨.done _, rfl⟩
  | step hbefore hlast ih =>
    obtain ⟨hkeeps, hpredictor⟩ := ih
    obtain ⟨hlast, hpredictor'⟩ := keeps_of_transition hlast
    rw [hpredictor] at hlast hpredictor'
    refine ⟨?_, hpredictor'⟩
    rw [List.flatMap_append, List.flatMap_singleton]
    exact hkeeps.append hlast

/-! ## §5. Whose batch it is -/

/-- An operation that sets the input assembles one batch. -/
theorem assembled_of_sets {m m' : Model} {s : Step interface}
    (h : Transition m s.operation s.exchanges s.outcome m') (hsets : s.setsInput = true) :
    ∃ batch, assembled s.exchanges = [batch] := by
  obtain ⟨_, matrix, batch, xs, -, -, hxs, hreleased, -⟩ := setsInput_inv h hsets
  have hnone : assembled xs = [] := by
    generalize m.input = input at hreleased
    cases hreleased <;> rfl
  refine ⟨batch, ?_⟩
  rw [hxs]
  exact congrArg (batch :: ·) hnone

/-- After a run that started without an input, the queue that fits the model holds the batch of
the latest operation that set the input. -/
theorem live_eq_latestBatch {m₀ m : Model} {steps : List (Step interface)}
    (h : Recalls m₀ steps m) : m.live = latestBatch steps := by
  rw [Model.live, h.input, latestBatch]

/-! ## §6. Whole sessions -/

theorem outstanding_append_free (xs : List (Exchange interface)) (predictor : Handle)
    (freed : Except Fault Unit) :
    outstanding (xs ++ [⟨Call.free predictor, freed⟩]) = outstanding xs := by
  have hassembled : assembled (xs ++ [⟨Call.free predictor, freed⟩]) = assembled xs :=
    List.filterMap_append.trans (List.append_nil _)
  have hdeleted : deleted (xs ++ [⟨Call.free predictor, freed⟩]) = deleted xs :=
    List.filterMap_append.trans (List.append_nil _)
  rw [outstanding, hassembled, hdeleted, outstanding]

/-- What dropping a model exchanges, from the queue that fits the model. -/
theorem keeps_of_closed {predictor : Handle} {input : Option Input}
    {xs : List (Exchange interface)} (h : Closed input predictor xs) :
    ∃ ys freed, xs = ys ++ [⟨Call.free predictor, freed⟩] ∧
      Keeps predictor (input.map (·.batch)).toList ys [] := by
  obtain ⟨hreleased, reply⟩ := h
  refine ⟨_, reply, rfl, ?_⟩
  have hkeeps : Keeps predictor _ _ [] := keeps_of_released hreleased []
  rwa [List.append_nil] at hkeeps

/-- The trace of a life: the load that was refused, or what was exchanged between loading and
freeing. -/
theorem keeps_of_lived {artifact : Artifact} {device : Device} {threads : Int32}
    {operations : List Operation} {l : Life interface Model}
    (h : LivedModel artifact device threads operations l) :
    (∃ fault, l.exchanges =
        [⟨Call.load artifact.modelLib threads, (.error fault : Except Fault Handle)⟩]) ∨
      ∃ predictor xs freed, l.exchanges =
          ⟨Call.load artifact.modelLib threads, (.ok predictor : Except Fault Handle)⟩
            :: xs ++ [⟨Call.free predictor, freed⟩] ∧
        Keeps predictor [] xs [] := by
  cases h with
  | unbuilt hbuilding =>
    cases hbuilding with
    | notLoaded fault => exact .inl ⟨fault, rfl⟩
    | notQueried hqueried hclosed =>
      obtain ⟨ys, freed, rfl, hys⟩ := keeps_of_closed hclosed
      refine .inr ⟨_, _, freed, ?_, (keeps_of_queried hqueried []).append hys⟩
      simp [Life.exchanges]
  | built hbuilding hrun hops hclosed =>
    cases hbuilding with
    | @ready predictor _ _ hqueried =>
      obtain ⟨hsteps, hpredictor⟩ := keeps_of_reaches hrun
      obtain ⟨ys, freed, rfl, hys⟩ := keeps_of_closed hclosed
      -- The queue that fits the last model is the one that dropping it empties.
      rw [hpredictor] at hys ⊢
      refine .inr ⟨predictor, _, freed, ?_,
        ((keeps_of_queried hqueried []).append hsteps).append hys⟩
      simp [Life.exchanges]

/-- The batches that are not deleted between two operations. -/
theorem outstanding_of_lived {artifact : Artifact} {device : Device} {threads : Int32}
    {operations : List Operation} {l : Life interface Model}
    (h : LivedModel artifact device threads operations l) (k : Nat) :
    outstanding (l.exchangesUpTo k) = latestBatch (l.steps.take k) := by
  cases h with
  | @unbuilt report building hbuilding =>
    show outstanding (building ++ (([] : List (Step interface)).take k).flatMap (·.exchanges))
      = latestBatch (([] : List (Step interface)).take k)
    rw [List.take_nil, List.flatMap_nil, List.append_nil]
    cases hbuilding with
    | notLoaded fault => rfl
    | notQueried hqueried hclosed =>
      -- The half-built model has been given up by now, and it never had a batch.
      obtain ⟨ys, freed, rfl, hys⟩ := keeps_of_closed hclosed
      rw [← List.append_assoc]
      have hkeeps := (keeps_of_queried hqueried []).append hys
      exact (outstanding_append_free _ _ freed).trans hkeeps.outstanding_eq
  | @built m₀ m building dropping steps hbuilding hrun hops hclosed =>
    cases hbuilding with
    | ready hqueried =>
      -- The first `k` operations are a run of their own.
      obtain ⟨mid, hbefore, -⟩ := hrun.split (List.take_append_drop k steps).symm
      have hkeeps := (keeps_of_queried hqueried []).append (keeps_of_reaches hbefore).1
      have hrecalls := recalls_of_reaches hbefore rfl rfl rfl
      exact hkeeps.outstanding_eq.trans (live_eq_latestBatch hrecalls)

/-- **Handles are released.**  Whatever the engine replies and whatever the operations are, the
exchanges of a session keep the protocol; each operation that sets the input assembles one batch;
and when `k` operations have been carried out, the batch of the latest of them that set the input
is assembled and not deleted, and no other. -/
theorem life_keeps_resourceProtocol {σ : Type} (E : Engine interface σ) (engine : σ)
    (artifact : Artifact) (device : Device) (threads : Int32) (operations : List Operation) :
    let (l, w) := (lifecycle artifact device threads).life operations E (.start engine)
    w.exchanges = l.exchanges ∧
      ResourceProtocol artifact.modelLib threads w.exchanges ∧
      (∀ s ∈ l.steps, s.setsInput = true → ∃ batch, assembled s.exchanges = [batch]) ∧
      ∀ k, outstanding (l.exchangesUpTo k) = latestBatch (l.steps.take k) := by
  have h := life_lived E engine artifact device threads operations
  generalize (lifecycle artifact device threads).life operations E (.start engine) = r at h ⊢
  obtain ⟨l, w⟩ := r
  obtain ⟨hw, hlived⟩ := h
  refine ⟨hw, ?_, ?_, outstanding_of_lived hlived⟩
  · rw [hw]
    -- Either nothing was loaded, or the predictor was held until it was freed at the end.
    rcases keeps_of_lived hlived with ⟨fault, hxs⟩ | ⟨predictor, xs, freed, hxs, hkeeps⟩
    · rw [hxs]
      exact .refused fault
    · rw [hxs]
      exact .held (held_of_keeps hkeeps) freed
  · intro s hs hsets
    -- What an operation exchanges is told by the step that it is.
    obtain ⟨before, after, hcut⟩ := List.append_of_mem hs
    obtain ⟨_, _, _, -, -, hlast⟩ := hlived.at_step hcut
    exact assembled_of_sets hlast hsets

end ModelAdapter.Treelite
