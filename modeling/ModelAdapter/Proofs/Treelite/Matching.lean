import ModelAdapter.Proofs.Lockstep
import ModelAdapter.Proofs.Treelite.Transitions

/-! # Models of two engines that match

A model works with its engine through calls whose replies decide what comes next.
With two more calls it gives back what it holds, a batch or the predictor; of their
replies it makes an event at most.  So whatever relates the worlds of two engines
relates the whole course of a model over them, as soon as a few steps keep it.

  * **Steps** (`Matching`): a call that works, the giving back of a batch and of the
    predictor, and an event about anything else.
  * **Models** (`build_matches`, `operate_matches`, `drop_matches`): what these steps
    keep is kept by building a model, by any operation on it and by dropping it.
  * **Engines in step** (`life_agrees`) are the case in which replies are the same.
-/

namespace ModelAdapter

/-- An event that says that the engine kept what it was to give up. -/
def Event.isKept : Event → Bool
  | batchKept _ | predictorKept _ => true
  | _ => false

namespace Treelite

open Drive (Matches Agrees)

/-! ## §1. Steps -/

/-- A path that is handed over can be a C string. -/
def Call.Spellable : Call → Prop
  | .load library _ => '\x00' ∉ library.display.toList
  | _ => True

/-- A call whose reply decides what comes next, unlike those that only give something back. -/
def Call.Works : Call → Prop
  | .delete _ | .free _ => False
  | _ => True

theorem spellable_of_not_works {call : Call} (h : ¬ call.Works) : call.Spellable := by
  cases call with
  | load => exact absurd trivial h
  | _ => trivial

/-- What a failure is due to. -/
def faultOf? {α : Type} : Except Fault α → Option Fault
  | .ok _ => none
  | .error fault => some fault

/-- The fault with which a call was refused. -/
def fault? : (call : Call) → Reply call → Option Fault
  | .load _ _, reply => faultOf? reply
  | .numFeature _, reply => faultOf? reply
  | .numOutputGroup _, reply => faultOf? reply
  | .predictInst _ _ _ _, reply => faultOf? reply
  | .assemble _, reply => faultOf? reply
  | .delete _, reply => faultOf? reply
  | .predictBatch _ _ _ _ _, reply => faultOf? reply.1
  | .free _, reply => faultOf? reply

/-- The warning that a call leads to: one that gives something back, if it was refused. -/
def warning? : (call : Call) → Reply call → Option Event
  | .delete batch, reply => (fault? (.delete batch) reply).map .batchKept
  | .free predictor, reply => (fault? (.free predictor) reply).map .predictorKept
  | _, _ => none

theorem warning?_of_works {call : Call} (h : call.Works) (reply : Reply call) :
    warning? call reply = none := by
  cases call with
  | delete | free => exact h.elim
  | _ => rfl

section
variable {σ τ : Type}

/-- Gives something back; a refusal is logged. -/
def giveBack (call : Call) : Drive interface σ Unit :=
  ask call >>= fun reply => Drive.logAny (warning? call reply)

theorem deleteBatch_eq (batch : Handle) :
    deleteBatch (σ := σ) batch = giveBack (.delete batch) := by
  refine congrArg (ask (.delete batch) >>= ·) (funext fun reply => ?_)
  rcases reply with fault | ⟨⟩
  · rfl
  · rfl

theorem close_eq (input : Option Input) (predictor : Handle) :
    close (σ := σ) input predictor =
      (release input >>= fun _ => giveBack (.free predictor) >>= fun _ =>
        Drive.log .treeliteClosed) := by
  refine congrArg (release input >>= ·) (funext fun _ => ?_)
  refine Eq.trans ?_ (bind_assoc (ask (.free predictor)) _ _).symm
  refine congrArg (ask (.free predictor) >>= ·) (funext fun reply => ?_)
  rcases reply with fault | ⟨⟩
  · rfl
  · rfl

/-- A relation between the worlds of two engines that the steps of a model keep, with the same
results over both. -/
structure Matching (E : Engine interface σ) (F : Engine interface τ)
    (S : World interface σ → World interface τ → Prop) : Prop where
  work : ∀ call : Call, call.Works → call.Spellable → Matches E F S Eq (ask call) (ask call)
  giveBack : ∀ call : Call, ¬ call.Works → Matches E F S Eq (giveBack call) (giveBack call)
  log : ∀ event : Event, event.isKept = false →
    Matches E F S Eq (Drive.log event) (Drive.log event)

variable {E : Engine interface σ} {F : Engine interface τ}
  {S : World interface σ → World interface τ → Prop}

/-- What every call and every event keeps. -/
theorem Matching.of_steps
    (hask : ∀ call : Call, call.Spellable → Matches E F S Eq (ask call) (ask call))
    (hlog : ∀ event, Matches E F S Eq (Drive.log event) (Drive.log event)) : Matching E F S where
  work call _ := hask call
  giveBack call hworks := by
    refine (hask call (spellable_of_not_works hworks)).bind_eq ?_
    intro reply
    cases warning? call reply with
    | some event => exact hlog event
    | none => exact .pure rfl
  log event _ := hlog event

/-- What a world keeps through every call and every event. -/
theorem Matching.of_kept {P : World interface σ → Prop}
    (hask : ∀ call : Call, call.Spellable → ∀ w, P w → P (ask call E w).2)
    (hlog : ∀ event w, P w → P (Drive.log event E w).2) :
    Matching E E (fun w w' => w = w' ∧ P w) := by
  apply Matching.of_steps
  · rintro call hcall w _ ⟨rfl, hw⟩
    exact ⟨rfl, rfl, hask call hcall w hw⟩
  · rintro event w _ ⟨rfl, hw⟩
    exact ⟨rfl, rfl, hlog event w hw⟩

/-! ## §2. Models -/

section
variable (h : Matching E F S)
include h

theorem release_matches (input : Option Input) :
    Matches E F S Eq (release input) (release input) := by
  cases input with
  | none => exact .pure rfl
  | some input =>
    show Matches E F S Eq (deleteBatch input.batch) (deleteBatch input.batch)
    rw [deleteBatch_eq, deleteBatch_eq]
    exact h.giveBack _ id

theorem close_matches (input : Option Input) (predictor : Handle) :
    Matches E F S Eq (close input predictor) (close input predictor) := by
  rw [close_eq, close_eq]
  apply (release_matches h input).bind_eq
  intro _
  apply (h.giveBack (.free predictor) id).bind_eq
  intro _
  exact h.log _ rfl

theorem querySchema_matches (predictor : Handle) :
    Matches E F S Eq (querySchema predictor) (querySchema predictor) := by
  -- Three questions, of which each may be the last.
  refine (h.work (.numFeature predictor) trivial trivial).bind_eq ?_
  intro features
  rcases features with fault | numFeature
  · exact .pure rfl
  refine (h.work (.numOutputGroup predictor) trivial trivial).bind_eq ?_
  intro groups
  rcases groups with fault | numOutputGroup
  · exact .pure rfl
  refine (h.work (probe predictor numFeature numOutputGroup) trivial trivial).bind_eq ?_
  intro width
  rcases width with fault | outputWidth
  · exact .pure rfl
  dsimp only
  split
  · exact .pure rfl
  · exact .pure rfl

/-- A model is built alike over both engines if its predictor is loaded alike. -/
theorem build_matches_of_load {artifact : Artifact} {threads : Int32}
    (hload : Matches E F S Eq (ask (.load artifact.modelLib threads))
      (ask (.load artifact.modelLib threads))) (device : Device) :
    Matches E F S Eq (build artifact device threads) (build artifact device threads) := by
  refine hload.bind_eq ?_
  intro loaded
  rcases loaded with fault | predictor
  · exact .pure rfl
  -- A predictor that does not tell its schema is given up on both sides.
  apply (querySchema_matches h predictor).bind_eq
  intro queried
  rcases queried with report | schema
  · apply (close_matches h none predictor).bind_eq
    intro _
    exact .pure rfl
  · apply (h.log _ rfl).bind_eq
    intro _
    exact .pure rfl

theorem build_matches {artifact : Artifact} (hpath : '\x00' ∉ artifact.modelLib.display.toList)
    (device : Device) (threads : Int32) :
    Matches E F S Eq (build artifact device threads) (build artifact device threads) :=
  build_matches_of_load h (h.work (.load artifact.modelLib threads) trivial hpath) device

theorem setInput_matches (m : Model) (shape : List Int) (bytes : List UInt8) :
    Matches E F S Eq (m.setInput shape bytes) (m.setInput shape bytes) := by
  unfold Model.setInput
  cases m.readMatrix shape bytes with
  | error fault => exact .pure rfl
  | ok matrix =>
    refine (h.work (.assemble matrix) trivial trivial).bind_eq ?_
    intro assembled
    rcases assembled with fault | batch
    · exact .pure rfl
    apply (release_matches h m.input).bind_eq
    intro _
    exact .pure rfl

theorem run_matches (m : Model) : Matches E F S Eq m.run m.run := by
  unfold Model.run
  cases m.input with
  | none => exact .pure rfl
  | some input =>
    refine (h.work (m.prediction input) trivial trivial).bind_eq ?_
    intro reply
    rcases reply with ⟨fault | width, left⟩
    · exact .pure rfl
    · exact .pure rfl

/-- Whatever the steps keep is kept by an operation. -/
theorem operate_matches (m : Model) (operation : Operation) :
    Matches E F S Eq (m.operate operation) (m.operate operation) := by
  cases operation with
  | ask | setNumThreads | useCpuAffinity => exact .pure rfl
  | setInput _ shape bytes =>
    apply (setInput_matches h m shape bytes).bind_eq
    intro r
    exact .pure rfl
  | setInputFloats _ shape values =>
    apply (setInput_matches h m shape _).bind_eq
    intro r
    exact .pure rfl
  | run =>
    apply (run_matches h m).bind_eq
    intro r
    exact .pure rfl

theorem drop_matches (m : Model) : Matches E F S Eq m.drop m.drop :=
  close_matches h m.input m.predictor

/-- A life goes alike over both engines, with the same outcomes, if the model is built alike. -/
theorem life_like_of_build {artifact : Artifact} {device : Device} {threads : Int32}
    (hbuild : Matches E F S Eq (build artifact device threads) (build artifact device threads))
    (operations : List Operation) :
    Matches E F S (Life.Like fun _ _ => True)
      ((lifecycle artifact device threads).life operations)
      ((lifecycle artifact device threads).life operations) :=
  Lifecycle.life_matches trivial (hbuild.recorded (fun _ _ _ => trivial))
    (fun m operation => (operate_matches h m operation).recorded (fun _ _ _ => trivial))
    (fun m => (drop_matches h m).recorded (fun _ _ _ => trivial)) operations

/-- **Whatever the steps keep** is kept by a life, which has the same outcomes over both engines. -/
theorem life_like {artifact : Artifact} (hpath : '\x00' ∉ artifact.modelLib.display.toList)
    (device : Device) (threads : Int32) (operations : List Operation) :
    Matches E F S (Life.Like fun _ _ => True)
      ((lifecycle artifact device threads).life operations)
      ((lifecycle artifact device threads).life operations) :=
  life_like_of_build h (build_matches h hpath device threads) operations

end

/-- What every call and every event keeps is kept by a life. -/
theorem life_keeps {P : World interface σ → Prop}
    (hask : ∀ (call : Call) w, P w → P (ask call E w).2)
    (hlog : ∀ event w, P w → P (Drive.log event E w).2) (artifact : Artifact) (device : Device)
    (threads : Int32) (operations : List Operation) {w : World interface σ} (hw : P w) :
    P ((lifecycle artifact device threads).life operations E w).2 := by
  have hkept : Matching E E (fun w w' => w = w' ∧ P w) :=
    .of_kept (fun call _ => hask call) hlog
  have hload : Matches E E (fun w w' => w = w' ∧ P w) Eq (ask (.load artifact.modelLib threads))
      (ask (.load artifact.modelLib threads)) := by
    rintro w _ ⟨rfl, hw⟩
    exact ⟨rfl, rfl, hask _ w hw⟩
  have hlife := life_like_of_build hkept (build_matches_of_load hkept hload device) operations
  exact (hlife w w ⟨rfl, hw⟩).2.2

/-! ## §3. Engines in step -/

/-- **A life** goes the same over two engines in step. -/
theorem life_agrees {R : List Call → σ → τ → Prop} (hstep : InStep E F Call.Spellable R)
    {artifact : Artifact} (hpath : '\x00' ∉ artifact.modelLib.display.toList) (device : Device)
    (threads : Int32) (operations : List Operation) :
    Agrees E F R ((lifecycle artifact device threads).life operations)
      ((lifecycle artifact device threads).life operations) := by
  have hmatching : Matching E F (Alike R) :=
    .of_steps (fun _ hcall => Agrees.ask hstep hcall) Agrees.log
  have hbuild : Agrees E F R (lifecycle artifact device threads).build
      (lifecycle artifact device threads).build := build_matches hmatching hpath device threads
  exact Lifecycle.life_agrees hbuild (operate_matches hmatching) (drop_matches hmatching) operations

end

end Treelite

end ModelAdapter
