import ModelAdapter.Proofs.Layers
import ModelAdapter.Proofs.Treelite.Binding

/-! # What each call comes to at the C functions

The binding serves a call of the engine by the C function of its name.  If that
function returns a status other than 0, the text of the last error is read before
anything else is called, and the call fails with the name and the text.

  * **Functions** (`Abi.status`, `Abi.Call.function`): the status that a function
    returned, and its name.
  * **One call** (`Serves`): which calls of C functions serve a call, and when it is
    refused.
  * **Many calls** (`Served`): a record of calls, and the record of C functions that
    belongs to it (`exists_served`).
-/

namespace ModelAdapter.Treelite

open Drive (Matches Satisfies)

/-! ## §1. Functions -/

namespace Abi

/-- The name of a C function. -/
def Call.function : Call → String
  | .lastError => "TreeliteGetLastError"
  | .load _ _ => "TreelitePredictorLoad"
  | .numFeature _ => "TreelitePredictorQueryNumFeature"
  | .numOutputGroup _ => "TreelitePredictorQueryNumOutputGroup"
  | .predictInst _ _ _ _ => "TreelitePredictorPredictInst"
  | .assemble _ _ _ _ _ => "TreeliteAssembleSparseBatch"
  | .delete _ => "TreeliteDeleteSparseBatch"
  | .predictBatch _ _ _ _ _ _ => "TreelitePredictorPredictBatch"
  | .free _ => "TreelitePredictorFree"

/-- The status that a C function returned; reading the last error has none. -/
def status : (call : Call) → Reply call → Int32
  | .lastError, _ => 0
  | .load _ _, reply => reply.1
  | .numFeature _, reply => reply.1
  | .numOutputGroup _, reply => reply.1
  | .predictInst _ _ _ _, reply => reply.1
  | .assemble _ _ _ _ _, reply => reply.1
  | .delete _, reply => reply
  | .predictBatch _ _ _ _ _ _, reply => reply.1
  | .free _, reply => reply

/-- A C function that is neither called to give something back nor to read the last error. -/
def Call.Works : Call → Prop
  | .lastError | .delete _ | .free _ => False
  | _ => True

/-- A C function that works was called, and it returned a status other than 0. -/
def Refused (y : Exchange interface) : Prop :=
  y.call.Works ∧ status y.call y.reply ≠ 0

end Abi

theorem works_toAbi_iff {call : Call} : call.toAbi.Works ↔ call.Works := by
  cases call <;> rfl

/-! ## §2. One call -/

/-- How a call is served: a C function returns 0, or it returns something else and the last error is
read. -/
inductive Serves : Exchange interface → List (Exchange Abi.interface) → Prop
  | accepted {call : Call} {reply : Reply call} {answer : Abi.Reply call.toAbi}
      (accepted : Abi.status call.toAbi answer = 0) (silent : fault? call reply = none) :
      Serves ⟨call, reply⟩ [⟨call.toAbi, answer⟩]
  | refused {call : Call} {reply : Reply call} {answer : Abi.Reply call.toAbi}
      (refused : Abi.status call.toAbi answer ≠ 0) (text : Option (List UInt8))
      (told : fault? call reply = some (.treelite call.toAbi.function (errorText text))) :
      Serves ⟨call, reply⟩ [⟨call.toAbi, answer⟩, ⟨Abi.Call.lastError, text⟩]

/-- How a status is checked. -/
inductive Checked {α : Type} (function : String) (status : Int32) (given : α) :
    Except Fault α → List (Exchange Abi.interface) → Prop
  | accepted (accepted : status = 0) : Checked function status given (.ok given) []
  | refused (refused : status ≠ 0) (text : Option (List UInt8)) :
      Checked function status given (.error (.treelite function (errorText text)))
        [⟨Abi.Call.lastError, text⟩]

section
variable {σ : Type}

theorem checked_satisfies {α : Type} (function : String) (status : Int32) (given : α) :
    (checked (σ := σ) function status given).Satisfies (Checked function status given) := by
  unfold checked
  split
  · rename_i hrefused
    apply Satisfies.ask_bind
    intro text
    exact .pure (.refused hrefused text)
  · rename_i haccepted
    exact .pure (.accepted (not_not.mp haccepted))

/-- A call is served when its status is checked; `wrap` makes its reply of what the check gives. -/
theorem checked_serves (call : Call) (answer : Abi.Reply call.toAbi) {α : Type} (given : α)
    (wrap : Except Fault α → Reply call)
    (hwrap : ∀ result, fault? call (wrap result) = faultOf? result) :
    (checked (σ := σ) call.toAbi.function (Abi.status call.toAbi answer) given).Satisfies
      (fun result ys => Serves ⟨call, wrap result⟩ (⟨call.toAbi, answer⟩ :: ys)) := by
  apply (checked_satisfies call.toAbi.function (Abi.status call.toAbi answer) given).imp
  intro result ys h
  cases h with
  | accepted haccepted => exact .accepted haccepted (hwrap _)
  | refused hrefused text => exact .refused hrefused text (hwrap _)

/-- **One call** is served by the C function of its name. -/
theorem serve_satisfies {call : Call} (hcall : call.Spellable) :
    (serve (σ := σ) call).Satisfies (fun reply ys => Serves ⟨call, reply⟩ ys) := by
  cases call with
  | load library threads =>
    -- A path that cannot be spelled would be refused before any function is called.
    have hpath : library.display.toList.contains '\x00' = false := by
      simpa [Call.Spellable] using hcall
    simp only [serve, hpath]
    apply Satisfies.ask_bind
    intro answer
    exact checked_serves (.load library threads) answer answer.2 id (fun _ => rfl)
  | numFeature predictor =>
    apply Satisfies.ask_bind
    intro answer
    exact checked_serves (.numFeature predictor) answer answer.2 id (fun _ => rfl)
  | numOutputGroup predictor =>
    apply Satisfies.ask_bind
    intro answer
    exact checked_serves (.numOutputGroup predictor) answer answer.2 id (fun _ => rfl)
  | predictInst predictor entries margin slots =>
    apply Satisfies.ask_bind
    intro answer
    exact checked_serves (.predictInst predictor entries margin slots) answer answer.2 id
      (fun _ => rfl)
  | assemble m =>
    apply Satisfies.ask_bind
    intro answer
    exact checked_serves (.assemble m) answer answer.2 id (fun _ => rfl)
  | delete batch =>
    apply Satisfies.ask_bind
    intro answer
    exact checked_serves (.delete batch) answer () id (fun _ => rfl)
  | predictBatch predictor batch verbose margin slots =>
    apply Satisfies.ask_bind
    intro answer
    -- The slots are handed back after the check, whatever it gives.
    apply (checked_serves (.predictBatch predictor batch verbose margin slots) answer
      answer.2.1 (fun result => (result, answer.2.2)) (fun _ => rfl)).bind
    intro result ys h
    refine .pure ?_
    rw [List.append_nil]
    exact h
  | free predictor =>
    apply Satisfies.ask_bind
    intro answer
    exact checked_serves (.free predictor) answer () id (fun _ => rfl)

theorem events_checked {α : Type} (function : String) (status : Int32) (given : α)
    (E : Engine Abi.interface σ) (w : World Abi.interface σ) :
    (checked function status given E w).2.events = w.events := by
  unfold checked
  split <;> rfl

/-- To serve a call logs nothing. -/
theorem events_serve (call : Call) (E : Engine Abi.interface σ) (w : World Abi.interface σ) :
    (serve call E w).2.events = w.events := by
  cases call with
  | load library threads =>
    simp only [serve]
    split
    · rfl
    · exact events_checked ..
  | numFeature | numOutputGroup | predictInst | assemble | delete | predictBatch | free =>
    exact events_checked ..

end

/-! ## §3. Many calls -/

/-- The record of C functions that belongs to a record of calls. -/
inductive Served : List (Exchange interface) → List (Exchange Abi.interface) → Prop
  | nil : Served [] []
  | cons {x : Exchange interface} {xs : List (Exchange interface)}
      {ys zs : List (Exchange Abi.interface)} (first : Serves x ys) (rest : Served xs zs) :
      Served (x :: xs) (ys ++ zs)

namespace Served

variable {xs xs' : List (Exchange interface)} {ys ys' : List (Exchange Abi.interface)}

theorem append (h : Served xs ys) (h' : Served xs' ys') : Served (xs ++ xs') (ys ++ ys') := by
  induction h with
  | nil => exact h'
  | cons hfirst _ ih =>
    rw [List.append_assoc]
    exact .cons hfirst ih

theorem of_append (h : Served (xs ++ xs') ys) :
    ∃ before after, ys = before ++ after ∧ Served xs before ∧ Served xs' after := by
  induction xs generalizing ys with
  | nil => exact ⟨[], ys, rfl, .nil, h⟩
  | cons x xs ih =>
    cases h with
    | @cons _ _ first _ hfirst hrest =>
      obtain ⟨before, after, rfl, hbefore, hafter⟩ := ih hrest
      exact ⟨first ++ before, after, (List.append_assoc ..).symm, .cons hfirst hbefore, hafter⟩

/-- Every C function was called to serve one of the calls. -/
theorem exists_serves (h : Served xs ys) {y : Exchange Abi.interface} (hy : y ∈ ys) :
    ∃ x ∈ xs, ∃ chunk, Serves x chunk ∧ y ∈ chunk := by
  induction h with
  | nil => cases hy
  | @cons x xs chunk rest hfirst _ ih =>
    rcases List.mem_append.mp hy with hy | hy
    · exact ⟨x, List.mem_cons_self, chunk, hfirst, hy⟩
    · obtain ⟨x', hx', hserves⟩ := ih hy
      exact ⟨x', List.mem_cons_of_mem _ hx', hserves⟩

end Served

section
variable {σ α : Type}

/-- A computation that keeps whatever the steps of a model keep. -/
def Stepwise (d : Drive interface (World Abi.interface σ) α) : Prop :=
  ∀ (E : Engine Abi.interface σ)
    {S : World interface (World Abi.interface σ) → World interface (World Abi.interface σ) → Prop},
    Matching (binding E) (binding E) S →
      ∀ w w', S w w' → S (d (binding E) w).2 (d (binding E) w').2

theorem Stepwise.of_matches {d : Drive interface (World Abi.interface σ) α} {Q : α → α → Prop}
    (h : ∀ {E : Engine Abi.interface σ}
      {S : World interface (World Abi.interface σ) →
        World interface (World Abi.interface σ) → Prop},
      Matching (binding E) (binding E) S → Matches (binding E) (binding E) S Q d d) :
    Stepwise d := by
  intro E S hS w w' hw
  exact (h hS w w' hw).2

/-- **What a model asks** of its engine and what arrives at the C functions belong together. -/
theorem exists_served {d : Drive interface (World Abi.interface σ) α} (hd : Stepwise d)
    (E : Engine Abi.interface σ) (w : World interface (World Abi.interface σ)) :
    ∃ xs ys, (d (binding E) w).2.exchanges = w.exchanges ++ xs ∧
      (d (binding E) w).2.engine.exchanges = w.engine.exchanges ++ ys ∧ Served xs ys := by
  -- The two records grow call by call, so it is kept that they belong together so far.
  let Belongs (after : World interface (World Abi.interface σ)) : Prop :=
    ∃ xs ys, after.exchanges = w.exchanges ++ xs ∧
      after.engine.exchanges = w.engine.exchanges ++ ys ∧ Served xs ys
  have hmatching : Matching (binding E) (binding E) (fun v v' => v = v' ∧ Belongs v) := by
    apply Matching.of_kept
    · rintro call hcall v ⟨xs, ys, hxs, hys, hserved⟩
      obtain ⟨chunk, hchunk, hserves⟩ := serve_satisfies hcall E v.engine
      have hone : Served [⟨call, (serve call E v.engine).1⟩] chunk := by
        have hcons := Served.cons hserves .nil
        rwa [List.append_nil] at hcons
      refine ⟨xs ++ [⟨call, (serve call E v.engine).1⟩], ys ++ chunk, ?_, ?_, hserved.append hone⟩
      · show v.exchanges ++ [_] = _
        rw [hxs, List.append_assoc]
        rfl
      · show (serve call E v.engine).2.exchanges = _
        rw [hchunk, hys, List.append_assoc]
    · rintro event v hv
      exact hv
  exact (hd E hmatching w w ⟨rfl, [], [], by simp, by simp, .nil⟩).2

/-- What a computation may have had above comes with what belongs to it below. -/
theorem exists_served_of_satisfies {d : Drive interface (World Abi.interface σ) α}
    (hd : Stepwise d) {P : α → List (Exchange interface) → Prop} (hP : d.Satisfies P)
    (E : Engine Abi.interface σ) (w : World interface (World Abi.interface σ)) :
    ∃ xs ys, P (d (binding E) w).1 xs ∧
      (d (binding E) w).2.engine.exchanges = w.engine.exchanges ++ ys ∧ Served xs ys := by
  obtain ⟨xs, ys, hxs, hys, hserved⟩ := exists_served hd E w
  obtain ⟨xs', hxs', hallowed⟩ := hP (binding E) w
  have hsame : xs = xs' := List.append_cancel_left (hxs.symm.trans hxs')
  subst hsame
  exact ⟨xs, ys, hallowed, hys, hserved⟩

/-- **Seen from below**, a computation has what belongs to what it may have had above. -/
theorem through_satisfies {d : Drive interface (World Abi.interface σ) α} (hd : Stepwise d)
    {P : α → List (Exchange interface) → Prop} (hP : d.Satisfies P) :
    (d.through serve).Satisfies (fun a ys => ∃ xs, P a xs ∧ Served xs ys) := by
  intro E w
  let above : World interface (World Abi.interface σ) :=
    { engine := { w with events := [] }, events := w.events }
  obtain ⟨xs, ys, hallowed, hys, hserved⟩ := exists_served_of_satisfies hd hP E above
  exact ⟨ys, hys, xs, hallowed, hserved⟩

end

end ModelAdapter.Treelite
