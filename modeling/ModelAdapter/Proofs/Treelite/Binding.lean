import ModelAdapter.Proofs.Text.Utf8
import ModelAdapter.Proofs.Treelite.Matching
import ModelAdapter.Treelite.Script

/-! # The tree-ensemble engine through its C functions

A script can be followed behind the interface or behind the C functions.  When the
two scripts say the same (`Corresponds`), a model cannot tell which of them it has:
the binding gives the same replies, with one call of a C function for each call and
one more for the text of an error.

  * **Scripts**: a fault on one side is a status and the bytes of a text on the
    other (`Answers`).
  * **The binding** keeps in step with the script (`binding_inStep`), as long as the
    path of the library can be handed over as a C string.
-/

namespace ModelAdapter.Treelite

/-! ## §1. Scripts that say the same -/

/-- The C function that a routine is reached by. -/
def Routine.function : Routine → String
  | .load => "TreelitePredictorLoad"
  | .numFeature => "TreelitePredictorQueryNumFeature"
  | .numOutputGroup => "TreelitePredictorQueryNumOutputGroup"
  | .predictInst => "TreelitePredictorPredictInst"
  | .assemble => "TreeliteAssembleSparseBatch"
  | .delete => "TreeliteDeleteSparseBatch"
  | .predictBatch => "TreelitePredictorPredictBatch"
  | .free => "TreelitePredictorFree"

namespace Script

/-- How one call of a routine goes on the two sides: it succeeds on both, or it fails with a text
that stands in memory as a C string.  A status of 0 is a success, whatever text is left. -/
inductive Answers (r : Routine) : Option Fault → Option Failure → Prop
  | succeeds : Answers r none none
  | reports (text : Option (List UInt8)) : Answers r none (some ⟨0, text⟩)
  | refuses {status : Int32} {bytes : List UInt8} {text : String} (failed : status ≠ 0)
      (spelled : Utf8.Spells bytes text) :
      Answers r (some (.treelite r.function text)) (some ⟨status, some bytes⟩)

/-- Two scripts of one engine, for the interface and for the C functions. -/
structure Corresponds (s : Script Fault) (c : Script Failure) : Prop where
  schema : c.schema = s.schema
  failures : ∀ r n, Answers r ((s.failures r).getD n none) ((c.failures r).getD n none)

end Script

/-! ## §2. The binding -/

/-- The C function call that a call comes to. -/
def Call.toAbi : Call → Abi.Call
  | .load library threads => .load library.display threads
  | .numFeature predictor => .numFeature predictor
  | .numOutputGroup predictor => .numOutputGroup predictor
  | .predictInst predictor entries margin slots =>
      .predictInst predictor entries (flag margin) slots
  | .assemble m => .assemble m.data m.colInd m.rowPtr m.numRow m.numCol
  | .delete batch => .delete batch
  | .predictBatch predictor batch verbose margin slots =>
      .predictBatch predictor batch 1 (flag verbose) (flag margin) slots
  | .free predictor => .free predictor

/-- The call of a C function, unless it is a reading of the last error. -/
def Abi.work? (x : Exchange Abi.interface) : Option Abi.Call :=
  match x.call with
  | .lastError => none
  | call => some call

/-- The calls of C functions, readings of the last error apart. -/
def works (xs : List (Exchange Abi.interface)) : List Abi.Call := xs.filterMap Abi.work?

theorem works_append (xs ys : List (Exchange Abi.interface)) :
    works (xs ++ ys) = works xs ++ works ys :=
  List.filterMap_append

theorem works_toAbi (call : Call) (reply : Abi.Reply call.toAbi) :
    works [⟨call.toAbi, reply⟩] = [call.toAbi] := by
  cases call <;> rfl

open Script

/-- The C side mirrors a script: it counts as many calls and has the same batches, and readings of
the last error apart it was called as the script was. -/
structure Mirrors (calls : List Call) (st : State) (w : World Abi.interface State) : Prop where
  counts : w.engine.calls = st.calls
  batches : w.engine.batches = st.batches
  functions : works w.exchanges = calls.map Call.toAbi

@[simp] theorem calls_after (c : Script Failure) (st : State) (r : Routine) :
    (c.after st r).calls = (st.called r).calls := by
  unfold Script.after
  split <;> rfl

@[simp] theorem batches_after (c : Script Failure) (st : State) (r : Routine) :
    (c.after st r).batches = st.batches := by
  unfold Script.after
  split <;> rfl

section
variable {s : Script Fault} {c : Script Failure} (hsame : Corresponds s c)
  {calls : List Call} {st : State} {w : World Abi.interface State} (hw : Mirrors calls st w)
include hsame hw

/-- The status that a call brings is 0 if it succeeds on the other side; else it is another one,
and the text of the fault stands in memory. -/
theorem status_cases (r : Routine) :
    (c.status w.engine r = 0 ∧ s.failure st r = none) ∨
    (c.status w.engine r ≠ 0 ∧ ∃ bytes text, (c.after w.engine r).lastError = some bytes ∧
      Utf8.Spells bytes text ∧ s.failure st r = some (.treelite r.function text)) := by
  have h := hsame.failures r (st.calls r)
  unfold status Script.after Script.failure
  rw [hw.counts]
  generalize (s.failures r).getD (st.calls r) none = fault at h ⊢
  generalize (c.failures r).getD (st.calls r) none = failure at h ⊢
  cases h with
  | succeeds => exact .inl ⟨rfl, rfl⟩
  | reports text => exact .inl ⟨rfl, rfl⟩
  | refuses hfailed hspelled => exact .inr ⟨hfailed, _, _, rfl, hspelled, rfl⟩

omit hsame in
/-- A call of a C function that leaves what the other side has is mirrored. -/
theorem mirrors_of_called {r : Routine} (call : Call) (reply : Abi.Reply call.toAbi)
    {left st' : State} (hleft : left.calls = (w.engine.called r).calls)
    (hst' : st'.calls = (st.called r).calls) (hbatches : left.batches = st'.batches) :
    Mirrors (calls ++ [call]) st'
      { w with engine := left, exchanges := w.exchanges ++ [⟨call.toAbi, reply⟩] } := by
  refine ⟨?_, hbatches, ?_⟩
  · show left.calls = st'.calls
    rw [hleft, hst']
    unfold State.called
    rw [hw.counts]
  · show works (w.exchanges ++ [⟨call.toAbi, reply⟩]) = (calls ++ [call]).map Call.toAbi
    rw [works_append, works_toAbi, hw.functions, List.map_append]
    rfl

/-- Checking the status of a call gives what the other side replies, and at most reads the last
error. -/
theorem checked_mirrors {α : Type} {r : Routine} {st' : State} {called : List Call}
    {after : World Abi.interface State} {result written : α} (hafter : Mirrors called st' after)
    (herror : after.engine.lastError = (c.after w.engine r).lastError)
    (hwritten : c.status w.engine r = 0 → written = result) :
    let (answer, w') := checked r.function (c.status w.engine r) written c.exported after
    answer = s.reply st r result ∧ Mirrors called st' w' := by
  rcases status_cases hsame hw r with ⟨hstatus, hfailure⟩ | ⟨hstatus, bytes, text, hlast, hspells,
    hfailure⟩
  · simp only [checked, hstatus, Script.reply, hfailure, hwritten hstatus]
    exact ⟨rfl, hafter⟩
  · -- The text of the fault is asked for right away, so it is still there.
    have hchecked : checked r.function (c.status w.engine r) written c.exported after
        = (.error (.treelite r.function (errorText after.engine.lastError)),
          { after with exchanges :=
              after.exchanges ++ [⟨Abi.Call.lastError, after.engine.lastError⟩] }) := by
      simp only [checked, hstatus, ne_eq, not_false_eq_true, if_true]
      rfl
    rw [hchecked]
    refine ⟨?_, hafter.counts, hafter.batches, ?_⟩
    · rw [Script.reply, hfailure, herror, hlast, errorText, Utf8.decode_of_spells hspells]
    · show works (after.exchanges ++ [⟨Abi.Call.lastError, after.engine.lastError⟩]) = _
      rw [works_append, hafter.functions]
      exact List.append_nil _

/-- Most calls do no more than to count themselves and to write their result. -/
theorem called_mirrors {α : Type} (r : Routine) (call : Call) (reply : Abi.Reply call.toAbi)
    {result written : α} (hwritten : c.status w.engine r = 0 → written = result) :
    let after : World Abi.interface State :=
      { w with engine := c.after w.engine r, exchanges := w.exchanges ++ [⟨call.toAbi, reply⟩] }
    let (answer, w') := checked r.function (c.status w.engine r) written c.exported after
    answer = s.reply st r result ∧ Mirrors (calls ++ [call]) (st.called r) w' := by
  intro after
  have hafter : Mirrors (calls ++ [call]) (st.called r) after :=
    mirrors_of_called hw call reply (calls_after c w.engine r) rfl
      ((batches_after c w.engine r).trans hw.batches)
  exact checked_mirrors hsame hw hafter rfl hwritten

omit hsame hw in
/-- A function that succeeds writes its result. -/
theorem written_of_status {r : Routine} {given result : Nat} (hresult : given = result) :
    c.status w.engine r = 0 → c.written w.engine r given = result := by
  intro hstatus
  simp [written, hstatus, hresult]

/-- A batch is assembled on both sides, or the call fails on both. -/
theorem assemble_mirrors (m : Csr) :
    let (reply, w') := serve (.assemble m) c.exported w
    reply = (s.direct.respond (.assemble m) st).1 ∧
      Mirrors (calls ++ [.assemble m]) (s.direct.respond (.assemble m) st).2 w' := by
  let call : Abi.Call := (Call.assemble m).toAbi
  have hserve : serve (.assemble m) c.exported w
      = checked "TreeliteAssembleSparseBatch" (c.exported.respond call w.engine).1.1
          (c.exported.respond call w.engine).1.2 c.exported
          { w with engine := (c.exported.respond call w.engine).2
                   exchanges := w.exchanges ++ [⟨call, (c.exported.respond call w.engine).1⟩] } :=
    rfl
  rcases status_cases hsame hw .assemble with ⟨hstatus, hfailure⟩ | ⟨hstatus, bytes, text, -, -,
    hfailure⟩
  · -- Both sides keep the matrix, after as many batches, so it has one handle.
    let kept : State := (c.after w.engine .assemble).kept m
    have hrespond : c.exported.respond call w.engine = (((0 : Int32), kept.latest), kept) :=
      if_pos hstatus
    have hdirect : s.direct.respond (.assemble m) st
        = (Except.ok (st.kept m).latest, (st.kept m).called .assemble) := by
      simp only [direct, hfailure]
      rfl
    have hbatches : kept.batches = (st.kept m).batches := by
      show (c.after w.engine .assemble).batches ++ [m] = st.batches ++ [m]
      rw [batches_after, hw.batches]
    rw [hserve, hrespond, hdirect]
    refine ⟨?_, mirrors_of_called hw (.assemble m) _ (calls_after c w.engine .assemble) rfl
      hbatches⟩
    exact congrArg (fun batches => Except.ok (List.length batches)) hbatches
  · have hrespond : c.exported.respond call w.engine
        = ((c.status w.engine .assemble, (0 : Nat)), c.after w.engine .assemble) :=
      if_neg hstatus
    have hdirect : s.direct.respond (.assemble m) st
        = (s.reply st .assemble (0 : Nat), st.called .assemble) := by
      simp only [direct, Script.reply, hfailure]
      rfl
    rw [hserve, hrespond, hdirect]
    exact called_mirrors hsame hw .assemble (.assemble m) _ (fun _ => rfl)

theorem predicted_eq (batch : Handle) : c.predicted w.engine batch = s.predicted st batch := by
  unfold Script.predicted
  rw [hw.batches, hsame.schema]

/-- A batch is predicted on both sides, or the call fails on both. -/
theorem predictBatch_mirrors (predictor batch : Handle) (verbose margin : Bool)
    (slots : List Binary32) :
    let call := Call.predictBatch predictor batch verbose margin slots
    let (reply, w') := serve call c.exported w
    reply = (s.direct.respond call st).1 ∧
      Mirrors (calls ++ [call]) (s.direct.respond call st).2 w' := by
  intro call
  have hserve : serve call c.exported w
      = let responded := c.exported.respond call.toAbi w.engine
        let (result, w') := checked "TreelitePredictorPredictBatch" responded.1.1 responded.1.2.1
          c.exported { w with engine := responded.2
                              exchanges := w.exchanges ++ [⟨call.toAbi, responded.1⟩] }
        ((result, responded.1.2.2), w') :=
    rfl
  -- A success writes as much on both sides, and a failure leaves the slots.
  obtain ⟨count, left, hrespond, hdirect, hcount⟩ : ∃ (count : Nat) (left : List Binary32),
      c.exported.respond call.toAbi w.engine
        = ((c.status w.engine .predictBatch, count, left), c.after w.engine .predictBatch) ∧
      s.direct.respond call st
        = ((s.reply st .predictBatch (s.predicted st batch).length, left),
          st.called .predictBatch) ∧
      (c.status w.engine .predictBatch = 0 → count = (s.predicted st batch).length) := by
    have hpredicted := predicted_eq hsame hw batch
    rcases status_cases hsame hw .predictBatch with ⟨hstatus, hfailure⟩ | ⟨hstatus, _, _, -, -,
      hfailure⟩
    · refine ⟨(c.predicted w.engine batch).length, overwrite slots (c.predicted w.engine batch),
        ?_, ?_, fun _ => by rw [hpredicted]⟩
      · rw [hstatus]
        exact if_pos hstatus
      · simp only [direct, Script.reply, hfailure, hpredicted, call]
        rfl
    · refine ⟨0, slots, if_neg hstatus, ?_, fun hzero => absurd hzero hstatus⟩
      simp only [direct, Script.reply, hfailure, call]
      rfl
  have hchecked := called_mirrors hsame hw .predictBatch call
    (c.status w.engine .predictBatch, count, left) hcount
  rw [hserve, hrespond, hdirect]
  exact ⟨congrArg (·, left) hchecked.1, hchecked.2⟩

/-- **One call** is served with the reply of the other side. -/
theorem serve_mirrors {call : Call} (hcall : call.Spellable) :
    let (reply, w') := serve call c.exported w
    reply = (s.direct.respond call st).1 ∧
      Mirrors (calls ++ [call]) (s.direct.respond call st).2 w' := by
  cases call with
  | load library threads =>
    -- The path can be a C string, so the call is made.
    have hpath : library.display.toList.contains '\x00' = false := by
      simpa [Call.Spellable] using hcall
    have hload := called_mirrors hsame hw .load (.load library threads)
      (c.status w.engine .load, c.written w.engine .load predictor)
      (written_of_status (rfl : Script.predictor = Script.predictor))
    simp only [serve, hpath]
    exact hload
  | numFeature predictor =>
    exact called_mirrors hsame hw .numFeature (.numFeature predictor) _
      (written_of_status (congrArg Schema.numFeature hsame.schema))
  | numOutputGroup predictor =>
    exact called_mirrors hsame hw .numOutputGroup (.numOutputGroup predictor) _
      (written_of_status (congrArg Schema.numOutputGroup hsame.schema))
  | predictInst predictor entries margin slots =>
    exact called_mirrors hsame hw .predictInst (.predictInst predictor entries margin slots) _
      (written_of_status (congrArg Schema.outputWidth hsame.schema))
  | delete batch => exact called_mirrors hsame hw .delete (.delete batch) _ (fun _ => rfl)
  | free predictor => exact called_mirrors hsame hw .free (.free predictor) _ (fun _ => rfl)
  | assemble m => exact assemble_mirrors hsame hw m
  | predictBatch predictor batch verbose margin slots =>
    exact predictBatch_mirrors hsame hw predictor batch verbose margin slots

end

/-- **The binding** keeps in step with the script. -/
theorem binding_inStep {s : Script Fault} {c : Script Failure} (hsame : Corresponds s c) :
    InStep s.direct (binding c.exported) Call.Spellable Mirrors where
  reply hmirrors hcall := (serve_mirrors hsame hmirrors hcall).1.symm
  next hmirrors hcall := (serve_mirrors hsame hmirrors hcall).2

theorem mirrors_start : Mirrors [] .start (.start .start) :=
  ⟨rfl, rfl, rfl⟩

end ModelAdapter.Treelite
