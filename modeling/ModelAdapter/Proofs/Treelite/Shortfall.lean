import ModelAdapter.Proofs.Treelite.Matching
import ModelAdapter.Proofs.Treelite.Rounds

/-! # Predictions that bring fewer values than are read

A prediction reports how many values it wrote.  How many values are read after it is
another matter: one for each row and unit of the output width, which was found once and
for all by predicting a single instance.  Nothing compares the two, so when the engine
reports fewer values the rest of what is read is not of this run.

  * **The engine** (`Accounts`) is one that writes what it reports and nothing else.
  * **Slots** (`latestWriter`, `slotFrom`): a run that reports few values spares the slots
    behind them, and a slot is as the latest run left it that did not spare it.  What no
    run wrote is zero.
  * **Reading** (`complete`): an output is meant to be read when the latest run reported
    no fewer values than are read.  What is decided by instead, some run that succeeded,
    comes to the same unless the output falls short (`Short`).
-/

namespace ModelAdapter.Treelite

/-! ## §1. What a run reports -/

/-- A prediction that succeeds writes exactly as many slots as it reports, the first ones. -/
def Accounted : Exchange interface → Prop
  | ⟨.predictBatch _ _ _ _ slots, reply⟩ =>
      let (result, left) : Except Fault Nat × List Binary32 := reply
      ∀ count, result = .ok count →
        count ≤ slots.length ∧ (overwrite slots left).drop count = slots.drop count
  | _ => True

/-- An engine all of whose predictions write what they report. -/
def Accounts {σ : Type} (E : Engine interface σ) : Prop :=
  ∀ (call : Call) (state : σ), Accounted ⟨call, (E.respond call state).1⟩

/-- How many values a prediction reports, if it succeeds. -/
def valueCount? : Exchange interface → Option Nat
  | ⟨.predictBatch _ _ _ _ _, reply⟩ =>
      (reply : Except Fault Nat × List Binary32).1.toOption
  | _ => none

/-- How many values a run reported, if it succeeded. -/
def reportedBy (run : Step interface) : Option Nat := run.exchanges.findSome? valueCount?

/-- A run that succeeded, but reported too few values to have written slot `i`. -/
def spares (i : Nat) (run : Step interface) : Bool := (reportedBy run).any (· ≤ i)

/-- A run that succeeded and reported at least `n` values. -/
def covers (n : Nat) (run : Step interface) : Bool := (reportedBy run).any (n ≤ ·)

/-- A run that covers some slots spares none of them. -/
theorem not_spares_of_covers {n i : Nat} {run : Step interface} (h : covers n run = true)
    (hi : i < n) : spares i run = false := by
  unfold covers at h
  unfold spares
  cases hcount : reportedBy run with
  | none => rfl
  | some count =>
    rw [hcount] at h
    have hle : n ≤ count := of_decide_eq_true h
    exact decide_eq_false (by omega)

theorem Round.Run.succeeded_of_covers {r r' : Round} {s : Step interface} (h : r.Run s r') {n : Nat}
    (hcovers : covers n s = true) : s.succeeded = true := by
  obtain ⟨predictor, batch, result, left⟩ := h
  cases result with
  | error fault => cases hcovers
  | ok count => rfl

/-- All that is exchanged with an engine that accounts for its predictions is accounted for. -/
theorem accounted_of_accounts {σ : Type} {E : Engine interface σ} (h : Accounts E)
    (artifact : Artifact) (device : Device) (threads : Int32) (operations : List Operation)
    (engine : σ) :
    ∀ x ∈ ((lifecycle artifact device threads).life operations E (.start engine)).2.exchanges,
      Accounted x := by
  refine life_keeps (P := fun w => ∀ x ∈ w.exchanges, Accounted x) ?_ (fun _ _ hw => hw)
    artifact device threads operations (fun x hx => absurd hx List.not_mem_nil)
  intro call w hw x hx
  rcases List.mem_append.mp hx with hbefore | hnow
  · exact hw x hbefore
  · rw [List.mem_singleton.mp hnow]
    exact h call w.engine

/-! ## §2. Where the slots come from -/

/-- The latest run that did not spare a slot. -/
def latestWriter (runs : List (Step interface)) (i : Nat) : Option (Step interface) :=
  (runs.filter (!spares i ·)).getLast?

/-- A slot as the latest run left it that did not spare it, and `before` if there was none. -/
def slotFrom (before : Binary32) (runs : List (Step interface)) (i : Nat) : Binary32 :=
  ((latestWriter runs i).map (fun run => (slotsAfter run).getD i .zero)).getD before

theorem slotFrom_cons (before : Binary32) (first : Step interface) (rest : List (Step interface))
    (i : Nat) :
    slotFrom before (first :: rest) i =
      slotFrom (if spares i first then before else (slotsAfter first).getD i .zero) rest i := by
  unfold slotFrom latestWriter
  by_cases hspares : spares i first = true
  · simp [hspares]
  · simp only [Bool.not_eq_true] at hspares
    simp only [List.filter_cons, hspares, Bool.not_false, if_true, List.getLast?_cons]
    cases (rest.filter (!spares i ·)).getLast? <;> rfl

/-- Where the latest run covers the slots, it is the one that wrote them. -/
theorem latestWriter_of_covers {runs : List (Step interface)} {run : Step interface} {n i : Nat}
    (hlast : runs.getLast? = some run) (hcovers : covers n run = true) (hi : i < n) :
    latestWriter runs i = some run := by
  obtain ⟨earlier, rfl⟩ := List.getLast?_eq_some_iff.mp hlast
  simp [latestWriter, not_spares_of_covers hcovers hi]

namespace Round

variable {r r' : Round}

theorem length_slots (r : Round) :
    r.slots.length = wrap (r.matrix.numRow * r.schema.numOutputGroup) :=
  length_resize _ _ _

/-- The next run gets the slots as the engine left them. -/
theorem slots_after (r : Round) (reply : Except Fault Nat × List Binary32) :
    (r.after reply).slots = overwrite r.slots reply.2 := by
  apply resize_of_length_eq
  show (overwrite r.slots reply.2).length = _
  rw [length_overwrite, length_slots]
  rfl

/-- **One run** leaves a slot as it was if it spared it. -/
theorem Run.slot {s : Step interface} (h : r.Run s r') (haccounted : ∀ x ∈ s.exchanges, Accounted x)
    (i : Nat) :
    r'.slots.getD i .zero =
      if spares i s then r.slots.getD i .zero else (slotsAfter s).getD i .zero := by
  obtain ⟨predictor, batch, result, left⟩ := h
  rw [slots_after]
  have hx := haccounted _ (List.mem_singleton_self _)
  split
  · rename_i hspares
    -- Only a success spares slots, and those are behind what it wrote.
    cases result with
    | error fault => cases hspares
    | ok count =>
      have hcount : count ≤ i := of_decide_eq_true hspares
      obtain ⟨-, hrest⟩ := hx count rfl
      have hcell := congrArg (·[i - count]?) hrest
      simp only [List.getElem?_drop, Nat.add_sub_cancel' hcount] at hcell
      rw [List.getD_eq_getElem?_getD, List.getD_eq_getElem?_getD, hcell]
  · rfl

/-- **Several runs** leave each slot as the latest one left it that did not spare it. -/
theorem Ran.slot {runs : List (Step interface)} (h : Ran r runs r')
    (haccounted : ∀ run ∈ runs, ∀ x ∈ run.exchanges, Accounted x) (i : Nat) :
    r'.slots.getD i .zero = slotFrom (r.slots.getD i .zero) runs i := by
  induction h with
  | done r => rfl
  | @run r mid r' s rest hfirst _ ih =>
    have hs := haccounted s List.mem_cons_self
    have hrest := ih fun run hrun => haccounted run (List.mem_cons_of_mem s hrun)
    rw [hrest, hfirst.slot hs, slotFrom_cons]

/-- In a round, what no run wrote is zero. -/
theorem Ran.slot_of_begun {schema : Schema} {matrix : Csr} {runs : List (Step interface)}
    (h : Ran (.begun schema matrix) runs r)
    (haccounted : ∀ run ∈ runs, ∀ x ∈ run.exchanges, Accounted x) (i : Nat) :
    r.slots.getD i .zero = slotFrom .zero runs i := by
  have hzero : (begun schema matrix).slots.getD i .zero = Binary32.zero := by
    rw [slots_begun, List.getD_eq_getElem?_getD, List.getElem?_replicate]
    split <;> rfl
  rw [h.slot haccounted, hzero]

theorem Ran.exists_run_of_mem {runs : List (Step interface)} (h : Ran r runs r')
    {s : Step interface} (hs : s ∈ runs) : ∃ before after : Round, before.Run s after := by
  induction h with
  | done => cases hs
  | @run r mid r' first rest hfirst _ ih =>
    rcases List.mem_cons.mp hs with rfl | hs
    · exact ⟨r, mid, hfirst⟩
    · exact ih hs

end Round

/-! ## §3. When an output is complete -/

/-- What is meant to decide whether the output can be read: an input, and that the latest run since
then reported a value for each row and unit of the width. -/
def complete (width : Nat) (steps : List (Step interface)) :
    Except Fault (Input × List Binary32) :=
  match currentInput steps with
  | none => .error .inputNotSet
  | some input =>
      if (runsSinceInput steps).getLast?.any (covers (input.matrix.numRow * width)) then
        .ok (input, leftSlots steps)
      else .error .outputNotReady

/-- A run has succeeded since the input was set, and the latest one did not report enough values. -/
def Short (width : Nat) (steps : List (Step interface)) : Prop :=
  ∃ input, currentInput steps = some input ∧
    (runsSinceInput steps).any (·.succeeded) = true ∧
    (runsSinceInput steps).getLast?.any (covers (input.matrix.numRow * width)) = false

/-- What decides is what is meant to, unless the output falls short. -/
theorem readable_eq_complete_iff {width : Nat} {steps : List (Step interface)}
    (hcovers : ∀ input, currentInput steps = some input → ∀ n,
      (runsSinceInput steps).getLast?.any (covers n) = true →
        (runsSinceInput steps).any (·.succeeded) = true) :
    readable steps = complete width steps ↔ ¬ Short width steps := by
  unfold readable complete Short
  cases hinput : currentInput steps with
  | none => simp
  | some input =>
    have hcovers := hcovers input hinput (input.matrix.numRow * width)
    -- The two can only differ where a run succeeded and the latest one covers too little.
    cases hany : (runsSinceInput steps).any (·.succeeded) <;>
      cases hlast : (runsSinceInput steps).getLast?.any (covers (input.matrix.numRow * width))
    · simp [hlast]
    · rw [hcovers hlast] at hany
      cases hany
    · simp [hlast]
    · simp [hlast]

section
variable {m₀ m : Model} {steps : List (Step interface)}

theorem exists_latestInput {input : Input} (h : currentInput steps = some input) :
    ∃ s, latestInput steps = some s := by
  obtain ⟨s, hs, -⟩ := Option.bind_eq_some_iff.mp h
  exact ⟨s, hs⟩

/-- Where the latest run covers anything, it is a run that succeeded. -/
theorem any_succeeded_of_covers (h : Reaches Transition m₀ steps m) {input : Input}
    (hinput : currentInput steps = some input) {n : Nat}
    (hcovers : (runsSinceInput steps).getLast?.any (covers n) = true) :
    (runsSinceInput steps).any (·.succeeded) = true := by
  obtain ⟨s, hlatest⟩ := exists_latestInput hinput
  obtain ⟨_, _, _, -, -, hran, -⟩ := inRound_of_reaches h hlatest
  obtain ⟨run, hlast, hrun⟩ := (Option.any_eq_true _ _).mp hcovers
  have hmem : run ∈ runsSinceInput steps := List.mem_of_getLast? hlast
  obtain ⟨_, _, hpredicted⟩ := hran.exists_run_of_mem hmem
  exact List.any_eq_true.mpr ⟨run, hmem, hpredicted.succeeded_of_covers hrun⟩

theorem mem_of_mem_runsSinceInput {s : Step interface} (h : s ∈ runsSinceInput steps) :
    s ∈ steps :=
  (List.rtakeWhile_suffix _ steps).subset (List.mem_filter.mp h).1

/-- A model that can be read is in a round, and its output is what the next run would get. -/
theorem slots_of_readable (h : Reaches Transition m₀ steps m) (hrecalls : Recalls m₀ steps m)
    (hfilled : Filled m) {input : Input} {slots : List Binary32}
    (hread : m.readable = .ok (input, slots)) :
    ∃ matrix r, Round.Ran (.begun m.schema matrix) (runsSinceInput steps) r ∧ slots = r.slots := by
  obtain ⟨hset, hready, rfl⟩ := readable_inv hread
  obtain ⟨s, hlatest⟩ := exists_latestInput (hrecalls.input.symm.trans hset)
  obtain ⟨_, matrix, r, -, -, hran, hround⟩ := inRound_of_reaches h hlatest
  refine ⟨matrix, r, hran, ?_⟩
  -- A readable output already has the length that the next run would bring it to.
  obtain ⟨input', hset', hlength⟩ := hfilled hready
  obtain ⟨input'', hset'', rfl⟩ := Option.map_eq_some_iff.mp hround
  cases hset'.symm.trans hset''
  exact (resize_of_length_eq hlength _).symm

/-- What is read are the first slots, each as it comes from the runs since the input was set. -/
theorem take_of_readable (h : Reaches Transition m₀ steps m) (hrecalls : Recalls m₀ steps m)
    (hfilled : Filled m) (haccounted : ∀ s ∈ steps, ∀ x ∈ s.exchanges, Accounted x) {input : Input}
    {slots : List Binary32} (hread : m.readable = .ok (input, slots)) {n : Nat}
    (hn : (slots.take n).length = n) :
    slots.take n = (List.range n).map (slotFrom .zero (runsSinceInput steps)) := by
  obtain ⟨matrix, r, hran, rfl⟩ := slots_of_readable h hrecalls hfilled hread
  have hruns : ∀ run ∈ runsSinceInput steps, ∀ x ∈ run.exchanges, Accounted x := by
    intro run hrun
    exact haccounted run (mem_of_mem_runsSinceInput hrun)
  -- Slot by slot, each by the last run that wrote it.
  apply List.ext_getElem (by rw [hn, List.length_map, List.length_range])
  intro i hi hi'
  have hi : i < r.slots.length := by
    rw [List.length_take] at hi
    omega
  rw [List.getElem_take, List.getElem_map, List.getElem_range, ← hran.slot_of_begun hruns,
    List.getD_eq_getElem?_getD, List.getElem?_eq_getElem hi, Option.getD_some]

end

/-! ## §4. Whole sessions -/

/-- **Which run the values are from.**  Over an engine that accounts for its predictions, whatever
the operations were, `readable` tells whether the output can be read, and this is as intended
(`complete`) unless the output falls short.  What is read is, slot by slot, what the latest run left
there that did not spare it, and zero where every run did; where the latest run reported enough
values it is the one that wrote them all. -/
theorem life_reads_what_was_reported {σ : Type} (E : Engine interface σ) (haccounts : Accounts E)
    (engine : σ) (artifact : Artifact) (device : Device) (threads : Int32)
    (operations : List Operation) :
    let (l, _) := (lifecycle artifact device threads).life operations E (.start engine)
    ∀ m, l.model = .ok m →
      (readable l.steps = complete m.schema.outputWidth l.steps ↔
        ¬ Short m.schema.outputWidth l.steps) ∧
      (∀ fault, readable l.steps = .error fault → Unreadable m fault) ∧
      ∀ input slots, readable l.steps = .ok (input, slots) →
        input.matrix.numRow * m.schema.numOutputGroup * floatBytes < wordLimit →
        ReadsAs m ((List.range (input.matrix.numRow * m.schema.outputWidth)).map
          (slotFrom .zero (runsSinceInput l.steps))) ∧
        ∀ run, (runsSinceInput l.steps).getLast? = some run →
          covers (input.matrix.numRow * m.schema.outputWidth) run = true →
          ∀ i < input.matrix.numRow * m.schema.outputWidth,
            latestWriter (runsSinceInput l.steps) i = some run := by
  have h := life_lived E engine artifact device threads operations
  have haccounted := accounted_of_accounts haccounts artifact device threads operations engine
  generalize (lifecycle artifact device threads).life operations E (.start engine) = x
    at h haccounted ⊢
  obtain ⟨l, w⟩ := x
  obtain ⟨hw, hlived⟩ := h
  intro m hm
  obtain ⟨-, hfilled, hwidth⟩ := knows_of_lived hlived hm
  obtain ⟨m₀, -, hrun, -, hrecalls⟩ := recalls_of_lived hlived hm
  -- Every prediction of the life was answered by the engine, which writes what it reports.
  have hsteps : ∀ s ∈ l.steps, ∀ x ∈ s.exchanges, Accounted x := by
    intro s hs x hx
    apply haccounted x
    rw [hw]
    exact List.mem_append_left _ (List.mem_append_right _ (List.mem_flatMap.mpr ⟨s, hs, hx⟩))
  refine ⟨?_, ?_, ?_⟩
  · exact readable_eq_complete_iff fun input hinput n hn => any_succeeded_of_covers hrun hinput hn
  · intro fault hfault
    rw [readable_of_recalls hrecalls] at hfault
    exact unreadable_of_readable hfault
  · intro input slots hslots hfits
    rw [readable_of_recalls hrecalls] at hslots
    obtain ⟨hlength, hreads⟩ := readsAs_of_readable hslots hfilled hwidth hfits
    -- Slot by slot, what is read was written by the latest run that did not spare it.
    rw [take_of_readable hrun hrecalls hfilled hsteps hslots hlength] at hreads
    refine ⟨hreads, ?_⟩
    intro run hlast hcovers i hi
    exact latestWriter_of_covers hlast hcovers hi

/-- An engine that takes one value in each row and gives one back, and whose predictions write less
each time: two ones, then a single two, and then they fail. -/
def waning : Engine interface Nat where
  respond
    | .load _ _, n => ((.ok 16 : Except Fault Handle), n)
    | .numFeature _, n => ((.ok 1 : Except Fault Nat), n)
    | .numOutputGroup _, n => ((.ok 1 : Except Fault Nat), n)
    | .predictInst _ _ _ _, n => ((.ok 1 : Except Fault Nat), n)
    | .assemble _, n => ((.ok 1 : Except Fault Handle), n)
    | .delete _, n => ((.ok () : Except Fault Unit), n)
    | .predictBatch _ _ _ _ slots, n =>
        let value : Binary32 := if n = 0 then ⟨0x3F800000⟩ else ⟨0x40000000⟩
        let left := (List.replicate (2 - n) value).take slots.length
        let result : Except Fault Nat :=
          if n < 2 then .ok left.length
          else .error (.treelite "TreelitePredictorPredictBatch" "out of memory")
        (((result, left) : Except Fault Nat × List Binary32), n + 1)
    | .free _, n => ((.ok () : Except Fault Unit), n)

theorem waning_accounts : Accounts waning := by
  intro call n
  -- Only a prediction writes, and it reports what it wrote.
  cases call with
  | predictBatch predictor batch verbose margin slots =>
    intro count hcount
    generalize hleft : (List.replicate (2 - n) _).take slots.length = left at hcount
    have hle : left.length ≤ slots.length := by
      rw [← hleft, List.length_take]
      exact Nat.min_le_left _ _
    split at hcount
    · obtain rfl := Except.ok.inj hcount
      refine ⟨hle, ?_⟩
      rw [overwrite_of_length_le hle, List.drop_left]
    · cases hcount
  | _ => trivial

/-- The life in which this engine predicts two rows so many times. -/
def waningLife (runs : Nat) : Life interface Model :=
  ((lifecycle ⟨"model.so", none⟩ .cpu (-1)).life
    (.setInputFloats "data" [2, 1] [⟨0x3F800000⟩, ⟨0x3F800000⟩] :: List.replicate runs .run)
    waning (.start 0)).1

/-- After a run that reported a value for each row, those values are read. -/
theorem reported_values_are_read :
    Accounts waning ∧ ∃ m, (waningLife 1).model = .ok m ∧
      ReadsAs m [⟨0x3F800000⟩, ⟨0x3F800000⟩] := by
  have h := life_reads_what_was_reported waning waning_accounts 0 ⟨"model.so", none⟩ .cpu (-1)
    [.setInputFloats "data" [2, 1] [⟨0x3F800000⟩, ⟨0x3F800000⟩], .run]
  refine ⟨waning_accounts, _, rfl, ?_⟩
  obtain ⟨-, -, hreads⟩ := h _ rfl
  exact (hreads _ _ rfl (by decide)).1

/-- The output is meant not to be readable after a second run that reported one value for two rows,
nor after a third one that failed.  It is read both times: a value of the second run, and one that
the first run left. -/
theorem short_run_leaves_output_readable :
    Accounts waning ∧
    (complete 1 (waningLife 2).steps = .error .outputNotReady ∧
      ∃ m, (waningLife 2).model = .ok m ∧ m.answer (.getOutput 0 (List.replicate 8 0))
        = .filled (.ok (), [0, 0, 0, 64, 0, 0, 128, 63])) ∧
    (complete 1 (waningLife 3).steps = .error .outputNotReady ∧
      ∃ m, (waningLife 3).model = .ok m ∧ m.answer (.getOutput 0 (List.replicate 8 0))
        = .filled (.ok (), [0, 0, 0, 64, 0, 0, 128, 63])) :=
  ⟨waning_accounts, ⟨rfl, _, rfl, rfl⟩, ⟨rfl, _, rfl, rfl⟩⟩

/-- The runs reported two values, one, and none. -/
example : (runsSinceInput (waningLife 3).steps).map reportedBy = [some 2, some 1, none] := rfl

end ModelAdapter.Treelite
