import Mathlib.Data.Nat.Find
import ModelAdapter.Proofs.Hexagon.Binding

/-! # Discovering the tensors

A compiled model says how many tensors it has only by answering for them: its two C
functions describe the tensor of a given number, or have no tensor of that number.
The adapter asks by ascending numbers, for the inputs and then for the outputs, and a
description that does not make sense ends the attempt.

  * **Descriptions** (`WellFormed`, `defects`, `Carries`): what makes sense, what can be
    wrong and is told first, and what is kept of a description.
  * **Questions** (`collect_brings`): what asking by ascending numbers comes to.
  * **Models** (`KnowsInputs`, `KnowsOutputs`): a model that says of its tensors what the
    C functions said.
  * **Building** (`schema_is_discovered`): it succeeds exactly if everything up to the
    ends of both lists makes sense, and the model then knows all of it.
-/

namespace ModelAdapter

/-! ## §1. Computations with one result -/

namespace Drive

variable {I : Interface} {σ α β : Type} {E : Engine I σ}

/-- Over this engine a computation brings `a`, whatever happened before. -/
def Brings (E : Engine I σ) (d : Drive I σ α) (a : α) : Prop := ∀ w, (d E w).1 = a

theorem Brings.pure (a : α) : Brings E (Pure.pure a) a := by
  intro w
  rfl

/-- What a computation brings this time, and what always follows from that. -/
theorem bind_of_brings {w : World I σ} {d : Drive I σ α} {f : α → Drive I σ β} {a : α} {b : β}
    (hd : (d E w).1 = a) (hf : Brings E (f a) b) : ((d >>= f) E w).1 = b := by
  show (f (d E w).1 E (d E w).2).1 = b
  rw [hd]
  exact hf _

theorem Brings.bind {d : Drive I σ α} {f : α → Drive I σ β} {a : α} {b : β} (hd : Brings E d a)
    (hf : Brings E (f a) b) : Brings E (d >>= f) b := by
  intro w
  exact bind_of_brings (hd w) hf

/-- What is not done for its result. -/
theorem Brings.then {d : Drive I σ Unit} {f : Drive I σ β} {b : β} (hf : Brings E f b) :
    Brings E (d >>= fun _ => f) b := by
  intro w
  exact hf _

end Drive

namespace Hexagon

open Drive (Brings)

/-! ## §2. Descriptions -/

namespace Abi.RawSpec

/-- A description that makes sense: there is a name, no number is negative, and there is a shape
unless the rank is 0. -/
structure WellFormed (raw : Abi.RawSpec) : Prop where
  name : raw.name ≠ none
  dim : 0 ≤ raw.dim
  bytes : 0 ≤ raw.bytes
  size : 0 ≤ raw.size
  shape : 0 < raw.dim → raw.shape ≠ none

/-- What is wrong with a description, in the order in which it is looked for. -/
def defects (raw : Abi.RawSpec) : List String :=
  ([(raw.name.isNone, "a null name"),
    (decide (raw.dim < 0), "a negative rank"),
    (decide (raw.bytes < 0), "a negative byte size"),
    (decide (raw.size < 0), "a negative element count"),
    (decide (0 < raw.dim) && raw.shape.isNone, "a null shape")].filter (·.1)).map (·.2)

/-- What is kept of a description.  Every extent is read that the rank asks for, so there are as
many as it says if the shape points at so many. -/
structure Carries (raw : Abi.RawSpec) (spec : TensorSpec) : Prop where
  name : ∃ bytes, raw.name = some bytes ∧ spec.name = Utf8.decode (Utf8.terminated bytes)
  dim : (spec.dim : Int) = raw.dim.toInt
  shape : spec.shape = ((raw.shape.getD []).take spec.dim).map (·.toInt)
  rank : spec.dim ≤ (raw.shape.getD []).length → spec.dim = spec.shape.length
  bytes : (spec.bytes : Int) = raw.bytes.toInt
  size : (spec.size : Int) = raw.size.toInt

/-- A description makes sense if nothing is wrong with it. -/
theorem wellFormed_iff {raw : Abi.RawSpec} : raw.WellFormed ↔ raw.defects = [] := by
  constructor
  · intro ⟨hname, hdim, hbytes, hsize, hshape⟩
    simp_all [defects, Int32.not_lt]
  · intro h
    simp only [defects, List.map_eq_nil_iff, List.filter_eq_nil_iff, List.forall_mem_cons,
      decide_eq_true_eq, Int32.not_lt, Bool.and_eq_true, not_and, Option.isNone_iff_eq_none] at h
    obtain ⟨hname, hdim, hbytes, hsize, hshape, -⟩ := h
    exact ⟨hname, hdim, hbytes, hsize, hshape⟩

instance (raw : Abi.RawSpec) : Decidable raw.WellFormed :=
  decidable_of_iff (raw.defects = []) wellFormed_iff.symm

end Abi.RawSpec

theorem natural_of_neg {what : String} {n : Int32} (h : n < 0) :
    natural what n = .error (.precondition ("tensor spec has " ++ what)) :=
  if_pos h

theorem natural_of_nonneg {what : String} {n : Int32} (h : 0 ≤ n) :
    natural what n = .ok n.toInt.toNat :=
  if_neg (Int32.not_lt.mpr h)

/-- What makes sense is read, and kept. -/
theorem exists_readSpec {raw : Abi.RawSpec} (h : raw.WellFormed) :
    ∃ spec, readSpec raw = .ok spec ∧ raw.Carries spec := by
  obtain ⟨name, hname⟩ := Option.ne_none_iff_exists'.mp h.name
  -- No number is negative, so as a natural number it is the same.
  have hnat {n : Int32} (hn : 0 ≤ n) : (n.toInt.toNat : Int) = n.toInt :=
    Int.toNat_of_nonneg (Int32.le_iff_toInt_le.mp hn)
  let spec : TensorSpec :=
    { name := Utf8.decode (Utf8.terminated name)
      dim := raw.dim.toInt.toNat
      shape := ((raw.shape.getD []).take raw.dim.toInt.toNat).map (·.toInt)
      bytes := raw.bytes.toInt.toNat
      size := raw.size.toInt.toNat }
  have hread : readSpec raw = .ok spec := by
    unfold readSpec
    rw [hname]
    simp only [natural_of_nonneg h.dim, natural_of_nonneg h.bytes, natural_of_nonneg h.size, bind,
      Except.bind]
    cases hshape : raw.shape with
    | some extents =>
      simp only [spec, hshape, Option.getD_some]
      rfl
    | none =>
      -- Without a shape the rank is 0, and no extent is needed.
      have hrank : ¬ 0 < raw.dim := fun hpos => h.shape hpos hshape
      have hdim : ¬ 0 < raw.dim.toInt.toNat := by
        rw [Int32.lt_iff_toInt_lt, Int32.toInt_zero] at hrank
        omega
      simp only [spec, hshape, Option.getD_none, List.take_nil, List.map_nil, if_neg hdim]
      rfl
  refine ⟨spec, hread, ⟨name, hname, rfl⟩, hnat h.dim, rfl, ?_, hnat h.bytes, hnat h.size⟩
  intro hlong
  rw [List.length_map, List.length_take, Nat.min_eq_left hlong]

/-- What does not make sense is refused for the first thing that is wrong with it. -/
theorem readSpec_of_defect {raw : Abi.RawSpec} {what : String} (h : raw.defects.head? = some what) :
    readSpec raw = .error (.precondition ("tensor spec has " ++ what)) := by
  unfold readSpec
  cases hname : raw.name with
  | none =>
    obtain rfl : "a null name" = what := by simpa [Abi.RawSpec.defects, hname] using h
    rfl
  | some name =>
    by_cases hdim : raw.dim < 0
    · obtain rfl : "a negative rank" = what := by simpa [Abi.RawSpec.defects, hname, hdim] using h
      simp only [natural_of_neg hdim, bind, Except.bind]
    by_cases hbytes : raw.bytes < 0
    · obtain rfl : "a negative byte size" = what := by
        simpa [Abi.RawSpec.defects, hname, hdim, hbytes] using h
      simp only [natural_of_nonneg (Int32.not_lt.mp hdim), natural_of_neg hbytes, bind, Except.bind]
    by_cases hsize : raw.size < 0
    · obtain rfl : "a negative element count" = what := by
        simpa [Abi.RawSpec.defects, hname, hdim, hbytes, hsize] using h
      simp only [natural_of_nonneg (Int32.not_lt.mp hdim),
        natural_of_nonneg (Int32.not_lt.mp hbytes), natural_of_neg hsize, bind, Except.bind]
    -- All numbers can be read, so what is wrong is that there is no shape.
    obtain ⟨⟨hrank, hshape⟩, hwhat⟩ : (0 < raw.dim ∧ raw.shape = none) ∧ "a null shape" = what := by
      by_cases hnull : 0 < raw.dim ∧ raw.shape = none
      · simpa [Abi.RawSpec.defects, hname, hdim, hbytes, hsize, hnull] using h
      · simp [Abi.RawSpec.defects, hname, hdim, hbytes, hsize, hnull] at h
    have hextents : 0 < raw.dim.toInt.toNat := by
      rw [Int32.lt_iff_toInt_lt, Int32.toInt_zero] at hrank
      omega
    simp only [natural_of_nonneg (Int32.not_lt.mp hdim),
      natural_of_nonneg (Int32.not_lt.mp hbytes), natural_of_nonneg (Int32.not_lt.mp hsize), bind,
      Except.bind, hshape, if_pos hextents, ← hwhat]
    rfl

/-! ## §3. Questions by number -/

section
variable {τ : Type} {E : Engine interface τ}

/-- Asking by ascending numbers brings the descriptions up to the first number that has none, or
fails where a question does. -/
theorem collect_brings {query : Nat → Drive interface τ (Except Fault (Option TensorSpec))}
    {answer : Nat → Except Fault (Option TensorSpec)}
    (hquery : ∀ id, Brings E (query id) (answer id)) (last : Except Fault Unit)
    (specs : List TensorSpec) : ∀ {ids id : Nat}, specs.length < ids →
      (∀ i spec, specs[i]? = some spec → answer (id + i) = .ok (some spec)) →
      answer (id + specs.length) = last.map (fun _ => none) →
      Brings E (collect query ids id) (last.map (fun _ => specs)) := by
  -- On the descriptions that there are; each one takes a number.
  induction specs with
  | nil =>
    intro ids id hleft _ hlast
    obtain ⟨ids, rfl⟩ := Nat.exists_eq_succ_of_ne_zero (Nat.ne_of_gt hleft)
    apply (hquery id).bind
    have hanswer : answer id = last.map (fun _ => none) := hlast
    rw [hanswer]
    cases last <;> exact .pure _
  | cons spec rest ih =>
    intro ids id hleft hspecs hlast
    obtain ⟨ids, rfl⟩ := Nat.exists_eq_succ_of_ne_zero (Nat.ne_of_gt (Nat.zero_lt_of_lt hleft))
    apply (hquery id).bind
    have hanswer : answer id = .ok (some spec) := hspecs 0 spec rfl
    rw [hanswer]
    have hrest : Brings E (collect query ids (id + 1)) (last.map (fun _ => rest)) := by
      apply ih (Nat.lt_of_succ_lt_succ hleft)
      · intro i next hnext
        rw [Nat.add_right_comm, Nat.add_assoc]
        exact hspecs (i + 1) next hnext
      · rw [Nat.add_right_comm, Nat.add_assoc]
        exact hlast
    apply hrest.bind
    cases last <;> exact .pure _

end

/-- What a C function answers about the tensor of each number. -/
abbrev Answers := Nat → Int32 × Abi.RawSpec

/-- The first number for which there is no tensor. -/
structure Answers.EndsAt (answers : Answers) (count : Nat) : Prop where
  numbered : count < specLimit
  ended : (answers count).1 ≠ 0
  before : ∀ id < count, (answers id).1 = 0

/-- Each description carries what was answered for its number. -/
def Answers.Describe (answers : Answers) (specs : List TensorSpec) : Prop :=
  ∀ id spec, specs[id]? = some spec →
    readAnswer (answers id) = .ok (some spec) ∧ (answers id).2.Carries spec

section
variable {answers : Answers} {count : Nat}

theorem readAnswer_of_ok {answer : Int32 × Abi.RawSpec} (h : answer.1 = 0) :
    readAnswer answer = (readSpec answer.2).map some :=
  if_neg (not_not_intro h)

/-- Answers that make sense describe as many tensors as there are. -/
theorem Answers.exists_describe (hzero : ∀ id < count, (answers id).1 = 0)
    (hform : ∀ id < count, (answers id).2.WellFormed) :
    ∃ specs, specs.length = count ∧ answers.Describe specs := by
  -- The descriptions so far stay where they are when one more comes at the end.
  induction count with
  | zero =>
    refine ⟨[], rfl, ?_⟩
    intro id spec hspec
    cases hspec
  | succ count ih =>
    obtain ⟨specs, hlength, hdescribe⟩ := ih (fun id hid => hzero id (Nat.lt_succ_of_lt hid))
      (fun id hid => hform id (Nat.lt_succ_of_lt hid))
    obtain ⟨last, hread, hcarries⟩ := exists_readSpec (hform count (Nat.lt_succ_self count))
    refine ⟨specs ++ [last], by rw [List.length_append, hlength]; rfl, ?_⟩
    intro id spec hspec
    by_cases hid : id < specs.length
    · rw [List.getElem?_append_left hid] at hspec
      exact hdescribe id spec hspec
    · -- Only the last one is left.
      rw [List.getElem?_append_right (Nat.not_lt.mp hid)] at hspec
      obtain ⟨hlast, hspec⟩ := List.getElem?_eq_some_iff.mp hspec
      rw [List.length_singleton] at hlast
      have hcount : id = count := by omega
      subst hcount
      obtain rfl : last = spec := by simpa using hspec
      rw [readAnswer_of_ok (hzero id (Nat.lt_succ_self id)), hread]
      exact ⟨rfl, hcarries⟩

/-- Among answers of which some do not make sense there is a first one. -/
theorem Answers.exists_first_defect (h : ∃ id < count, ¬ (answers id).2.WellFormed) :
    ∃ id < count, (∀ earlier < id, (answers earlier).2.WellFormed) ∧
      ∃ what, (answers id).2.defects.head? = some what := by
  obtain ⟨hid, hbad⟩ := Nat.find_spec h
  refine ⟨Nat.find h, hid, ?_, ?_⟩
  · intro earlier hearlier
    by_contra hno
    exact Nat.find_min h hearlier ⟨hearlier.trans hid, hno⟩
  · -- Something is wrong with it, so there is something that is told first.
    rw [Abi.RawSpec.wellFormed_iff] at hbad
    exact ⟨_, List.head?_eq_some_head hbad⟩

end

section
variable {τ : Type} {E : Engine interface τ} {answers : Answers} {count : Nat}
  {query : Nat → Drive interface τ (Except Fault (Option TensorSpec))}
  (hquery : ∀ id, Brings E (query id) (readAnswer (answers id)))
include hquery

/-- Answers that make sense are all collected. -/
theorem collect_of_wellFormed (hends : answers.EndsAt count)
    (hform : ∀ id < count, (answers id).2.WellFormed) :
    ∃ specs, specs.length = count ∧ answers.Describe specs ∧
      Brings E (collect query specLimit 0) (.ok specs) := by
  obtain ⟨specs, rfl, hdescribe⟩ := Answers.exists_describe hends.before hform
  have hended : readAnswer (answers specs.length) = .ok none := if_pos hends.ended
  refine ⟨specs, rfl, hdescribe, ?_⟩
  apply collect_brings hquery (.ok ()) specs hends.numbered
  · intro i spec hspec
    rw [Nat.zero_add]
    exact (hdescribe i spec hspec).1
  · rw [Nat.zero_add]
    exact hended

/-- The first answer that does not make sense ends the collection. -/
theorem collect_of_defect (hends : answers.EndsAt count) {id : Nat} (hid : id < count)
    (hform : ∀ earlier < id, (answers earlier).2.WellFormed) {what : String}
    (hdefect : (answers id).2.defects.head? = some what) :
    Brings E (collect query specLimit 0)
      (.error (.precondition ("tensor spec has " ++ what))) := by
  obtain ⟨specs, rfl, hdescribe⟩ := Answers.exists_describe
    (fun earlier h => hends.before earlier (h.trans hid)) hform
  -- The first malformed answer is that behind all the descriptions so far.
  have hfailed : readAnswer (answers specs.length)
      = .error (.precondition ("tensor spec has " ++ what)) := by
    rw [readAnswer_of_ok (hends.before _ hid), readSpec_of_defect hdefect]
    rfl
  apply collect_brings hquery (.error _) specs (hid.trans hends.numbered)
  · intro i spec hspec
    rw [Nat.zero_add]
    exact (hdescribe i spec hspec).1
  · rw [Nat.zero_add]
    exact hfailed

end

/-! ## §4. Building -/

section
variable {τ : Type} {E : Engine interface τ}

theorem discover_of_specs {inputs outputs : List TensorSpec}
    (hinputs : Brings E collectInputs (.ok inputs))
    (houtputs : Brings E collectOutputs (.ok outputs)) (m : Model) :
    Brings E m.discover
      (.ok (), { m with inputs, inputNames := inputs.map (·.name), outputs }) := by
  apply hinputs.bind
  apply houtputs.bind
  exact .pure _

theorem discover_of_inputs_fault {fault : Fault}
    (hinputs : Brings E collectInputs (.error fault)) (m : Model) :
    Brings E m.discover
      (.error ((Report.bare fault).note "discovering input tensor specs"), m) := by
  apply hinputs.bind
  exact .pure _

theorem discover_of_outputs_fault {inputs : List TensorSpec} {fault : Fault}
    (hinputs : Brings E collectInputs (.ok inputs))
    (houtputs : Brings E collectOutputs (.error fault)) (m : Model) :
    Brings E m.discover
      (.error ((Report.bare fault).note "discovering output tensor specs"),
        { m with inputs, inputNames := inputs.map (·.name) }) := by
  apply hinputs.bind
  apply houtputs.bind
  exact .pure _

variable {w : World interface τ} {artifact : Artifact} {device : Device} {debugLevel : Int32}
  {session : Session} {memory : Memory}
  (hinit : (E.respond (Call.init debugLevel) w.engine).1
    = (.ok ⟨session, memory⟩ : Except InitFailure Opened))
include hinit

theorem openSession_of_opened (m : Model) :
    (m.openSession debugLevel E w).1 = (.ok (), { m with session := some session, memory }) := by
  apply Drive.bind_of_brings hinit
  exact .then (.pure _)

/-- Once its session is open, a model is built if its tensors are discovered. -/
theorem build_of_discovered {m : Model}
    (hdiscover : Brings E
      { Model.unopened artifact device with session := some session, memory }.discover
        (.ok (), m)) :
    (build artifact device debugLevel E w).1 = .ok m := by
  apply Drive.bind_of_brings (openSession_of_opened hinit _)
  apply hdiscover.bind
  exact .then (.pure _)

/-- If they are not, it is given up, and the report is that of the discovery. -/
theorem build_of_undiscovered {report : Report} {m : Model}
    (hdiscover : Brings E
      { Model.unopened artifact device with session := some session, memory }.discover
        (.error report, m)) :
    (build artifact device debugLevel E w).1 = .error report := by
  apply Drive.bind_of_brings (openSession_of_opened hinit _)
  apply hdiscover.bind
  exact .then (.pure _)

end

/-! ## §5. What a model knows -/

/-- A model says of its inputs what was answered for them, and of no others. -/
structure KnowsInputs (m : Model) (answers : Answers) (count : Nat) : Prop where
  counted : m.answer .numInputs = .ok (.count count)
  known : ∀ id < count, ∃ spec, m.inputs[id]? = some spec ∧ (answers id).2.Carries spec ∧
    m.answer (.inputName id) = .ok (.text spec.name) ∧
    m.answer (.inputShape id) = .ok (.shape spec.shape) ∧
    m.answer (.inputSize id) = .ok (.size spec.size) ∧
    m.answer (.inputDim id) = .ok (.count spec.dim)
  others : ∀ id, count ≤ id →
    ∀ query ∈ [Query.inputName id, .inputShape id, .inputSize id, .inputDim id],
      m.answer query = .error (.indexOutOfRange "Input" id count)

/-- A model says of its outputs what was answered for them, and of no others. -/
structure KnowsOutputs (m : Model) (answers : Answers) (count : Nat) : Prop where
  counted : m.answer .numOutputs = .ok (.count count)
  known : ∀ id < count, ∃ spec, m.outputs[id]? = some spec ∧ (answers id).2.Carries spec ∧
    m.answer (.outputShape id) = .ok (.shape spec.shape) ∧
    m.answer (.outputSize id) = .ok (.size spec.size) ∧
    m.answer (.outputDim id) = .ok (.count spec.dim)
  others : ∀ id, count ≤ id →
    ∀ query ∈ [Query.outputShape id, .outputSize id, .outputDim id],
      m.answer query = .error (.indexOutOfRange "Output" id count)

section
variable {m : Model} {answers : Answers}

theorem signed_of_carries {raw : Abi.RawSpec} {spec : TensorSpec} (h : raw.Carries spec) :
    signed spec.size = spec.size := by
  have hsize := h.size
  have hlimit := raw.size.toInt_lt
  apply signed_of_lt
  omega

/-- The model of the descriptions of its inputs knows what they were described as. -/
theorem knowsInputs_of_describe (hdescribe : answers.Describe m.inputs)
    (hnames : m.inputNames = m.inputs.map (·.name)) :
    KnowsInputs m answers m.inputs.length where
  counted := rfl
  known id hid := by
    have hspec : m.inputs[id]? = some m.inputs[id] := List.getElem?_eq_getElem hid
    have hread : m.inputSpec id = .ok m.inputs[id] := by rw [Model.inputSpec, hspec]
    have hname : m.inputNames.getD id "" = m.inputs[id].name := by simp [hnames, hid]
    obtain ⟨-, hcarries⟩ := hdescribe id _ hspec
    refine ⟨_, hspec, hcarries, ?_, ?_, ?_, ?_⟩
    · show Outcome.plain ((m.inputSpec id >>= fun _ => pure (m.inputNames.getD id "")).map .text)
        = _
      rw [hread, hname]
      rfl
    · show Outcome.plain ((m.inputSpec id).map _) = _
      rw [hread]
      rfl
    · show Outcome.plain ((m.inputSpec id).map _) = _
      rw [hread, ← signed_of_carries hcarries]
      rfl
    · show Outcome.plain ((m.inputSpec id).map _) = _
      rw [hread]
      rfl
  others id hid query hquery := by
    -- Each of the four looks the description up before anything else.
    have hnone : m.inputSpec id = .error (.indexOutOfRange "Input" id m.inputs.length) := by
      rw [Model.inputSpec, List.getElem?_eq_none hid]
    simp only [List.mem_cons, List.not_mem_nil, or_false] at hquery
    rcases hquery with rfl | rfl | rfl | rfl <;>
      · simp only [Model.answer, Model.inputName, hnone]
        rfl

/-- The model of the descriptions of its outputs knows what they were described as. -/
theorem knowsOutputs_of_describe (hdescribe : answers.Describe m.outputs) :
    KnowsOutputs m answers m.outputs.length where
  counted := rfl
  known id hid := by
    have hspec : m.outputs[id]? = some m.outputs[id] := List.getElem?_eq_getElem hid
    have hread : m.outputSpec id = .ok m.outputs[id] := by rw [Model.outputSpec, hspec]
    obtain ⟨-, hcarries⟩ := hdescribe id _ hspec
    refine ⟨_, hspec, hcarries, ?_, ?_, ?_⟩
    · show Outcome.plain ((m.outputSpec id).map _) = _
      rw [hread]
      rfl
    · show Outcome.plain (((m.outputSpec id).map _).map .size) = _
      rw [hread, ← signed_of_carries hcarries]
      rfl
    · show Outcome.plain ((m.outputSpec id).map _) = _
      rw [hread]
      rfl
  others id hid query hquery := by
    -- As with the inputs, the description is looked up first.
    have hnone : m.outputSpec id = .error (.indexOutOfRange "Output" id m.outputs.length) := by
      rw [Model.outputSpec, List.getElem?_eq_none hid]
    simp only [List.mem_cons, List.not_mem_nil, or_false] at hquery
    rcases hquery with rfl | rfl | rfl <;>
      · simp only [Model.answer, Model.outputSize, hnone]
        rfl

end

/-! ## §6. Building over C functions -/

/-- **The tensors are discovered.**  The C functions answer for each tensor by its number; `n` is
the first number without an input and `m` the first without an output.  If everything they answer up
to there makes sense, building succeeds once the session is open, and the model knows `n` inputs and
`m` outputs as they were answered for, and no others.  Otherwise building fails, and the report
names what is wrong first with the first answer that does not make sense, among the inputs if there
is one, and else among the outputs. -/
theorem schema_is_discovered {σ : Type} (E : Engine Abi.interface σ) (below : World Abi.interface σ)
    (artifact : Artifact) (device : Device) (debugLevel : Int32) (inputs outputs : Answers)
    (hinputs : ∀ id s, (E.respond (Abi.Call.inputSpec id) s).1 = inputs id)
    (houtputs : ∀ id s, (E.respond (Abi.Call.outputSpec id) s).1 = outputs id)
    (hinit : (E.respond (Abi.Call.init debugLevel) below.engine).1.status = 0)
    {n m : Nat} (hn : inputs.EndsAt n) (hm : outputs.EndsAt m) :
    let built := (build artifact device debugLevel (binding E) (.start below)).1
    ((∀ id < n, (inputs id).2.WellFormed) → (∀ id < m, (outputs id).2.WellFormed) →
        ∃ model, built = .ok model ∧ KnowsInputs model inputs n ∧ KnowsOutputs model outputs m) ∧
      ((∃ id < n, ¬ (inputs id).2.WellFormed) →
        ∃ id < n, (∀ earlier < id, (inputs earlier).2.WellFormed) ∧
          ∃ what, (inputs id).2.defects.head? = some what ∧
            built = .error ((Report.bare (.precondition ("tensor spec has " ++ what))).note
              "discovering input tensor specs")) ∧
      ((∀ id < n, (inputs id).2.WellFormed) → (∃ id < m, ¬ (outputs id).2.WellFormed) →
        ∃ id < m, (∀ earlier < id, (outputs earlier).2.WellFormed) ∧
          ∃ what, (outputs id).2.defects.head? = some what ∧
            built = .error ((Report.bare (.precondition ("tensor spec has " ++ what))).note
              "discovering output tensor specs")) := by
  intro built
  -- The functions answer by the number alone, so every question has one result.
  have hinput (id : Nat) :
      Brings (binding E) (ask (.inputSpec id)) (readAnswer (inputs id)) := by
    intro w
    exact congrArg readAnswer (hinputs id w.engine.engine)
  have houtput (id : Nat) :
      Brings (binding E) (ask (.outputSpec id)) (readAnswer (outputs id)) := by
    intro w
    exact congrArg readAnswer (houtputs id w.engine.engine)
  -- With the status 0 there is a session, whatever else was written.
  obtain ⟨session, memory, hopened⟩ : ∃ session memory,
      ((binding E).respond (Call.init debugLevel) below).1
        = (.ok ⟨session, memory⟩ : Except InitFailure Opened) :=
    ⟨_, _, if_neg (not_not_intro hinit)⟩
  refine ⟨?_, ?_, ?_⟩
  · intro hins houts
    obtain ⟨ins, rfl, hdescribe, hcollect⟩ := collect_of_wellFormed hinput hn hins
    obtain ⟨outs, rfl, hdescribe', hcollect'⟩ := collect_of_wellFormed houtput hm houts
    exact ⟨_, build_of_discovered hopened (discover_of_specs hcollect hcollect' _),
      knowsInputs_of_describe hdescribe rfl, knowsOutputs_of_describe hdescribe'⟩
  · intro hbad
    obtain ⟨id, hid, hearlier, what, hdefect⟩ := Answers.exists_first_defect hbad
    have hcollect := collect_of_defect hinput hn hid hearlier hdefect
    exact ⟨id, hid, hearlier, what, hdefect,
      build_of_undiscovered hopened (discover_of_inputs_fault hcollect _)⟩
  · intro hins hbad
    -- The inputs are collected before the outputs are asked for.
    obtain ⟨ins, -, -, hcollect⟩ := collect_of_wellFormed hinput hn hins
    obtain ⟨id, hid, hearlier, what, hdefect⟩ := Answers.exists_first_defect hbad
    have hcollect' := collect_of_defect houtput hm hid hearlier hdefect
    exact ⟨id, hid, hearlier, what, hdefect,
      build_of_undiscovered hopened (discover_of_outputs_fault hcollect hcollect' _)⟩

/-- A script of one input and one output, as they are written. -/
def oneEach (input output : Abi.RawSpec) : Script (Int32 × Abi.RawSpec) where
  inputs := [(0, input)]
  outputs := [(0, output)]
  input := []
  output := []
  log := []
  logStatus := 0
  initStatus := 0
  graph := 7
  exec := []
  nullInput := false
  nullOutput := false
  endStatus := -1

/-- One tensor, and none after it. -/
def single (raw : Abi.RawSpec) : Answers := fun id => [(0, raw)].getD id (-1, Script.unwritten)

theorem single_endsAt (raw : Abi.RawSpec) : (single raw).EndsAt 1 where
  numbered := by decide
  ended := (by decide : (-1 : Int32) ≠ 0)
  before := by
    intro id hid
    obtain rfl : id = 0 := by omega
    rfl

/-- A description that makes sense: the extent of the second axis is not known, and the name has a
byte that is no text. -/
def openEnded : Abi.RawSpec :=
  { name := some [0x78, 0xFF, 0x79, 0], dim := 2, shape := some [3, -1], size := 3, bytes := 12 }

/-- The same without extents and with a negative number of bytes, which is told first. -/
def shapeless : Abi.RawSpec := { openEnded with shape := none, bytes := -1 }

/-- Tensors that make sense are known; with one that does not nothing is built. -/
theorem malformed_tensors_are_told :
    let built (input output : Abi.RawSpec) := (build ⟨".", "m_hexagon_model.so", none⟩ .cpu 0
      (binding (oneEach input output).exported) (.start (.start 0))).1
    (∃ model, built openEnded openEnded = .ok model ∧
      model.answer (.inputShape 0) = .ok (.shape [3, -1]) ∧
      model.answer (.inputName 0) = .ok (.text "x\uFFFDy") ∧
      KnowsInputs model (single openEnded) 1 ∧ KnowsOutputs model (single openEnded) 1) ∧
    built shapeless shapeless = .error ⟨.precondition "tensor spec has a negative byte size",
      ["discovering input tensor specs"]⟩ ∧
    built openEnded shapeless = .error ⟨.precondition "tensor spec has a negative byte size",
      ["discovering output tensor specs"]⟩ := by
  intro built
  have hgood : ∀ id < 1, (single openEnded id).2.WellFormed := by decide
  have hbad : ∃ id < 1, ¬ (single shapeless id).2.WellFormed := by decide
  have h (input output : Abi.RawSpec) := schema_is_discovered (oneEach input output).exported
    (.start 0) ⟨".", "m_hexagon_model.so", none⟩ .cpu 0 (single input) (single output)
    (fun _ _ => rfl) (fun _ _ => rfl) rfl (single_endsAt input) (single_endsAt output)
  refine ⟨?_, ?_, ?_⟩
  · obtain ⟨model, hmodel, hinputs, houtputs⟩ := (h openEnded openEnded).1 hgood hgood
    -- The extent -1 is kept, and the stray byte is told as a replacement character.
    obtain ⟨spec, -, hcarries, hanswer, hshape, -⟩ := hinputs.known 0 (by decide)
    have hdim : (spec.dim : Int) = 2 := hcarries.dim
    have hextents : spec.shape = [3, -1] := by
      rw [hcarries.shape, Int.ofNat_inj.mp hdim]
      rfl
    obtain ⟨bytes, hbytes, hname⟩ := hcarries.name
    cases hbytes
    have htext : Utf8.decode [0x78, 0xFF, 0x79] = "x\uFFFDy" := Utf8.decode_stray rfl "x" "y"
    rw [hname.trans htext] at hanswer
    rw [hextents] at hshape
    exact ⟨model, hmodel, hshape, hanswer, hinputs, houtputs⟩
  · -- Both descriptions are malformed, and the input is described first.
    obtain ⟨id, hid, -, what, hwhat, hbuilt⟩ := (h shapeless shapeless).2.1 hbad
    obtain rfl : id = 0 := by omega
    cases hwhat
    exact hbuilt
  · obtain ⟨id, hid, -, what, hwhat, hbuilt⟩ := (h openEnded shapeless).2.2 hgood hbad
    obtain rfl : id = 0 := by omega
    cases hwhat
    exact hbuilt

end Hexagon

end ModelAdapter
