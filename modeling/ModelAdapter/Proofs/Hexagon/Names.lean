import ModelAdapter.Proofs.Hexagon.Acceptance

/-! # Inputs are found by their names

The uniform interface can look an input up by its name with nothing but questions: it
asks for one name after the other, by ascending index, and a question that fails is
passed over.  A model of the DSP engine keeps the names of its inputs in a list of its
own, beside the descriptions, and searches that list instead.

  * **What is looked for** (`FirstNamed`): the least index at which a name stands.  Of
    several inputs of one name the later ones are never found.
  * **Two searches** (`lookup_eq_ok_iff`, `inputIndex_eq_ok_iff`): both find it, and both
    fail only if there is none.
  * **Sessions** (`inputs_are_found_by_name`): the list of names has one name for each
    description, so the two searches look through the same names.
-/

namespace ModelAdapter

/-! ## §1. Looking up by questions -/

/-- The least index at which a name stands. -/
structure FirstNamed (nameAt : Nat → Except Fault String) (name : String) (index : Nat) : Prop where
  named : nameAt index = .ok name
  first : ∀ earlier < index, nameAt earlier ≠ .ok name

section
variable {count : Nat} {nameAt : Nat → Except Fault String} {name : String}

/-- Whether the answer to a question is a name. -/
def tells (name : String) : Except Fault String → Bool
  | .ok n => n == name
  | .error _ => false

theorem tells_iff {answer : Except Fault String} :
    tells name answer = true ↔ answer = .ok name := by
  cases answer <;> simp [tells]

/-- The search takes the least index of a range. -/
theorem lookup_eq : lookup count nameAt name =
    match (List.range count).find? (fun i => tells name (nameAt i)) with
    | some i => .ok i
    | none => .error (.inputNotFound name) :=
  rfl

theorem lookup_eq_ok_iff {index : Nat} :
    lookup count nameAt name = .ok index ↔ index < count ∧ FirstNamed nameAt name index := by
  have hfind : lookup count nameAt name = .ok index ↔
      (List.range count).find? (fun i => tells name (nameAt i)) = some index := by
    rw [lookup_eq]
    cases (List.range count).find? (fun i => tells name (nameAt i)) <;> simp
  rw [hfind, List.find?_range_eq_some]
  simp only [tells_iff, List.mem_range, Bool.not_eq_true', ← Bool.not_eq_true]
  constructor
  · intro ⟨hnamed, hindex, hfirst⟩
    exact ⟨hindex, hnamed, hfirst⟩
  · intro ⟨hindex, hnamed, hfirst⟩
    exact ⟨hnamed, hindex, hfirst⟩

theorem lookup_eq_error_iff {fault : Fault} :
    lookup count nameAt name = .error fault ↔
      fault = .inputNotFound name ∧ ∀ index < count, nameAt index ≠ .ok name := by
  have hfind : lookup count nameAt name = .error fault ↔ fault = .inputNotFound name ∧
      (List.range count).find? (fun i => tells name (nameAt i)) = none := by
    rw [lookup_eq]
    cases (List.range count).find? (fun i => tells name (nameAt i)) <;> simp [eq_comm]
  rw [hfind, List.find?_range_eq_none]
  simp only [tells_iff, Bool.not_eq_true', ← Bool.not_eq_true, ne_eq]

end

namespace Hexagon

/-! ## §2. Searching the list of names -/

section
variable {m : Model} {name : String}

/-- The list has the name of an input wherever there is a description, and is not looked at
anywhere else. -/
theorem inputName_eq_ok_iff (hnamed : m.inputNames = m.inputs.map (·.name)) {index : Nat} :
    m.inputName index = .ok name ↔ m.inputNames[index]? = some name := by
  unfold Model.inputName Model.inputSpec
  rw [hnamed, List.getElem?_map]
  cases hspec : m.inputs[index]? with
  | none => simp [bind, Except.bind]
  | some spec => simp [bind, Except.bind, pure, Except.pure, hspec]

theorem inputName_of_le {index : Nat} (h : m.inputs.length ≤ index) :
    m.inputName index = .error (.indexOutOfRange "Input" index m.inputs.length) := by
  unfold Model.inputName Model.inputSpec
  rw [List.getElem?_eq_none h]
  rfl

theorem inputIndex_eq_ok_iff (hnamed : m.inputNames = m.inputs.map (·.name)) {index : Nat} :
    m.inputIndex name = .ok index ↔ FirstNamed m.inputName name index := by
  have hfind : m.inputIndex name = .ok index ↔
      m.inputNames.findIdx? (· == name) = some index := by
    unfold Model.inputIndex
    cases m.inputNames.findIdx? (· == name) <;> simp
  -- The first index with the name, and the names answer for the indices.
  rw [hfind, List.findIdx?_eq_some_iff_getElem]
  constructor
  · intro ⟨hindex, hhere, hbefore⟩
    refine ⟨?_, ?_⟩
    · rw [inputName_eq_ok_iff hnamed, List.getElem?_eq_getElem hindex]
      exact congrArg some (beq_iff_eq.mp hhere)
    · intro earlier hearlier hsame
      rw [inputName_eq_ok_iff hnamed, List.getElem?_eq_some_iff] at hsame
      obtain ⟨_, hsame⟩ := hsame
      exact hbefore earlier hearlier (beq_iff_eq.mpr hsame)
  · intro ⟨hhere, hbefore⟩
    rw [inputName_eq_ok_iff hnamed, List.getElem?_eq_some_iff] at hhere
    obtain ⟨hindex, hhere⟩ := hhere
    refine ⟨hindex, beq_iff_eq.mpr hhere, ?_⟩
    intro earlier hearlier hsame
    apply hbefore earlier hearlier
    rw [inputName_eq_ok_iff hnamed, List.getElem?_eq_getElem (hearlier.trans hindex)]
    exact congrArg some (beq_iff_eq.mp hsame)

theorem inputIndex_eq_error_iff (hnamed : m.inputNames = m.inputs.map (·.name)) {fault : Fault} :
    m.inputIndex name = .error fault ↔
      fault = .inputNotFound name ∧ ∀ index, m.inputName index ≠ .ok name := by
  have hfind : m.inputIndex name = .error fault ↔
      fault = .inputNotFound name ∧ m.inputNames.findIdx? (· == name) = none := by
    unfold Model.inputIndex
    cases m.inputNames.findIdx? (· == name) <;> simp [eq_comm]
  rw [hfind, List.findIdx?_eq_none_iff]
  refine and_congr_right fun _ => ?_
  constructor
  · intro hothers index hsame
    rw [inputName_eq_ok_iff hnamed] at hsame
    simpa using hothers name (List.mem_of_getElem? hsame)
  · intro hothers other hmem
    -- A name in the list has an index, and that is answered with it.
    obtain ⟨index, hindex⟩ := List.getElem?_of_mem hmem
    rw [beq_eq_false_iff_ne]
    rintro rfl
    exact hothers index ((inputName_eq_ok_iff hnamed).mpr hindex)

/-- The two searches are one. -/
theorem inputIndex_eq_lookup (hnamed : m.inputNames = m.inputs.map (·.name)) (name : String) :
    m.inputIndex name = lookup m.inputs.length m.inputName name := by
  symm
  cases hindex : m.inputIndex name with
  | ok index =>
    have hfirst := (inputIndex_eq_ok_iff hnamed).mp hindex
    refine lookup_eq_ok_iff.mpr ⟨?_, hfirst⟩
    -- A name that was found is the name of an input, so the search by questions gets there.
    by_contra hpast
    have hnone := inputName_of_le (Nat.not_lt.mp hpast)
    rw [hfirst.named] at hnone
    cases hnone
  | error fault =>
    obtain ⟨hfault, hothers⟩ := (inputIndex_eq_error_iff hnamed).mp hindex
    exact lookup_eq_error_iff.mpr ⟨hfault, fun index _ => hothers index⟩

end

/-! ## §3. Whole sessions -/

/-- **Inputs are found by their names.**  Whatever the engine describes, be it inputs of one name or
of none, and whatever the operations were, a model looks an input up as the uniform interface would
by its questions alone: it finds the least index whose name is the given one, and fails exactly if
no input has it.  Every description has its name in the list of names, and past the last description
that list is not looked at. -/
theorem inputs_are_found_by_name {σ : Type} (E : Engine interface σ) (engine : σ)
    (artifact : Artifact) (device : Device) (debugLevel : Int32) (operations : List Operation) :
    let (l, _) := (lifecycle artifact device debugLevel).life operations E (.start engine)
    ∀ m, l.model = .ok m →
      (∀ name, m.inputIndex name = lookup m.inputs.length m.inputName name) ∧
      (∀ name index, m.inputIndex name = .ok index ↔ FirstNamed m.inputName name index) ∧
      (∀ name fault, m.inputIndex name = .error fault ↔
        fault = .inputNotFound name ∧ ∀ index, m.inputName index ≠ .ok name) ∧
      (∀ index spec, m.inputSpec index = .ok spec → m.inputName index = .ok spec.name ∧
        ∃ inside : index < m.inputNames.length, m.inputNames[index] = spec.name) ∧
      ∀ index, m.inputs.length ≤ index →
        m.inputName index = .error (.indexOutOfRange "Input" index m.inputs.length) := by
  have h := life_lived E engine artifact device debugLevel operations
  generalize (lifecycle artifact device debugLevel).life operations E (.start engine) = r at h ⊢
  obtain ⟨l, w⟩ := r
  obtain ⟨-, hlived⟩ := h
  intro m hm
  obtain ⟨_, -, hnamed⟩ := session_and_names_of_lived hlived hm
  refine ⟨inputIndex_eq_lookup hnamed, fun _ _ => inputIndex_eq_ok_iff hnamed,
    fun _ _ => inputIndex_eq_error_iff hnamed, ?_, fun _ => inputName_of_le⟩
  intro index spec hspec
  -- Descriptions and names are in the same order.
  have hlisted : m.inputNames[index]? = some spec.name := by
    unfold Model.inputSpec at hspec
    split at hspec
    case h_1 spec' hspec' =>
      cases hspec
      rw [hnamed, List.getElem?_map, hspec']
      rfl
    case h_2 => cases hspec
  exact ⟨(inputName_eq_ok_iff hnamed).mpr hlisted, List.getElem?_eq_some_iff.mp hlisted⟩

/-- A script of three inputs, the first one without a name and the others of the same name. -/
def unnamedAndTwins : Script Script.Described where
  inputs := [.ok (some ⟨"", 0, [], 1, 1⟩), .ok (some ⟨"x", 1, [2], 2, 2⟩),
    .ok (some ⟨"x", 1, [3], 3, 3⟩)]
  outputs := []
  input := [0, 0, 0]
  output := []
  log := []
  logStatus := 0
  initStatus := 0
  graph := 7
  exec := []
  nullInput := false
  nullOutput := false
  endStatus := 1

/-- Of two inputs of one name the first is found, an input without a name is found as such, and
another name is not found. -/
theorem first_of_twins_is_found :
    let (l, _) := (lifecycle ⟨".", "m_hexagon_model.so", none⟩ .cpu 0).life [.run]
      unnamedAndTwins.direct (.start 0)
    ∃ m, l.model = .ok m ∧ m.inputIndex "x" = .ok 1 ∧ m.inputIndex "" = .ok 0 ∧
      m.inputIndex "y" = .error (.inputNotFound "y") ∧
      lookup m.inputs.length m.inputName "y" = .error (.inputNotFound "y") ∧
      m.inputName 2 = .ok "x" ∧ m.inputName 3 = .error (.indexOutOfRange "Input" 3 3) := by
  have h := inputs_are_found_by_name unnamedAndTwins.direct 0 ⟨".", "m_hexagon_model.so", none⟩ .cpu
    0 [.run]
  refine ⟨_, rfl, ?_⟩
  obtain ⟨hsearches, hfound, -, hlisted, hpast⟩ := h _ rfl
  refine ⟨(hfound "x" 1).mpr ⟨rfl, by decide⟩, (hfound "" 0).mpr ⟨rfl, by decide⟩,
    (hsearches "y").trans rfl, rfl, (hlisted 2 _ rfl).1, hpast 3 (by decide)⟩

end Hexagon

end ModelAdapter
