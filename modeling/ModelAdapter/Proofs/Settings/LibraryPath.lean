import ModelAdapter.Proofs.Number.Written
import ModelAdapter.Proofs.Settings.Precedence

/-! # A library path in the environment

A variable holds a text, and what it holds may be meant as a flag, a number or a text.
The reader of variables does not know which of them is wanted, so it guesses by the
looks, and a path that looks like a flag or a number is taken for one and written as a
text again.

  * **The guess** (`Kept`): a text comes out as it was if it is no flag and no number, or
    if it is written as the flag or number that it is taken for.
  * **Safe paths**: a path with a character that no flag and no number has, such as a
    slash or an underscore, always comes out as it was (`ofText_of_not_numeric`).
  * **Loading** (`load_of_onlyLibrary`): with nothing but the path in the environment,
    loading succeeds, and it is only the path that can differ from what was meant.
-/

namespace ModelAdapter

open Settings

/-! ## §1. The guess -/

namespace Setting

/-- A text is written as what it is taken for. -/
def Kept (v : String) : Prop :=
  match ofText v with
  | .flag _ => v = "true" ∨ v = "false"
  | .integer _ => Integer.PlainSigned v.toList
  | .float x => x.text = v
  | _ => True

/-- A text is taken for a number. -/
def LooksNumeric (v : String) : Prop :=
  match ofText v with
  | .integer _ | .float _ => True
  | _ => False

/-- What a text can be taken for. -/
inductive Guess (v : String) : Setting → Prop
  | flag {b : Bool} (word : v.toLower = if b then "true" else "false") : Guess v (.flag b)
  | integer {n : Int} (reads : Integer.signed? v.toList = some n) : Guess v (.integer n)
  | float {x : Binary64} (reads : Binary64.read? v.toList = some x) : Guess v (.float x)
  | text : Guess v (.text v)

theorem guess_ofText (v : String) : Guess v (ofText v) := by
  unfold ofText
  -- In the order in which a text is taken for one thing after the other.
  by_cases htrue : v.toLower = "true"
  · rw [if_pos htrue]
    exact .flag htrue
  by_cases hfalse : v.toLower = "false"
  · rw [if_neg htrue, if_pos hfalse]
    exact .flag hfalse
  rw [if_neg htrue, if_neg hfalse]
  split
  · rename_i hread
    exact .integer (Option.eq_some_of_filter_eq_some hread)
  · rename_i hread
    exact .float hread
  · exact .text

/-- **Every text comes out as a text**, and as it was exactly if it is written as what it is taken
for. -/
theorem exists_text_ofText (v : String) :
    ∃ path, (ofText v).text? = some path ∧ (path = v ↔ Kept v) ∧
      (path = v → LooksNumeric v → Binary64.Tidy v.toList) := by
  have hguess := guess_ofText v
  unfold Kept LooksNumeric
  generalize ofText v = s at hguess ⊢
  -- By what the text is taken for: each kind is rendered in a way of its own.
  cases hguess with
  | @flag b hword =>
    refine ⟨if b then "true" else "false", rfl, ?_, fun _ hnumeric => hnumeric.elim⟩
    constructor
    · intro hpath
      cases b with
      | true => exact .inl hpath.symm
      | false => exact .inr hpath.symm
    · -- A word in small letters is its own lower case.
      rintro (rfl | rfl)
      · rw [← hword]
        exact toLower_of_lower rfl
      · rw [← hword]
        exact toLower_of_lower rfl
  | @integer n hreads =>
    have hwritten := Integer.toString_eq_iff hreads
    refine ⟨toString n, rfl, ?_, ?_⟩
    · rw [← hwritten, String.toList_inj]
    · intro hpath _
      rw [← hpath]
      exact Binary64.tidy_of_plainSigned (Integer.plainSigned_toString n)
  | @float x hreads =>
    refine ⟨x.text, rfl, Iff.rfl, ?_⟩
    intro hpath _
    rw [← hpath]
    exact Binary64.tidy_text x
  | text => exact ⟨v, rfl, iff_of_true rfl trivial, fun _ hnumeric => hnumeric.elim⟩

/-- A text with a character that no flag and no number has is taken for a text. -/
theorem ofText_of_not_numeric {v : String} (h : ∃ c ∈ v.toList, ¬ Numeric c) :
    ofText v = .text v := by
  obtain ⟨c, hc, hforeign⟩ := h
  have hguess := guess_ofText v
  generalize ofText v = s at hguess ⊢
  -- Words and numbers have none but numeric characters.
  cases hguess with
  | @flag b hword =>
    have hlower : String.ofList (v.toList.map Char.toLower) = v.toLower := by
      apply String.toList_inj.mp
      show _ = (v.map Char.toLower).toList
      rw [String.toList_ofList, String.toList_map]
    rw [← hlower] at hword
    have hletters : (if b then "true" else "false").toList.all Char.isAlphanum = true := by
      cases b <;> decide
    exact absurd (numeric_of_lower _ hletters hword c hc) hforeign
  | integer hreads => exact absurd (Integer.numeric_of_signed? hreads c hc) hforeign
  | float hreads => exact absurd (Binary64.numeric_of_read? hreads c hc) hforeign
  | text => rfl

end Setting

/-! ## §2. Loading -/

namespace Config

/-- The variable that holds the path of the engine's library. -/
def libraryVariable : String := "DLR_TREELITE_RUNTIME_LIBRARY"

/-- An environment in which the path of the library is `v`, and that says nothing else: no other
variable holds a setting, and the thread-count variable is not set. -/
structure OnlyLibrary (env : Environment) (v : String) : Prop where
  set : (libraryVariable, v) ∈ env
  only : ∀ w ∈ env, variablePrefix.toList <+: (folded w.1).toList → w = (libraryVariable, v)
  quiet : env.get? threadsVariable = none

section
variable {env : Environment} {v : String}

theorem OnlyLibrary.distinct (h : OnlyLibrary env v) : DistinctVariables env := by
  intro u hu w hw hprefix hsame
  have hprefix' : variablePrefix.toList <+: (folded w.1).toList := hsame ▸ hprefix
  rw [h.only u hu hprefix, h.only w hw hprefix']

/-- A knob that the variable does not name is not in the environment. -/
theorem OnlyLibrary.unset (h : OnlyLibrary env v) {knob : String}
    (hknob : ¬ Names libraryVariable knob) : ∀ w ∈ env, ¬ Names w.1 knob := by
  intro w hw hnames
  have hprefix : variablePrefix.toList <+: (folded w.1).toList := by
    rw [hnames, String.toList_append]
    exact List.prefix_append ..
  rw [h.only w hw hprefix] at hnames
  exact hknob hnames

/-- Without a file, such an environment selects the path of the library and nothing else. -/
theorem OnlyLibrary.picks (h : OnlyLibrary env v) :
    Picks env [] none (some (.ofText v)) none where
  threads := .neither (h.unset (by unfold Names; decide)) rfl
  library := .environment h.set (by unfold Names; decide)
  level := .neither (h.unset (by unfold Names; decide)) rfl

/-- **Loading succeeds** with nothing but a path of the library in the environment. -/
theorem load_of_onlyLibrary (h : OnlyLibrary env v) (t : FileTree) {path : String}
    (hpath : (Setting.ofText v).text? = some path) :
    load t env none = .ok (initial.withTreeliteRuntimeLibrary path, []) := by
  have hthreads := (selected_iff h.distinct).mp h.picks.threads
  have hlibrary := (selected_iff h.distinct).mp h.picks.library
  have hlevel := (selected_iff h.distinct).mp h.picks.level
  have hknob : knob "treelite_runtime_library" Setting.text? initial.treeliteRuntimeLibrary
      (some (.ofText v)) = .ok path := by
    rw [knob]
    simp only [hpath]
  -- Two knobs keep what they had, and the third is given the path.
  have hconfig : ofSelected (select (.ofEnvironment env) [])
      = .ok (initial.withTreeliteRuntimeLibrary path) := by
    rw [ofSelected, hthreads, hlibrary, hlevel, hknob]
    rfl
  show ofSources [] env = _
  rw [ofSources, hconfig]
  show Except.ok (overridden _ env) = _
  rw [overridden, h.quiet]
  rfl

end

/-- **When a path is taken as it is.**  With nothing but the path of the library in the environment,
loading succeeds, and the configuration is the initial one with some path in it.  It is the path
that was set exactly if that is written as what it is taken for (`Kept`): so it is if there is a
character in it that no flag and no number has, and a path that looks like a number is tidy if it
comes through. -/
theorem library_path_kept_iff (t : FileTree) (env : Environment) (v : String)
    (h : OnlyLibrary env v) :
    ∃ path, load t env none = .ok (initial.withTreeliteRuntimeLibrary path, []) ∧
      (path = v ↔ Setting.Kept v) ∧
      ((∃ c ∈ v.toList, ¬ Numeric c) → path = v) ∧
      (path = v → Setting.LooksNumeric v → Binary64.Tidy v.toList) := by
  obtain ⟨path, hpath, hkept, htidy⟩ := Setting.exists_text_ofText v
  refine ⟨path, load_of_onlyLibrary h t hpath, hkept, ?_, htidy⟩
  intro hforeign
  rw [Setting.ofText_of_not_numeric hforeign] at hpath
  exact (Option.some.inj hpath).symm

/-- A path with slashes is taken as it is, whatever the numerals in it. -/
theorem absolute_path_is_kept :
    OnlyLibrary [("DLR_TREELITE_RUNTIME_LIBRARY", "/opt/007")] "/opt/007" ∧
      load .empty [("DLR_TREELITE_RUNTIME_LIBRARY", "/opt/007")] none
        = .ok (initial.withTreeliteRuntimeLibrary "/opt/007", []) := by
  have honly : OnlyLibrary [("DLR_TREELITE_RUNTIME_LIBRARY", "/opt/007")] "/opt/007" :=
    ⟨by decide, by decide, rfl⟩
  refine ⟨honly, ?_⟩
  obtain ⟨path, hload, -, hsafe, -⟩ := library_path_kept_iff .empty _ _ honly
  have hslash : ∃ c ∈ "/opt/007".toList, ¬ Numeric c := by
    refine ⟨'/', by decide, ?_⟩
    unfold Numeric
    decide
  rw [hload, hsafe hslash]

/-- A path of digits with zeros in front loses them. -/
theorem leading_zeros_are_lost :
    OnlyLibrary [("DLR_TREELITE_RUNTIME_LIBRARY", "007")] "007" ∧
      ∃ c, load .empty [("DLR_TREELITE_RUNTIME_LIBRARY", "007")] none = .ok (c, []) ∧
        c.treeliteRuntimeLibrary = "7" ∧ c.treeliteRuntimeLibrary ≠ "007" := by
  have honly : OnlyLibrary [("DLR_TREELITE_RUNTIME_LIBRARY", "007")] "007" :=
    ⟨by decide, by decide, rfl⟩
  have hlower : "007".toLower = "007" := toLower_of_lower rfl
  have hpath : (Setting.ofText "007").text? = some "7" := by
    rw [Setting.ofText, hlower]
    rfl
  exact ⟨honly, _, load_of_onlyLibrary honly _ hpath, rfl, by decide⟩

end Config

end ModelAdapter
