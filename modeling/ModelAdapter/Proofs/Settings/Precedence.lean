import ModelAdapter.Proofs.Settings.ThreadText
import ModelAdapter.Settings.Load

/-! # Which source decides about a knob

A configuration is loaded from a file and from the environment, and the initial
configuration fills in what they leave open.  The sources are asked for each knob by
itself.

  * **What decides** (`Selected`): the variable of the knob if it is set, else the file,
    else nothing.  With variables that differ by more than case there is one variable
    for each knob at most, and selection finds it (`selected_iff`).
  * **What comes of it**: loading fails exactly when a setting that decides is unfit
    (`Unfit`).  Else every knob is what its setting makes (`Makes`), and settings that
    do not decide leave no trace (`SameFor`).
  * **Thread counts** (`countIn`): the thread-count variable is looked at twice.  In
    loading it goes before what was selected.  When the count is needed it comes after
    what was loaded, so an environment that has changed since decides only where there
    was no count before.
-/

namespace ModelAdapter

namespace Settings

/-! ## §1. Names without regard to case -/

theorem foldCase_of_lower {c : Char} (hkelvin : c ≠ '\u212A')
    (hlower : ¬ ('A'.val ≤ c.val ∧ c.val ≤ 'Z'.val)) : foldCase c = c := by
  have hsame : c.toLower = c := dif_neg hlower
  rw [foldCase, if_neg hkelvin, hsame]

theorem toLower_of_lower {text : String} (h : text.toList.map Char.toLower = text.toList) :
    text.toLower = text := by
  apply String.toList_inj.mp
  show (text.map Char.toLower).toList = text.toList
  rw [String.toList_map, h]

theorem foldCase_foldCase (c : Char) : foldCase (foldCase c) = foldCase c := by
  by_cases hkelvin : c = '\u212A'
  · subst hkelvin
    decide
  · by_cases hupper : 'A'.val ≤ c.val ∧ c.val ≤ 'Z'.val
    · -- A capital letter becomes a small one, and that stays.
      have hfold : (foldCase c).val = c.val + 32 := by
        have hlower : c.toLower.val = c.val + 32 := congrArg Char.val (dif_pos hupper)
        rw [foldCase, if_neg hkelvin, hlower]
      simp only [UInt32.le_iff_toNat_le] at hupper
      have hfirst : 'A'.val.toNat = 0x41 := rfl
      have hlast : 'Z'.val.toNat = 0x5A := rfl
      have hsmall : (foldCase c).val.toNat = c.val.toNat + 32 := by
        rw [hfold, UInt32.toNat_add]
        show (c.val.toNat + 32) % 2 ^ 32 = c.val.toNat + 32
        omega
      apply foldCase_of_lower
      · intro h
        rw [h] at hsmall
        -- The Kelvin sign lies far behind the small letters.
        have hsign : '\u212A'.val.toNat = 0x212A := rfl
        omega
      · simp only [UInt32.le_iff_toNat_le]
        omega
    · rw [foldCase_of_lower hkelvin hupper, foldCase_of_lower hkelvin hupper]

theorem folded_folded (name : String) : folded (folded name) = folded name := by
  have hmap : (name.toList.map foldCase).map foldCase = name.toList.map foldCase := by
    rw [List.map_map]
    apply List.map_congr_left
    intro c _
    exact foldCase_foldCase c
  simp only [folded, String.toList_ofList, hmap]

theorem folded_append (s t : String) : folded (s ++ t) = folded s ++ folded t := by
  apply String.toList_inj.mp
  simp [folded]

/-! ## §2. What decides -/

/-- The name of a variable is that of a knob behind the prefix, whatever the case of its letters. -/
def Names (name knob : String) : Prop := folded name = variablePrefix ++ knob

/-- Variables that hold settings have names that differ by more than case. -/
def DistinctVariables (env : Environment) : Prop :=
  ∀ v ∈ env, ∀ w ∈ env, variablePrefix.toList <+: (folded v.1).toList →
    folded v.1 = folded w.1 → v = w

instance (env : Environment) : Decidable (DistinctVariables env) :=
  inferInstanceAs (Decidable (∀ v ∈ env, ∀ w ∈ env,
    variablePrefix.toList <+: (folded v.1).toList → folded v.1 = folded w.1 → v = w))

/-- The setting that decides about a knob: of its variable, else in the file, else none. -/
inductive Selected (env : Environment) (file : Settings) (knob : String) : Option Setting → Prop
  | environment {name value : String} (set : (name, value) ∈ env) (names : Names name knob) :
      Selected env file knob (some (.ofText value))
  | file {s : Setting} (unset : ∀ v ∈ env, ¬ Names v.1 knob) (given : file.get? knob = some s) :
      Selected env file knob (some s)
  | neither (unset : ∀ v ∈ env, ¬ Names v.1 knob) (absent : file.get? knob = none) :
      Selected env file knob none

section
variable {env : Environment} {file : Settings} {knob : String}

/-- A knob that a variable names is written in lower case. -/
theorem folded_of_names {name : String} (h : Names name knob) : folded knob = knob := by
  have htwice : folded (variablePrefix ++ knob) = variablePrefix ++ knob := by
    rw [← h, folded_folded]
  have hprefix : folded variablePrefix = variablePrefix := by decide
  rw [folded_append, hprefix] at htwice
  have hlists := congrArg String.toList htwice
  rw [String.toList_append, String.toList_append, List.append_cancel_left_eq] at hlists
  exact String.toList_inj.mp hlists

theorem exists_of_get? {settings : Settings} {s : Setting} (h : settings.get? knob = some s) :
    ∃ name, (name, s) ∈ settings ∧ folded name = knob := by
  obtain ⟨⟨name, s'⟩, hfound, rfl⟩ := Option.map_eq_some_iff.mp h
  have hname := List.find?_some hfound
  exact ⟨name, List.mem_reverse.mp (List.mem_of_find?_eq_some hfound), eq_of_beq hname⟩

theorem get?_eq_none_iff {settings : Settings} :
    settings.get? knob = none ↔ ∀ e ∈ settings, folded e.1 ≠ knob := by
  simp [get?]

/-- The settings in the environment are those of the variables whose names they have. -/
theorem mem_ofEnvironment_iff {name : String} {s : Setting} :
    (name, s) ∈ ofEnvironment env ↔ ∃ v ∈ env, Names v.1 name ∧ s = .ofText v.2 := by
  simp only [ofEnvironment, List.mem_filterMap]
  constructor
  · rintro ⟨v, hv, hentry⟩
    by_cases hprefix : variablePrefix.toList.isPrefixOf (folded v.1).toList
    · rw [if_pos hprefix] at hentry
      obtain ⟨hname, hs⟩ := Prod.mk.inj (Option.some.inj hentry)
      refine ⟨v, hv, ?_, hs.symm⟩
      have hjoined := List.prefix_iff_eq_append.mp (List.isPrefixOf_iff_prefix.mp hprefix)
      apply String.toList_inj.mp
      rw [String.toList_append, ← hname, String.toList_ofList]
      exact hjoined.symm
    · rw [if_neg hprefix] at hentry
      cases hentry
  · rintro ⟨v, hv, hnames, rfl⟩
    -- Behind the prefix the name of the variable is that of the knob.
    have hlist : (folded v.1).toList = variablePrefix.toList ++ name.toList := by
      rw [hnames, String.toList_append]
    refine ⟨v, hv, ?_⟩
    have hprefix : variablePrefix.toList.isPrefixOf (folded v.1).toList = true := by
      rw [List.isPrefixOf_iff_prefix, hlist]
      exact List.prefix_append ..
    have hrest : (folded v.1).toList.drop variablePrefix.length = name.toList := by
      rw [hlist]
      exact List.drop_left ..
    rw [if_pos hprefix, hrest, String.ofList_toList]

theorem get?_ofEnvironment_eq_none_iff :
    (ofEnvironment env).get? knob = none ↔ ∀ v ∈ env, ¬ Names v.1 knob := by
  rw [get?_eq_none_iff]
  constructor
  · intro habsent v hv hnames
    have hentry : (knob, Setting.ofText v.2) ∈ ofEnvironment env :=
      mem_ofEnvironment_iff.mpr ⟨v, hv, hnames, rfl⟩
    exact habsent _ hentry (folded_of_names hnames)
  · intro hunset e hentry hfolded
    obtain ⟨v, hv, hnames, -⟩ := mem_ofEnvironment_iff.mp hentry
    rw [← hfolded, folded_of_names hnames] at hunset
    exact hunset v hv hnames

theorem get?_ofEnvironment_eq_some_iff (hdistinct : DistinctVariables env) {s : Setting} :
    (ofEnvironment env).get? knob = some s ↔ ∃ v ∈ env, Names v.1 knob ∧ s = .ofText v.2 := by
  have hfound : ∀ s, (ofEnvironment env).get? knob = some s →
      ∃ v ∈ env, Names v.1 knob ∧ s = .ofText v.2 := by
    intro s hget
    obtain ⟨name, hentry, hfolded⟩ := exists_of_get? hget
    obtain ⟨v, hv, hnames, hs⟩ := mem_ofEnvironment_iff.mp hentry
    rw [folded_of_names hnames] at hfolded
    subst hfolded
    exact ⟨v, hv, hnames, hs⟩
  constructor
  · exact hfound s
  · rintro ⟨v, hv, hnames, rfl⟩
    cases hget : (ofEnvironment env).get? knob with
    | none => exact absurd hnames (get?_ofEnvironment_eq_none_iff.mp hget v hv)
    | some s =>
      obtain ⟨w, hw, hnames', rfl⟩ := hfound s hget
      -- Both variables have the name of the knob, so they are one.
      have hprefix : variablePrefix.toList <+: (folded w.1).toList := by
        rw [hnames', String.toList_append]
        exact List.prefix_append ..
      rw [hdistinct w hw v hv hprefix (hnames'.trans hnames.symm)]

/-- Selection finds what decides, and nothing else does. -/
theorem selected_iff (hdistinct : DistinctVariables env) {s : Option Setting} :
    Selected env file knob s ↔ select (ofEnvironment env) file knob = s := by
  unfold select
  constructor
  · intro hselected
    cases hselected with
    | environment hset hnames =>
      rw [(get?_ofEnvironment_eq_some_iff hdistinct).mpr ⟨_, hset, hnames, rfl⟩]
      rfl
    | file hunset hgiven => rw [get?_ofEnvironment_eq_none_iff.mpr hunset, hgiven, Option.none_or]
    | neither hunset habsent =>
      rw [get?_ofEnvironment_eq_none_iff.mpr hunset, habsent, Option.none_or]
  · rintro rfl
    -- The environment is asked first, and the file where that has nothing.
    cases hget : (ofEnvironment env).get? knob with
    | some s =>
      obtain ⟨v, hv, hnames, rfl⟩ := (get?_ofEnvironment_eq_some_iff hdistinct).mp hget
      exact .environment hv hnames
    | none =>
      have hunset := get?_ofEnvironment_eq_none_iff.mp hget
      rw [Option.none_or]
      cases hfile : file.get? knob with
      | some s => exact .file hunset hfile
      | none => exact .neither hunset hfile

end

end Settings

namespace Config

open Settings

/-! ## §3. What comes of it -/

def knobs : List String := ["num_worker_threads", "treelite_runtime_library", "hexagon_debug_level"]

/-- A setting that decides, and that cannot be taken for what is wanted. -/
def Unfit {α : Type} (convert : Setting → Option α) (selected : Option Setting) : Prop :=
  ∃ s, selected = some s ∧ convert s = none

/-- What a knob becomes: what the setting that decides stands for, or what it was initially. -/
inductive Makes {α : Type} (convert : Setting → Option α) (initially : α) :
    Option Setting → α → Prop
  | initial : Makes convert initially none initially
  | converted {s : Setting} {value : α} (stands : convert s = some value) :
      Makes convert initially (some s) value

/-- A result that is none. -/
def Fails {α : Type} (result : Except Fault α) : Prop := ∃ fault, result = .error fault

section
variable {α β : Type} {name : String} {convert : Setting → Option α} {initially value : α}
  {selected : Option Setting}

theorem not_fails_ok : ¬ Fails (.ok value : Except Fault α) := by
  rintro ⟨fault, h⟩
  cases h

/-- Two parts of which the second fails or not whatever the first brings: together they fail if
either does. -/
theorem fails_bind_iff {x : Except Fault α} {f : α → Except Fault β} {rest : Prop}
    (h : ∀ a, Fails (f a) ↔ rest) : Fails (x >>= f) ↔ Fails x ∨ rest := by
  cases x with
  | error fault =>
    constructor
    · intro _
      exact .inl ⟨fault, rfl⟩
    · intro _
      exact ⟨fault, rfl⟩
  | ok a =>
    show Fails (f a) ↔ _
    rw [h a, or_iff_right not_fails_ok]

theorem fails_bind_iff_left {x : Except Fault α} {f : α → Except Fault β}
    (h : ∀ a, ¬ Fails (f a)) : Fails (x >>= f) ↔ Fails x := by
  have hrest : ∀ a, Fails (f a) ↔ False := fun a => iff_false_intro (h a)
  rw [fails_bind_iff hrest, or_false]

theorem fails_knob_iff :
    Fails (knob name convert initially selected) ↔ Unfit convert selected := by
  cases selected with
  | none => simp [knob, Fails, Unfit]
  | some s =>
    cases hconvert : convert s with
    | none => simp [knob, Fails, Unfit, hconvert]
    | some value => simp [knob, Fails, Unfit, hconvert]

theorem makes_of_knob (h : knob name convert initially selected = .ok value) :
    Makes convert initially selected value := by
  cases selected with
  | none =>
    cases h
    exact .initial
  | some s =>
    cases hconvert : convert s with
    | none => simp [knob, hconvert] at h
    | some value' =>
      simp only [knob, hconvert, Except.ok.injEq] at h
      subst h
      exact .converted hconvert

end

section
variable {selected selected' : String → Option Setting} {c : Config}

/-- The selected settings make no configuration if one of them is unfit, and only then. -/
theorem fails_ofSelected_iff :
    Fails (ofSelected selected) ↔
      Unfit Setting.optionalWord32? (selected "num_worker_threads") ∨
      Unfit Setting.text? (selected "treelite_runtime_library") ∨
      Unfit Setting.word32? (selected "hexagon_debug_level") := by
  unfold ofSelected
  rw [← fails_knob_iff, ← fails_knob_iff, ← fails_knob_iff]
  apply fails_bind_iff
  intro numWorkerThreads
  apply fails_bind_iff
  intro treeliteRuntimeLibrary
  apply fails_bind_iff_left
  intro hexagonDebugLevel
  exact not_fails_ok

theorem makes_of_ofSelected (h : ofSelected selected = .ok c) :
    Makes Setting.optionalWord32? initial.numWorkerThreads (selected "num_worker_threads")
        c.numWorkerThreads ∧
      Makes Setting.text? initial.treeliteRuntimeLibrary (selected "treelite_runtime_library")
        c.treeliteRuntimeLibrary ∧
      Makes Setting.word32? initial.hexagonDebugLevel (selected "hexagon_debug_level")
        c.hexagonDebugLevel := by
  obtain ⟨threads, hthreads, h⟩ := exists_of_bind_eq_ok h
  obtain ⟨library, hlibrary, h⟩ := exists_of_bind_eq_ok h
  obtain ⟨level, hlevel, h⟩ := exists_of_bind_eq_ok h
  cases h
  exact ⟨makes_of_knob hthreads, makes_of_knob hlibrary, makes_of_knob hlevel⟩

/-- Nothing but the settings that were selected for the knobs counts. -/
theorem ofSelected_congr (h : ∀ knob ∈ knobs, selected knob = selected' knob) :
    ofSelected selected = ofSelected selected' := by
  have hthreads := h "num_worker_threads" (by decide)
  have hlibrary := h "treelite_runtime_library" (by decide)
  have hlevel := h "hexagon_debug_level" (by decide)
  rw [ofSelected, ofSelected, hthreads, hlibrary, hlevel]

end

/-! ## §4. Thread counts -/

/-- The thread count that the thread-count variable holds, if it holds one. -/
def countIn (env : Environment) : Option Int32 := (Threads.read (env.get? threadsVariable)).1

/-- The variable holds a count if its text is a positive whole number between blanks. -/
theorem countIn_eq_some_iff {env : Environment} {n : Int32} :
    countIn env = some n ↔ ∃ text, env.get? threadsVariable = some text ∧
      Integer.word32? (Text.trim text.toList) = some n ∧ 0 < n := by
  unfold countIn
  rw [Threads.fst_read_eq_some_iff]
  constructor
  · rintro ⟨text, core, m, htext, htrimmed, hcount⟩
    refine ⟨text, htext, ?_⟩
    rw [Text.trim_of_trimmed htrimmed]
    exact Threads.count_iff_word.mp ⟨m, hcount⟩
  · rintro ⟨text, htext, hword⟩
    obtain ⟨m, hcount⟩ := Threads.count_iff_word.mpr hword
    exact ⟨text, _, m, htext, Text.trimmed_trim _, hcount⟩

theorem overridden_eq (c : Config) (env : Environment) :
    (c.overridden env).1 = { c with numWorkerThreads := (countIn env).or c.numWorkerThreads } := by
  unfold overridden countIn
  split
  case h_1 n events hread => simp [hread]
  case h_2 events hread => simp [hread]

/-- The engine is told the count of the configuration, else the one in the environment, else to use
every core. -/
theorem workerThreads_eq (c : Config) (env : Environment) :
    (c.workerThreads env).1 = (c.numWorkerThreads.or (countIn env)).getD Threads.everyCore := by
  unfold workerThreads Threads.resolve countIn
  cases c.numWorkerThreads with
  | some n => rfl
  | none =>
    simp only [Option.none_or]
    split
    case h_1 n events hread => simp [hread]
    case h_2 events hread => simp [hread]

/-! ## §5. Loading -/

section
variable {env env' : Environment} {file file' : Settings} {threads library level : Option Setting}
  {c : Config}

/-- What decides about the three knobs. -/
structure Picks (env : Environment) (file : Settings) (threads library level : Option Setting) :
    Prop where
  threads : Selected env file "num_worker_threads" threads
  library : Selected env file "treelite_runtime_library" library
  level : Selected env file "hexagon_debug_level" level

/-- What a loaded configuration holds, and the thread counts that the engine is then told. -/
structure Loaded (env : Environment) (threads library level : Option Setting)
    (explicit : Option Int32) (c : Config) : Prop where
  configured : Makes Setting.optionalWord32? initial.numWorkerThreads threads explicit
  library : Makes Setting.text? initial.treeliteRuntimeLibrary library c.treeliteRuntimeLibrary
  level : Makes Setting.word32? initial.hexagonDebugLevel level c.hexagonDebugLevel
  threads : c.numWorkerThreads = (countIn env).or explicit
  told : (c.workerThreads env).1 = ((countIn env).or explicit).getD Threads.everyCore
  toldLater : ∀ later, (c.workerThreads later).1
    = (c.numWorkerThreads.or (countIn later)).getD Threads.everyCore

/-- Two pairs of sources are the same for a knob: the variables with its name are, and if there are
none, what the files give to it is. -/
structure SameFor (env : Environment) (file : Settings) (env' : Environment) (file' : Settings)
    (knob : String) : Prop where
  environment : ∀ v : String × String, Names v.1 knob → (v ∈ env ↔ v ∈ env')
  file : (∀ v ∈ env, ¬ Names v.1 knob) → file.get? knob = file'.get? knob

/-- What decides about a knob decides about it in sources that are the same for it. -/
theorem selected_of_sameFor {knob : String} {s : Option Setting}
    (hsame : SameFor env file env' file' knob) (h : Selected env file knob s) :
    Selected env' file' knob s := by
  have hunset' : (∀ v ∈ env, ¬ Names v.1 knob) → ∀ v ∈ env', ¬ Names v.1 knob := by
    intro hunset v hv hnames
    exact hunset v ((hsame.environment v hnames).mpr hv) hnames
  cases h with
  | @environment name value hset hnames =>
    have hset' : (name, value) ∈ env' := (hsame.environment (name, value) hnames).mp hset
    exact .environment hset' hnames
  | file hunset hgiven => exact .file (hunset' hunset) (hsame.file hunset ▸ hgiven)
  | neither hunset habsent => exact .neither (hunset' hunset) (hsame.file hunset ▸ habsent)

theorem fails_ofSources_iff (hdistinct : DistinctVariables env)
    (hpicks : Picks env file threads library level) :
    Fails (ofSources file env) ↔
      Unfit Setting.optionalWord32? threads ∨ Unfit Setting.text? library ∨
        Unfit Setting.word32? level := by
  have hselected : Fails (ofSources file env) ↔
      Fails (ofSelected (select (.ofEnvironment env) file)) :=
    fails_bind_iff_left (fun _ => not_fails_ok)
  rw [hselected, fails_ofSelected_iff, (selected_iff hdistinct).mp hpicks.threads,
    (selected_iff hdistinct).mp hpicks.library, (selected_iff hdistinct).mp hpicks.level]

theorem loaded_of_ofSources (hdistinct : DistinctVariables env)
    (hpicks : Picks env file threads library level) {events : List Event}
    (h : ofSources file env = .ok (c, events)) :
    ∃ explicit, Loaded env threads library level explicit c := by
  obtain ⟨c₀, hselected, hc⟩ := exists_of_bind_eq_ok h
  obtain ⟨hthreads, hlibrary, hlevel⟩ := makes_of_ofSelected hselected
  rw [(selected_iff hdistinct).mp hpicks.threads] at hthreads
  rw [(selected_iff hdistinct).mp hpicks.library] at hlibrary
  rw [(selected_iff hdistinct).mp hpicks.level] at hlevel
  have hoverridden : c = { c₀ with numWorkerThreads := (countIn env).or c₀.numWorkerThreads } := by
    rw [← overridden_eq, Except.ok.inj hc]
  subst hoverridden
  refine ⟨c₀.numWorkerThreads, hthreads, hlibrary, hlevel, rfl, ?_, workerThreads_eq _⟩
  -- In the same environment there is nothing new in the variable.
  have honce : ((countIn env).or c₀.numWorkerThreads).or (countIn env)
      = (countIn env).or c₀.numWorkerThreads := by
    cases countIn env with
    | none => rw [Option.none_or, Option.or_none]
    | some n => rfl
  rw [workerThreads_eq, honce]

theorem ofSources_congr (hdistinct : DistinctVariables env) (hdistinct' : DistinctVariables env')
    (hcount : env'.get? threadsVariable = env.get? threadsVariable)
    (hsame : ∀ knob ∈ knobs, SameFor env file env' file' knob) :
    ofSources file' env' = ofSources file env := by
  -- For each knob the same setting is selected on both sides.
  have hselected : ofSelected (select (.ofEnvironment env') file')
      = ofSelected (select (.ofEnvironment env) file) := by
    apply ofSelected_congr
    intro knob hknob
    have hpicked : Selected env file knob (select (.ofEnvironment env) file knob) :=
      (selected_iff hdistinct).mpr rfl
    exact (selected_iff hdistinct').mp (selected_of_sameFor (hsame knob hknob) hpicked)
  have hoverridden : ∀ c : Config, c.overridden env' = c.overridden env := by
    intro c
    rw [overridden, overridden, hcount]
  simp only [ofSources, hselected, hoverridden]

end

/-- **Each knob has its own source.**  With variables that differ by more than case, and whatever
the file holds:

  * loading fails exactly when a setting that decides about a knob is unfit, also if the
    thread-count variable goes before that setting;
  * else each knob is what its setting makes, but for a thread count in the thread-count variable,
    which goes before the selected one in loading and after the loaded one later;
  * sources that are the same for every knob and in the thread-count variable come to the same:
    settings that do not decide, and names that are no knobs, leave no trace. -/
theorem precedence_per_knob (env : Environment) (file : Settings)
    (hdistinct : DistinctVariables env) :
    (∀ t path?, Settings.ofFile? t path? = .ok file → load t env path? = ofSources file env) ∧
    (∃ threads library level, Picks env file threads library level ∧
      (Fails (ofSources file env) ↔
        Unfit Setting.optionalWord32? threads ∨ Unfit Setting.text? library ∨
          Unfit Setting.word32? level) ∧
      ∀ c events, ofSources file env = .ok (c, events) →
        ∃ explicit, Loaded env threads library level explicit c) ∧
    (∀ n, countIn env = some n ↔ ∃ text, env.get? threadsVariable = some text ∧
      Integer.word32? (Text.trim text.toList) = some n ∧ 0 < n) ∧
    (∀ env' file', DistinctVariables env' →
      env'.get? threadsVariable = env.get? threadsVariable →
      (∀ knob ∈ knobs, SameFor env file env' file' knob) →
      ofSources file' env' = ofSources file env) := by
  refine ⟨?_, ?_, fun _ => countIn_eq_some_iff, ?_⟩
  · intro t path? hfile
    rw [load, hfile]
    rfl
  · have hpicks : Picks env file _ _ _ :=
      ⟨(selected_iff hdistinct).mpr rfl, (selected_iff hdistinct).mpr rfl,
        (selected_iff hdistinct).mpr rfl⟩
    refine ⟨_, _, _, hpicks, fails_ofSources_iff hdistinct hpicks, ?_⟩
    intro c events hloaded
    exact loaded_of_ofSources hdistinct hpicks hloaded
  · intro env' file' hdistinct' hcount hsame
    exact ofSources_congr hdistinct hdistinct' hcount hsame

/-- A file with a debug level that is no number. -/
def loudFile : Settings :=
  [("Hexagon_Debug_Level", .text "loud"), ("num_worker_threads", .integer 8)]

/-- Variables of which one takes the place of the debug level, and one names no knob. -/
def quietVariables : Environment :=
  [("dlr_hexagon_debug_level", "3"), ("OMP_NUM_THREADS", " 4 "), ("DLR_VERBOSE", "x")]

/-- A debug level that does not decide is not looked at, and a thread count is taken from the
variable for good. -/
theorem quiet_variables_decide :
    DistinctVariables quietVariables ∧ ∃ c events,
      ofSources loudFile quietVariables = .ok (c, events) ∧ c.hexagonDebugLevel = 3 ∧
      c.numWorkerThreads = some 4 ∧ (c.workerThreads []).1 = 4 ∧
      ofSources [("num_worker_threads", .integer 8)] quietVariables
        = ofSources loudFile quietVariables := by
  have hdistinct : DistinctVariables quietVariables := by decide
  obtain ⟨-, ⟨threads, library, level, -, -, hloaded⟩, -, hcongr⟩ :=
    precedence_per_knob quietVariables loudFile hdistinct
  have hload : ofSources loudFile quietVariables
      = .ok (⟨some 4, "libtreelite_runtime.so", 3⟩, []) := by
    have hlevel : select (ofEnvironment quietVariables) loudFile "hexagon_debug_level"
        = some (.integer 3) := by
      have hlower : "3".toLower = "3" := toLower_of_lower rfl
      have htext : Setting.ofText "3" = .integer 3 := by
        rw [Setting.ofText, hlower]
        rfl
      rw [← htext]
      rfl
    have hthreads : select (ofEnvironment quietVariables) loudFile "num_worker_threads"
        = some (.integer 8) := rfl
    have hlibrary : select (ofEnvironment quietVariables) loudFile "treelite_runtime_library"
        = none := rfl
    rw [ofSources, ofSelected, hthreads, hlibrary, hlevel]
    rfl
  obtain ⟨explicit, hloaded⟩ := hloaded _ _ hload
  refine ⟨hdistinct, _, _, hload, rfl, rfl, hloaded.toldLater [], ?_⟩
  apply hcongr quietVariables _ hdistinct rfl
  -- The file without the debug level is the same where the variable is set.
  intro knob hknob
  rcases List.mem_cons.mp hknob with rfl | hknob
  · exact ⟨fun _ _ => Iff.rfl, fun _ => rfl⟩
  rcases List.mem_cons.mp hknob with rfl | hknob
  · exact ⟨fun _ _ => Iff.rfl, fun _ => rfl⟩
  cases List.mem_singleton.mp hknob
  refine ⟨fun _ _ => Iff.rfl, ?_⟩
  intro hunset
  have hset : Names "dlr_hexagon_debug_level" "hexagon_debug_level" := by rfl
  exact absurd hset (hunset _ (List.mem_cons_self ..))

end Config

end ModelAdapter
