import Mathlib.Data.List.Induction
import ModelAdapter.Json.Stored
import ModelAdapter.Loading
import ModelAdapter.Proofs.Settings.Precedence
import ModelAdapter.Proofs.Treelite.Transitions

/-! # Which thread counts the engine is told

The tree-ensemble engine is told how many threads to work with: a positive number, or
-1 for every core.  A configuration can have its count from one of several places, and
not all of them look at its sign.

  * **Places** (`Source`, `Setter`): where a configuration comes from, and what can be
    set in it afterwards.
  * **Counts** (`Source.Strays`): the setter refuses a count that is not positive, and
    the thread-count variable is ignored with one; but a count in a file, in a variable
    of the knob or in a stored configuration is taken as it is.
  * **The engine** (`told_count_valid_iff`): what it is told is a thread count unless the
    source strays and nothing sets another count.
-/

namespace ModelAdapter.Config

/-! ## §1. Places -/

/-- Where a configuration comes from. -/
inductive Source
  | initial
  /-- The environment, and a file if one is named. -/
  | loaded (files : FileTree) (env : Environment) (path? : Option Path)
  | stored (text : String)

/-- The configuration that a source has, if it makes one. -/
def Source.config? : Source → Option Config
  | .initial => some Config.initial
  | .loaded files env path? => (load files env path?).toOption.map (·.1)
  | .stored text => ofStored? text

/-- What can be set in a configuration. -/
inductive Setter
  | threads (n : Int32)
  | library (path : String)
  | debugLevel (level : Int32)

/-- Sets it, or refuses to. -/
def Setter.set (c : Config) : Setter → Except Fault Config
  | .threads n => c.withNumWorkerThreads n
  | .library path => .ok (c.withTreeliteRuntimeLibrary path)
  | .debugLevel level => .ok (c.withHexagonDebugLevel level)

/-- The configuration after some setters; one that refuses leaves it as it was. -/
def after (c : Config) (setters : List Setter) : Config :=
  setters.foldl (fun c s => (s.set c).toOption.getD c) c

/-- The thread count that a setter sets. -/
def Setter.count? : Setter → Option Int32
  | .threads n => if 0 < n then some n else none
  | .library _ | .debugLevel _ => none

theorem Setter.numWorkerThreads_set (s : Setter) (c : Config) :
    ((s.set c).toOption.getD c).numWorkerThreads = s.count?.or c.numWorkerThreads := by
  cases s with
  | library | debugLevel => rfl
  | threads n =>
    by_cases hpositive : 0 < n
    · have haccepted : ¬ n ≤ 0 := Int32.not_le.mpr hpositive
      simp [set, count?, withNumWorkerThreads, hpositive, haccepted, Except.toOption]
    · have hrefused : n ≤ 0 := Int32.not_lt.mp hpositive
      simp [set, count?, withNumWorkerThreads, hpositive, hrefused, Except.toOption]

theorem Setter.count?_eq_some_iff {s : Setter} {n : Int32} :
    s.count? = some n ↔ s = .threads n ∧ 0 < n := by
  cases s with
  | library | debugLevel => simp [count?]
  | threads k =>
    simp only [count?, threads.injEq]
    by_cases hpositive : 0 < k
    · simp only [hpositive, if_true, Option.some.injEq]
      exact ⟨fun h => ⟨h, h ▸ hpositive⟩, And.left⟩
    · simp only [hpositive, if_false, false_iff, not_and, reduceCtorEq]
      rintro rfl
      exact hpositive

/-- The last count that was set is the one that a configuration has. -/
theorem numWorkerThreads_after (c : Config) (setters : List Setter) :
    (c.after setters).numWorkerThreads
      = ((setters.filterMap Setter.count?).getLast?).or c.numWorkerThreads := by
  induction setters using List.reverseRecOn with
  | nil => rfl
  | append_singleton setters s ih =>
    have hlast : c.after (setters ++ [s])
        = (s.set (c.after setters)).toOption.getD (c.after setters) := by
      rw [after, List.foldl_append]
      rfl
    rw [hlast, s.numWorkerThreads_set, ih, List.filterMap_append]
    cases hcount : s.count? <;> simp [hcount]

/-! ## §2. Counts -/

/-- What the engine takes for a thread count. -/
def ValidCount (n : Int32) : Prop := n = Threads.everyCore ∨ 0 < n

instance (n : Int32) : Decidable (ValidCount n) :=
  inferInstanceAs (Decidable (n = Threads.everyCore ∨ 0 < n))

/-- The member of a stored configuration that is its thread count. -/
def threadsMember? : Json → Option Json
  | .object members => (Json.member? "num_worker_threads" members).join
  | .array elements => elements[0]?
  | _ => none

/-- A source gives a number for a thread count that is none, and takes it as it is. -/
inductive Source.Strays : Source → Prop
  | loaded {files : FileTree} {env : Environment} {path? : Option Path} {file : Settings}
      {s : Setting} {n : Int32} (read : Settings.ofFile? files path? = .ok file)
      (selected : Settings.select (.ofEnvironment env) file "num_worker_threads" = some s)
      (converted : Setting.optionalWord32? s = some (some n)) (invalid : ¬ ValidCount n)
      (unset : countIn env = none) : Strays (.loaded files env path?)
  | stored {text : String} {j member : Json} {n : Int32} (read : Json.read? text = some j)
      (given : threadsMember? j = some member)
      (converted : Json.optionalWord32? member = some (some n)) (invalid : ¬ ValidCount n) :
      Strays (.stored text)

section
variable {c : Config}

/-- What is loaded has the count of its variable, else what was selected. -/
theorem numWorkerThreads_of_load {files : FileTree} {env : Environment} {path? : Option Path}
    {events : List Event} (h : load files env path? = .ok (c, events)) :
    ∃ file explicit, Settings.ofFile? files path? = .ok file ∧
      Makes Setting.optionalWord32? none
        (Settings.select (.ofEnvironment env) file "num_worker_threads") explicit ∧
      c.numWorkerThreads = (countIn env).or explicit := by
  obtain ⟨file, hfile, h⟩ := exists_of_bind_eq_ok h
  obtain ⟨c₀, hselected, h⟩ := exists_of_bind_eq_ok h
  obtain ⟨hthreads, -, -⟩ := makes_of_ofSelected hselected
  refine ⟨file, c₀.numWorkerThreads, hfile, hthreads, ?_⟩
  have hoverridden : c = (c₀.overridden env).1 := by rw [Except.ok.inj h]
  rw [hoverridden, overridden_eq]

/-- What is stored has the count of its member, if it has that member. -/
theorem numWorkerThreads_of_ofJson? {j : Json} (h : ofJson? j = some c) :
    Json.memberOr? Json.optionalWord32? none (threadsMember? j) = some c.numWorkerThreads := by
  -- The count is read of the first of the three members.
  have hmembers {threads library level : Option Json}
      (h : ofMembers? threads library level = some c) :
      Json.memberOr? Json.optionalWord32? none threads = some c.numWorkerThreads := by
    obtain ⟨count, hcount, h⟩ := Option.bind_eq_some_iff.mp h
    obtain ⟨_, -, h⟩ := Option.bind_eq_some_iff.mp h
    obtain ⟨_, -, h⟩ := Option.bind_eq_some_iff.mp h
    cases h
    exact hcount
  cases j with
  | object members =>
    obtain ⟨threads, hthreads, h⟩ := Option.bind_eq_some_iff.mp h
    obtain ⟨_, -, h⟩ := Option.bind_eq_some_iff.mp h
    obtain ⟨_, -, h⟩ := Option.bind_eq_some_iff.mp h
    rw [threadsMember?, hthreads]
    exact hmembers h
  -- In an array the members stand in a fixed order.
  | array elements =>
    by_cases hlength : 3 < elements.length
    · simp [ofJson?, hlength] at h
    · simp only [ofJson?, hlength, if_false] at h
      exact hmembers h
  | _ => cases h

/-- A configuration has something else than a thread count just when its source strays. -/
theorem strays_iff {source : Source} (hc : source.config? = some c) :
    source.Strays ↔ ∃ n, c.numWorkerThreads = some n ∧ ¬ ValidCount n := by
  cases source with
  | initial =>
    cases hc
    constructor
    · intro h
      cases h
    · rintro ⟨n, hn, -⟩
      cases hn
  | loaded files env path? =>
    obtain ⟨events, hload⟩ : ∃ events, load files env path? = .ok (c, events) := by
      cases hload : load files env path? with
      | error fault => simp [Source.config?, hload, Except.toOption] at hc
      | ok loaded =>
        obtain ⟨c', events⟩ := loaded
        simp only [Source.config?, hload, Except.toOption, Option.map_some] at hc
        cases hc
        exact ⟨events, rfl⟩
    obtain ⟨file, explicit, hfile, hmakes, hcount⟩ := numWorkerThreads_of_load hload
    rw [hcount]
    constructor
    · intro h
      cases h with
      | loaded hread hselected hconverted hinvalid hunset =>
        cases hfile.symm.trans hread
        rw [hselected] at hmakes
        cases hmakes with
        | converted hstands =>
          cases hstands.symm.trans hconverted
          exact ⟨_, by rw [hunset, Option.none_or], hinvalid⟩
    · rintro ⟨n, hn, hinvalid⟩
      -- The count in the variable is positive, so it is not that one.
      cases hvariable : countIn env with
      | some k =>
        rw [hvariable, Option.some_or] at hn
        cases hn
        obtain ⟨-, -, -, hpositive⟩ := countIn_eq_some_iff.mp hvariable
        exact absurd (.inr hpositive) hinvalid
      | none =>
        rw [hvariable, Option.none_or] at hn
        subst hn
        generalize hselected : Settings.select (.ofEnvironment env) file "num_worker_threads"
          = selected at hmakes
        cases hmakes with
        | converted hstands => exact .loaded hfile hselected hstands hinvalid hvariable
  | stored text =>
    obtain ⟨j, hread, hj⟩ := Option.bind_eq_some_iff.mp hc
    have hmember := numWorkerThreads_of_ofJson? hj
    constructor
    · intro h
      cases h with
      | stored hread' hgiven hconverted hinvalid =>
        cases hread.symm.trans hread'
        rw [hgiven, Json.memberOr?, hconverted] at hmember
        exact ⟨_, (Option.some.inj hmember).symm, hinvalid⟩
    · rintro ⟨n, hn, hinvalid⟩
      rw [hn] at hmember
      cases hgiven : threadsMember? j with
      | none => simp [hgiven, Json.memberOr?] at hmember
      | some member =>
        rw [hgiven, Json.memberOr?] at hmember
        exact .stored hread hgiven hmember hinvalid

end

/-! ## §3. The engine -/

/-- What the engine is told is a thread count unless a configuration has something else for it. -/
theorem validCount_workerThreads_iff (c : Config) (env : Environment) :
    ValidCount (c.workerThreads env).1 ↔ ∀ n, c.numWorkerThreads = some n → ValidCount n := by
  rw [workerThreads_eq]
  cases hexplicit : c.numWorkerThreads with
  | some n => simp
  | none =>
    rw [Option.none_or]
    cases hvariable : countIn env with
    | none => simp [ValidCount]
    | some k =>
      obtain ⟨-, -, -, hpositive⟩ := countIn_eq_some_iff.mp hvariable
      simp [ValidCount, hpositive]

end ModelAdapter.Config

namespace ModelAdapter.Treelite

def Call.Loads : Call → Prop
  | .load _ _ => True
  | _ => False

theorem not_loads_of_queried {predictor : Handle} {result : Except Report Schema}
    {xs : List (Exchange interface)} (h : Queried predictor result xs) :
    ∀ x ∈ xs, ¬ Call.Loads x.call := by
  cases h <;> simp [counted, probe, Call.Loads]

theorem not_loads_of_closed {predictor : Handle} {xs : List (Exchange interface)}
    (h : Closed none predictor xs) : ∀ x ∈ xs, ¬ Call.Loads x.call := by
  cases h with
  | freed hreleased =>
    cases hreleased
    simp [Call.Loads]

/-- The engine is told a thread count in the first call of a model, and in no other one. -/
theorem threads_of_building {artifact : Artifact} {device : Device} {threads : Int32}
    {result : Except Report Model} {xs : List (Exchange interface)}
    (h : Building artifact device threads result xs) :
    ∃ reply rest, xs = ⟨Call.load artifact.modelLib threads, reply⟩ :: rest ∧
      ∀ x ∈ rest, ¬ Call.Loads x.call := by
  cases h with
  | notLoaded fault => exact ⟨_, [], rfl, by simp⟩
  | ready hqueried => exact ⟨_, _, rfl, not_loads_of_queried hqueried⟩
  | notQueried hqueried hclosed =>
    refine ⟨_, _, rfl, ?_⟩
    intro x hx
    rcases List.mem_append.mp hx with hx | hx
    · exact not_loads_of_queried hqueried x hx
    · exact not_loads_of_closed hclosed x hx

end ModelAdapter.Treelite

namespace ModelAdapter

open Config

/-- Loading a tree ensemble tells the engine the thread count of the configuration, if it tells it
any. -/
theorem Machine.loadTreelite_tells {σ τ : Type} (m : Machine σ τ) (E : Engines σ τ)
    (dirs : List Path) (device : Device) (c : Config) :
    ∃ xs, (m.loadTreelite E dirs device c).2.treelite.exchanges = m.treelite.exchanges ++ xs ∧
      ∀ x ∈ xs, ∀ library threads, x.call = Treelite.Call.load library threads →
        threads = (c.workerThreads m.environment.texts).1 := by
  -- Without an artifact or a library the engine is not asked anything.
  have hnothing : ∃ xs, m.treelite.exchanges = m.treelite.exchanges ++ xs ∧
      ∀ x ∈ xs, ∀ library threads, x.call = Treelite.Call.load library threads →
        threads = (c.workerThreads m.environment.texts).1 :=
    ⟨[], (List.append_nil _).symm, by simp⟩
  unfold Machine.loadTreelite
  rcases Treelite.locate m.files dirs with ⟨fault | artifact, warnings⟩
  · exact hnothing
  · dsimp only
    split
    · exact hnothing
    · obtain ⟨xs, hxs, hbuilding⟩ := Treelite.build_satisfies artifact device
        (c.workerThreads m.environment.texts).1 (Treelite.binding E.treelite) _
      obtain ⟨reply, rest, rfl, hrest⟩ := Treelite.threads_of_building hbuilding
      refine ⟨_, hxs, ?_⟩
      intro x hx library threads hcall
      rcases List.mem_cons.mp hx with rfl | hx
      · cases hcall
        rfl
      · have hloads := hrest x hx
        rw [hcall] at hloads
        exact absurd trivial hloads

namespace Config

/-- **The engine is told a thread count** unless the source of the configuration strays and no
positive count is set in it afterwards.  Whatever the environment is when the count is needed, and
in whatever order things are set, nothing else can make it something else; and that count is what
the engine is told when a tree ensemble is loaded with the configuration. -/
theorem told_count_valid_iff (source : Source) (c : Config) (hc : source.config? = some c)
    (setters : List Setter) :
    (∀ env, ValidCount ((c.after setters).workerThreads env).1 ↔
      ¬ source.Strays ∨ ∃ n, Setter.threads n ∈ setters ∧ 0 < n) ∧
    ∀ {σ τ : Type} (m : Machine σ τ) (E : Engines σ τ) (dirs : List Path) (device : Device),
      ∃ xs, (m.loadTreelite E dirs device (c.after setters)).2.treelite.exchanges
          = m.treelite.exchanges ++ xs ∧
        ∀ x ∈ xs, ∀ library threads, x.call = Treelite.Call.load library threads →
          threads = ((c.after setters).workerThreads m.environment.texts).1 := by
  refine ⟨?_, fun m E dirs device => m.loadTreelite_tells E dirs device _⟩
  intro env
  rw [validCount_workerThreads_iff, numWorkerThreads_after, strays_iff hc]
  have hset : (∃ n, n ∈ setters.filterMap Setter.count?) ↔ ∃ n, .threads n ∈ setters ∧ 0 < n := by
    simp [List.mem_filterMap, Setter.count?_eq_some_iff]
  rw [← hset]
  cases hlast : (setters.filterMap Setter.count?).getLast? with
  | none =>
    -- Nothing sets a count, so the configuration keeps its own.
    have hnone : setters.filterMap Setter.count? = [] := List.getLast?_eq_none_iff.mp hlast
    simp [hnone]
  | some k =>
    have hk := List.mem_of_getLast? hlast
    obtain ⟨s, -, hs⟩ := List.mem_filterMap.mp hk
    have hpositive : 0 < k := (Setter.count?_eq_some_iff.mp hs).2
    constructor
    · intro _
      exact .inr ⟨k, hk⟩
    · rintro - n hn
      rw [Option.some_or] at hn
      cases hn
      exact .inr hpositive

/-- A variable that gives zero threads. -/
def zeroThreads : Environment := [("DLR_NUM_WORKER_THREADS", "0")]

/-- No files, and a variable that gives zero threads. -/
def zeroSource : Source := .loaded .empty zeroThreads none

/-- The configuration that it makes. -/
def zeroConfig : Config := { initial with numWorkerThreads := some 0 }

theorem config?_zeroSource : zeroSource.config? = some zeroConfig := by
  have hlower : "0".toLower = "0" := Settings.toLower_of_lower rfl
  have htext : Setting.ofText "0" = .integer 0 := by
    rw [Setting.ofText, hlower]
    rfl
  -- The variable decides about the count, and nothing about the rest.
  have hselected : Settings.select (.ofEnvironment zeroThreads) [] "num_worker_threads"
      = some (.integer 0) := by
    rw [← htext]
    rfl
  have hlibrary : Settings.select (.ofEnvironment zeroThreads) [] "treelite_runtime_library"
      = none := rfl
  have hlevel : Settings.select (.ofEnvironment zeroThreads) [] "hexagon_debug_level" = none := rfl
  have hload : load .empty zeroThreads none = .ok (zeroConfig, []) := by
    show ofSources [] zeroThreads = _
    rw [ofSources, ofSelected, hselected, hlibrary, hlevel]
    rfl
  rw [zeroSource, Source.config?, hload]
  rfl

/-- A count that is set takes the place of the stray one; one that is refused does not. -/
theorem eight_threads_over_zero :
    zeroSource.config? = some zeroConfig ∧ zeroSource.Strays ∧
    ValidCount ((zeroConfig.after [.threads 8, .threads (-2)]).workerThreads zeroThreads).1 := by
  have hvalid := told_count_valid_iff zeroSource zeroConfig config?_zeroSource
    [.threads 8, .threads (-2)]
  refine ⟨config?_zeroSource, ?_, (hvalid.1 zeroThreads).mpr (.inr ⟨8, by simp, by decide⟩)⟩
  exact (strays_iff config?_zeroSource).mpr ⟨0, rfl, by decide⟩

/-- The engine is told to work with zero threads. -/
theorem zero_threads_are_told :
    zeroSource.config? = some zeroConfig ∧ (zeroConfig.workerThreads zeroThreads).1 = 0 ∧
      ¬ ValidCount (zeroConfig.workerThreads zeroThreads).1 :=
  ⟨config?_zeroSource, rfl, by decide⟩

end Config

end ModelAdapter
