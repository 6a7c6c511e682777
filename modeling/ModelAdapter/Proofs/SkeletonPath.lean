import Mathlib.Data.List.Induction
import ModelAdapter.Proofs.Detection

/-! # Where the DSP's loader is told to look

The DSP's loader finds the skeleton library through a variable of the process, and
loading a model may write it.  The variable outlives the load, and it is written
before most of what can still go wrong.  This module says which loads write it, and
so what is in it after any number of them.

  * **One load** (`LoadCall.Exports`): a load exports the directory that it loads a
    model of the DSP engine from, if the skeleton library stands there beside the
    model.  What the directories hold decides this, and nothing that comes later
    in the load (`Machine.perform_environment`).
  * **Many loads** (`LastExport`): the last of them that exports a directory decides
    what the variable holds (`skeletonPath_of_last_export`), also when loads fail
    between and after.
-/

namespace ModelAdapter

/-! ## §1. Models with their skeleton library -/

namespace Hexagon

/-- A directory, told by the path from the root, that ships the skeleton library with the one model
in it.  The system has to tell that path. -/
structure Ships (t : FileTree) (dir path : Path) : Prop where
  model : ∃ files, t.list dir = .ok files ∧ (files.filter isModel).length = 1
  skeleton : t.Holds isSkeleton dir
  place : ∃ location, t.Opens dir location ∧ t.refuses (.trace location) = none ∧
    path = FileTree.absolute location

variable {t : FileTree} {dir path : Path}

/-- A model that is located has the skeleton library when the directory holds it. -/
theorem skeletonFile_of_locate {artifact : Artifact} (h : locate t dir = .ok artifact) :
    artifact.skeletonFile ≠ none ↔ t.Holds isSkeleton dir := by
  obtain ⟨files, hfiles, -, -, hskeleton⟩ := locate_eq_ok_iff.mp h
  rw [hskeleton, ← FileTree.any_iff_holds hfiles, ne_eq, List.getLast?_eq_none_iff,
    List.filter_eq_nil_iff]
  simp

/-- The path from the root is that to where a path leads, if the system tells it. -/
theorem canonical_of_opens {location : Location} (h : t.Opens dir location) :
    t.canonical dir = .ok path ↔
      t.refuses (.trace location) = none ∧ path = FileTree.absolute location := by
  have hcanonical : t.canonical dir
      = (t.request (.trace location) >>= fun _ => .ok (FileTree.absolute location)) := by
    rw [FileTree.canonical, h.leads]
    rfl
  rw [hcanonical, FileTree.request]
  cases t.refuses (.trace location) with
  | some cause => simp [bind, Except.bind]
  | none => simp [bind, Except.bind, eq_comm]

/-- **A directory ships its skeleton library** when the model is located there with one, and the
path from the root to the directory can be told. -/
theorem ships_iff : Ships t dir path ↔
    ∃ artifact, locate t dir = .ok artifact ∧ artifact.skeletonFile ≠ none ∧
      t.canonical artifact.dir = .ok path := by
  constructor
  · rintro ⟨⟨files, hfiles, hone⟩, hskeleton, location, hopens, htold, rfl⟩
    obtain ⟨modelFile, hmodel⟩ := List.length_eq_one_iff.mp hone
    have hlocated : locate t dir = .ok ⟨dir, modelFile, (files.filter isSkeleton).getLast?⟩ :=
      locate_eq_ok_iff.mpr ⟨files, hfiles, hmodel, rfl, rfl⟩
    exact ⟨_, hlocated, (skeletonFile_of_locate hlocated).mpr hskeleton,
      (canonical_of_opens hopens).mpr ⟨htold, rfl⟩⟩
  · rintro ⟨artifact, hlocated, hskeleton, hcanonical⟩
    obtain ⟨files, hfiles, hmodel, hdir, -⟩ := locate_eq_ok_iff.mp hlocated
    -- What was located was listed, so the directory was opened.
    obtain ⟨location, hopens⟩ := FileTree.readable_of_list hfiles
    rw [hdir, canonical_of_opens hopens] at hcanonical
    exact ⟨⟨files, hfiles, by rw [hmodel]; rfl⟩, (skeletonFile_of_locate hlocated).mp hskeleton,
      location, hopens, hcanonical⟩

theorem Ships.holds (h : Ships t dir path) : t.Holds isModel dir := by
  obtain ⟨files, hfiles, hone⟩ := h.model
  apply (FileTree.any_iff_holds hfiles).mp
  obtain ⟨modelFile, hmodel⟩ := List.length_eq_one_iff.mp hone
  have hmem : modelFile ∈ files.filter isModel := by simp [hmodel]
  obtain ⟨hlisted, hpasses⟩ := List.mem_filter.mp hmem
  exact List.any_eq_true.mpr ⟨modelFile, hlisted, hpasses⟩

theorem Ships.isAbsolute (h : Ships t dir path) : path.isAbsolute = true := by
  obtain ⟨location, -, -, rfl⟩ := h.place
  rfl

end Hexagon

/-! ## §2. Loads -/

/-- A call that loads a model. -/
inductive LoadCall
  | hexagon (dir : Path) (device : Device) (debugLevel : Int32)
  | treelite (dirs : List Path) (device : Device) (config : Config)
  /-- Loads whatever is there. -/
  | detected (dirs : List Path) (device : Device) (config : Config)

/-- A load: the call, with the files and the engines as it finds them. -/
structure Load (σ τ : Type) where
  files : FileTree
  engines : Engines σ τ
  call : LoadCall

/-- The call exports a directory. -/
inductive LoadCall.Exports (t : FileTree) : LoadCall → Path → Prop
  | hexagon {dir : Path} {device : Device} {debugLevel : Int32} {path : Path}
      (ships : Hexagon.Ships t dir path) : Exports t (.hexagon dir device debugLevel) path
  /-- Of several directories it is the first one that holds a model of the DSP engine. -/
  | detected {dirs : List Path} {device : Device} {config : Config} {path : Path}
      (before after : List Path) (dir : Path) (cut : dirs = before ++ dir :: after)
      (lacking : ∀ d ∈ before, t.Lacks Hexagon.isModel d) (ships : Hexagon.Ships t dir path) :
      Exports t (.detected dirs device config) path

theorem LoadCall.exports_detected_iff {t : FileTree} {dirs : List Path} {device : Device}
    {config : Config} {path : Path} :
    LoadCall.Exports t (.detected dirs device config) path ↔
      ∃ dir, hexagonDir t dirs = .ok (some dir) ∧ Hexagon.Ships t dir path := by
  rw [hexagonDir_eq]
  constructor
  · intro h
    cases h with
    | detected before after dir hcut hlacking hships =>
      exact ⟨dir, FileTree.searched_iff.mp (.found before after dir hcut hlacking hships.holds),
        hships⟩
  · rintro ⟨dir, hsearch, hships⟩
    cases FileTree.searched_iff.mpr hsearch with
    | found before after _ hcut hlacking _ => exact .detected before after dir hcut hlacking hships

/-- The directory in which a call looks for a model of the DSP engine. -/
def LoadCall.modelDir? (t : FileTree) : LoadCall → Option Path
  | .hexagon dir _ _ => some dir
  | .treelite _ _ _ => none
  | .detected dirs _ _ => (hexagonDir t dirs).toOption.join

/-- **What a call exports** is the directory of the model that it locates with a skeleton
library. -/
theorem LoadCall.exports_iff {t : FileTree} {call : LoadCall} {path : Path} :
    call.Exports t path ↔
      ∃ dir artifact, call.modelDir? t = some dir ∧ Hexagon.locate t dir = .ok artifact ∧
        artifact.skeletonFile ≠ none ∧ t.canonical artifact.dir = .ok path := by
  -- A call ships what the one directory ships that it looks into.
  have hships : call.Exports t path ↔
      ∃ dir, call.modelDir? t = some dir ∧ Hexagon.Ships t dir path := by
    cases call with
    | hexagon dir device debugLevel =>
      constructor
      · rintro ⟨hships⟩
        exact ⟨dir, rfl, hships⟩
      · rintro ⟨_, ⟨⟩, hships⟩
        exact .hexagon hships
    | treelite dirs device config => exact iff_of_false (nofun) (by simp [modelDir?])
    | detected dirs device config =>
      rw [exports_detected_iff]
      refine exists_congr (fun dir => and_congr_left' ?_)
      rw [modelDir?]
      cases hexagonDir t dirs <;> simp [Except.toOption]
  simp only [hships, Hexagon.ships_iff, ← exists_and_left]

theorem LoadCall.Exports.isAbsolute {t : FileTree} {call : LoadCall} {path : Path}
    (h : call.Exports t path) : path.isAbsolute = true := by
  cases h with
  | hexagon hships => exact hships.isAbsolute
  | detected _ _ _ _ _ hships => exact hships.isAbsolute

/-- The load exports a directory. -/
def Load.Exports {σ τ : Type} (load : Load σ τ) (path : Path) : Prop :=
  load.call.Exports load.files path

/-- What an environment becomes when one directory is exported, or none. -/
inductive Told (exports : Path → Prop) (env : Variables Path) : Variables Path → Prop
  | exported (path : Path) (one : ∀ other, exports other ↔ other = path) :
      Told exports env (env.set skeletonPathVariable path)
  | kept (silent : ∀ path, ¬ exports path) : Told exports env env

namespace Told

variable {p q : Path → Prop} {env env' : Variables Path}

theorem congr (h : Told p env env') (hiff : ∀ path, p path ↔ q path) : Told q env env' := by
  cases h with
  | exported path hone => exact .exported path (fun other => (hiff other).symm.trans (hone other))
  | kept hsilent => exact .kept (fun path hpath => hsilent path ((hiff path).mpr hpath))

theorem get?_eq (h : Told p env env') {path : Path} (hpath : p path) :
    env'.get? skeletonPathVariable = some path := by
  cases h with
  | exported path' hone =>
    rw [(hone path).mp hpath]
    exact Variables.get?_set_self ..
  | kept hsilent => exact absurd hpath (hsilent path)

theorem eq_of_silent (h : Told p env env') (hsilent : ∀ path, ¬ p path) : env' = env := by
  cases h with
  | exported path hone => exact absurd ((hone path).mpr rfl) (hsilent path)
  | kept => rfl

theorem get?_ne (h : Told p env env') {name : String} (hname : name ≠ skeletonPathVariable) :
    env'.get? name = env.get? name := by
  cases h with
  | exported path => exact Variables.get?_set_ne env path hname
  | kept => rfl

end Told

namespace Machine

variable {σ τ : Type}

/-- The machine that a load leaves, whether it brings a model or fails. -/
def perform (m : Machine σ τ) (load : Load σ τ) : Machine σ τ :=
  let m := { m with files := load.files }
  match load.call with
  | .hexagon dir device debugLevel => (m.loadHexagon load.engines dir device debugLevel).2
  | .treelite dirs device config => (m.loadTreelite load.engines dirs device config).2
  | .detected dirs device config => (m.load load.engines dirs device config).2

/-- The machine that some loads leave, one after the other. -/
def performAll (m : Machine σ τ) (loads : List (Load σ τ)) : Machine σ τ :=
  loads.foldl perform m

/-- **An export** sets the variable to the directory that it reports, and to nothing else. -/
theorem exportSkeleton_environment (m : Machine σ τ) (artifact : Hexagon.Artifact) :
    Told (fun path => (m.exportSkeleton artifact).1 = .ok (some path)) m.environment
      (m.exportSkeleton artifact).2.environment := by
  unfold exportSkeleton Hexagon.Artifact.exportSkeleton
  cases artifact.skeletonFile with
  | none => exact .kept (by simp)
  | some file =>
    cases m.files.canonical artifact.dir with
    | error cause => exact .kept (by simp)
    | ok path => exact .exported path (fun other => by simp [eq_comm])

/-- What is exported of a located model is what its directory ships. -/
theorem exportSkeleton_eq_iff {m : Machine σ τ} {artifact : Hexagon.Artifact} {dir path : Path}
    (h : Hexagon.locate m.files dir = .ok artifact) :
    (m.exportSkeleton artifact).1 = .ok (some path) ↔ Hexagon.Ships m.files dir path := by
  have hresult : (m.exportSkeleton artifact).1 = .ok (some path) ↔
      artifact.skeletonFile ≠ none ∧ m.files.canonical artifact.dir = .ok path := by
    unfold exportSkeleton Hexagon.Artifact.exportSkeleton
    cases artifact.skeletonFile with
    | none => simp
    | some file => cases m.files.canonical artifact.dir <;> simp
  rw [hresult, Hexagon.ships_iff]
  constructor
  · rintro ⟨hskeleton, hcanonical⟩
    exact ⟨artifact, h, hskeleton, hcanonical⟩
  · rintro ⟨artifact', h', hskeleton, hcanonical⟩
    cases h.symm.trans h'
    exact ⟨hskeleton, hcanonical⟩

/-- Nothing after the export changes the environment. -/
theorem loadHexagon_environment (m : Machine σ τ) (E : Engines σ τ) (dir : Path) (device : Device)
    (debugLevel : Int32) :
    Told (Hexagon.Ships m.files dir) m.environment
      (m.loadHexagon E dir device debugLevel).2.environment := by
  cases hlocated : Hexagon.locate m.files dir with
  -- What cannot be located ships nothing, since a directory that ships has its model located.
  | error fault =>
    have hkept : (m.loadHexagon E dir device debugLevel).2.environment = m.environment := by
      simp only [loadHexagon, loggedHexagon, hlocated]
    rw [hkept]
    refine .kept (fun path hships => ?_)
    obtain ⟨artifact, hartifact, -⟩ := Hexagon.ships_iff.mp hships
    cases hlocated.symm.trans hartifact
  | ok artifact =>
    -- After the export only the engine is driven, on whatever branch.
    let opened := m.loggedHexagon [.hexagonOpening dir]
    have hkept : (m.loadHexagon E dir device debugLevel).2.environment
        = (opened.exportSkeleton artifact).2.environment := by
      have hfiles : opened.files = m.files := rfl
      simp only [loadHexagon, opened, hfiles, hlocated]
      split
      · rename_i hexported
        rw [hexported]
      · rename_i hexported
        rw [hexported]
        split <;> rfl
    rw [hkept]
    exact (opened.exportSkeleton_environment artifact).congr
      (fun path => exportSkeleton_eq_iff (m := opened) hlocated)

/-- A model whose directory cannot be told from the root is not loaded, and nothing is exported. -/
theorem loadHexagon_of_untold (m : Machine σ τ) (E : Engines σ τ) {dir : Path} (device : Device)
    (debugLevel : Int32) {artifact : Hexagon.Artifact} {cause : IoCause}
    (hlocated : Hexagon.locate m.files dir = .ok artifact)
    (hskeleton : artifact.skeletonFile ≠ none)
    (huntold : m.files.canonical artifact.dir = .error cause) :
    (m.exportSkeleton artifact).1 = .error (.io cause) ∧
      (m.loadHexagon E dir device debugLevel).1
        = .error ((Report.bare (.io cause)).note "exporting skeleton library search path") ∧
      (m.loadHexagon E dir device debugLevel).2.environment = m.environment := by
  obtain ⟨file, hfile⟩ := Option.ne_none_iff_exists'.mp hskeleton
  have hexport : artifact.exportSkeleton m.files = ⟨.error (.io cause), []⟩ := by
    rw [Hexagon.Artifact.exportSkeleton, hfile, huntold]
  let opened := m.loggedHexagon [.hexagonOpening dir]
  have hexported : opened.exportSkeleton artifact
      = (.error (.io cause), opened.loggedHexagon []) := by
    have hopened : artifact.exportSkeleton opened.files = ⟨.error (.io cause), []⟩ := hexport
    rw [exportSkeleton, hopened]
  -- The report is made where the export fails, before anything is bound.
  have hload : m.loadHexagon E dir device debugLevel
      = (.error ((Report.bare (.io cause)).note "exporting skeleton library search path"),
        opened.loggedHexagon []) := by
    have hfiles : opened.files = m.files := rfl
    simp only [loadHexagon, opened, hfiles, hlocated] at hexported ⊢
    rw [hexported]
  refine ⟨by rw [exportSkeleton, hexport], by rw [hload], by rw [hload]; rfl⟩

theorem loadTreelite_environment (m : Machine σ τ) (E : Engines σ τ) (dirs : List Path)
    (device : Device) (config : Config) :
    (m.loadTreelite E dirs device config).2.environment = m.environment := by
  unfold loadTreelite
  rcases Treelite.locate m.files dirs with ⟨fault | artifact, warnings⟩
  · rfl
  · dsimp only
    split <;> rfl

/-- Loading whatever is there exports what the first directory with a model of the DSP engine
ships. -/
theorem load_environment (m : Machine σ τ) (E : Engines σ τ) (dirs : List Path)
    (device : Device) (config : Config) :
    Told (LoadCall.Exports m.files (.detected dirs device config)) m.environment
      (m.load E dirs device config).2.environment := by
  -- Without such a directory nothing is exported, and a tree ensemble is loaded at most.
  have hwithout (hdir : ∀ dir, hexagonDir m.files dirs ≠ .ok (some dir))
      (hkept : (m.load E dirs device config).2.environment = m.environment) :
      Told (LoadCall.Exports m.files (.detected dirs device config)) m.environment
        (m.load E dirs device config).2.environment := by
    rw [hkept]
    refine .kept (fun path hexports => ?_)
    obtain ⟨dir, hfound, -⟩ := LoadCall.exports_detected_iff.mp hexports
    exact hdir dir hfound
  cases hdir : hexagonDir m.files dirs with
  | error fault =>
    have hdetected : detectBackend m.files dirs = .error fault := by
      simp only [detectBackend, hdir, bind, Except.bind]
    exact hwithout (by simp [hdir]) (by rw [load_of_fault E device config hdetected])
  | ok found =>
    cases found with
    | none =>
      refine hwithout (by simp [hdir]) ?_
      cases hdetected : detectBackend m.files dirs with
      | error fault => rw [load_of_fault E device config hdetected]
      | ok backend =>
        cases backend with
        | treelite =>
          rw [load_of_treelite E device config hdetected]
          exact loadTreelite_environment ..
        | hexagon => simp [load, hdetected, loggedHexagon, hdir]
    | some dir =>
      have hdetected : detectBackend m.files dirs = .ok .hexagon := by
        simp only [detectBackend, hdir, bind, Except.bind, pure, Except.pure]
      rw [load_of_hexagon E device config hdetected hdir]
      refine (loadHexagon_environment (m.loggedHexagon [.loading .hexagon device]) E dir device
        config.hexagonDebugLevel).congr (fun path => ?_)
      rw [LoadCall.exports_detected_iff]
      constructor
      · exact fun hships => ⟨dir, hdir, hships⟩
      · rintro ⟨dir', hdir', hships⟩
        cases hdir.symm.trans hdir'
        exact hships

/-- **One load** exports a directory or leaves the environment alone. -/
theorem perform_environment (m : Machine σ τ) (load : Load σ τ) :
    Told load.Exports m.environment (m.perform load).environment := by
  obtain ⟨files, engines, call⟩ := load
  -- A load sees the files as it finds them, and the environment as the others left it.
  let found := { m with files := files }
  cases call with
  | hexagon dir device debugLevel =>
    refine (found.loadHexagon_environment engines dir device debugLevel).congr (fun path => ?_)
    constructor
    · exact .hexagon
    · rintro ⟨hships⟩
      exact hships
  | treelite dirs device config =>
    have hkept : (m.perform ⟨files, engines, .treelite dirs device config⟩).environment
        = m.environment := found.loadTreelite_environment engines dirs device config
    rw [hkept]
    exact .kept (fun path hexports => nomatch hexports)
  | detected dirs device config => exact found.load_environment engines dirs device config

end Machine

/-! ## §3. Many loads -/

/-- The last of some loads that exports a directory. -/
def LastExport {σ τ : Type} (loads : List (Load σ τ)) (path : Path) : Prop :=
  ∃ before load after, loads = before ++ load :: after ∧ load.Exports path ∧
    ∀ later ∈ after, ∀ path, ¬ later.Exports path

section
variable {σ τ : Type} {loads : List (Load σ τ)} {load : Load σ τ} {path : Path}

/-- One more load is the last one that exports, or it exports nothing. -/
theorem lastExport_concat_iff : LastExport (loads ++ [load]) path ↔
    load.Exports path ∨ (∀ path, ¬ load.Exports path) ∧ LastExport loads path := by
  constructor
  · rintro ⟨before, last, after, hcut, hexports, hsilent⟩
    -- The last export is the new load, if nothing comes after it.
    rcases List.eq_nil_or_concat after with rfl | ⟨after, later, rfl⟩
    · obtain ⟨-, hlast⟩ := List.append_inj' hcut rfl
      cases hlast
      exact .inl hexports
    · have hcut' : loads ++ [load] = (before ++ last :: after) ++ [later] := by simp [hcut]
      obtain ⟨hloads, hload⟩ := List.append_inj' hcut' rfl
      cases hload
      exact .inr ⟨hsilent load (by simp), before, last, after, hloads, hexports,
        fun later hlater => hsilent later (by simp [hlater])⟩
  · -- Conversely nothing comes after the new load, and nothing it exports hides an earlier one.
    rintro (hexports | ⟨hnothing, before, last, after, rfl, hexports, hsilent⟩)
    · exact ⟨loads, load, [], rfl, hexports, by simp⟩
    · refine ⟨before, last, after ++ [load], by simp, hexports, ?_⟩
      intro later hlater
      rcases List.mem_append.mp hlater with hlater | hlater
      · exact hsilent later hlater
      · rw [List.mem_singleton.mp hlater]
        exact hnothing

/-- There is a last load that exports a directory, unless none does. -/
theorem exists_lastExport_iff (loads : List (Load σ τ)) :
    (∃ path, LastExport loads path) ↔ ∃ load ∈ loads, ∃ path, load.Exports path := by
  -- On the last load: it is the one that was looked for, or an earlier one is still there.
  induction loads using List.reverseRecOn with
  | nil => simp [LastExport]
  | append_singleton loads load ih =>
    simp only [lastExport_concat_iff, exists_or, exists_and_left, ih, List.mem_append,
      List.mem_singleton]
    constructor
    · rintro (hexports | ⟨-, earlier, hmem, hexports⟩)
      · exact ⟨load, .inr rfl, hexports⟩
      · exact ⟨earlier, .inl hmem, hexports⟩
    · rintro ⟨earlier, hmem | rfl, hexports⟩
      · by_cases hload : ∃ path, load.Exports path
        · exact .inl hload
        · exact .inr ⟨fun path h => hload ⟨path, h⟩, earlier, hmem, hexports⟩
      · exact .inl hexports

end

namespace Machine

variable {σ τ : Type}

/-- **Many loads** leave the variable as the last export among them set it. -/
theorem performAll_environment (m : Machine σ τ) (loads : List (Load σ τ)) :
    Told (LastExport loads) m.environment (m.performAll loads).environment := by
  -- On the loads from the last one on; the earlier ones are those of the hypothesis.
  induction loads using List.reverseRecOn with
  | nil => exact .kept (by simp [LastExport])
  | append_singleton loads load ih =>
    have hsplit : m.performAll (loads ++ [load]) = (m.performAll loads).perform load :=
      List.foldl_concat ..
    rw [hsplit]
    have hstep := (m.performAll loads).perform_environment load
    generalize (m.performAll loads).environment = env at ih hstep
    generalize ((m.performAll loads).perform load).environment = env' at hstep
    cases hstep with
    | exported path hone =>
      have hset : env.set skeletonPathVariable path
          = m.environment.set skeletonPathVariable path := by
        cases ih with
        | exported earlier => exact Variables.set_set ..
        | kept => rfl
      rw [hset]
      refine .exported path (fun other => ?_)
      have hexports : load.Exports path := (hone path).mpr rfl
      rw [lastExport_concat_iff, hone]
      exact or_iff_left (fun h => h.1 path hexports)
    | kept hsilent => exact ih.congr (fun path => by simp [lastExport_concat_iff, hsilent])

end Machine

/-- **The skeleton path after any number of loads** is what the last of them exported that exported
anything, and what it was before them if none did; no other variable is touched.  It does not matter
which of the loads bring a model and which fail after the export.  What a load exports is the path
from the root to the directory that it locates a model in, if that is located with its skeleton
library and the system tells the path.  A load that is not told the path fails, and leaves the
environment as it is.  An export by itself leaves in the variable what it reports, and the variable
alone when it reports nothing or fails. -/
theorem skeletonPath_of_last_export {σ τ : Type} (m : Machine σ τ) (loads : List (Load σ τ)) :
    (∀ path, LastExport loads path →
      (m.performAll loads).environment.get? skeletonPathVariable = some path ∧
        path.isAbsolute = true) ∧
    ((∀ load ∈ loads, ∀ path, ¬ load.Exports path) →
      (m.performAll loads).environment = m.environment) ∧
    ((∃ path, LastExport loads path) ↔ ∃ load ∈ loads, ∃ path, load.Exports path) ∧
    (∀ name, name ≠ skeletonPathVariable →
      (m.performAll loads).environment.get? name = m.environment.get? name) ∧
    (∀ t call path, LoadCall.Exports t call path ↔
      ∃ dir artifact, call.modelDir? t = some dir ∧ Hexagon.locate t dir = .ok artifact ∧
        artifact.skeletonFile ≠ none ∧ t.canonical artifact.dir = .ok path) ∧
    (∀ artifact path, (m.exportSkeleton artifact).1 = .ok (some path) →
      (m.exportSkeleton artifact).2.environment.get? skeletonPathVariable = some path) ∧
    (∀ artifact, (∀ path, (m.exportSkeleton artifact).1 ≠ .ok (some path)) →
      (m.exportSkeleton artifact).2.environment = m.environment) ∧
    (∀ E dir device debugLevel artifact cause, Hexagon.locate m.files dir = .ok artifact →
      artifact.skeletonFile ≠ none → m.files.canonical artifact.dir = .error cause →
      (m.exportSkeleton artifact).1 = .error (.io cause) ∧
        (m.loadHexagon E dir device debugLevel).1
          = .error ((Report.bare (.io cause)).note "exporting skeleton library search path") ∧
        (m.loadHexagon E dir device debugLevel).2.environment = m.environment) := by
  have htold := m.performAll_environment loads
  refine ⟨?_, ?_, exists_lastExport_iff loads, fun name hname => htold.get?_ne hname,
    fun t call path => LoadCall.exports_iff, ?_, ?_, ?_⟩
  · intro path hlast
    refine ⟨htold.get?_eq hlast, ?_⟩
    obtain ⟨_, load, _, -, hexports, -⟩ := hlast
    exact hexports.isAbsolute
  · intro hsilent
    refine htold.eq_of_silent (fun path hlast => ?_)
    obtain ⟨load, hmem, hexports⟩ := (exists_lastExport_iff loads).mp ⟨path, hlast⟩
    obtain ⟨path, hpath⟩ := hexports
    exact hsilent load hmem path hpath
  · exact fun artifact path hexported => (m.exportSkeleton_environment artifact).get?_eq hexported
  · exact fun artifact hnothing => (m.exportSkeleton_environment artifact).eq_of_silent hnothing
  · intro E dir device debugLevel artifact cause hlocated hskeleton huntold
    exact m.loadHexagon_of_untold E device debugLevel hlocated hskeleton huntold

/-- A directory with a model that cannot be opened and its skeleton library, reached through a link,
and an empty directory. -/
def linkedModel : FileTree where
  entries := [(["a"], .folder), (["a", "libhexagon_nn_skel.so"], .file "" none),
    (["a", "net_hexagon_model.so"], .file "" none), (["b"], .folder), (["l"], .link "a")]
  home := []

/-- The same files, in a directory that can be listed but not traced to the root: it stands below
one that cannot be read. -/
def untoldModel : FileTree :=
  { linkedModel with refuses := fun r => if r = .trace ["a"] then some (.system 13) else none }

theorem list_linkedModel :
    linkedModel.list "b" = .ok [] ∧
      ∀ t ∈ [linkedModel, untoldModel],
        t.list "l" = .ok ["l/libhexagon_nn_skel.so", "l/net_hexagon_model.so"] := by
  constructor
  · have hempty : linkedModel.Opens "b" ["b"] := ⟨by decide, rfl, rfl⟩
    rw [FileTree.list_of_opens hempty, List.mergeSort_of_pairwise (by decide)]
    decide
  · intro t ht
    -- Both trees have the same links and directories; only tracing is refused in one of them.
    obtain ⟨hlinked, hnames⟩ : t.Opens "l" ["a"] ∧
        t.fileNames ["a"] = ["libhexagon_nn_skel.so", "net_hexagon_model.so"] := by
      simp only [List.mem_cons, List.not_mem_nil, or_false] at ht
      rcases ht with rfl | rfl
      · exact ⟨⟨by decide, rfl, rfl⟩, by decide⟩
      · exact ⟨⟨by decide, by decide, by decide⟩, by decide⟩
    rw [FileTree.list_of_opens hlinked, hnames, List.mergeSort_of_pairwise (by decide)]
    decide

/-- Loads of which the first one exports a directory and fails, the second is not told where its
directory is, and the others find nothing. -/
def failingLoads : List (Load Nat Treelite.Script.State) :=
  [⟨linkedModel, bareEngines, .hexagon "l" .cpu 0⟩,
    ⟨untoldModel, bareEngines, .hexagon "l" .cpu 0⟩,
    ⟨linkedModel, bareEngines, .treelite ["b"] .cpu .initial⟩,
    ⟨linkedModel, bareEngines, .hexagon "b" .cpu 0⟩]

/-- What a load exports before it fails is still there after a load that fails to export and loads
that find nothing. -/
theorem failed_load_is_told :
    LastExport failingLoads "/a" ∧
    ((Machine.start linkedModel [(skeletonPathVariable, "/old")] 0 .start).performAll
      failingLoads).environment.get? skeletonPathVariable = some "/a" ∧
    ((Machine.start untoldModel [(skeletonPathVariable, "/old")] 0 .start).loadHexagon
      bareEngines "l" .cpu 0).1
        = .error
          ((Report.bare (.io (.system 13))).note "exporting skeleton library search path") := by
  obtain ⟨hlast, -, -, -, hexports, -⟩ := skeletonPath_of_last_export
    (Machine.start linkedModel [(skeletonPathVariable, "/old")] 0 .start) failingLoads
  obtain ⟨-, -, -, -, -, -, -, huntold⟩ := skeletonPath_of_last_export
    (Machine.start untoldModel [(skeletonPathVariable, "/old")] 0 .start) failingLoads
  have hlocated : ∀ t ∈ [linkedModel, untoldModel], Hexagon.locate t "l"
      = .ok ⟨"l", "l/net_hexagon_model.so", some "l/libhexagon_nn_skel.so"⟩ := by
    intro t ht
    exact Hexagon.locate_eq_ok_iff.mpr ⟨_, list_linkedModel.2 t ht, by decide, rfl, by decide⟩
  have hfirst : LoadCall.Exports linkedModel (.hexagon "l" .cpu 0) "/a" :=
    (hexports ..).mpr ⟨"l", _, rfl, hlocated linkedModel (by simp), by simp, by decide⟩
  have hcause : untoldModel.canonical "l" = .error (.system 13) := by decide
  have hshown : LastExport failingLoads "/a" := by
    refine ⟨[], _, _, rfl, hfirst, ?_⟩
    intro later hlater path hpath
    obtain ⟨dir, artifact, hdir, hartifact, -, htold⟩ := (hexports _ _ _).mp hpath
    simp only [List.mem_cons, List.not_mem_nil, or_false] at hlater
    -- The first of the later loads is not told its path, the second exports nothing at all, and the
    -- third finds no model.
    rcases hlater with rfl | rfl | rfl
    · cases hdir
      cases (hlocated untoldModel (by simp)).symm.trans hartifact
      cases hcause.symm.trans htold
    · cases hdir
    · cases hdir
      obtain ⟨files, hfiles, hone, -⟩ := Hexagon.locate_eq_ok_iff.mp hartifact
      cases hfiles.symm.trans list_linkedModel.1
      cases hone
  obtain ⟨-, hfails, -⟩ := huntold bareEngines "l" .cpu 0 _ _
    (hlocated untoldModel (by simp)) (by simp) hcause
  exact ⟨hshown, (hlast _ hshown).1, hfails⟩

end ModelAdapter
