import Mathlib.Data.List.Forall2
import Mathlib.Data.List.Nodup
import ModelAdapter.Proofs.Files.Tree
import ModelAdapter.Proofs.Text.Utf8

/-! # A listing has one order

The entries of a directory come in any order, and what is listed of them in one: that of the paths,
which in one directory is the order of the bytes of the names.  So a listing is told by what stands
in the directory, and by nothing else.

  * **One directory** (`Lists`): there is one list of names that increases and has every file that
    stands in a directory (`Lists.unique`), and it is the one that is listed (`exists_lists`).
  * **Several directories** (`Gathered`): one listing after the other, up to the first directory
    that cannot be listed.
-/

namespace ModelAdapter.FileTree

/-! ## §1. One directory -/

/-- The names of the files that stand in a directory, in order. -/
structure Lists (t : FileTree) (dir : Path) (names : List Path) : Prop where
  increasing : names.Pairwise (fun a b => a.bytes < b.bytes)
  mem_iff : ∀ name, name ∈ names ↔ t.Stands dir name

section
variable {t t' : FileTree} {dir : Path}

theorem nodup_of_increasing {names : List Path}
    (h : names.Pairwise (fun a b => a.bytes < b.bytes)) : names.Nodup := by
  refine h.imp ?_
  rintro a b hlt rfl
  exact List.lt_irrefl _ hlt

/-- Two lists in order that have the same names are the same list. -/
theorem eq_of_increasing {names names' : List Path}
    (h : names.Pairwise (fun a b => a.bytes < b.bytes))
    (h' : names'.Pairwise (fun a b => a.bytes < b.bytes))
    (hsame : ∀ name, name ∈ names' ↔ name ∈ names) : names' = names := by
  have hperm : names'.Perm names :=
    (List.perm_ext_iff_of_nodup (nodup_of_increasing h') (nodup_of_increasing h)).mpr hsame
  apply hperm.eq_of_pairwise _ h' h
  intro a b _ _ hab hba
  exact absurd (List.lt_trans hab hba) (List.lt_irrefl _)

/-- **There is one such list**, and the files alone decide what it is. -/
theorem Lists.unique {dir' : Path} {names names' : List Path} (h : t.Lists dir names)
    (h' : t'.Lists dir' names') (hsame : ∀ name, t'.Stands dir' name ↔ t.Stands dir name) :
    names' = names := by
  apply eq_of_increasing h.increasing h'.increasing
  intro name
  rw [h.mem_iff, h'.mem_iff, hsame]

/-- In a sound tree a file stands in a directory under a name exactly if it is what is there. -/
theorem Sound.stands_iff (h : t.Sound) {location : Location} (hopens : t.Opens dir location)
    (name : Path) :
    t.Stands dir name ↔
      ∃ content symbols, t.entry? (location ++ [name]) = some (.file content symbols) := by
  have hroot : location ++ [name] ≠ [] := by simp
  simp only [h.entry?_eq_some_iff hroot]
  constructor
  · rintro ⟨other, content, symbols, hother, hmem⟩
    obtain rfl := hopens.unique hother
    exact ⟨content, symbols, hmem⟩
  · rintro ⟨content, symbols, hmem⟩
    exact ⟨location, content, symbols, hopens, hmem⟩

theorem Sound.proper_of_stands (h : t.Sound) {name : Path} (hstands : t.Stands dir name) :
    Path.Proper name := by
  obtain ⟨location, content, symbols, -, hmem⟩ := hstands
  exact h.proper _ hmem name (by simp)

theorem Sound.nodup_fileNames (h : t.Sound) (folder : Location) : (t.fileNames folder).Nodup := by
  apply List.pairwise_filterMap.mpr
  apply (List.pairwise_map.mp h.distinct).imp
  intro e e' hplace name hname name' hname' hsame
  obtain ⟨_, _, rfl⟩ := fileIn?_eq_some_iff.mp hname
  obtain ⟨_, _, rfl⟩ := fileIn?_eq_some_iff.mp hname'
  exact hplace (by rw [hsame])

/-- **What is listed of a directory** are the paths of the files in it, in the order of their names,
which is that of the paths as well. -/
theorem Sound.exists_lists (h : t.Sound) (hreadable : t.Readable dir) :
    ∃ names, t.Lists dir names ∧ t.list dir = .ok (names.map dir.join) ∧
      (names.map dir.join).Pairwise Path.Precedes := by
  obtain ⟨location, hopens⟩ := hreadable
  let names := (t.fileNames location).mergeSort Path.nameLe
  have hmem : ∀ name, name ∈ names ↔ t.Stands dir name := by
    intro name
    have hroot : location ++ [name] ≠ [] := by simp
    rw [List.mem_mergeSort, mem_fileNames_iff, h.stands_iff hopens]
    simp only [h.entry?_eq_some_iff hroot]
  have hproper : ∀ name ∈ names, Path.Proper name :=
    fun name hname => h.proper_of_stands ((hmem name).mp hname)
  -- Sorted, and no name twice: a sound tree has one thing at a place.
  have hincreasing : names.Pairwise (fun a b => a.bytes < b.bytes) := by
    have hsorted := List.pairwise_mergeSort Path.nameLe_trans Path.nameLe_total
      (t.fileNames location)
    have hnodup : names.Nodup :=
      (List.mergeSort_perm _ _).nodup_iff.mpr (h.nodup_fileNames location)
    apply (List.pairwise_and_iff.mpr ⟨hsorted, hnodup⟩).imp
    rintro a b ⟨hle, hne⟩
    exact Path.lt_of_nameLe hle hne
  refine ⟨names, ⟨hincreasing, hmem⟩, ?_, ?_⟩
  · -- The paths are what is sorted, and they compare as the names do.
    have hsame : names.map dir.join = ((t.fileNames location).map dir.join).mergeSort Path.le := by
      apply List.map_mergeSort
      intro a ha b hb
      exact (Path.le_join dir (hproper a (List.mem_mergeSort.mpr ha))
        (hproper b (List.mem_mergeSort.mpr hb))).symm
    rw [list_of_opens hopens, hsame]
  · apply List.pairwise_map.mpr
    apply hincreasing.imp_of_mem
    intro a b ha hb hlt
    exact Path.precedes_join dir (hproper a ha) (hproper b hb) hlt

theorem list_congr (h : t.Sound) (h' : t'.Sound) (hreadable : t.Readable dir)
    (hreadable' : t'.Readable dir) (hsame : ∀ name, t'.Stands dir name ↔ t.Stands dir name) :
    t'.list dir = t.list dir := by
  obtain ⟨names, hlists, hlist, -⟩ := h.exists_lists hreadable
  obtain ⟨names', hlists', hlist', -⟩ := h'.exists_lists hreadable'
  rw [hlist, hlist', hlists.unique hlists' hsame]

end

/-! ## §2. Another order of the entries -/

section
variable {t t' : FileTree}

/-- **The order of the entries** changes no listing, and no failure of one. -/
theorem Sound.list_of_reordered (h : t.Sound) (hsame : t.Reordered t') (dir : Path) :
    t'.list dir = t.list dir := by
  obtain ⟨hhome, hrefuses, hperm⟩ := hsame
  have h' : t'.Sound := h.of_perm hperm
  -- No lookup minds the order of the entries, so paths lead where they led.
  have hresolve : t'.resolve dir = t.resolve dir :=
    resolve_congr hhome hrefuses (h.entry?_of_perm hperm) dir
  have hopens : ∀ location, t'.Opens dir location ↔ t.Opens dir location := by
    intro location
    constructor
    · rintro ⟨hleads, hopened, hscanned⟩
      exact ⟨hresolve ▸ hleads, hrefuses ▸ hopened, hrefuses ▸ hscanned⟩
    · rintro ⟨hleads, hopened, hscanned⟩
      exact ⟨hresolve ▸ hleads, hrefuses ▸ hopened, hrefuses ▸ hscanned⟩
  rcases readable_or_unreadable t dir with hreadable | ⟨cause, hunreadable⟩
  · have hreadable' : t'.Readable dir := by
      simpa only [Readable, hopens] using hreadable
    apply list_congr h h' hreadable hreadable'
    intro name
    simp only [Stands, hopens, hperm.mem_iff]
  · -- Both fail, and for the same cause.
    have hunreadable' : t'.Unreadable dir cause := by
      cases hunreadable with
      | unreached hlost => exact .unreached (hresolve.trans hlost)
      | elsewhere hfound hother => exact .elsewhere (hresolve.trans hfound) hother
      | unopened hfound hrefused => exact .unopened (hresolve.trans hfound) (hrefuses ▸ hrefused)
      | unscanned hfound hopened hrefused =>
        exact .unscanned (hresolve.trans hfound) (hrefuses ▸ hopened) (hrefuses ▸ hrefused)
    rw [list_of_unreadable hunreadable, list_of_unreadable hunreadable']

/-- So does the order in which entries were made. -/
theorem Sound.list_make (h : t.Sound) {news news' : List Novelty} (hroom : t.Room news)
    (hperm : news'.Perm news) (dir : Path) : (t.make news').list dir = (t.make news).list dir :=
  (h.make hroom).list_of_reordered (reordered_make hroom hperm) dir

theorem listAll_congr (h : ∀ dir, t'.list dir = t.list dir) (dirs : List Path) :
    t'.listAll dirs = t.listAll dirs := by
  induction dirs with
  | nil => rfl
  | cons dir dirs ih => simp only [listAll, h, ih]

end

/-! ## §3. Several directories -/

/-- What the listings of some directories come to: all of them, one after the other, or the fault of
the first one that fails. -/
inductive Gathered (t : FileTree) (dirs : List Path) : Except Fault (List Path) → Prop
  | all (listings : List (List Path))
      (listed : List.Forall₂ (fun d files => t.list d = .ok files) dirs listings) :
      Gathered t dirs (.ok listings.flatten)
  | failed (before after : List Path) (dir : Path) (fault : Fault)
      (cut : dirs = before ++ dir :: after) (listed : ∀ d ∈ before, ∃ files, t.list d = .ok files)
      (failing : t.list dir = .error fault) : Gathered t dirs (.error fault)

section
variable {t : FileTree} {dirs : List Path} {result : Except Fault (List Path)}

theorem listAll_of_gathered (h : t.Gathered dirs result) : t.listAll dirs = result := by
  cases h with
  | all listings hlisted =>
    induction hlisted with
    | nil => rfl
    | cons hfiles _ ih =>
      rw [listAll, hfiles, ih]
      rfl
  | failed before after dir fault hcut hlisted hfailing =>
    subst hcut
    -- On the directories before the one that fails: each of them is listed.
    induction before with
    | nil =>
      rw [List.nil_append, listAll, hfailing]
      rfl
    | cons d before ih =>
      obtain ⟨files, hfiles⟩ := hlisted d List.mem_cons_self
      rw [List.cons_append, listAll, hfiles,
        ih (fun d hd => hlisted d (List.mem_cons_of_mem _ hd))]
      rfl

theorem exists_gathered (t : FileTree) (dirs : List Path) : ∃ result, t.Gathered dirs result := by
  induction dirs with
  | nil => exact ⟨_, .all [] .nil⟩
  | cons dir dirs ih =>
    obtain ⟨result, hrest⟩ := ih
    cases hlist : t.list dir with
    -- The first directory decides, unless it is listed.
    | error fault => exact ⟨_, .failed [] dirs dir fault rfl (by simp) hlist⟩
    | ok files =>
      cases hrest with
      | all listings hlisted => exact ⟨_, .all (files :: listings) (.cons hlist hlisted)⟩
      | failed before after d fault hcut hlisted hfailing =>
        refine ⟨_, .failed (dir :: before) after d fault (congrArg _ hcut) ?_ hfailing⟩
        intro d hd
        rcases List.mem_cons.mp hd with rfl | hd
        · exact ⟨files, hlist⟩
        · exact hlisted d hd

/-- **Several directories** are listed one after the other, up to the first failure. -/
theorem listAll_eq_iff :
    t.listAll dirs = result ↔ t.Gathered dirs result := by
  constructor
  · rintro rfl
    obtain ⟨result, h⟩ := exists_gathered t dirs
    rwa [listAll_of_gathered h]
  · exact listAll_of_gathered

end

/-- **A listing is canonical.**  In a sound tree a directory that can be read is listed by the paths
of the files that stand in it, each once and nothing else, in the order of the bytes of the names,
which is the order of the paths too; what cannot be read as a directory is not listed, for its own
cause.  Several directories are listed one after the other, up to the first failure.  In whatever
order the tree enumerates its entries, and in whatever order they were made, the listings are the
same. -/
theorem listing_is_canonical (t : FileTree) (h : t.Sound) :
    (∀ dir location, t.Opens dir location →
      ∃ names : List Path, t.list dir = .ok (names.map dir.join) ∧
        (∀ name, name ∈ names ↔
          ∃ content symbols, t.entry? (location ++ [name]) = some (.file content symbols)) ∧
        names.Pairwise (fun a b => a.bytes < b.bytes) ∧
        (names.map dir.join).Pairwise Path.Precedes) ∧
    (∀ dir cause, t.Unreadable dir cause → t.list dir = .error (.io cause)) ∧
    (∀ dir, t.Readable dir ∨ ∃ cause, t.Unreadable dir cause) ∧
    (∀ dirs result, t.listAll dirs = result ↔ t.Gathered dirs result) ∧
    (∀ t' : FileTree, t.Reordered t' →
      (∀ dir, t'.list dir = t.list dir) ∧ ∀ dirs, t'.listAll dirs = t.listAll dirs) ∧
    (∀ news news', t.Room news → news'.Perm news →
      (∀ dir, (t.make news').list dir = (t.make news).list dir) ∧
        ∀ dirs, (t.make news').listAll dirs = (t.make news).listAll dirs) := by
  refine ⟨?_, fun dir cause => list_of_unreadable, readable_or_unreadable t,
    fun dirs result => listAll_eq_iff, ?_, ?_⟩
  · intro dir location hopens
    obtain ⟨names, hlists, hlist, hprecedes⟩ := h.exists_lists ⟨location, hopens⟩
    refine ⟨names, hlist, ?_, hlists.increasing, hprecedes⟩
    intro name
    rw [hlists.mem_iff, h.stands_iff hopens]
  · intro t' hsame
    have hlist := h.list_of_reordered hsame
    exact ⟨hlist, listAll_congr hlist⟩
  · -- Made in another order, the entries are those of the same tree in another order.
    intro news news' hroom hperm
    have hlist := h.list_make hroom hperm
    exact ⟨hlist, listAll_congr hlist⟩

/-- A directory with another directory and a link in it, both named like shared objects. -/
def shelf : FileTree where
  entries := [(["m"], .folder), (["m", "c.so"], .folder), (["m", "c.so", "n.so"], .file "" none),
    (["m", "l.so"], .link "c.so")]
  home := []

/-- A name that is no text. -/
def illegible : Path := ⟨0xFF :: Utf8.encode ".so"⟩

/-- Three files for it, in the order of their names. -/
def threeFiles : List Novelty :=
  [⟨"m", "a.json", .file "1" none⟩, ⟨"m/", "b.so", .file "" none⟩, ⟨"m", illegible, .file "" none⟩]

theorem room_threeFiles : shelf.Room threeFiles where
  proper := by decide
  vacant := by
    intro n hn
    simp only [threeFiles, List.mem_cons, List.not_mem_nil, or_false] at hn
    rcases hn with rfl | rfl | rfl
    · exact ⟨["m", "a.json"], by decide, by decide⟩
    · exact ⟨["m", "b.so"], by decide, by decide⟩
    · exact ⟨["m", illegible], by decide, by decide⟩
  apart := by decide

/-- The files are listed in the order of their names when they were made in the other one. -/
theorem later_file_is_listed_first :
    shelf.Sound ∧ shelf.Room threeFiles ∧
      (shelf.make threeFiles.reverse).list "m"
        = .ok ["m/a.json", "m/b.so", ⟨Utf8.encode "m/" ++ illegible.bytes⟩] := by
  have hsound : shelf.Sound := by decide
  refine ⟨hsound, room_threeFiles, ?_⟩
  obtain ⟨-, -, -, -, -, hmade⟩ := listing_is_canonical shelf hsound
  rw [(hmade threeFiles threeFiles.reverse room_threeFiles (List.reverse_perm _)).1 "m"]
  have hopens : (shelf.make threeFiles).Opens "m" ["m"] := ⟨by decide, rfl, rfl⟩
  rw [list_of_opens hopens, List.mergeSort_of_pairwise (by decide)]
  decide

end ModelAdapter.FileTree
