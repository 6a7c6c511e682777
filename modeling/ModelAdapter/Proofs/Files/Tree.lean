import Mathlib.Data.List.Nodup
import ModelAdapter.Proofs.Files.Listing

/-! # What stands in a tree

A tree keeps its entries in some order: the one in which they were made, or the one in which a
file system happens to enumerate them.  What a path leads to does not depend on that order.

  * **Sound trees** (`Sound`): one thing stands at a place, under names that are names.
  * **Following** (`resolve_congr`, `resolve_of_extends`): where a path leads is decided by what
    stands where, and something at a place that was vacant changes no path that led somewhere.
  * **Making** (`create_eq_added`, `make_eq`): an entry is made where its directory is, and entries
    that are made in any order are the same ones in the end (`reordered_make`).
-/

namespace ModelAdapter.FileTree

/-! ## §1. Sound trees -/

/-- A tree as a file system keeps it: one thing stands at a place, and every name in the tree is one
that a directory can give. -/
structure Sound (t : FileTree) : Prop where
  distinct : (t.entries.map Prod.fst).Nodup
  proper : ∀ e ∈ t.entries, ∀ name ∈ e.1, Path.Proper name

instance (t : FileTree) : Decidable t.Sound :=
  decidable_of_iff ((t.entries.map Prod.fst).Nodup ∧
      ∀ e ∈ t.entries, ∀ name ∈ e.1, Path.Proper name)
    ⟨fun ⟨hdistinct, hproper⟩ => ⟨hdistinct, hproper⟩, fun h => ⟨h.distinct, h.proper⟩⟩

section
variable {t t' : FileTree} {location : Location} {entry : Entry}

theorem mem_of_entry?_eq_some (hroot : location ≠ []) (h : t.entry? location = some entry) :
    (location, entry) ∈ t.entries := by
  unfold entry? at h
  rw [if_neg hroot] at h
  obtain ⟨found, hfound, rfl⟩ := Option.map_eq_some_iff.mp h
  have hplace : found.1 = location := by simpa using List.find?_some hfound
  rw [← hplace]
  exact List.mem_of_find?_eq_some hfound

/-- In a sound tree the entry at a place is the one that is found there. -/
theorem Sound.entry?_eq_some_iff (h : t.Sound) (hroot : location ≠ []) :
    t.entry? location = some entry ↔ (location, entry) ∈ t.entries := by
  constructor
  · exact mem_of_entry?_eq_some hroot
  · intro hmem
    cases hfound : t.entry? location with
    | none =>
      unfold entry? at hfound
      rw [if_neg hroot, Option.map_eq_none_iff, List.find?_eq_none] at hfound
      exact absurd (beq_self_eq_true location) (hfound _ hmem)
    | some other =>
      have hother := mem_of_entry?_eq_some hroot hfound
      -- One thing stands at a place, so the one that is found is the one that was put there.
      have hsame := List.inj_on_of_nodup_map h.distinct hother hmem rfl
      rw [(Prod.mk.inj hsame).2]

theorem entry?_eq_none_iff (hroot : location ≠ []) :
    t.entry? location = none ↔ location ∉ t.entries.map Prod.fst := by
  unfold entry?
  rw [if_neg hroot, Option.map_eq_none_iff, List.find?_eq_none]
  constructor
  · intro hnone hmem
    obtain ⟨e, he, rfl⟩ := List.mem_map.mp hmem
    exact hnone e he (beq_self_eq_true _)
  · intro hvacant e he hplace
    exact hvacant (List.mem_map.mpr ⟨e, he, by simpa using hplace⟩)

theorem Sound.of_perm (h : t.Sound) (hperm : t'.entries.Perm t.entries) : t'.Sound where
  distinct := (hperm.map Prod.fst).nodup_iff.mpr h.distinct
  proper e he := h.proper e (hperm.mem_iff.mp he)

theorem Sound.entry?_of_perm (h : t.Sound) (hperm : t'.entries.Perm t.entries)
    (location : Location) : t'.entry? location = t.entry? location := by
  by_cases hroot : location = []
  · unfold entry?
    rw [if_pos hroot, if_pos hroot]
  · apply Option.ext
    intro entry
    rw [(h.of_perm hperm).entry?_eq_some_iff hroot, h.entry?_eq_some_iff hroot, hperm.mem_iff]

end

/-! ## §2. Following paths -/

section
variable {t t' : FileTree}

/-- The same tree, with its entries kept in another order. -/
structure Reordered (t t' : FileTree) : Prop where
  home : t'.home = t.home
  refuses : t'.refuses = t.refuses
  entries : t'.entries.Perm t.entries

theorem walk_congr (hrefuses : t'.refuses = t.refuses)
    (h : ∀ location, t'.entry? location = t.entry? location) (names : List Path) :
    ∀ folder, t'.walk folder names = t.walk folder names := by
  induction names with
  | nil => intro folder; rfl
  | cons name rest ih =>
    intro folder
    simp only [walk, ih, h, hrefuses]

theorem follow_congr (hrefuses : t'.refuses = t.refuses)
    (h : ∀ location, t'.entry? location = t.entry? location) (links : Nat) :
    ∀ folder names, t'.follow links folder names = t.follow links folder names := by
  induction links with
  | zero =>
    intro folder names
    unfold follow
    rw [walk_congr hrefuses h]
  | succ links ih =>
    intro folder names
    unfold follow
    simp only [walk_congr hrefuses h, ih]

/-- **Where a path leads** is decided by what stands where, and by what is refused. -/
theorem resolve_congr (hhome : t'.home = t.home) (hrefuses : t'.refuses = t.refuses)
    (h : ∀ location, t'.entry? location = t.entry? location) (path : Path) :
    t'.resolve path = t.resolve path := by
  unfold resolve
  simp only [hhome, follow_congr hrefuses h, h]

/-- Names lead from a directory to a place: at once, or by a link and then from where that leads. -/
inductive Leads (t : FileTree) : Nat → Location → List Path → Location → Prop
  | arrived {links : Nat} {folder location : Location} {names : List Path}
      (walked : t.walk folder names = .arrived location) : Leads t links folder names location
  | linked {links : Nat} {folder place location : Location} {names rest : List Path}
      {target : Path} (walked : t.walk folder names = .atLink place target rest)
      (somewhere : target ≠ "")
      (onward : Leads t links (startOf place target) (namesOf target ++ rest) location) :
      Leads t (links + 1) folder names location

theorem follow_eq_ok_iff {location : Location} (links : Nat) : ∀ {folder names},
    t.follow links folder names = .ok location ↔ Leads t links folder names location := by
  -- On the links that may still be followed: each link takes one, and none is left at the end.
  induction links with
  | zero =>
    intro folder names
    unfold follow
    constructor
    · intro h
      cases hwalk : t.walk folder names with
      | arrived place =>
        simp only [hwalk] at h
        cases h
        exact .arrived hwalk
      | failed cause => simp [hwalk] at h
      | atLink place target rest => simp [hwalk] at h
    · intro h
      cases h with
      | arrived hwalk => rw [hwalk]
  | succ links ih =>
    intro folder names
    unfold follow
    constructor
    · intro h
      cases hwalk : t.walk folder names with
      | arrived place =>
        simp only [hwalk] at h
        cases h
        exact .arrived hwalk
      | failed cause => simp [hwalk] at h
      | atLink place target rest =>
        simp only [hwalk] at h
        by_cases htarget : target = ""
        · simp [htarget] at h
        · rw [if_neg htarget] at h
          exact .linked hwalk htarget (ih.mp h)
    · intro h
      cases h with
      | arrived hwalk => rw [hwalk]
      | linked hwalk htarget honward =>
        simp only [hwalk, if_neg htarget]
        exact ih.mpr honward

/-- A path leads to a place where something stands. -/
theorem resolve_eq_ok_iff {path : Path} {location : Location} {entry : Entry} :
    t.resolve path = .ok (location, entry) ↔
      (path ≠ "" ∧ 0 ∉ path.bytes) ∧
        Leads t linkLimit (startOf t.home path) (namesOf path) location ∧
        t.entry? location = some entry := by
  unfold resolve
  by_cases hempty : path = ""
  · simp [hempty]
  by_cases hnul : 0 ∈ path.bytes
  · simp [hempty, hnul]
  -- What is left is to follow the names, and to find something where they lead.
  rw [if_neg hempty, if_neg hnul, bind_eq_ok_iff, ← follow_eq_ok_iff]
  constructor
  · rintro ⟨place, hfollow, hstands⟩
    cases hentry : t.entry? place with
    | none => simp [hentry] at hstands
    | some found =>
      simp only [hentry] at hstands
      cases hstands
      exact ⟨⟨hempty, hnul⟩, hfollow, hentry⟩
  · rintro ⟨-, hfollow, hentry⟩
    exact ⟨location, hfollow, by simp only [hentry]⟩

/-- A tree has everything that another one has, at the same places, and refuses the same. -/
structure Extends (t t' : FileTree) : Prop where
  home : t'.home = t.home
  refuses : t'.refuses = t.refuses
  kept : ∀ {location : Location} {entry : Entry}, t.entry? location = some entry →
    t'.entry? location = some entry

/-- A walk that does not fail goes the same way when there is more in the tree. -/
theorem walk_of_extends (h : Extends t t') (names : List Path) :
    ∀ folder, (∃ cause, t.walk folder names = .failed cause) ∨
      t'.walk folder names = t.walk folder names := by
  induction names with
  | nil =>
    intro folder
    exact .inr rfl
  -- At every name the smaller tree fails, or both take the same step.
  | cons name rest ih =>
    intro folder
    simp only [walk, h.refuses]
    cases t.refuses (.find folder name) with
    | some cause => exact .inl ⟨cause, rfl⟩
    | none =>
      by_cases hhere : name = "."
      · simp only [if_pos hhere]
        exact ih folder
      by_cases habove : name = ".."
      · simp only [if_neg hhere, if_pos habove]
        exact ih folder.dropLast
      simp only [if_neg hhere, if_neg habove]
      cases hentry : t.entry? (folder ++ [name]) with
      | none => exact .inl ⟨_, rfl⟩
      | some entry =>
        rw [h.kept hentry]
        cases entry with
        | folder => exact ih (folder ++ [name])
        | file content symbols => exact .inr rfl
        | link target => exact .inr rfl

theorem Leads.of_extends (h : Extends t t') {links : Nat} {folder location : Location}
    {names : List Path} (hleads : Leads t links folder names location) :
    Leads t' links folder names location := by
  induction hleads with
  | arrived hwalk =>
    rcases walk_of_extends h _ _ with ⟨cause, hfailed⟩ | hsame
    · cases hwalk.symm.trans hfailed
    · exact .arrived (hsame.trans hwalk)
  | linked hwalk htarget _ ih =>
    rcases walk_of_extends h _ _ with ⟨cause, hfailed⟩ | hsame
    · cases hwalk.symm.trans hfailed
    · exact .linked (hsame.trans hwalk) htarget ih

/-- **A path that leads somewhere** leads there still when there is more in the tree. -/
theorem resolve_of_extends (h : Extends t t') {path : Path} {location : Location} {entry : Entry}
    (hresolve : t.resolve path = .ok (location, entry)) :
    t'.resolve path = .ok (location, entry) := by
  obtain ⟨hpath, hleads, hentry⟩ := resolve_eq_ok_iff.mp hresolve
  apply resolve_eq_ok_iff.mpr
  rw [h.home]
  exact ⟨hpath, hleads.of_extends h, h.kept hentry⟩

theorem Opens.of_extends (h : Extends t t') {dir : Path} {location : Location}
    (hopens : t.Opens dir location) : t'.Opens dir location where
  leads := resolve_of_extends h hopens.leads
  opened := by rw [h.refuses]; exact hopens.opened
  scanned := by rw [h.refuses]; exact hopens.scanned

end

/-! ## §3. Following one name at a time -/

section
variable {t : FileTree}

theorem Leads.succ {links : Nat} {folder location : Location} {names : List Path}
    (h : Leads t links folder names location) : Leads t (links + 1) folder names location := by
  induction h with
  | arrived hwalk => exact .arrived hwalk
  | linked hwalk htarget _ ih => exact .linked hwalk htarget ih

/-- How a walk goes on behind its first names: from where these lead, if it does not fail, or from
the link that they lead to. -/
inductive Onward (t : FileTree) (ys : List Path) : Walk → Walk → Prop
  | arrived {place : Location} : Onward t ys (.arrived place) (t.walk place ys)
  | failed {first : Walk} {cause : IoCause} : Onward t ys first (.failed cause)
  | atLink {place : Location} {target : Path} {rest : List Path} :
      Onward t ys (.atLink place target rest) (.atLink place target (rest ++ ys))

theorem onward_walk (xs ys : List Path) : ∀ folder,
    Onward t ys (t.walk folder xs) (t.walk folder (xs ++ ys)) := by
  induction xs with
  | nil =>
    intro folder
    exact .arrived
  | cons name xs ih =>
    intro folder
    rw [List.cons_append]
    simp only [walk]
    cases t.refuses (.find folder name) with
    | some cause => exact .failed
    | none =>
      by_cases hhere : name = "."
      · simp only [if_pos hhere]
        exact ih folder
      by_cases habove : name = ".."
      · simp only [if_neg hhere, if_pos habove]
        exact ih folder.dropLast
      simp only [if_neg hhere, if_neg habove]
      cases hentry : t.entry? (folder ++ [name]) with
      | none => exact .failed
      | some entry =>
        cases entry with
        | folder => exact ih (folder ++ [name])
        | link target => exact .atLink
        | file content symbols =>
          -- A file can only be the end.
          by_cases hends : xs ++ ys = []
          · obtain ⟨rfl, rfl⟩ := List.append_eq_nil_iff.mp hends
            exact .arrived
          · simp only [if_neg hends]
            exact .failed

/-- **Names that lead to a place** lead there in two parts. -/
theorem Leads.split {links : Nat} {folder location : Location} {xs ys : List Path}
    (h : Leads t links folder (xs ++ ys) location) :
    ∃ place, Leads t links folder xs place ∧ Leads t links place ys location := by
  generalize hnames : xs ++ ys = names at h
  -- On the links along the way: the cut is before the first of them, or behind it.
  induction h generalizing xs with
  | @arrived links folder location names hwalk =>
    have honward := onward_walk (t := t) xs ys folder
    rw [hnames, hwalk] at honward
    generalize hfirst : t.walk folder xs = first at honward
    generalize hwhole : Walk.arrived location = whole at honward
    cases honward with
    | @arrived place => exact ⟨place, .arrived hfirst, .arrived hwhole.symm⟩
    | failed => cases hwhole
    | atLink => cases hwhole
  | @linked links folder place location names rest target hwalk htarget hrest ih =>
    have honward := onward_walk (t := t) xs ys folder
    rw [hnames, hwalk] at honward
    generalize hfirst : t.walk folder xs = first at honward
    generalize hwhole : Walk.atLink place target rest = whole at honward
    cases honward with
    | @arrived middle =>
      exact ⟨middle, .arrived hfirst, .linked hwhole.symm htarget hrest⟩
    | failed => cases hwhole
    | @atLink place' target' rest' =>
      cases hwhole
      obtain ⟨middle, hmiddle, hlast⟩ := ih (List.append_assoc _ _ _)
      exact ⟨middle, .linked hfirst htarget hmiddle, hlast.succ⟩

/-- Names that lead to a place are gone down one by one, without anything being made. -/
theorem Leads.foldl_enter {names : List Path} : ∀ {folder location : Location},
    Leads t linkLimit folder names location → names.foldl enter (t, folder) = (t, location) := by
  induction names with
  | nil =>
    intro folder location h
    cases h with
    | arrived hwalk =>
      cases hwalk
      rfl
    -- Without names there is no link to meet.
    | linked hwalk => cases hwalk
  | cons name names ih =>
    intro folder location h
    have hnames : Leads t linkLimit folder ([name] ++ names) location := h
    obtain ⟨place, hfirst, hrest⟩ := hnames.split
    -- The directory is there, so entering it makes nothing.
    have henter : enter (t, folder) name = (t, place) := by
      unfold enter
      simp only [(follow_eq_ok_iff linkLimit).mpr hfirst]
    rw [List.foldl_cons, henter]
    exact ih hrest

/-- Asking for a directory at the end of a path does not lead anywhere else. -/
theorem Leads.components {links : Nat} {folder location : Location} {path : Path}
    (h : Leads t links folder (namesOf path) location) :
    Leads t links folder path.components location := by
  unfold namesOf at h
  by_cases hfolder : path.namesFolder = true
  · rw [if_pos hfolder] at h
    obtain ⟨place, hfirst, hrest⟩ := h.split
    -- The last step stays where it is, if it is not refused.
    have hstays : (∃ cause, t.walk place ["."] = .failed cause) ∨
        t.walk place ["."] = .arrived place := by
      cases hrefused : t.refuses (.find place ".") <;> simp [walk, hrefused]
    cases hrest with
    | arrived hwalk =>
      rcases hstays with ⟨cause, hfailed⟩ | hstays
      · cases hfailed.symm.trans hwalk
      · cases hstays.symm.trans hwalk
        exact hfirst
    | linked hwalk =>
      rcases hstays with ⟨cause, hfailed⟩ | hstays
      · cases hfailed.symm.trans hwalk
      · cases hstays.symm.trans hwalk
  · rw [if_neg hfolder, List.append_nil] at h
    exact h

end

/-! ## §4. Making entries -/

/-- A tree with one more entry. -/
def added (t : FileTree) (location : Location) (entry : Entry) : FileTree :=
  { t with entries := t.entries ++ [(location, entry)] }

section
variable {t : FileTree} {location : Location} {entry : Entry}

theorem entry?_added (hvacant : t.entry? location = none) (place : Location) :
    FileTree.entry? (t.added location entry) place
      = if place = location then some entry else t.entry? place := by
  -- The root is taken from the start.
  have hroot : location ≠ [] := by
    rintro rfl
    cases hvacant
  by_cases hplace : place = location
  · subst hplace
    have hnone : t.entries.find? (fun e => e.1 == place) = none := by
      unfold entry? at hvacant
      rw [if_neg hroot] at hvacant
      exact Option.map_eq_none_iff.mp hvacant
    unfold entry? added
    rw [if_neg hroot, List.find?_append, hnone]
    simp
  · -- A lookup anywhere else passes the new entry over.
    have hother : ([(location, entry)] : List (Location × Entry)).find? (fun e => e.1 == place)
        = none := by
      simp [Ne.symm hplace]
    rw [if_neg hplace]
    unfold entry? added
    rw [List.find?_append, hother, Option.or_none]

theorem extends_added (hvacant : t.entry? location = none) :
    Extends t (t.added location entry) where
  home := rfl
  refuses := rfl
  kept {place found} hfound := by
    have hother : place ≠ location := by
      rintro rfl
      rw [hvacant] at hfound
      cases hfound
    rw [entry?_added hvacant, if_neg hother]
    exact hfound

theorem put_eq_added (hvacant : t.entry? location = none) :
    t.put location entry = t.added location entry := by
  have hroot : location ≠ [] := by
    rintro rfl
    cases hvacant
  -- Nothing has to be taken away first.
  have hkept : t.entries.filter (fun e => e.1 ≠ location) = t.entries := by
    apply List.filter_eq_self.mpr
    intro e he
    have hplace : e.1 ≠ location := by
      rintro rfl
      exact (entry?_eq_none_iff hroot).mp hvacant (List.mem_map_of_mem he)
    simp [hplace]
  have hnew : ¬ t.entry? location = some entry := by
    simp [hvacant]
  rw [put, if_neg hnew, hkept, added]

end

/-- Something that is made in a directory. -/
structure Novelty where
  dir : Path
  name : Path
  entry : Entry
  deriving DecidableEq, Repr

/-- The path by which it is made. -/
def Novelty.path (n : Novelty) : Path := n.dir.join n.name

/-- Makes some entries, one after the other. -/
def make (t : FileTree) (news : List Novelty) : FileTree :=
  news.foldl (fun t n => t.create n.path n.entry) t

theorem make_cons (t : FileTree) (n : Novelty) (news : List Novelty) :
    t.make (n :: news) = (t.create n.path n.entry).make news := rfl

/-- The place where something comes to stand, if its directory is there. -/
def place? (t : FileTree) (n : Novelty) : Option Location :=
  match t.resolve n.dir with
  | .ok (location, .folder) => some (location ++ [n.name])
  | _ => none

/-- The entries that come to stand in the tree, each at its place. -/
def placed (t : FileTree) (news : List Novelty) : List (Location × Entry) :=
  news.filterMap (fun n => (t.place? n).map (·, n.entry))

/-- There is room in a tree: every one of some entries has a directory and a name, nothing has that
name there yet, and no two of them come to stand at one place. -/
structure Room (t : FileTree) (news : List Novelty) : Prop where
  proper : ∀ n ∈ news, Path.Proper n.name
  vacant : ∀ n ∈ news, ∃ location, t.place? n = some location ∧ t.entry? location = none
  apart : (news.map t.place?).Nodup

section
variable {t : FileTree}

theorem place?_inv {n : Novelty} {place : Location} (h : t.place? n = some place) :
    ∃ location, t.resolve n.dir = .ok (location, .folder) ∧ place = location ++ [n.name] := by
  unfold place? at h
  split at h
  · rename_i location hresolve
    cases h
    exact ⟨location, hresolve, rfl⟩
  · cases h

/-- **An entry is made** where its directory is. -/
theorem create_eq_added {n : Novelty} {place : Location} (hproper : Path.Proper n.name)
    (hplace : t.place? n = some place) (hvacant : t.entry? place = none) :
    t.create n.path n.entry = t.added place n.entry := by
  obtain ⟨location, hresolve, rfl⟩ := place?_inv hplace
  obtain ⟨⟨hdir, -⟩, hleads, -⟩ := resolve_eq_ok_iff.mp hresolve
  have henter := hleads.components.foldl_enter
  have hstart : startOf t.home n.path = startOf t.home n.dir := by
    rw [startOf, startOf, Novelty.path, Path.isAbsolute_join hdir]
  unfold create
  rw [hstart, Novelty.path, Path.components_join n.dir hproper, List.getLast?_concat,
    List.dropLast_concat]
  simp only [henter]
  exact put_eq_added hvacant

theorem place?_of_extends {t' : FileTree} (h : Extends t t') {n : Novelty} {place : Location}
    (hplace : t.place? n = some place) : t'.place? n = some place := by
  obtain ⟨location, hresolve, rfl⟩ := place?_inv hplace
  unfold place?
  rw [resolve_of_extends h hresolve]

/-- The first of some entries is made at its place, and there is still room for the others. -/
theorem Room.step {n : Novelty} {news : List Novelty} (h : t.Room (n :: news)) :
    ∃ place, t.place? n = some place ∧ t.entry? place = none ∧
      t.create n.path n.entry = t.added place n.entry ∧
      (∀ m ∈ news, (t.added place n.entry).place? m = t.place? m) ∧
      (t.added place n.entry).Room news := by
  obtain ⟨hproper, hvacant, hapart⟩ := h
  obtain ⟨place, hplace, hfree⟩ := hvacant n List.mem_cons_self
  have hextends : Extends t (t.added place n.entry) := extends_added hfree
  -- The first thing stands in nobody's way: it takes no directory from those after it.
  have hsame : ∀ m ∈ news, (t.added place n.entry).place? m = t.place? m := by
    intro m hm
    obtain ⟨other, hother, -⟩ := hvacant m (List.mem_cons_of_mem _ hm)
    rw [hother]
    exact place?_of_extends hextends hother
  rw [List.map_cons, List.nodup_cons] at hapart
  refine ⟨place, hplace, hfree, create_eq_added (hproper n List.mem_cons_self) hplace hfree, hsame,
    ?_, ?_, ?_⟩
  · exact fun m hm => hproper m (List.mem_cons_of_mem _ hm)
  · intro m hm
    obtain ⟨other, hother, hfree'⟩ := hvacant m (List.mem_cons_of_mem _ hm)
    have hne : other ≠ place := by
      rintro rfl
      exact hapart.1 (hplace ▸ hother ▸ List.mem_map_of_mem hm)
    exact ⟨other, (hsame m hm).trans hother, by rw [entry?_added hfree, if_neg hne]; exact hfree'⟩
  · rw [List.map_congr_left hsame]
    exact hapart.2

/-- **What is made** comes behind what was there, each entry at its place. -/
theorem make_eq {news : List Novelty} : ∀ {t : FileTree}, t.Room news →
    t.make news = { t with entries := t.entries ++ t.placed news } := by
  -- On what is to be made: the rest finds room in the tree with the first of it.
  induction news with
  | nil =>
    intro t _
    simp [make, placed]
  | cons n news ih =>
    intro t h
    obtain ⟨place, hplace, -, hcreate, hsame, hroom⟩ := h.step
    have hlater : (t.added place n.entry).placed news = t.placed news :=
      List.filterMap_congr (fun m hm => by rw [hsame m hm])
    have hnow : t.placed (n :: news) = (place, n.entry) :: t.placed news := by
      simp [placed, hplace]
    rw [make_cons, hcreate, ih hroom, hlater, hnow]
    simp [added]

/-- The order in which entries are made is only the order in which the tree keeps them. -/
theorem reordered_make {news news' : List Novelty} (h : t.Room news) (hperm : news'.Perm news) :
    (t.make news).Reordered (t.make news') := by
  have hroom : t.Room news' := by
    refine ⟨fun n hn => h.proper n (hperm.mem_iff.mp hn),
      fun n hn => h.vacant n (hperm.mem_iff.mp hn), ?_⟩
    exact (hperm.map t.place?).nodup_iff.mpr h.apart
  rw [make_eq h, make_eq hroom]
  exact ⟨rfl, rfl, (hperm.filterMap _).append_left _⟩

/-- An entry at a vacant place keeps a tree sound, if the place has names. -/
theorem Sound.added (h : t.Sound) {place : Location} {entry : Entry}
    (hvacant : t.entry? place = none) (hproper : ∀ name ∈ place, Path.Proper name) :
    (t.added place entry).Sound where
  distinct := by
    have hroot : place ≠ [] := by
      -- Nothing stood at the place before.
      rintro rfl
      cases hvacant
    show ((t.entries ++ [(place, entry)]).map Prod.fst).Nodup
    rw [List.map_append]
    apply List.nodup_append.mpr
    refine ⟨h.distinct, List.nodup_singleton _, ?_⟩
    intro earlier hearlier later hlater
    rw [List.mem_singleton.mp hlater]
    rintro rfl
    exact (entry?_eq_none_iff hroot).mp hvacant hearlier
  proper e he := by
    rcases List.mem_append.mp he with he | he
    · exact h.proper e he
    · rw [List.mem_singleton.mp he]
      exact hproper

/-- A place in a sound tree has names, if its directory is there and it has one itself. -/
theorem Sound.proper_place (h : t.Sound) {n : Novelty} {place : Location}
    (hproper : Path.Proper n.name) (hplace : t.place? n = some place) :
    ∀ name ∈ place, Path.Proper name := by
  obtain ⟨location, hresolve, rfl⟩ := place?_inv hplace
  obtain ⟨-, -, hentry⟩ := resolve_eq_ok_iff.mp hresolve
  intro name hname
  rcases List.mem_append.mp hname with hname | hname
  · have hroot : location ≠ [] := List.ne_nil_of_mem hname
    exact h.proper _ (mem_of_entry?_eq_some hroot hentry) name hname
  · rw [List.mem_singleton.mp hname]
    exact hproper

/-- **Making entries** keeps a tree sound. -/
theorem Sound.make {news : List Novelty} : ∀ {t : FileTree}, t.Sound → t.Room news →
    (t.make news).Sound := by
  induction news with
  | nil =>
    intro t h _
    exact h
  | cons n news ih =>
    intro t h hroom
    obtain ⟨place, hplace, hvacant, hcreate, -, hrest⟩ := hroom.step
    have hproper := h.proper_place (hroom.proper n List.mem_cons_self) hplace
    rw [make_cons, hcreate]
    exact ih (h.added hvacant hproper) hrest

end

end ModelAdapter.FileTree
