import ModelAdapter.Proofs.Files.Enumeration

/-! # What a listed path is called

The last name of a listed path is the name of the file that it was listed for
(`Path.fileName_join`), however the directory was spelled.  So a listing can be read back: it says
which files stand in a directory, and of each what it is called.

  * **One directory** (`Named`): the paths of a listing against the files that stand there, and the
    same files under two spellings of their directory (`Sound.map_lastName?_of_spellings`).
  * **Several directories** (`Sound.stands_of_mem_listAll`).
-/

namespace ModelAdapter.FileTree

/-! ## §1. One directory -/

/-- The paths that are listed of a directory have the names of its files. -/
structure Named (t : FileTree) (dir : Path) (location : Location) (files : List Path) : Prop where
  /-- One path is listed under the name of a file. -/
  pathOf : ∀ (name : String) content symbols,
    t.entry? (location ++ [(name : Path)]) = some (.file content symbols) →
      ∀ path, path ∈ files ∧ path.fileName = name ↔ path = dir.join name
  /-- And every path is listed under one, of which it tells the text. -/
  fileOf : ∀ path ∈ files, ∃ name content symbols,
    t.entry? (location ++ [name]) = some (.file content symbols) ∧ path = dir.join name ∧
      path.fileName = name.text

section
variable {t : FileTree} {dir : Path} {location : Location} {files : List Path}

/-- A path that is listed is that of a file, whose name is the last one of the path. -/
theorem Sound.stands_of_mem_list (h : t.Sound) (hlist : t.list dir = .ok files) {path : Path}
    (hpath : path ∈ files) :
    ∃ name, t.Stands dir name ∧ path = dir.join name ∧ path.lastName? = some name ∧
      path.fileName = name.text := by
  obtain ⟨name, hstands, rfl⟩ := (mem_list_iff hlist).mp hpath
  have hproper := h.proper_of_stands hstands
  exact ⟨name, hstands, rfl, Path.lastName?_join dir hproper, Path.fileName_join dir hproper⟩

/-- **A listing** names the files that stand in the directory. -/
theorem Sound.named (h : t.Sound) (hopens : t.Opens dir location) (hlist : t.list dir = .ok files) :
    Named t dir location files where
  pathOf name content symbols hentry path := by
    have hstands : t.Stands dir name := (h.stands_iff hopens name).mpr ⟨content, symbols, hentry⟩
    have hproper := h.proper_of_stands hstands
    constructor
    · rintro ⟨hpath, hname⟩
      obtain ⟨other, -, rfl, -, hother⟩ := h.stands_of_mem_list hlist hpath
      -- The name is not empty, so no name but itself has its text.
      have hnonempty : name ≠ "" := mt Path.ofText_inj.mpr hproper.notEmpty
      rw [(Path.text_eq_iff hnonempty).mp (hother.symm.trans hname)]
    · rintro rfl
      refine ⟨(mem_list_iff hlist).mpr ⟨name, hstands, rfl⟩, ?_⟩
      rw [Path.fileName_join dir hproper, Path.text_ofText]
  fileOf path hpath := by
    obtain ⟨name, hstands, hjoined, -, hname⟩ := h.stands_of_mem_list hlist hpath
    obtain ⟨content, symbols, hentry⟩ := (h.stands_iff hopens name).mp hstands
    exact ⟨name, content, symbols, hentry, hjoined, hname⟩

theorem Lists.map_lastName? (h : t.Sound) {names : List Path} (hlists : t.Lists dir names) :
    (names.map dir.join).map Path.lastName? = names.map some := by
  rw [List.map_map]
  apply List.map_congr_left
  intro name hname
  exact Path.lastName?_join dir (h.proper_of_stands ((hlists.mem_iff name).mp hname))

/-- **Two spellings of a directory** give the same last names, one by one. -/
theorem Sound.map_lastName?_of_spellings (h : t.Sound) {dir' : Path} {files' : List Path}
    (hopens : t.Opens dir location) (hopens' : t.Opens dir' location)
    (hlist : t.list dir = .ok files) (hlist' : t.list dir' = .ok files') :
    files'.map Path.lastName? = files.map Path.lastName? := by
  obtain ⟨names, hlists, hnames, -⟩ := h.exists_lists ⟨location, hopens⟩
  obtain ⟨names', hlists', hnames', -⟩ := h.exists_lists ⟨location, hopens'⟩
  cases hlist.symm.trans hnames
  cases hlist'.symm.trans hnames'
  rw [hlists.map_lastName? h, hlists'.map_lastName? h, hlists.unique hlists' (fun name => ?_)]
  rw [h.stands_iff hopens', h.stands_iff hopens]

/-! ## §2. Several directories -/

/-- A path that is listed of several directories is that of a file in one of them. -/
theorem Sound.stands_of_mem_listAll (h : t.Sound) {path : Path} {dirs : List Path} :
    ∀ {files : List Path}, t.listAll dirs = .ok files → path ∈ files →
      ∃ dir ∈ dirs, ∃ name, t.Stands dir name ∧ path = dir.join name ∧
        path.lastName? = some name ∧ path.fileName = name.text := by
  induction dirs with
  | nil =>
    intro files hlist hpath
    cases hlist
    cases hpath
  | cons dir dirs ih =>
    intro files hlist hpath
    obtain ⟨first, hfirst, hlist⟩ := exists_of_bind_eq_ok hlist
    obtain ⟨others, hothers, hlist⟩ := exists_of_bind_eq_ok hlist
    cases hlist
    -- The path was listed of the first directory or of one of the others.
    rcases List.mem_append.mp hpath with hpath | hpath
    · exact ⟨dir, List.mem_cons_self, h.stands_of_mem_list hfirst hpath⟩
    · obtain ⟨found, hfound, hstands⟩ := ih hothers hpath
      exact ⟨found, List.mem_cons_of_mem _ hfound, hstands⟩

end

/-- **A listed path has the name of its file.**  Whatever the path of a directory, the path of a
legal name in it has that name as its last one, and ends with a text exactly if the name does, by
its characters and by its bytes alike.  So in a sound tree the paths that are listed of a directory,
or of several, have the names of the files that stand there, each file by one path; and two paths
that lead to one directory give paths that are told alike, one by one. -/
theorem listed_path_has_name_of_file (t : FileTree) (h : t.Sound) :
    (∀ (dir : Path) (name : String),
      '/' ∉ name.toList ∧ name ≠ "" ∧ name ≠ "." ∧ name ≠ ".." →
      (dir.join name).fileName = name ∧
      ∀ ending,
        ((dir.join name).fileNameEndsWith ending = true ↔ ∃ front, name = front ++ ending) ∧
        ((dir.join name).fileNameEndsWith ending = true ↔
          Utf8.encode ending <:+ Utf8.encode name)) ∧
    (∀ dir location, t.Opens dir location →
      ∃ files, t.list dir = .ok files ∧ Named t dir location files) ∧
    (∀ dirs files, t.listAll dirs = .ok files → ∀ path ∈ files,
      ∃ dir ∈ dirs, ∃ name, t.Stands dir name ∧ path = dir.join name ∧
        path.lastName? = some name ∧ path.fileName = name.text) ∧
    (∀ dir dir' location, t.Opens dir location → t.Opens dir' location →
      ∃ files files', t.list dir = .ok files ∧ t.list dir' = .ok files' ∧
        files'.map Path.fileName = files.map Path.fileName ∧
        ∀ ending, files'.map (·.fileNameEndsWith ending)
          = files.map (·.fileNameEndsWith ending)) := by
  refine ⟨?_, ?_, fun dirs files hlist path => h.stands_of_mem_listAll hlist, ?_⟩
  · intro dir name hlegal
    have hproper : Path.Proper name := Path.proper_ofText_iff.mpr hlegal
    refine ⟨by rw [Path.fileName_join dir hproper, Path.text_ofText], fun ending => ?_⟩
    rw [Path.fileNameEndsWith_join dir hproper, Path.text_ofText]
    exact ⟨Path.endsWith_iff, Path.endsWith_iff_encode⟩
  · intro dir location hopens
    obtain ⟨files, hlist, -⟩ := list_of_readable ⟨location, hopens⟩
    exact ⟨files, hlist, h.named hopens hlist⟩
  · intro dir dir' location hopens hopens'
    obtain ⟨files, hlist, -⟩ := list_of_readable ⟨location, hopens⟩
    obtain ⟨files', hlist', -⟩ := list_of_readable ⟨location, hopens'⟩
    have hlast := h.map_lastName?_of_spellings hopens hopens' hlist hlist'
    -- What a path is called, and so how that ends, is told by its last name.
    have hnames : files'.map Path.fileName = files.map Path.fileName := by
      have hcalled := congrArg
        (List.map (fun (name? : Option Path) => (name?.map Path.text).getD "")) hlast
      simpa only [List.map_map, Function.comp_def, ← Path.fileName_eq] using hcalled
    refine ⟨files, files', hlist, hlist', hnames, fun ending => ?_⟩
    have hends := congrArg (List.map (Path.endsWith · ending)) hnames
    rwa [List.map_map, List.map_map] at hends

/-- A directory that is named like a model, with a file in it that is named like one, a file that
is not, and one whose name is no text. -/
def modelNamed : FileTree where
  entries := [(["a_model.so"], .folder), (["a_model.so", "b.json"], .file "" none),
    (["a_model.so", "c_model.so"], .file "" none),
    (["a_model.so", illegible], .file "" none)]
  home := ["a_model.so"]

/-- The text of the directory ends like the name of a model, and only the file named so is one. -/
theorem directory_named_like_a_model :
    modelNamed.Sound ∧ Path.endsWith ".././/a_model.so" "_model.so" = true ∧
      ∃ files, modelNamed.list ".././/a_model.so" = .ok files ∧
        (∀ path, path ∈ files ∧ path.fileName = "b.json" ↔ path = ".././/a_model.so/b.json") ∧
        Path.fileNameEndsWith ".././/a_model.so/b.json" "_model.so" = false ∧
        (∀ path, path ∈ files ∧ path.fileName = "c_model.so" ↔
          path = ".././/a_model.so/c_model.so") ∧
        Path.fileNameEndsWith ".././/a_model.so/c_model.so" "_model.so" = true := by
  have hsound : modelNamed.Sound := by decide
  obtain ⟨hnames, hlisted, -, -⟩ := listed_path_has_name_of_file modelNamed hsound
  obtain ⟨files, hlist, hnamed⟩ := hlisted ".././/a_model.so" ["a_model.so"]
    ⟨by decide, rfl, rfl⟩
  refine ⟨hsound, by decide, files, hlist, ?_, ?_, ?_, ?_⟩
  · exact hnamed.pathOf "b.json" "" none (by decide)
  · have hends := ((hnames ".././/a_model.so" "b.json" (by decide)).2 "_model.so").2
    exact Bool.eq_false_iff.mpr (fun hyes => absurd (hends.mp hyes) (by decide))
  · exact hnamed.pathOf "c_model.so" "" none (by decide)
  · exact ((hnames ".././/a_model.so" "c_model.so" (by decide)).2 "_model.so").1.mpr ⟨"c", rfl⟩

end ModelAdapter.FileTree
