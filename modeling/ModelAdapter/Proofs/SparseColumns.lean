import Mathlib.Data.List.Perm.Subperm
import ModelAdapter.Proofs.SparseRows

/-! # Which columns a sparse matrix tells

Beside each value a sparse matrix keeps its column, in a word of 32 bits.  Whether a
column fits in its word is never looked at: the dense matrix is checked for the
number of its cells and of its rows, and a column past the last word comes round to
one that a value may stand in already.

  * **What is meant** (`Columns`): the columns of a row go up, stay in the matrix, and
    each value stands in its column.  A matrix that is too wide for it is to be refused
    (`Intended`).
  * **What happens** (`row?_eq_presentColumns`): each value has its column, cut to a
    word.
  * **When the two agree** (`columns_as_intended_iff`): a row is as intended exactly when
    no value of it stands past the last word.  This cannot be seen from the columns
    alone, but it can be counted: columns as intended are as many as the values, and
    so they are all the columns with a value.
-/

namespace ModelAdapter.Csr

/-- The columns that a word of 32 bits can tell apart. -/
def columnLimit : Nat := 2 ^ 32

/-! ## §1. What is meant -/

/-- The columns of row `i` beside its values, as they are meant to be. -/
structure Columns (values : List Binary32) (denseCols numCol i : Nat) (data : List Binary32)
    (columns : List Nat) : Prop where
  increasing : columns.Pairwise (· < ·)
  located : data.map some = columns.map (cell? values denseCols i)
  inside : ∀ j ∈ columns, j < denseCols ∧ j < numCol

/-- The columns are those of the values in every row, and a matrix with more columns than a word
can tell apart is refused. -/
structure Intended (values : List Binary32) (numRow denseCols numCol : Nat) : Prop where
  told : ∀ m, ofDense values numRow denseCols numCol = .ok m → ∀ i, i < numRow →
    ∃ data columns, m.row? i = some (data, columns) ∧ Columns values denseCols numCol i data columns
  refused : columnLimit < denseCols → ∃ fault, ofDense values numRow denseCols numCol = .error fault

/-! ## §2. What happens -/

/-- The columns of row `i` of a dense matrix in which a value is present. -/
def presentColumns (values : List Binary32) (width i : Nat) : List Nat :=
  (List.range width).filter (fun j => (cell? values width i j).isSome)

section
variable {values : List Binary32} {width i j : Nat}

theorem mem_presentColumns_iff :
    j ∈ presentColumns values width i ↔ j < width ∧ (cell? values width i j).isSome := by
  rw [presentColumns, List.mem_filter, List.mem_range]

theorem pairwise_presentColumns (values : List Binary32) (width i : Nat) :
    (presentColumns values width i).Pairwise (· < ·) :=
  List.pairwise_lt_range.filter _

theorem presentColumns_of_full (h : ∀ j, j < width → (cell? values width i j).isSome) :
    presentColumns values width i = List.range width := by
  rw [presentColumns, List.filter_eq_self]
  intro j hj
  exact h j (List.mem_range.mp hj)

theorem filterMap_map_eq_map_filter {α β γ : Type} (f : α → Option β) (g : α → γ) (l : List α) :
    l.filterMap (fun a => (f a).map (fun _ => g a)) = (l.filter (fun a => (f a).isSome)).map g := by
  induction l with
  | nil => rfl
  | cons a l ih => cases h : f a <;> simp [h, ih]

theorem columns_cellsOf (values : List Binary32) (width i : Nat) :
    (cellsOf values width i).map (·.2)
      = (presentColumns values width i).map (· % columnLimit) := by
  rw [presentColumns, ← filterMap_map_eq_map_filter, cellsOf, List.map_filterMap]
  simp only [Option.map_map, Function.comp_def]
  rfl

theorem values_cellsOf (values : List Binary32) (width i : Nat) :
    ((cellsOf values width i).map (·.1)).map some
      = (presentColumns values width i).map (cell? values width i) := by
  rw [presentColumns, ← filterMap_map_eq_map_filter, cellsOf, List.map_filterMap,
    List.map_filterMap]
  apply List.filterMap_congr
  intro j _
  cases cell? values width i j <;> rfl

end

section
variable {values : List Binary32} {numRow denseCols numCol i : Nat} {m : Csr}

/-- **A row** has its values in their order, each with its column cut to a word. -/
theorem row?_eq_presentColumns (h : ofDense values numRow denseCols numCol = .ok m)
    (hi : i < numRow) :
    ∃ data, m.row? i = some (data, (presentColumns values denseCols i).map (· % columnLimit)) ∧
      data.map some = (presentColumns values denseCols i).map (cell? values denseCols i) := by
  refine ⟨_, ?_, values_cellsOf values denseCols i⟩
  rw [row?_of_ofDense h hi, columns_cellsOf]

/-! ## §3. When the two agree -/

/-- Columns that fit in their words are as intended. -/
theorem columns_of_fits {data : List Binary32} (hwidth : denseCols ≤ numCol)
    (hdata : data.map some = (presentColumns values denseCols i).map (cell? values denseCols i))
    (hfits : ∀ j ∈ presentColumns values denseCols i, j < columnLimit) :
    Columns values denseCols numCol i data
      ((presentColumns values denseCols i).map (· % columnLimit)) := by
  have huncut : (presentColumns values denseCols i).map (· % columnLimit)
      = presentColumns values denseCols i := by
    rw [List.map_congr_left (fun j hj => Nat.mod_eq_of_lt (hfits j hj)), List.map_id']
  rw [huncut]
  refine ⟨pairwise_presentColumns values denseCols i, hdata, ?_⟩
  intro j hj
  have hj' := (mem_presentColumns_iff.mp hj).1
  exact ⟨hj', Nat.lt_of_lt_of_le hj' hwidth⟩

/-- Columns as intended are those with a value, whatever they are. -/
theorem Columns.mem_of_present {data : List Binary32} {columns : List Nat} {j : Nat}
    (h : Columns values denseCols numCol i data columns)
    (hlength : columns.length = (presentColumns values denseCols i).length)
    (hj : j ∈ presentColumns values denseCols i) : j ∈ columns := by
  have hsubset : columns ⊆ presentColumns values denseCols i := by
    intro k hk
    have hvalue : cell? values denseCols i k ∈ data.map some := by
      rw [h.located]
      exact List.mem_map_of_mem hk
    obtain ⟨v, -, hv⟩ := List.mem_map.mp hvalue
    rw [mem_presentColumns_iff, ← hv]
    exact ⟨(h.inside k hk).1, rfl⟩
  -- They are different columns with values, and as many as there are.
  have hnodup : columns.Nodup := h.increasing.imp Nat.ne_of_lt
  have hperm := (List.subperm_of_subset hnodup hsubset).perm_of_length_le
    (Nat.le_of_eq hlength.symm)
  exact hperm.mem_iff.mpr hj

/-- **A row is as intended** exactly when no value of it stands past the last word. -/
theorem columns_as_intended_iff {data : List Binary32} (hwidth : denseCols ≤ numCol)
    (hdata : data.map some = (presentColumns values denseCols i).map (cell? values denseCols i)) :
    Columns values denseCols numCol i data
        ((presentColumns values denseCols i).map (· % columnLimit)) ↔
      ∀ j ∈ presentColumns values denseCols i, j < columnLimit := by
  constructor
  · intro h j hj
    obtain ⟨k, -, rfl⟩ := List.mem_map.mp (h.mem_of_present (List.length_map ..) hj)
    exact Nat.mod_lt k (Nat.two_pow_pos 32)
  · exact columns_of_fits hwidth hdata

/-- A dense matrix that is no wider than the words can tell has no value past them. -/
theorem present_lt_of_le (h : denseCols ≤ columnLimit) :
    ∀ j ∈ presentColumns values denseCols i, j < columnLimit :=
  fun _ hj => Nat.lt_of_lt_of_le (mem_presentColumns_iff.mp hj).1 h

end

/-- **Columns are told as long as they fit in their words.**  In the sparse form of a dense matrix
every value has its column, cut to a word of 32 bits; so a row is as intended exactly when no value
of it stands past the last word.  No matrix is refused for its width in columns: it is as intended
exactly when there are no more columns than a word can tell apart, or when it is refused for
something else. -/
theorem columns_told_iff (values : List Binary32) (numRow denseCols numCol : Nat) :
    (Intended values numRow denseCols numCol ↔
      denseCols ≤ columnLimit ∨ ∃ fault, ofDense values numRow denseCols numCol = .error fault) ∧
    ((∃ fault, ofDense values numRow denseCols numCol = .error fault) ↔
      numCol < denseCols ∨ wordLimit ≤ numRow * denseCols ∨ values.length < numRow * denseCols ∨
        rowLimit ≤ numRow) ∧
    ∀ m, ofDense values numRow denseCols numCol = .ok m → ∀ i, i < numRow →
      ∃ data columns, m.row? i = some (data, columns) ∧
        data.map some = (presentColumns values denseCols i).map (cell? values denseCols i) ∧
        columns = (presentColumns values denseCols i).map (· % columnLimit) ∧
        (Columns values denseCols numCol i data columns ↔
          ∀ j, j < denseCols → (cell? values denseCols i j).isSome → j < columnLimit) := by
  have hrefused : (∃ fault, ofDense values numRow denseCols numCol = .error fault) ↔
      ¬ ∃ m, ofDense values numRow denseCols numCol = .ok m := by
    cases ofDense values numRow denseCols numCol <;> simp
  -- Too wide a matrix is as it should be only if it is refused; all others have words for their
  -- columns.
  refine ⟨⟨?_, ?_⟩, ?_, ?_⟩
  · intro h
    rcases Nat.lt_or_ge columnLimit denseCols with hwide | hnarrow
    · exact .inr (h.refused hwide)
    · exact .inl hnarrow
  · rintro (hnarrow | herror)
    · refine ⟨?_, fun hwide => absurd hnarrow (Nat.not_le.mpr hwide)⟩
      intro m hm i hi
      obtain ⟨hwidth, -⟩ := ofDense_inv hm
      obtain ⟨data, hrow, hdata⟩ := row?_eq_presentColumns hm hi
      exact ⟨data, _, hrow, columns_of_fits hwidth hdata (present_lt_of_le hnarrow)⟩
    · refine ⟨?_, fun _ => herror⟩
      intro m hm
      exact absurd ⟨m, hm⟩ (hrefused.mp herror)
  · rw [hrefused, exists_ofDense_iff]
    omega
  · intro m hm i hi
    obtain ⟨hwidth, -⟩ := ofDense_inv hm
    obtain ⟨data, hrow, hdata⟩ := row?_eq_presentColumns hm hi
    refine ⟨data, _, hrow, hdata, rfl, ?_⟩
    rw [columns_as_intended_iff hwidth hdata]
    simp only [mem_presentColumns_iff, and_imp]

/-- One row of 1, a NaN and 2. -/
def oneGap : List Binary32 := [⟨0x3F800000⟩, ⟨0x7FC00000⟩, ⟨0x40000000⟩]

/-- A declared width that is past all words does no harm to the columns of the values. -/
theorem wide_declaration_is_intended :
    Intended oneGap 1 3 (2 ^ 40) ∧ ∃ m data, ofDense oneGap 1 3 (2 ^ 40) = .ok m ∧
      m.row? 0 = some (data, [0, 2]) ∧ Columns oneGap 3 (2 ^ 40) 0 data [0, 2] := by
  obtain ⟨hintended, -, hrows⟩ := columns_told_iff oneGap 1 3 (2 ^ 40)
  have hform : ofDense oneGap 1 3 (2 ^ 40)
      = .ok ⟨[⟨0x3F800000⟩, ⟨0x40000000⟩], [0, 2], [0, 2], 1, 2 ^ 40⟩ := by decide
  obtain ⟨data, columns, hrow, -, hcolumns, htold⟩ := hrows _ hform 0 (by decide)
  have hgap : columns = [0, 2] := by
    rw [hcolumns]
    decide
  subst hgap
  refine ⟨hintended.mpr (.inl (by decide)), _, data, hform, hrow, htold.mpr ?_⟩
  intro j hj _
  exact Nat.lt_trans hj (by decide)

/-- In a row that is full and too wide, the first column past the last word is told as the first
one of all. -/
theorem shared_of_full {width : Nat} {v : Binary32} (hwide : columnLimit < width)
    (hword : width < wordLimit) (hv : v.isNaN = false) :
    ∃ m data columns, ofDense (List.replicate width v) 1 width width = .ok m ∧
      m.row? 0 = some (data, columns) ∧ columns[0]? = some 0 ∧ columns[columnLimit]? = some 0 := by
  have hform : ∃ m, ofDense (List.replicate width v) 1 width width = .ok m := by
    rw [exists_ofDense_iff, List.length_replicate, Nat.one_mul]
    exact ⟨Nat.le_refl _, hword, Nat.le_refl _, by decide⟩
  obtain ⟨m, hm⟩ := hform
  obtain ⟨data, hrow, -⟩ := row?_eq_presentColumns hm Nat.one_pos
  -- Without missing values the columns are all of them, in order.
  have hfull : presentColumns (List.replicate width v) width 0 = List.range width := by
    apply presentColumns_of_full
    intro j hj
    have hvalue : (List.replicate width v)[0 * width + j]? = some v := by
      rw [Nat.zero_mul, Nat.zero_add, List.getElem?_replicate_of_lt hj]
    rw [cell?, hvalue]
    simp [Option.filter, hv]
  rw [hfull] at hrow
  refine ⟨m, data, _, hm, hrow, ?_, ?_⟩
  · rw [List.getElem?_map, List.getElem?_range (Nat.lt_of_le_of_lt (Nat.zero_le _) hwide)]
    rfl
  · -- The first column past the words comes back as 0.
    rw [List.getElem?_map, List.getElem?_range hwide, Option.map_some, Nat.mod_self]

/-- A matrix with one column too many is accepted: without rows nothing comes of it, and in a row of
values the last one shares the column of the first. -/
theorem too_wide_matrices_are_accepted :
    ofDense [] 0 (columnLimit + 1) (columnLimit + 1) = .ok ⟨[], [], [0], 0, columnLimit + 1⟩ ∧
    ¬ Intended [] 0 (columnLimit + 1) (columnLimit + 1) ∧
    ∃ m data columns, ofDense (List.replicate (columnLimit + 1) ⟨0x3F800000⟩) 1 (columnLimit + 1)
        (columnLimit + 1) = .ok m ∧
      m.row? 0 = some (data, columns) ∧ columns[0]? = some 0 ∧ columns[columnLimit]? = some 0 := by
  have haccepted : ofDense [] 0 (columnLimit + 1) (columnLimit + 1)
      = .ok ⟨[], [], [0], 0, columnLimit + 1⟩ := by decide
  refine ⟨haccepted, ?_, shared_of_full (Nat.lt_succ_self _) (by decide) (by decide)⟩
  intro h
  obtain ⟨fault, hfault⟩ := h.refused (Nat.lt_succ_self _)
  cases haccepted.symm.trans hfault

end ModelAdapter.Csr
