import Mathlib.Algebra.Group.Nat.Defs
import Mathlib.Data.List.Basic
import Mathlib.Data.List.Induction
import ModelAdapter.Proofs.Sparse

/-! # What the rows of a sparse matrix mean

A dense matrix is a list of values, row after row, and a position in the list is all
that a cell has.  This module says what its sparse form makes of the cells.

  * **Cells** (`cell?`, `cellsOf`): what stands in the rows of the dense matrix, by
    position and with no regard to how the sparse form is built.
  * **Rows** (`row?_of_ofDense`): each row of the sparse form has the cells of its row
    that are not missing, and there are no other rows.
  * **Back again** (`expand_of_ofDense`): looking every cell up in the sparse form gives
    the dense matrix again, as far as the columns fit in their words.
-/

namespace ModelAdapter

/-- A NaN has nothing but ones in its exponent, and a fraction that is not zero. -/
theorem Binary32.isNaN_iff (v : Binary32) :
    v.isNaN = true ↔
      v.bits.toNat / 2 ^ 23 % 2 ^ 8 = 2 ^ 8 - 1 ∧ v.bits.toNat % 2 ^ 23 ≠ 0 := by
  have hmagnitude : (v.bits &&& 0x7FFFFFFF).toNat = v.bits.toNat % 2 ^ 31 := by
    rw [UInt32.toNat_and]
    exact Nat.and_two_pow_sub_one_eq_mod v.bits.toNat 31
  have hinfinite : (0x7F800000 : UInt32).toNat = 0x7F800000 := rfl
  rw [isNaN, decide_eq_true_eq, UInt32.lt_iff_toNat_lt, hmagnitude, hinfinite]
  omega

namespace Csr

/-! ## §1. Cells -/

/-- What stands in row `i` and column `j` of a dense matrix of a given width; a NaN is nothing. -/
def cell? (values : List Binary32) (width i j : Nat) : Option Binary32 :=
  values[i * width + j]?.filter (fun v => !v.isNaN)

/-- What stands in row `i` of a dense matrix, from column to column, each value with its column in
a word of 32 bits. -/
def cellsOf (values : List Binary32) (width i : Nat) : List Cell :=
  (List.range width).filterMap (fun j => (cell? values width i j).map (fun v => (v, j % 2 ^ 32)))

theorem rowsOf_eq_map (width count : Nat) (values : List Binary32) :
    rowsOf width count values
      = (List.range count).map (fun i => (values.drop (i * width)).take width) := by
  induction count generalizing values with
  | zero => rfl
  | succ count ih =>
    rw [rowsOf, ih, List.range_succ_eq_map, List.map_cons, List.map_map, Nat.zero_mul,
      List.drop_zero]
    congr 1
    apply List.map_congr_left
    intro i _
    show _ = (values.drop ((i + 1) * width)).take width
    rw [List.drop_drop, Nat.succ_mul, Nat.add_comm width]

theorem filterMap_singleton {α β : Type} (f : α → Option β) (a : α) :
    [a].filterMap f = (f a).toList := by
  cases h : f a <;> simp [h]

/-- The values of a row that are present, told by their positions. -/
theorem present_eq_filterMap (row : List Binary32) :
    present row = (List.range row.length).filterMap
      (fun j => (row[j]?.filter (fun v => !v.isNaN)).map (fun v => (v, j % 2 ^ 32))) := by
  induction row using List.reverseRecOn with
  | nil => rfl
  | append_singleton row v ih =>
    -- One more value stands in the next column, and the columns before it keep theirs.
    have hbefore : ∀ j ∈ List.range row.length, (row ++ [v])[j]? = row[j]? := by
      intro j hj
      rw [List.getElem?_append_left (List.mem_range.mp hj)]
    have hlast : present (row ++ [v]) = present row
        ++ (Option.map (fun v => (v, row.length % 2 ^ 32))
          ((some v).filter (fun v => !v.isNaN))).toList := by
      cases hnan : v.isNaN with
      | true => simp [present, List.zipIdx_append, Option.filter, hnan]
      | false => simp [present, List.zipIdx_append, Option.filter, hnan, columnWord]
    rw [hlast, ih, List.length_append, List.length_singleton, List.range_succ,
      List.filterMap_append]
    congr 1
    · apply List.filterMap_congr
      intro j hj
      rw [hbefore j hj]
    · rw [filterMap_singleton, List.getElem?_append_right (Nat.le_refl _), Nat.sub_self]
      rfl

theorem present_eq_cellsOf {values : List Binary32} {width i : Nat}
    (h : (i + 1) * width ≤ values.length) :
    present ((values.drop (i * width)).take width) = cellsOf values width i := by
  rw [Nat.succ_mul] at h
  have hlength : ((values.drop (i * width)).take width).length = width := by
    rw [List.length_take, List.length_drop]
    omega
  rw [present_eq_filterMap, hlength, cellsOf]
  apply List.filterMap_congr
  intro j hj
  rw [List.getElem?_take_of_lt (List.mem_range.mp hj), List.getElem?_drop]
  rfl

/-! ## §2. Rows -/

theorem slice?_append (front middle back : List α) :
    slice? (front ++ (middle ++ back)) front.length (front.length + middle.length)
      = some middle := by
  have hfits : front.length ≤ front.length + middle.length ∧
      front.length + middle.length ≤ (front ++ (middle ++ back)).length := by
    simp only [List.length_append]
    omega
  rw [slice?, if_pos hfits, List.drop_left, Nat.add_sub_cancel_left, List.take_left]

/-- A row of a matrix that is made of rows. -/
theorem row?_ofRows (before after : List (List Cell)) (row : List Cell) (numRow numCol : Nat) :
    (ofRows (before ++ row :: after) numRow numCol).row? before.length
      = some (row.map (·.1), row.map (·.2)) := by
  have hstart := getElem?_starts 0 before (row :: after)
  have hstop := getElem?_starts 0 (before ++ [row]) after
  simp only [List.append_assoc, List.singleton_append, List.length_append, List.length_singleton,
    List.flatten_append, List.flatten_singleton, Nat.zero_add] at hstart hstop
  have hflat : (before ++ row :: after).flatten
      = before.flatten ++ (row ++ after.flatten) := by
    rw [List.flatten_append, List.flatten_cons]
  -- The row lies between its start and the next one, in both arrays.
  have hslice {β : Type} (f : Cell → β) :
      slice? ((before ++ row :: after).flatten.map f) before.flatten.length
        (before.flatten.length + row.length) = some (row.map f) := by
    have hmapped := slice?_append (before.flatten.map f) (row.map f) (after.flatten.map f)
    rw [List.length_map, List.length_map] at hmapped
    rw [hflat, List.map_append, List.map_append]
    exact hmapped
  have hptr : (ofRows (before ++ row :: after) numRow numCol).rowPtr
      = starts 0 ((before ++ row :: after).map (·.length)) := rfl
  simp only [row?, hptr, hstart, hstop, data_ofRows, colInd_ofRows, hslice, bind, Option.bind]
  rfl

/-- There are as many rows as row starts but one. -/
theorem WellFormed.row?_of_le {m : Csr} (h : m.WellFormed) {i : Nat} (hi : m.numRow ≤ i) :
    m.row? i = none := by
  have hstop : m.rowPtr[i + 1]? = none := by
    rw [List.getElem?_eq_none_iff, h.length_rowPtr]
    omega
  simp only [row?, hstop, bind, Option.bind]
  cases m.rowPtr[i]? <;> rfl

section
variable {values : List Binary32} {numRow denseCols numCol : Nat} {m : Csr}

/-- **A row** of the sparse form has the cells of the row of the dense matrix. -/
theorem row?_of_ofDense (h : ofDense values numRow denseCols numCol = .ok m) {i : Nat}
    (hi : i < numRow) :
    m.row? i = some ((cellsOf values denseCols i).map (·.1),
      (cellsOf values denseCols i).map (·.2)) := by
  obtain ⟨-, -, hlength, -, rfl⟩ := ofDense_inv h
  have hgiven : (i + 1) * denseCols ≤ values.length :=
    Nat.le_trans (Nat.mul_le_mul_right _ hi) hlength
  let row (k : Nat) : List Cell := present ((values.drop (k * denseCols)).take denseCols)
  have hrow : row i = cellsOf values denseCols i := present_eq_cellsOf hgiven
  obtain ⟨rest, rfl⟩ : ∃ rest, numRow = i + (1 + rest) := ⟨numRow - i - 1, by omega⟩
  -- The rows are cut at the one that is read.
  have hcut : (rowsOf denseCols (i + (1 + rest)) values).map present
      = (List.range i).map row
        ++ row i :: (List.range rest).map (fun k => row (i + (1 + k))) := by
    rw [rowsOf_eq_map, List.map_map, List.range_add, List.range_add, List.map_append]
    simp [row, Function.comp_def]
  have hread := row?_ofRows ((List.range i).map row)
    ((List.range rest).map (fun k => row (i + (1 + k)))) (row i) (i + (1 + rest)) numCol
  rw [List.length_map, List.length_range] at hread
  rw [hcut, hread, hrow]

/-! ## §3. Back again -/

/-- The value that a reader finds who looks for a column in a row. -/
def at? (m : Csr) (i j : Nat) : Option Binary32 := do
  let (values, columns) ← m.row? i
  (columns.zip values).lookup j

/-- The first so many columns of every row, with `missing` where no value is present. -/
def expand (m : Csr) (width : Nat) (missing : Binary32) : List Binary32 :=
  (List.range m.numRow).flatMap fun i =>
    (List.range width).map fun j => (m.at? i j).getD missing

/-- A column is found among others where it has a value. -/
theorem lookup_filterMap_range {β : Type} (f : Nat → Option β) {width j : Nat} (hj : j < width) :
    ((List.range width).filterMap (fun k => (f k).map (fun v => (k, v)))).lookup j = f j := by
  -- On the width: the new column is looked up last.
  induction width with
  | zero => omega
  | succ width ih =>
    rw [List.range_succ, List.filterMap_append, List.lookup_append, filterMap_singleton]
    rcases Nat.lt_succ_iff_lt_or_eq.mp hj with hlt | rfl
    · -- The last column is another one.
      have hne : (j == width) = false := by simpa using Nat.ne_of_lt hlt
      rw [ih hlt]
      cases f width <;> simp [List.lookup_cons, hne]
    · have hbefore : ((List.range j).filterMap (fun k => (f k).map (fun v => (k, v)))).lookup j
          = none := by
        rw [List.lookup_eq_none_iff]
        rintro ⟨k, v⟩ hmem
        obtain ⟨k', hk', hv⟩ := List.mem_filterMap.mp hmem
        obtain ⟨_, _, hpair⟩ := Option.map_eq_some_iff.mp hv
        cases hpair
        simpa using (Nat.ne_of_lt (List.mem_range.mp hk')).symm
      rw [hbefore]
      cases f j <;> simp

/-- **A cell** is found again if its row has no more columns than fit in their words. -/
theorem at?_of_ofDense (h : ofDense values numRow denseCols numCol = .ok m)
    (hwidth : denseCols ≤ 2 ^ 32) {i j : Nat} (hi : i < numRow) (hj : j < denseCols) :
    m.at? i j = cell? values denseCols i j := by
  -- A row is the pairs of its columns and values, and no column is cut to its word.
  have hpairs : ((cellsOf values denseCols i).map (·.2)).zip
        ((cellsOf values denseCols i).map (·.1))
      = (List.range denseCols).filterMap
        (fun k => (cell? values denseCols i k).map (fun v => (k, v))) := by
    rw [List.zip_map', cellsOf, List.map_filterMap]
    apply List.filterMap_congr
    intro k hk
    have hfits : k % 2 ^ 32 = k :=
      Nat.mod_eq_of_lt (Nat.lt_of_lt_of_le (List.mem_range.mp hk) hwidth)
    rw [hfits, Option.map_map]
    rfl
  rw [at?, row?_of_ofDense h hi]
  show (((cellsOf values denseCols i).map (·.2)).zip
    ((cellsOf values denseCols i).map (·.1))).lookup j = _
  rw [hpairs, lookup_filterMap_range _ hj]

/-- Counting rows and columns comes to counting positions. -/
theorem flatMap_range_mul {β : Type} (f : Nat → β) (count width : Nat) :
    (List.range count).flatMap (fun i => (List.range width).map (fun j => f (i * width + j)))
      = (List.range (count * width)).map f := by
  induction count with
  | zero => simp
  | succ count ih =>
    rw [List.range_succ, List.flatMap_append, ih, Nat.succ_mul, List.range_add, List.map_append,
      List.map_map, List.flatMap_singleton]
    rfl

/-- **The dense matrix** comes back, with what is missing marked in whatever way. -/
theorem expand_of_ofDense (h : ofDense values numRow denseCols numCol = .ok m)
    (hwidth : denseCols ≤ 2 ^ 32) (missing : Binary32) :
    m.expand denseCols missing
      = (values.take (numRow * denseCols)).map (fun v => if v.isNaN then missing else v) := by
  have hnumRow : m.numRow = numRow := by
    obtain ⟨-, -, -, -, rfl⟩ := ofDense_inv h
    rfl
  obtain ⟨-, -, hlength, -, -⟩ := ofDense_inv h
  -- Row by row and column by column, what is shown is a function of the place in the values.
  let shown (p : Nat) : Binary32 := (values[p]?.filter (fun v => !v.isNaN)).getD missing
  have hcells : m.expand denseCols missing = (List.range numRow).flatMap (fun i =>
      (List.range denseCols).map (fun j => shown (i * denseCols + j))) := by
    rw [expand, hnumRow]
    apply List.flatMap_congr
    intro i hi
    apply List.map_congr_left
    intro j hj
    rw [at?_of_ofDense h hwidth (List.mem_range.mp hi) (List.mem_range.mp hj)]
    rfl
  rw [hcells, flatMap_range_mul]
  apply List.ext_getElem?
  intro p
  by_cases hp : p < numRow * denseCols
  · have hvalue := List.getElem?_eq_getElem (Nat.lt_of_lt_of_le hp hlength)
    rw [List.getElem?_map, List.getElem?_map, List.getElem?_take_of_lt hp, List.getElem?_range hp,
      hvalue]
    simp only [Option.map_some, shown, hvalue]
    cases hnan : values[p].isNaN <;> simp [Option.filter, hnan]
  · -- Neither side has anything past the last row.
    have hpast := Nat.not_lt.mp hp
    rw [List.getElem?_eq_none, List.getElem?_eq_none]
    · rw [List.length_map, List.length_take]
      omega
    · rw [List.length_map, List.length_range]
      exact hpast

end

/-! ## §4. Which dense matrices have a sparse form -/

/-- Arrays that fit each other pass the check. -/
theorem WellFormed.checked {m : Csr} (h : m.WellFormed) : checked m = .ok m := by
  have hlast : m.rowPtr.getLastD 0 = m.data.length := by
    rw [List.getLastD_eq_getLast?, List.getLast?_eq_getElem?, h.length_rowPtr, Nat.add_sub_cancel,
      h.ends_at_length, Option.getD_some]
  have hfits : ¬ (m.data.length ≠ m.colInd.length ∨ m.data.length ≠ m.rowPtr.getLastD 0
      ∨ m.rowPtr.length ≠ m.numRow + 1) := by
    rw [hlast, h.length_colInd, h.length_rowPtr]
    simp
  rw [Csr.checked, if_neg hfits]

section
variable {values : List Binary32} {numRow denseCols numCol : Nat}

/-- What is needed for a sparse form is enough, and the check at the end refuses nothing. -/
theorem ofDense_of_fits (hwidth : denseCols ≤ numCol) (hproduct : numRow * denseCols < wordLimit)
    (hlength : numRow * denseCols ≤ values.length) (hrows : numRow < rowLimit) :
    ofDense values numRow denseCols numCol
      = .ok (ofRows ((rowsOf denseCols numRow values).map present) numRow numCol) := by
  have hfits := WellFormed.of_ofRows ((rowsOf denseCols numRow values).map present) numCol
  rw [List.length_map, length_rowsOf] at hfits
  rw [ofDense, if_neg (Nat.not_lt.mpr hwidth), if_neg (Nat.not_le.mpr hproduct),
    if_neg (Nat.not_lt.mpr hlength), if_neg (Nat.not_le.mpr hrows), hfits.checked]

theorem exists_ofDense_iff :
    (∃ m, ofDense values numRow denseCols numCol = .ok m) ↔
      denseCols ≤ numCol ∧ numRow * denseCols < wordLimit ∧ numRow * denseCols ≤ values.length ∧
        numRow < rowLimit := by
  constructor
  · rintro ⟨m, h⟩
    obtain ⟨hwidth, hproduct, hlength, hrows, -⟩ := ofDense_inv h
    exact ⟨hwidth, hproduct, hlength, hrows⟩
  · rintro ⟨hwidth, hproduct, hlength, hrows⟩
    exact ⟨_, ofDense_of_fits hwidth hproduct hlength hrows⟩

/-- No dense matrix is refused for what its sparse form came to. -/
theorem ofDense_ne_precondition (values : List Binary32) (numRow denseCols numCol : Nat)
    (what : String) : ofDense values numRow denseCols numCol ≠ .error (.precondition what) := by
  intro h
  by_cases hform : ∃ m, ofDense values numRow denseCols numCol = .ok m
  · obtain ⟨m, hm⟩ := hform
    cases hm.symm.trans h
  · -- Each check that comes before fails otherwise, and without them a form exists.
    unfold ofDense at h
    split at h
    · cases h
    split at h
    · cases h
    split at h
    · cases h
    split at h
    · cases h
    rename_i hwidth hproduct hlength hrows
    exact hform (exists_ofDense_iff.mpr ⟨Nat.not_lt.mp hwidth, Nat.not_le.mp hproduct,
      Nat.not_lt.mp hlength, Nat.not_le.mp hrows⟩)

theorem rowsOf_take (width count : Nat) (values : List Binary32) :
    rowsOf width count (values.take (count * width)) = rowsOf width count values := by
  rw [rowsOf_eq_map, rowsOf_eq_map]
  apply List.map_congr_left
  intro i hi
  have hrow : (i + 1) * width ≤ count * width := Nat.mul_le_mul_right _ (List.mem_range.mp hi)
  rw [Nat.succ_mul] at hrow
  rw [List.drop_take, List.take_take, Nat.min_eq_left (by omega)]

/-- Values past the last row do not matter. -/
theorem ofDense_take (values : List Binary32) (numRow denseCols numCol : Nat) :
    ofDense (values.take (numRow * denseCols)) numRow denseCols numCol
      = ofDense values numRow denseCols numCol := by
  by_cases hlength : numRow * denseCols ≤ values.length
  · have htaken : ¬ (values.take (numRow * denseCols)).length < numRow * denseCols := by
      rw [List.length_take]
      omega
    rw [ofDense, ofDense, if_neg htaken, if_neg (Nat.not_lt.mpr hlength), rowsOf_take]
  · rw [List.take_of_length_le (by omega)]

end

/-! ## §5. The meaning of a sparse form -/

/-- What a sparse form is to the dense matrix that it was made of. -/
structure Represents (m : Csr) (values : List Binary32) (numRow denseCols numCol : Nat) : Prop where
  height : m.numRow = numRow
  width : m.numCol = numCol
  fits : m.WellFormed
  rows : ∀ i, i < numRow → m.row? i = some ((cellsOf values denseCols i).map (·.1),
    (cellsOf values denseCols i).map (·.2))
  past : ∀ i, numRow ≤ i → m.row? i = none
  recovered : denseCols ≤ 2 ^ 32 → ∀ missing, m.expand denseCols missing
    = (values.take (numRow * denseCols)).map (fun v => if v.isNaN then missing else v)

theorem represents_of_ofDense {values : List Binary32} {numRow denseCols numCol : Nat} {m : Csr}
    (h : ofDense values numRow denseCols numCol = .ok m) :
    m.Represents values numRow denseCols numCol := by
  have hnumRow : m.numRow = numRow := by
    obtain ⟨-, -, -, -, rfl⟩ := ofDense_inv h
    rfl
  obtain ⟨hfits, -, hnumCol⟩ := sound_of_ofDense h
  refine ⟨hnumRow, hnumCol, hfits, fun i => row?_of_ofDense h, ?_, expand_of_ofDense h⟩
  intro i hi
  exact hfits.row?_of_le (hnumRow ▸ hi)

/-- **A sparse form keeps what is present, and where.**  A dense matrix has one exactly when it is
no wider than declared, is given in full, and its cells and rows can be counted; what the arrays
came to is never what is refused.  It depends on nothing past the last row.  Its row starts fit its
arrays, each of its rows has the cells of the dense row that are no NaN, bit for bit and in the
order of the columns, and the dense matrix can be had back as far as the columns fit in words of 32
bits. -/
theorem ofDense_keeps_present (values : List Binary32) (numRow denseCols numCol : Nat) :
    (∀ m, ofDense values numRow denseCols numCol = .ok m →
      m.Represents values numRow denseCols numCol) ∧
    ((∃ m, ofDense values numRow denseCols numCol = .ok m) ↔
      denseCols ≤ numCol ∧ numRow * denseCols < wordLimit ∧ numRow * denseCols ≤ values.length ∧
        numRow < rowLimit) ∧
    (∀ what, ofDense values numRow denseCols numCol ≠ .error (.precondition what)) ∧
    ofDense (values.take (numRow * denseCols)) numRow denseCols numCol
      = ofDense values numRow denseCols numCol ∧
    (∀ v : Binary32, v.isNaN = true ↔
      v.bits.toNat / 2 ^ 23 % 2 ^ 8 = 2 ^ 8 - 1 ∧ v.bits.toNat % 2 ^ 23 ≠ 0) :=
  ⟨fun _ => represents_of_ofDense, exists_ofDense_iff, ofDense_ne_precondition values numRow
    denseCols numCol, ofDense_take values numRow denseCols numCol, Binary32.isNaN_iff⟩

/-- Two rows of 1, a NaN and -0, and of another NaN, infinity and the least value above 0; one value
stands behind them. -/
def sixCells : List Binary32 :=
  [⟨0x3F800000⟩, ⟨0x7FC00000⟩, ⟨0x80000000⟩, ⟨0xFF800001⟩, ⟨0x7F800000⟩, ⟨0x00000001⟩,
    ⟨0x40000000⟩]

/-- Its sparse form. -/
def fourPresent : Csr where
  data := [⟨0x3F800000⟩, ⟨0x80000000⟩, ⟨0x7F800000⟩, ⟨0x00000001⟩]
  colInd := [0, 2, 1, 2]
  rowPtr := [0, 2, 4]
  numRow := 2
  numCol := 5

/-- Zeros, infinities and tiny values are kept, and both NaNs are not. -/
theorem fourPresent_represents_sixCells :
    ofDense sixCells 2 3 5 = .ok fourPresent ∧ fourPresent.Represents sixCells 2 3 5 := by
  have hform : ofDense sixCells 2 3 5 = .ok fourPresent := by decide
  exact ⟨hform, (ofDense_keeps_present sixCells 2 3 5).1 fourPresent hform⟩

end Csr

end ModelAdapter
