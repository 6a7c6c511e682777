import ModelAdapter.Sparse

/-! # Sparse matrices can be read by address

A C function gets the arrays of a sparse matrix as bare addresses.  How far it may
read in them is only told by the arrays themselves: the row starts say where the
rows lie in the two other arrays, and the number of rows says how many row starts
there are.

  * **Fit** (`WellFormed`): the row starts begin with 0, never go down, and end with
    the length that the two other arrays share.
  * **Reading** (`rebuild`): a reader that goes by addresses, and fails when it
    leaves an array, gets the whole matrix back (`rebuilt_ofRows`).

Every sparse form of a dense matrix is `ofRows` of some rows, so both hold of it
(`sound_of_ofDense`).
-/

namespace ModelAdapter.Csr

/-- A value with its column. -/
abbrev Cell := Binary32 × Nat

/-! ## §1. Row starts -/

theorem length_starts (start : Nat) (lengths : List Nat) :
    (starts start lengths).length = lengths.length + 1 := by
  induction lengths generalizing start with
  | nil => rfl
  | cons length rest ih => simp [starts, ih]

@[simp] theorem getElem?_starts_zero (start : Nat) (lengths : List Nat) :
    (starts start lengths)[0]? = some start := by
  cases lengths <;> rfl

/-- Where a row starts is where the rows before it end. -/
theorem getElem?_starts {α : Type} (start : Nat) (before after : List (List α)) :
    (starts start ((before ++ after).map (·.length)))[before.length]?
      = some (start + before.flatten.length) := by
  induction before generalizing start with
  | nil => exact getElem?_starts_zero start _
  | cons row rest ih =>
    show (starts (start + row.length) ((rest ++ after).map (·.length)))[rest.length]? = _
    rw [ih, List.flatten_cons, List.length_append, Nat.add_assoc]

theorem le_of_mem_starts {start p : Nat} {lengths : List Nat} (h : p ∈ starts start lengths) :
    start ≤ p := by
  induction lengths generalizing start with
  | nil =>
    have hp : p = start := List.mem_singleton.mp h
    omega
  | cons length rest ih =>
    rcases List.mem_cons.mp h with hp | hrest
    · omega
    · have hle := ih hrest
      omega

theorem pairwise_starts (start : Nat) (lengths : List Nat) :
    (starts start lengths).Pairwise (· ≤ ·) := by
  induction lengths generalizing start with
  | nil => exact List.pairwise_singleton _ _
  | cons length rest ih =>
    apply List.Pairwise.cons _ (ih (start + length))
    intro p hp
    have hle := le_of_mem_starts hp
    omega

/-! ## §2. Arrays that fit each other -/

/-- The arrays of a matrix fit each other and its number of rows. -/
structure WellFormed (m : Csr) : Prop where
  length_rowPtr : m.rowPtr.length = m.numRow + 1
  starts_at_zero : m.rowPtr[0]? = some 0
  ordered : m.rowPtr.Pairwise (· ≤ ·)
  ends_at_length : m.rowPtr[m.numRow]? = some m.data.length
  length_colInd : m.colInd.length = m.data.length

theorem data_ofRows (rows : List (List Cell)) (numRow numCol : Nat) :
    (ofRows rows numRow numCol).data = rows.flatten.map (·.1) := by
  show rows.flatMap (·.map (·.1)) = _
  rw [List.map_flatten, List.flatMap_def]

theorem colInd_ofRows (rows : List (List Cell)) (numRow numCol : Nat) :
    (ofRows rows numRow numCol).colInd = rows.flatten.map (·.2) := by
  show rows.flatMap (·.map (·.2)) = _
  rw [List.map_flatten, List.flatMap_def]

theorem WellFormed.of_ofRows (rows : List (List Cell)) (numCol : Nat) :
    WellFormed (ofRows rows rows.length numCol) where
  length_rowPtr := by
    show (starts 0 (rows.map (·.length))).length = rows.length + 1
    rw [length_starts, List.length_map]
  starts_at_zero := getElem?_starts_zero 0 _
  ordered := pairwise_starts 0 _
  ends_at_length := by
    show (starts 0 (rows.map (·.length)))[rows.length]? = _
    -- The start behind the last row is where all the rows end.
    have hends := getElem?_starts 0 rows []
    rw [List.append_nil, Nat.zero_add] at hends
    rw [hends, data_ofRows, List.length_map]
  length_colInd := by
    rw [data_ofRows, colInd_ofRows, List.length_map, List.length_map]

/-! ## §3. Reading by address -/

/-- A reader's view of an array: the cell at each address, and nothing past the end. -/
abbrev Memory (α : Type) := Nat → Option α

/-- An array as it lies in memory. -/
def laidOut {α : Type} (l : List α) : Memory α := fun i => l[i]?

/-- Reads `count` cells from `start` on. -/
def readCells (data : Memory Binary32) (colInd : Memory Nat) (start : Nat) :
    (count : Nat) → Option (List Cell)
  | 0 => some []
  | count + 1 => do
      let value ← data start
      let column ← colInd start
      let rest ← readCells data colInd (start + 1) count
      return (value, column) :: rest

/-- Reads `count` rows from the one with index `row` on. -/
def readRows (data : Memory Binary32) (colInd rowPtr : Memory Nat) (row : Nat) :
    (count : Nat) → Option (List (List Cell))
  | 0 => some []
  | count + 1 => do
      let start ← rowPtr row
      let stop ← rowPtr (row + 1)
      let cells ← readCells data colInd start (stop - start)
      let rest ← readRows data colInd rowPtr (row + 1) count
      return cells :: rest

/-- Rebuilds a matrix from the addresses of its arrays and its numbers of rows and columns. -/
def rebuild (data : Memory Binary32) (colInd rowPtr : Memory Nat) (numRow numCol : Nat) :
    Option Csr := do
  let rows ← readRows data colInd rowPtr 0 numRow
  return ofRows rows numRow numCol

/-- The head of what is left of a list is the cell where it was cut. -/
theorem laidOut_of_drop {α : Type} {l rest : List α} {i : Nat} {a : α}
    (h : l.drop i = a :: rest) : laidOut l i = some a ∧ l.drop (i + 1) = rest := by
  constructor
  · rw [laidOut, ← Nat.add_zero i, ← List.getElem?_drop, h]
    rfl
  · rw [← List.drop_drop, h]
    rfl

/-- Cells that lie where the reading starts are read as they are. -/
theorem readCells_laidOut {flat rest cells : List Cell} {start : Nat}
    (h : flat.drop start = cells ++ rest) :
    readCells (laidOut (flat.map (·.1))) (laidOut (flat.map (·.2))) start cells.length
      = some cells := by
  induction cells generalizing start with
  | nil => rfl
  | cons cell cells ih =>
    obtain ⟨hcell, hrest⟩ := laidOut_of_drop h
    -- The two arrays are the two halves of the same cells.
    have hvalue : laidOut (flat.map (·.1)) start = some cell.1 := by
      rw [laidOut, List.getElem?_map]
      exact congrArg (Option.map (·.1)) hcell
    have hcolumn : laidOut (flat.map (·.2)) start = some cell.2 := by
      rw [laidOut, List.getElem?_map]
      exact congrArg (Option.map (·.2)) hcell
    rw [List.length_cons, readCells, hvalue, hcolumn, ih hrest]
    rfl

/-- Rows that lie where the reading starts, with their row starts, are read as they are. -/
theorem readRows_laidOut {flat : List Cell} {rowPtr : List Nat} {rows : List (List Cell)}
    {row start : Nat} (hflat : flat.drop start = rows.flatten)
    (hptr : rowPtr.drop row = starts start (rows.map (·.length))) :
    readRows (laidOut (flat.map (·.1))) (laidOut (flat.map (·.2))) (laidOut rowPtr) row rows.length
      = some rows := by
  induction rows generalizing row start with
  | nil => rfl
  | cons cells rows ih =>
    obtain ⟨hstart, hptr⟩ := laidOut_of_drop hptr
    -- The next row start, which begins the rest, is where this row ends.
    have hstop : laidOut rowPtr (row + 1) = some (start + cells.length) := by
      rw [laidOut, ← Nat.add_zero (row + 1), ← List.getElem?_drop, hptr, getElem?_starts_zero]
    have hcells := readCells_laidOut hflat
    have hrest : flat.drop (start + cells.length) = rows.flatten := by
      rw [← List.drop_drop, hflat, List.flatten_cons, List.drop_left]
    rw [List.length_cons, readRows, hstart, hstop, Option.bind_eq_bind, Option.bind_some,
      Option.bind_eq_bind, Option.bind_some, Nat.add_sub_cancel_left, hcells, ih hrest hptr]
    rfl

/-- What a reader rebuilds that is given the arrays of a matrix by address. -/
def rebuilt (m : Csr) : Option Csr :=
  rebuild (laidOut m.data) (laidOut m.colInd) (laidOut m.rowPtr) m.numRow m.numCol

/-- A matrix made of rows can be rebuilt. -/
theorem rebuilt_ofRows (rows : List (List Cell)) (numCol : Nat) :
    (ofRows rows rows.length numCol).rebuilt = some (ofRows rows rows.length numCol) := by
  have hrows : readRows (laidOut (rows.flatten.map (·.1))) (laidOut (rows.flatten.map (·.2)))
      (laidOut (starts 0 (rows.map (·.length)))) 0 rows.length = some rows :=
    readRows_laidOut List.drop_zero List.drop_zero
  rw [rebuilt, data_ofRows, colInd_ofRows]
  show (readRows _ _ (laidOut (starts 0 (rows.map (·.length)))) 0 rows.length >>= _) = _
  rw [hrows]
  rfl

/-! ## §4. Matrices made of dense ones -/

theorem length_rowsOf (width count : Nat) (values : List Binary32) :
    (rowsOf width count values).length = count := by
  induction count generalizing values with
  | zero => rfl
  | succ count ih => rw [rowsOf, List.length_cons, ih]

theorem eq_of_checked {m m' : Csr} (h : checked m = .ok m') : m' = m := by
  unfold checked at h
  split at h
  · cases h
  · cases h
    rfl

/-- A dense matrix that has a sparse form is no wider than declared, is given in full, and has so
few rows that they can be indexed. -/
theorem ofDense_inv {values : List Binary32} {numRow denseCols numCol : Nat} {m : Csr}
    (h : ofDense values numRow denseCols numCol = .ok m) :
    denseCols ≤ numCol ∧ numRow * denseCols < wordLimit ∧ numRow * denseCols ≤ values.length ∧
      numRow < rowLimit ∧
      m = ofRows ((rowsOf denseCols numRow values).map present) numRow numCol := by
  unfold ofDense at h
  split at h
  · cases h
  split at h
  · cases h
  split at h
  · cases h
  split at h
  · cases h
  -- What is left after the four checks is the form itself, checked once more.
  rename_i hwidth hproduct hlength hrows
  exact ⟨Nat.not_lt.mp hwidth, Nat.not_le.mp hproduct, Nat.not_lt.mp hlength, Nat.not_le.mp hrows,
    eq_of_checked h⟩

/-- The sparse form of a dense matrix fits, can be rebuilt, and has the declared width. -/
theorem sound_of_ofDense {values : List Binary32} {numRow denseCols numCol : Nat} {m : Csr}
    (h : ofDense values numRow denseCols numCol = .ok m) :
    m.WellFormed ∧ m.rebuilt = some m ∧ m.numCol = numCol := by
  have hlength : ((rowsOf denseCols numRow values).map present).length = numRow := by
    rw [List.length_map, length_rowsOf]
  obtain ⟨-, -, -, -, rfl⟩ := ofDense_inv h
  -- From here on it only counts that the matrix is made of `numRow` rows.
  generalize (rowsOf denseCols numRow values).map present = rows at hlength ⊢
  subst hlength
  exact ⟨.of_ofRows rows numCol, rebuilt_ofRows rows numCol, rfl⟩

end ModelAdapter.Csr
