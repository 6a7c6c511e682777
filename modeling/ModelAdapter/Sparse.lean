import ModelAdapter.Buffer
import ModelAdapter.Fault
import ModelAdapter.Number.Binary32
import ModelAdapter.Word

/-! # Sparse matrices

The tree-ensemble engine takes its input as a sparse matrix in compressed rows:
the values that are present, row after row; beside each its column; and for each
row where it starts.  A value that is absent is missing to the engine.

A dense matrix says "missing" with a NaN, so `ofDense` keeps every value that is
not a NaN, zeros among them.  The declared width may exceed the width of the
dense matrix; the columns past it are missing in every row.

The arrays have the element types of the engine: a column is kept in a word of
32 bits.
-/

namespace ModelAdapter

/-- A matrix in compressed rows. -/
structure Csr where
  /-- The values present, row after row. -/
  data : List Binary32
  /-- The column of each value. -/
  colInd : List Nat
  /-- Where each row starts in `data`, and at the end where the last row ends. -/
  rowPtr : List Nat
  numRow : Nat
  numCol : Nat
  deriving DecidableEq, Repr

namespace Csr

/-! ## §1. Building -/

/-- From this many rows on, the row starts cannot be held in memory. -/
def rowLimit : Nat := 0x800000000000000

/-- A column as the engine's word of 32 bits keeps it. -/
def columnWord (column : Nat) : Nat := column % 0x100000000

/-- The first `count` rows of a matrix of a given width. -/
def rowsOf (width : Nat) : (count : Nat) → List Binary32 → List (List Binary32)
  | 0, _ => []
  | count + 1, values => values.take width :: rowsOf width count (values.drop width)

/-- The values of a row that are present, each with its column. -/
def present (row : List Binary32) : List (Binary32 × Nat) :=
  (row.zipIdx.filter (fun cell => !cell.1.isNaN)).map (fun cell => (cell.1, columnWord cell.2))

/-- Where rows of given lengths start, the first one at `start`, and where the last ends. -/
def starts (start : Nat) : (lengths : List Nat) → List Nat
  | [] => [start]
  | length :: rest => start :: starts (start + length) rest

/-- The matrix whose rows hold the given cells. -/
def ofRows (rows : List (List (Binary32 × Nat))) (numRow numCol : Nat) : Csr where
  data := rows.flatMap (·.map (·.1))
  colInd := rows.flatMap (·.map (·.2))
  rowPtr := starts 0 (rows.map (·.length))
  numRow := numRow
  numCol := numCol

/-- Refuses a matrix whose arrays do not fit each other. -/
def checked (m : Csr) : Except Fault Csr :=
  if m.data.length ≠ m.colInd.length
      ∨ m.data.length ≠ m.rowPtr.getLastD 0
      ∨ m.rowPtr.length ≠ m.numRow + 1 then
    .error (.precondition ("malformed CSR matrix: " ++ toString m.data.length ++ " values, "
      ++ toString m.colInd.length ++ " column indices, " ++ toString m.rowPtr.length
      ++ " row pointers for " ++ toString m.numRow ++ " rows"))
  else .ok m

/-- The sparse form of a dense matrix of `numRow` rows and `denseCols` columns, given row
after row, with declared width `numCol`.  Values past the last row are ignored. -/
def ofDense (values : List Binary32) (numRow denseCols numCol : Nat) : Except Fault Csr :=
  if numCol < denseCols then
    .error (.shapeMismatch 1
      (toString denseCols ++ " columns exceed declared width " ++ toString numCol))
  else if wordLimit ≤ numRow * denseCols then
    .error (.shapeMismatch 0
      (toString numRow ++ " x " ++ toString denseCols ++ " elements overflow"))
  else if values.length < numRow * denseCols then
    -- As many bytes as a word can tell, if the values need more.
    .error (.bufferTooSmall (min (numRow * denseCols * floatBytes) (wordLimit - 1))
      (values.length * floatBytes))
  else if rowLimit ≤ numRow then
    .error (.shapeMismatch 0 ("cannot index " ++ toString numRow ++ " rows"))
  else
    checked (ofRows ((rowsOf denseCols numRow values).map present) numRow numCol)

/-! ## §2. Reading -/

/-- The entries of a list from `start` up to `stop`, when both lie in it. -/
def slice? {α : Type} (l : List α) (start stop : Nat) : Option (List α) :=
  if start ≤ stop ∧ stop ≤ l.length then some ((l.drop start).take (stop - start)) else none

/-- The values present in row `i` and their columns; nothing past the last row. -/
def row? (m : Csr) (i : Nat) : Option (List Binary32 × List Nat) := do
  let start ← m.rowPtr[i]?
  let stop ← m.rowPtr[i + 1]?
  return (← slice? m.data start stop, ← slice? m.colInd start stop)

end Csr

end ModelAdapter
