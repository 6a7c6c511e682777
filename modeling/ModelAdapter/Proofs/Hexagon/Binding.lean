import ModelAdapter.Hexagon.Script
import ModelAdapter.Proofs.Hexagon.Matching
import ModelAdapter.Proofs.Text.Utf8

/-! # The DSP engine through its C functions

A script can be followed behind the interface or behind the C functions.  When the
two scripts say the same (`Script.Corresponds`), a model cannot tell which of them it
has: the binding gives the same replies, with one call of a C function for each call.

  * **Descriptions**: what a tensor is known by on one side is written to memory on
    the other (`Writes`), and it is read back as it was (`readSpec_of_writes`).
  * **The binding** keeps in step with the script (`binding_inStep`).
-/

namespace ModelAdapter.Hexagon

/-! ## §1. Scripts that say the same -/

/-- A description stands in memory: its name as a C string, and each number as it is, so that none
of them may be negative or past the range of a word.  A tensor of rank 0 needs no extents. -/
structure Writes (spec : TensorSpec) (raw : Abi.RawSpec) : Prop where
  name : ∃ bytes, raw.name = some bytes ∧ Utf8.Spells bytes spec.name
  rank : spec.dim = spec.shape.length
  dim : raw.dim.toInt = spec.dim
  size : raw.size.toInt = spec.size
  bytes : raw.bytes.toInt = spec.bytes
  shape : (raw.shape = none ∧ spec.shape = []) ∨
    ∃ extents rest, raw.shape = some (extents ++ rest) ∧ extents.map (·.toInt) = spec.shape

theorem natural_of_toInt {what : String} {raw : Int32} {n : Nat} (h : raw.toInt = n) :
    natural what raw = .ok n := by
  have hnonneg : ¬ raw < 0 := by
    rw [Int32.lt_iff_toInt_lt, h]
    simp
  rw [natural, if_neg hnonneg, h, Int.toNat_natCast]

/-- **A description** is read as it was written. -/
theorem readSpec_of_writes {spec : TensorSpec} {raw : Abi.RawSpec} (h : Writes spec raw) :
    readSpec raw = .ok spec := by
  obtain ⟨name, hname, hspells⟩ := h.name
  obtain ⟨specName, dim, shape, bytes, size⟩ := spec
  have hdim := h.dim
  have hrank := h.rank
  have hsize := h.size
  have hbytes := h.bytes
  simp only at hdim hrank hsize hbytes hspells
  unfold readSpec
  rw [hname]
  simp only [natural_of_toInt hdim, natural_of_toInt hsize, natural_of_toInt hbytes,
    Utf8.decode_of_spells hspells, bind, Except.bind]
  -- Without extents the pointer to them is null, and else there are as many as the rank says.
  rcases h.shape with ⟨hnull, hnone⟩ | ⟨extents, rest, hextents, hshape⟩
  · simp only at hnone
    subst hnone
    simp [hnull, hrank, pure, Except.pure]
  · simp only at hshape
    subst hshape
    rw [List.length_map] at hrank
    simp [hextents, hrank, pure, Except.pure]

namespace Script

/-- What is said of a tensor on the two sides: there is none, and the status says so; or it is
described, and the description stands in memory. -/
inductive Describes : Described → Int32 × Abi.RawSpec → Prop
  | absent {status : Int32} (raw : Abi.RawSpec) (failed : status ≠ 0) :
      Describes (.ok none) (status, raw)
  | described {spec : TensorSpec} {raw : Abi.RawSpec} (writes : Writes spec raw) :
      Describes (.ok (some spec)) (0, raw)

/-- Two scripts of one engine, for the interface and for the C functions. -/
structure Corresponds (s : Script Described) (c : Script (Int32 × Abi.RawSpec)) : Prop where
  inputs : ∀ id, Describes (s.inputs.getD id (.ok none)) (c.inputs.getD id (c.endStatus, unwritten))
  outputs : ∀ id,
    Describes (s.outputs.getD id (.ok none)) (c.outputs.getD id (c.endStatus, unwritten))
  /-- Apart from the descriptions it is one script. -/
  rest : { c with inputs := s.inputs, outputs := s.outputs, endStatus := s.endStatus } = s

end Script

/-! ## §2. The binding -/

/-- The C function call that a call comes to. -/
def Call.toAbi : Call → Abi.Call
  | .init debugLevel => .init debugLevel
  | .exec session memory => .exec session.graph session.input session.output memory
  | .close graph => .close graph
  | .readLog graph capacity => .getLog graph capacity
  | .inputSpec id => .inputSpec id
  | .outputSpec id => .outputSpec id

/-- The C functions that were called. -/
def functions (xs : List (Exchange Abi.interface)) : List Abi.Call := xs.map (fun x => x.call)

theorem functions_append (xs ys : List (Exchange Abi.interface)) :
    functions (xs ++ ys) = functions xs ++ functions ys :=
  List.map_append

/-- The C side mirrors a script: it counts as many runs, and its functions were called as the script
was. -/
structure Mirrors (calls : List Call) (runs : Nat) (w : World Abi.interface Nat) : Prop where
  runs : w.engine = runs
  functions : functions w.exchanges = calls.map Call.toAbi

open Script

section
variable {s : Script Described} {c : Script (Int32 × Abi.RawSpec)} (hsame : Corresponds s c)

/-- A call of a C function that counts as many runs as the other side is mirrored. -/
theorem mirrors_of_called {calls : List Call} {runs : Nat} {w : World Abi.interface Nat}
    (hw : Mirrors calls runs w) (call : Call) (reply : Abi.Reply call.toAbi) (runs' : Nat) :
    Mirrors (calls ++ [call]) runs'
      { w with engine := runs', exchanges := w.exchanges ++ [⟨call.toAbi, reply⟩] } := by
  refine ⟨rfl, ?_⟩
  show Hexagon.functions (w.exchanges ++ [⟨call.toAbi, reply⟩]) = (calls ++ [call]).map Call.toAbi
  rw [functions_append, hw.functions, List.map_append]
  rfl

/-- What is said of a tensor behind the C functions is read as what is said behind the
interface. -/
theorem readAnswer_of_describes {said : Described} {written : Int32 × Abi.RawSpec}
    (h : Describes said written) : readAnswer written = said := by
  cases h with
  | absent raw hfailed => simp [readAnswer, hfailed]
  | described hwrites =>
    simp [readAnswer, readSpec_of_writes hwrites, Except.map]

include hsame

/-- **One call** is served with the reply of the other side. -/
theorem serve_mirrors {calls : List Call} {runs : Nat} {w : World Abi.interface Nat}
    (hw : Mirrors calls runs w) (call : Call) :
    let (reply, w') := serve call c.exported w
    reply = (s.direct.respond call runs).1 ∧
      Mirrors (calls ++ [call]) (s.direct.respond call runs).2 w' := by
  obtain ⟨engine, exchanges, events⟩ := w
  obtain rfl : engine = runs := hw.runs
  -- The descriptions are read from memory; all other replies are those of one script.
  obtain ⟨hinputs, houtputs, hrest⟩ := hsame
  cases call with
  | init debugLevel =>
    refine ⟨?_, mirrors_of_called hw (.init debugLevel) _ engine⟩
    rw [← hrest]
    rfl
  | exec session memory =>
    refine ⟨?_, mirrors_of_called hw (.exec session memory) _ (engine + 1)⟩
    rw [← hrest]
    rfl
  | close graph => exact ⟨rfl, mirrors_of_called hw (.close graph) _ engine⟩
  | readLog graph capacity =>
    refine ⟨?_, mirrors_of_called hw (.readLog graph capacity) _ engine⟩
    rw [← hrest]
    rfl
  | inputSpec id =>
    exact ⟨readAnswer_of_describes (hinputs id), mirrors_of_called hw (.inputSpec id) _ engine⟩
  | outputSpec id =>
    exact ⟨readAnswer_of_describes (houtputs id), mirrors_of_called hw (.outputSpec id) _ engine⟩

/-- **The binding** keeps in step with the script. -/
theorem binding_inStep : InStep s.direct (binding c.exported) AnyCall Mirrors where
  reply hmirrors _ := (serve_mirrors hsame hmirrors _).1.symm
  next hmirrors _ := (serve_mirrors hsame hmirrors _).2

end

theorem mirrors_start : Mirrors [] 0 (.start 0) :=
  ⟨rfl, rfl⟩

end ModelAdapter.Hexagon
