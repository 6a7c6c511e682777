import ModelAdapter.Proofs.Hexagon.InputBuffer
import ModelAdapter.Proofs.Treelite.Readiness

/-! # Outputs as values and outputs as bytes

An output can be copied into a buffer of the caller, and it can be read as float32
values.  The second goes by way of the first: a buffer of zeros is set aside, with four
bytes for each element, the output is copied into it, and what it then holds is taken
for values.  So there are values to read when that copy succeeds (`ReadsWhenCopied`),
and they are those of the output when it fills the buffer (`ReadsWhole`): no value comes
from the zeros then, and a caller who copies the output into a buffer of that size gets
the bytes of the same values, whatever the buffer held before.

  * The tree-ensemble engine has float32 outputs only, and its outputs are always read
    whole.
  * The DSP engine describes an output by its elements and by its bytes, and neither
    bounds the other.  An output with more than four bytes for each element is refused.
    One with fewer, as quantized outputs have, is read together with the zeros behind
    it (`Padded`); it is read whole exactly when it has four bytes for each element.
-/

namespace ModelAdapter

/-! ## §1. Reading by way of copying -/

/-- What is read as values is what is copied out: a buffer of their size holds their bytes
afterwards, whatever it held before. -/
def ReadsWhole (floats : Except Fault (List Binary32))
    (copy : List UInt8 → Except Fault Unit × List UInt8) : Prop :=
  ∀ values, floats = .ok values → ∀ buffer, buffer.length = values.length * floatBytes →
    copy buffer = (.ok (), Binary32.encode values)

/-- There are values to read when the size is known and a copy succeeds into a buffer with room for
that many. -/
def ReadsWhenCopied (floats : Except Fault (List Binary32)) (size : Except Fault Int)
    (copy : List UInt8 → Except Fault Unit × List UInt8) : Prop :=
  (∃ values, floats = .ok values) ↔ ∃ n : Nat, size = .ok (n : Int) ∧
    ∀ buffer, buffer.length = wrap (n * floatBytes) → (copy buffer).1 = .ok ()

section
variable {index : Nat} {size : Except Fault Int} {read : Nat → Except Fault (List UInt8)}
  {values : List Binary32} {bytes : List UInt8}

theorem readsWhenCopied_readFloats :
    ReadsWhenCopied (readFloats index size read) size
      (fun buffer => copyOut (read buffer.length) buffer) := by
  constructor
  · rintro ⟨values, h⟩
    obtain ⟨n, bytes, hsize, hlength, hread, -⟩ := readFloats_inv h
    refine ⟨n, hsize, ?_⟩
    intro buffer hbuffer
    rw [← hlength] at hbuffer
    simp only [hbuffer, hread, copyOut]
  · -- A copy into a buffer of the right length shows that the bytes can be read.
    rintro ⟨n, rfl, hcopy⟩
    have hcopied := hcopy (List.replicate (wrap (n * floatBytes)) 0) List.length_replicate
    simp only [List.length_replicate] at hcopied
    have hnonneg : ¬ (n : Int) < 0 := by omega
    cases hread : read (wrap (n * floatBytes)) with
    | error fault =>
      rw [hread] at hcopied
      cases hcopied
    | ok bytes =>
      simp only [readFloats, bind, Except.bind, hnonneg, if_false, Int.toNat_natCast, hread]
      exact ⟨_, rfl⟩

/-- Reading whole means that what is copied fills the buffer: only then does nothing depend on what
the buffer held before. -/
theorem readsWhole_iff (h : readFloats index size read = .ok values)
    (hread : read (values.length * floatBytes) = .ok bytes) :
    ReadsWhole (readFloats index size read) (fun buffer => copyOut (read buffer.length) buffer) ↔
      values.length * floatBytes ≤ bytes.length := by
  obtain ⟨_, bytes', -, -, hread', hencode⟩ := readFloats_inv h
  cases hread.symm.trans hread'
  constructor
  · intro hwhole
    by_contra hshort
    have hfits : bytes.length ≤ values.length * floatBytes := by omega
    -- A buffer of ones keeps its end, where the values have zeros.
    have hones := hwhole values h (List.replicate (values.length * floatBytes) 1)
      List.length_replicate
    simp only [List.length_replicate, hread, copyOut, Prod.mk.injEq, true_and] at hones
    rw [hencode, overwrite_replicate 0 hfits, overwrite_replicate 1 hfits,
      List.append_cancel_left_eq, List.replicate_inj] at hones
    have hsame : values.length * floatBytes - bytes.length = 0 ∨ (1 : UInt8) = 0 := hones.2
    rcases hsame with hnone | habsurd
    · omega
    · exact absurd habsurd (by decide)
  · intro hfills values' hvalues' buffer hbuffer
    cases h.symm.trans hvalues'
    generalize hzeros : List.replicate (values.length * floatBytes) (0 : UInt8) = zeros at hencode
    have hlength : zeros.length = values.length * floatBytes := by
      rw [← hzeros, List.length_replicate]
    rw [overwrite_of_le_length (by omega), hlength, ← hbuffer] at hencode
    rw [← hbuffer] at hread hfills
    simp only [hread, copyOut]
    rw [overwrite_of_le_length hfills, hencode]

end

/-! ## §2. Outputs of the tree-ensemble engine -/

namespace Treelite

variable {m : Model}

/-- What can be copied is the start of the output buffer, for the one output there is. -/
theorem outputBytes_inv {index length : Nat} {bytes : List UInt8}
    (h : m.outputBytes index length = .ok bytes) :
    index = 0 ∧ m.outputReady = true ∧ ∃ input, m.input = some input ∧
      bytes = Binary32.encode
        (m.output.take (wrap (input.matrix.numRow * m.schema.outputWidth))) := by
  obtain ⟨_, hindex, h⟩ := exists_of_bind_eq_ok h
  have hzero : index = 0 := by
    by_contra hother
    have hpast : 1 ≤ index := by omega
    simp [checkIndex, hpast] at hindex
  -- Each check in turn: the input, the run, and the length of the buffer.
  cases hset : m.input with
  | none =>
    rw [hset] at h
    cases h
  | some input =>
    simp only [hset] at h
    cases hready : m.outputReady with
    | false =>
      rw [hready] at h
      cases h
    | true =>
      simp only [hready, Bool.not_true, Bool.false_eq_true, if_false] at h
      split at h
      · cases h
      · exact ⟨hzero, rfl, input, rfl, (Except.ok.inj h).symm⟩

/-- Outputs are read whole by a model whose output buffer has a slot for all that is read. -/
theorem readsWhole_of_filled (hfilled : Filled m)
    (hwidth : m.schema.outputWidth ≤ m.schema.numOutputGroup)
    (hslots : ∀ rows, m.numRow? = some rows → rows * m.schema.numOutputGroup < wordLimit)
    (index : Nat) : ReadsWhole (m.getOutputFloats index) (m.getOutput index) := by
  intro values hvalues
  obtain ⟨n, bytes, hsize, hlength, hread, -⟩ := readFloats_inv hvalues
  obtain ⟨rfl, hready, input, hset, hbytes⟩ := outputBytes_inv hread
  have hfits : input.matrix.numRow * m.schema.numOutputGroup < wordLimit := by
    apply hslots
    rw [Model.numRow?, hset]
    rfl
  have hcount : wrap (input.matrix.numRow * m.schema.outputWidth)
      = input.matrix.numRow * m.schema.outputWidth := by
    have hle := Nat.mul_le_mul_left input.matrix.numRow hwidth
    exact wrap_of_lt (by omega)
  -- The size is that of the values read, since as a signed number it is not negative.
  have hn : n = input.matrix.numRow * m.schema.outputWidth := by
    have hsigned : m.sizeOf m.schema.outputWidth = (n : Int) := Except.ok.inj hsize
    simp only [Model.sizeOf, Model.numRow?, hset, Option.map_some, Option.getD_some] at hsigned
    rw [eq_wrap_of_signed hsigned, hcount, hcount]
  have hfills : values.length * floatBytes ≤ bytes.length := by
    rw [hbytes, Binary32.length_encode, hcount, length_read hset hready hfilled hwidth hfits,
      hlength, hn]
    exact Nat.mod_le _ _
  exact (readsWhole_iff hvalues hread).mpr hfills values hvalues

end Treelite

/-! ## §3. Outputs of the DSP engine -/

namespace Hexagon

variable {m : Model}

/-- The output buffer has room for every output. -/
def Housed (m : Model) : Prop :=
  ∀ session address, m.session = some session → session.output = some address →
    ∀ spec ∈ m.outputs, spec.bytes ≤ (m.memory address).length

/-- Values that were read of an output are those of its tensor and of the zeros behind it.  A copy
of the output has the tensor only, and the rest of the caller's buffer stays. -/
structure Padded (m : Model) (index : Nat) (values : List Binary32) (spec : TensorSpec)
    (tensor : List UInt8) : Prop where
  described : m.outputs[index]? = some spec
  held : ∃ session address, m.session = some session ∧ session.output = some address ∧
    tensor = (m.memory address).take spec.bytes
  complete : tensor.length = spec.bytes
  sized : values.length * floatBytes = wrap (spec.size * floatBytes)
  fits : spec.bytes ≤ values.length * floatBytes
  encoded : Binary32.encode values
    = tensor ++ List.replicate (values.length * floatBytes - spec.bytes) 0
  copied : ∀ buffer, buffer.length = values.length * floatBytes →
    m.getOutput index buffer = (.ok (), tensor ++ buffer.drop spec.bytes)

theorem outputSpec_inv {index : Nat} {spec : TensorSpec} (h : m.outputSpec index = .ok spec) :
    m.outputs[index]? = some spec := by
  unfold Model.outputSpec at h
  split at h
  case h_1 spec' hspec =>
    rw [hspec, Except.ok.inj h]
  case h_2 => cases h

/-- What can be copied is the start of the output buffer, when the caller's buffer has room. -/
theorem outputBytes_inv {index length : Nat} {bytes : List UInt8}
    (h : m.outputBytes index length = .ok bytes) :
    ∃ spec session address, m.outputSpec index = .ok spec ∧ spec.bytes ≤ length ∧
      m.session = some session ∧ session.output = some address ∧
      bytes = (m.memory address).take spec.bytes := by
  obtain ⟨spec, hspec, h⟩ := exists_of_bind_eq_ok h
  obtain ⟨_, hlength, h⟩ := exists_of_bind_eq_ok h
  obtain ⟨session, hlive, h⟩ := exists_of_bind_eq_ok h
  obtain ⟨address, hpresent, h⟩ := exists_of_bind_eq_ok h
  exact ⟨spec, session, address, hspec, checkLength_inv hlength, liveSession_inv hlive,
    present_inv hpresent, (Except.ok.inj h).symm⟩

/-- Outputs that have room in the output buffer are read with the zeros behind them, and they are
read whole when there are none. -/
theorem padded_of_housed (hhoused : Housed m) {index : Nat} {values : List Binary32}
    (h : m.getOutputFloats index = .ok values) :
    ∃ spec tensor, Padded m index values spec tensor ∧
      (ReadsWhole (m.getOutputFloats index) (m.getOutput index) ↔
        spec.bytes = wrap (spec.size * floatBytes)) := by
  obtain ⟨n, bytes, hsize, hlength, hread, hencode⟩ := readFloats_inv h
  obtain ⟨spec, session, address, hspec, hfits, hlive, houtput, hbytes⟩ := outputBytes_inv hread
  have hdescribed : m.outputs[index]? = some spec := outputSpec_inv hspec
  -- The buffer has room for the output, so nothing is missing at its end.
  have hcomplete : bytes.length = spec.bytes := by
    rw [hbytes]
    exact List.length_take_of_le
      (hhoused session address hlive houtput spec (List.mem_of_getElem? hdescribed))
  -- As many values as the size says: it is not negative, and its product was cut to a word.
  have hsized : values.length * floatBytes = wrap (spec.size * floatBytes) := by
    have hsigned : signed spec.size = (n : Int) := by
      rw [Model.outputSize, hspec] at hsize
      exact Except.ok.inj hsize
    rw [hlength, eq_wrap_of_signed hsigned, wrap_wrap_mul]
  have hwhole : ReadsWhole (m.getOutputFloats index) (m.getOutput index) ↔
      values.length * floatBytes ≤ bytes.length := readsWhole_iff h hread
  refine ⟨spec, bytes, ⟨hdescribed, ⟨session, address, hlive, houtput, hbytes⟩, hcomplete, hsized,
    hfits, ?_, ?_⟩, ?_⟩
  · rw [hencode, overwrite_replicate 0 (by omega), hcomplete]
  · intro buffer hbuffer
    have hroom : bytes.length ≤ buffer.length := by omega
    rw [← hbuffer] at hread
    simp only [Model.getOutput, hread, copyOut]
    rw [overwrite_of_length_le hroom, hcomplete]
  · rw [hwhole, hcomplete, ← hsized]
    omega

end Hexagon

/-! ## §4. Whole sessions -/

/-- **Values are copied bytes.**  Whatever the engine replies and whatever the operations were:

  * there are values to read of an output when it can be copied into a buffer of their size;
  * the outputs of a model of the tree-ensemble engine are read whole, as long as the slots of the
    output buffer can be counted in a word;
  * the outputs of a model of the DSP engine that have room in the output buffer are read with the
    zeros behind them, and are read whole exactly when they have four bytes for each element. -/
theorem floats_are_copied {σ τ : Type} (E : Engine Treelite.interface σ) (engine : σ)
    (F : Engine Hexagon.interface τ) (engine' : τ) (device : Device) :
    (∀ (artifact : Treelite.Artifact) (threads : Int32) (operations : List Operation),
      let (l, _) := (Treelite.lifecycle artifact device threads).life operations E (.start engine)
      ∀ m, l.model = .ok m →
        (∀ index, ReadsWhenCopied (m.getOutputFloats index) (m.outputSize index)
          (m.getOutput index)) ∧
        ((∀ rows, m.numRow? = some rows → rows * m.schema.numOutputGroup < wordLimit) →
          ∀ index, ReadsWhole (m.getOutputFloats index) (m.getOutput index))) ∧
    (∀ (artifact : Hexagon.Artifact) (debugLevel : Int32) (operations : List Operation),
      let (l, _) :=
        (Hexagon.lifecycle artifact device debugLevel).life operations F (.start engine')
      ∀ m, l.model = .ok m →
        (∀ index, ReadsWhenCopied (m.getOutputFloats index) (m.outputSize index)
          (m.getOutput index)) ∧
        (Hexagon.Housed m → ∀ index values, m.getOutputFloats index = .ok values →
          ∃ spec tensor, Hexagon.Padded m index values spec tensor ∧
            (ReadsWhole (m.getOutputFloats index) (m.getOutput index) ↔
              spec.bytes = wrap (spec.size * floatBytes)))) := by
  constructor
  · -- Whatever happened, the slots of a readable output fit its width.
    intro artifact threads operations
    have h := Treelite.life_lived E engine artifact device threads operations
    generalize (Treelite.lifecycle artifact device threads).life operations E (.start engine) = r
      at h ⊢
    obtain ⟨l, w⟩ := r
    obtain ⟨-, hlived⟩ := h
    intro m hm
    obtain ⟨-, hfilled, hwidth⟩ := Treelite.knows_of_lived hlived hm
    exact ⟨fun _ => readsWhenCopied_readFloats, Treelite.readsWhole_of_filled hfilled hwidth⟩
  · intro artifact debugLevel operations m _
    refine ⟨fun _ => readsWhenCopied_readFloats, ?_⟩
    intro hhoused index values hvalues
    exact Hexagon.padded_of_housed hhoused hvalues

/-- A script of a model with one input of four bytes and one output. -/
def oneOutput (spec : Hexagon.TensorSpec) (output : List UInt8) :
    Hexagon.Script Hexagon.Script.Described where
  inputs := [.ok (some ⟨"x", 1, [4], 4, 4⟩)]
  outputs := [.ok (some spec)]
  input := [0, 0, 0, 0]
  output := output
  log := []
  logStatus := 0
  initStatus := 0
  graph := 1
  exec := []
  nullInput := false
  nullOutput := false
  endStatus := 1

/-- A row of the tree-ensemble engine is read whole, and so are two float32 elements of eight
bytes. -/
theorem float_outputs_are_whole :
    (let (l, _) := (Treelite.lifecycle ⟨"model.so", none⟩ .cpu (-1)).life
        [.setInputFloats "data" [1, 1] [⟨0x3F800000⟩], .run]
        (Treelite.Script.direct { schema := ⟨1, 2, 1⟩, failures := fun _ => [] }) (.start .start)
      ∃ m, l.model = .ok m ∧ m.getOutputFloats 0 = .ok [⟨0x3F800000⟩] ∧
        ReadsWhole (m.getOutputFloats 0) (m.getOutput 0)) ∧
    (let (l, _) := (Hexagon.lifecycle ⟨".", "m_hexagon_model.so", none⟩ .cpu 0).life
        [.setInput "x" [4] [0xFF, 0xFF, 0x7F, 0x3E], .run]
        (oneOutput ⟨"y", 1, [2], 8, 2⟩ [0, 0, 0, 0, 0, 0, 0, 0x40]).direct (.start 0)
      ∃ m, l.model = .ok m ∧ Hexagon.Housed m ∧
        m.getOutputFloats 0 = .ok [⟨0x3F800000⟩, ⟨0x40000000⟩] ∧
        ReadsWhole (m.getOutputFloats 0) (m.getOutput 0)) := by
  have h := floats_are_copied
    (Treelite.Script.direct { schema := ⟨1, 2, 1⟩, failures := fun _ => [] }) .start
    (oneOutput ⟨"y", 1, [2], 8, 2⟩ [0, 0, 0, 0, 0, 0, 0, 0x40]).direct 0 .cpu
  constructor
  · -- One row has two slots, and of these one is read.
    have hslots : ∀ m : Treelite.Model, m.schema = ⟨1, 2, 1⟩ → m.numRow? = some 1 →
        ∀ rows, m.numRow? = some rows → rows * m.schema.numOutputGroup < wordLimit := by
      intro m hschema hone rows hrows
      cases hrows.symm.trans hone
      rw [hschema]
      decide
    obtain ⟨-, hwhole⟩ := h.1 _ _ [.setInputFloats "data" [1, 1] [⟨0x3F800000⟩], .run] _ rfl
    exact ⟨_, rfl, by decide, hwhole (hslots _ rfl rfl) 0⟩
  · -- The output buffer holds the eight bytes of the one output.
    have hhoused : ∀ m : Hexagon.Model, m.outputs = [⟨"y", 1, [2], 8, 2⟩] →
        m.session = some ⟨1, some Hexagon.Script.inputAddress, some Hexagon.Script.outputAddress⟩ →
        (m.memory Hexagon.Script.outputAddress).length = 8 → Hexagon.Housed m := by
      intro m houtputs hlive hlength session address hlive' haddress spec hspec
      cases hlive.symm.trans hlive'
      cases haddress
      rw [houtputs, List.mem_singleton] at hspec
      rw [hspec, hlength]
    obtain ⟨-, hpads⟩ := h.2 _ _ [.setInput "x" [4] [0xFF, 0xFF, 0x7F, 0x3E], .run] _ rfl
    obtain ⟨spec, _, hpadded, hwhole⟩ := hpads (hhoused _ rfl rfl rfl) 0
      [⟨0x3F800000⟩, ⟨0x40000000⟩] (by rfl)
    have hspec : spec = ⟨"y", 1, [2], 8, 2⟩ := (Option.some.inj hpadded.described).symm
    subst hspec
    exact ⟨_, rfl, hhoused _ rfl rfl rfl, by rfl, hwhole.mpr (by decide)⟩

/-- Four elements of a byte each, behind which a caller's copy keeps what was there while the values
have zeros. -/
theorem padded_floats_are_not_copied :
    let (l, _) := (Hexagon.lifecycle ⟨".", "m_hexagon_model.so", none⟩ .cpu 0).life
      [.setInput "x" [4] [0xFF, 0xFF, 0x7F, 0x3E], .run]
      (oneOutput ⟨"y", 1, [4], 4, 4⟩ [0, 0, 0, 0]).direct (.start 0)
    ∃ m, l.model = .ok m ∧
      m.getOutputFloats 0 = .ok [⟨0x3F800000⟩, ⟨0⟩, ⟨0⟩, ⟨0⟩] ∧
      m.getOutput 0 (List.replicate 16 0xAA)
        = (.ok (), [0, 0, 0x80, 0x3F] ++ List.replicate 12 0xAA) ∧
      ¬ ReadsWhole (m.getOutputFloats 0) (m.getOutput 0) := by
  refine ⟨_, rfl, rfl, rfl, ?_⟩
  intro hwhole
  have hcopied := hwhole _ rfl (List.replicate 16 0xAA) rfl
  cases hcopied

end ModelAdapter
