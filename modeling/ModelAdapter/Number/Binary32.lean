/-! # float32 values

A float32 value is its bit pattern: what an engine is given is what the caller
gave, bit for bit, and the only question asked of a value is whether it is a NaN.

Values travel in byte buffers as four bytes each, the least significant first.

  * Decoding undoes encoding (`decode_encode`), and encoding undoes decoding but for up
    to three bytes at the end (`encode_decode_take`).
-/

namespace ModelAdapter

/-- A float32 value, as its bit pattern. -/
structure Binary32 where
  bits : UInt32
  deriving DecidableEq, Repr

namespace Binary32

def zero : Binary32 := ⟨0⟩

instance : Inhabited Binary32 := ⟨zero⟩

/-- A NaN has the greatest exponent and a fraction other than zero. -/
def isNaN (v : Binary32) : Bool :=
  0x7F800000 < v.bits &&& 0x7FFFFFFF

/-! ## Bytes -/

def toBytes (v : Binary32) : List UInt8 :=
  let n := v.bits.toNat
  [UInt8.ofNat n, UInt8.ofNat (n / 0x100), UInt8.ofNat (n / 0x10000), UInt8.ofNat (n / 0x1000000)]

def ofBytes (a b c d : UInt8) : Binary32 :=
  ⟨UInt32.ofNat (a.toNat + 0x100 * b.toNat + 0x10000 * c.toNat + 0x1000000 * d.toNat)⟩

/-- The bytes of a sequence of values. -/
def encode (values : List Binary32) : List UInt8 :=
  values.flatMap toBytes

/-- The values in a sequence of bytes; up to three bytes at its end make no value. -/
def decode : List UInt8 → List Binary32
  | a :: b :: c :: d :: rest => ofBytes a b c d :: decode rest
  | _ => []

theorem decode_toBytes_append (v : Binary32) (rest : List UInt8) :
    decode (v.toBytes ++ rest) = v :: decode rest := by
  obtain ⟨bits⟩ := v
  simp only [toBytes, List.cons_append, List.nil_append, decode, ofBytes, List.cons.injEq,
    Binary32.mk.injEq, and_true, UInt8.toNat_ofNat']
  apply UInt32.toNat_inj.mp
  have h := bits.toNat_lt
  rw [UInt32.toNat_ofNat']
  omega

theorem encode_cons (v : Binary32) (rest : List Binary32) :
    encode (v :: rest) = v.toBytes ++ encode rest :=
  List.flatMap_cons

@[simp] theorem length_encode (values : List Binary32) :
    (encode values).length = values.length * 4 := by
  induction values with
  | nil => rfl
  | cons v rest ih =>
      rw [encode_cons, List.length_append, ih, List.length_cons, Nat.succ_mul, Nat.add_comm]
      rfl

theorem decode_encode (values : List Binary32) : decode (encode values) = values := by
  induction values with
  | nil => rfl
  | cons v rest ih =>
      rw [encode_cons, decode_toBytes_append]
      exact congrArg _ ih

/-- The bytes of a value are the ones it was made of. -/
theorem toBytes_ofBytes (a b c d : UInt8) : (ofBytes a b c d).toBytes = [a, b, c, d] := by
  have ha := a.toNat_lt
  have hb := b.toNat_lt
  have hc := c.toNat_lt
  have hd := d.toNat_lt
  -- The bytes are the digits of the word in base 256, the lowest first.
  have hword : (ofBytes a b c d).bits.toNat
      = a.toNat + 0x100 * b.toNat + 0x10000 * c.toNat + 0x1000000 * d.toNat := by
    simp only [ofBytes, UInt32.toNat_ofNat']
    omega
  simp only [toBytes, hword, List.cons.injEq, and_true]
  refine ⟨?_, ?_, ?_, ?_⟩ <;>
    · apply UInt8.toNat_inj.mp
      simp only [UInt8.toNat_ofNat']
      omega

theorem length_lt_four {bytes : List UInt8}
    (h : ∀ a b c d rest, bytes = a :: b :: c :: d :: rest → False) : bytes.length < 4 := by
  rcases bytes with _ | ⟨a, _ | ⟨b, _ | ⟨c, _ | ⟨d, rest⟩⟩⟩⟩
  case cons.cons.cons.cons => exact (h a b c d rest rfl).elim
  all_goals
    simp only [List.length_cons, List.length_nil]
    omega

/-- There is a value for every four bytes. -/
theorem length_decode (bytes : List UInt8) : (decode bytes).length = bytes.length / 4 := by
  fun_induction decode bytes with
  | case1 a b c d rest ih =>
      simp only [List.length_cons, ih]
      omega
  | case2 bytes hshort => rw [Nat.div_eq_of_lt (length_lt_four hshort), List.length_nil]

/-- Values are encoded as the bytes they were read from; up to three bytes at the end made no
value. -/
theorem encode_decode_take (bytes : List UInt8) :
    encode (decode bytes) = bytes.take (bytes.length / 4 * 4) := by
  fun_induction decode bytes with
  | case1 a b c d rest ih =>
      have hlength : (a :: b :: c :: d :: rest).length / 4 * 4 = rest.length / 4 * 4 + 4 := by
        simp only [List.length_cons]
        omega
      rw [hlength, encode_cons, toBytes_ofBytes, ih]
      rfl
  | case2 bytes hshort =>
      rw [Nat.div_eq_of_lt (length_lt_four hshort), Nat.zero_mul, List.take_zero]
      rfl

/-- Bytes that make whole values are the bytes of these. -/
theorem encode_decode {bytes : List UInt8} {n : Nat} (h : bytes.length = n * 4) :
    encode (decode bytes) = bytes := by
  have hwhole : bytes.length / 4 * 4 = bytes.length := by omega
  rw [encode_decode_take, hwhole, List.take_length]

/-- The first bytes of an encoding are those of the first values. -/
theorem encode_take (values : List Binary32) (n : Nat) :
    encode (values.take n) = (encode values).take (n * 4) := by
  induction values generalizing n with
  | nil => simp [encode]
  | cons v rest ih =>
      cases n with
      | zero => simp [encode]
      | succ n =>
          have hbytes : (n + 1) * 4 = v.toBytes.length + n * 4 := by
            rw [Nat.succ_mul, Nat.add_comm]
            rfl
          rw [List.take_succ_cons, encode_cons, encode_cons, ih, hbytes,
            List.take_length_add_append]

end Binary32

end ModelAdapter
