import Mathlib.Data.List.Induction
import ModelAdapter.Text.Utf8

/-! # Text that was encoded is read back

The reader of `Text/Utf8` never fails, and on the encoding of a text it gives the
text again.  A character is encoded as one to four bytes, and after the last one of
them the reader is between two sequences again, with the character read
(`foldl_step_char`).  A byte that has no place between two texts becomes a replacement
character, and costs neither of them anything (`decode_stray`).  A text without NUL has
no zero byte in its encoding, so it survives being handed over as a C string as well,
with whatever stands in memory behind its end (`decode_of_spells`).  And where the bytes
of a text end with those of another one, the text ends with that one
(`encode_suffix_iff`).
-/

namespace ModelAdapter.Utf8

/-! ## §1. The bytes of a character -/

/-- The byte that continues a sequence by six bits. -/
def trail (bits : Nat) : UInt8 := UInt8.ofNat (bits + 0x80)

theorem toNat_trail {bits : Nat} (h : bits < 64) : (trail bits).toNat = bits + 0x80 := by
  rw [trail, UInt8.toNat_ofNat']
  omega

theorem first_of_two : ∀ bits < 32, 2 ≤ bits →
    first (UInt8.ofNat (bits + 0xC0)) = .begin ⟨1, 0x80, 0xBF, bits⟩ := by
  decide

/-- The byte that begins a sequence of three.  The second byte is narrowed where there would be
overlong forms or surrogates. -/
theorem first_of_three : ∀ bits < 16, first (UInt8.ofNat (bits + 0xE0))
    = .begin ⟨2, if bits = 0 then 0xA0 else 0x80, if bits = 0xD then 0x9F else 0xBF, bits⟩ := by
  decide

/-- The byte that begins a sequence of four.  The second byte is narrowed where there would be
overlong forms or values past the last character. -/
theorem first_of_four : ∀ bits < 5, first (UInt8.ofNat (bits + 0xF0))
    = .begin ⟨3, if bits = 0 then 0x90 else 0x80, if bits = 4 then 0x8F else 0xBF, bits⟩ := by
  decide

theorem first_of_one : ∀ value < 128,
    first (UInt8.ofNat value) = .char (Char.ofNat value) := by
  decide

/-! ## §2. Reading a character -/

section
variable {done : List Char} {bits : Nat}

/-- A byte that begins a sequence is read as its beginning. -/
theorem step_first {b : UInt8} {q : Begun} (h : first b = .begin q) :
    step ⟨done, none⟩ b = ⟨done, some q⟩ := by
  simp only [step, restart, h]

theorem toNat_of_trail {low high : UInt8} (hbits : bits < 64) (hlow : low.toNat ≤ bits + 0x80)
    (hhigh : bits + 0x80 ≤ high.toNat) :
    (low ≤ trail bits ∧ trail bits ≤ high) ∧ (trail bits).toNat - 0x80 = bits := by
  rw [UInt8.le_iff_toNat_le, UInt8.le_iff_toNat_le, toNat_trail hbits]
  exact ⟨⟨hlow, hhigh⟩, Nat.add_sub_cancel _ _⟩

theorem range_of_trail (hbits : bits < 64) :
    (0x80 : UInt8).toNat ≤ bits + 0x80 ∧ bits + 0x80 ≤ (0xBF : UInt8).toNat :=
  ⟨Nat.le_add_left _ _, Nat.add_le_add_right (Nat.le_of_lt_succ hbits) _⟩

/-- A byte of a sequence continues it when others are owed after it. -/
theorem step_next {low high : UInt8} {owed value : Nat} (hbits : bits < 64)
    (hlow : low.toNat ≤ bits + 0x80) (hhigh : bits + 0x80 ≤ high.toNat) :
    step ⟨done, some ⟨owed + 2, low, high, value⟩⟩ (trail bits)
      = ⟨done, some ⟨owed + 1, 0x80, 0xBF, value * 64 + bits⟩⟩ := by
  obtain ⟨hrange, hbyte⟩ := toNat_of_trail hbits hlow hhigh
  simp [step, hrange, hbyte]

/-- The last one gives the character. -/
theorem step_last {value : Nat} (hbits : bits < 64) :
    step ⟨done, some ⟨1, 0x80, 0xBF, value⟩⟩ (trail bits)
      = ⟨Char.ofNat (value * 64 + bits) :: done, none⟩ := by
  obtain ⟨hlow, hhigh⟩ := range_of_trail hbits
  obtain ⟨hrange, hbyte⟩ := toNat_of_trail hbits hlow hhigh
  simp [step, hrange, hbyte]

/-- A value below 2^11 is read from two bytes. -/
theorem foldl_step_two {v : Nat} (hlow : 0x80 ≤ v) (hhigh : v < 0x800) :
    [UInt8.ofNat (v / 64 % 32 + 0xC0), trail (v % 64)].foldl step ⟨done, none⟩
      = ⟨Char.ofNat v :: done, none⟩ := by
  have hlast : v % 64 < 64 := Nat.mod_lt v (by decide)
  have hvalue : v / 64 % 32 * 64 + v % 64 = v := by omega
  rw [List.foldl_cons, step_first (first_of_two (v / 64 % 32) (by omega) (by omega)),
    List.foldl_cons, step_last hlast, hvalue, List.foldl_nil]

/-- A value below 2^16 that is no surrogate is read from three bytes. -/
theorem foldl_step_three {v : Nat} (hlow : 0x800 ≤ v) (hhigh : v < 0x10000)
    (hvalid : v < 0xD800 ∨ 0xDFFF < v) :
    [UInt8.ofNat (v / 4096 % 16 + 0xE0), trail (v / 64 % 64), trail (v % 64)].foldl step
        ⟨done, none⟩
      = ⟨Char.ofNat v :: done, none⟩ := by
  have hnext : v / 64 % 64 < 64 := Nat.mod_lt _ (by decide)
  have hlast : v % 64 < 64 := Nat.mod_lt _ (by decide)
  have hvalue : (v / 4096 % 16 * 64 + v / 64 % 64) * 64 + v % 64 = v := by omega
  -- The second byte keeps to the narrowed range: the value is not below 2^11, and no surrogate.
  have habove : (if v / 4096 % 16 = 0 then (0xA0 : UInt8) else 0x80).toNat
      ≤ v / 64 % 64 + 0x80 := by
    split
    · simp
      omega
    · simp
  have hbelow : v / 64 % 64 + 0x80
      ≤ (if v / 4096 % 16 = 0xD then (0x9F : UInt8) else 0xBF).toNat := by
    split
    · simp
      omega
    · simp
      omega
  rw [List.foldl_cons, step_first (first_of_three (v / 4096 % 16) (by omega)),
    List.foldl_cons, step_next hnext habove hbelow, List.foldl_cons, step_last hlast, hvalue,
    List.foldl_nil]

/-- A value from 2^16 on is read from four bytes. -/
theorem foldl_step_four {v : Nat} (hlow : 0x10000 ≤ v) (hhigh : v < 0x110000) :
    [UInt8.ofNat (v / 262144 % 8 + 0xF0), trail (v / 4096 % 64), trail (v / 64 % 64),
        trail (v % 64)].foldl step ⟨done, none⟩
      = ⟨Char.ofNat v :: done, none⟩ := by
  have hsecond : v / 4096 % 64 < 64 := Nat.mod_lt _ (by decide)
  have hnext : v / 64 % 64 < 64 := Nat.mod_lt _ (by decide)
  have hlast : v % 64 < 64 := Nat.mod_lt _ (by decide)
  have hvalue : ((v / 262144 % 8 * 64 + v / 4096 % 64) * 64 + v / 64 % 64) * 64 + v % 64 = v := by
    omega
  obtain ⟨hlow', hhigh'⟩ := range_of_trail hnext
  -- The second byte keeps to the narrowed range: the value is not below 2^16, and not too large.
  have habove : (if v / 262144 % 8 = 0 then (0x90 : UInt8) else 0x80).toNat
      ≤ v / 4096 % 64 + 0x80 := by
    split
    · simp
      omega
    · simp
  have hbelow : v / 4096 % 64 + 0x80
      ≤ (if v / 262144 % 8 = 4 then (0x8F : UInt8) else 0xBF).toNat := by
    split
    · simp
      omega
    · simp
      omega
  rw [List.foldl_cons, step_first (first_of_four (v / 262144 % 8) (by omega)),
    List.foldl_cons, step_next hsecond habove hbelow, List.foldl_cons, step_next hnext hlow' hhigh',
    List.foldl_cons, step_last hlast, hvalue, List.foldl_nil]

/-- **A character** is read from its bytes. -/
theorem foldl_step_char (c : Char) :
    (String.utf8EncodeChar c).foldl step ⟨done, none⟩ = ⟨c :: done, none⟩ := by
  have hvalid : c.toNat < 0xD800 ∨ 0xDFFF < c.toNat ∧ c.toNat < 0x110000 := c.valid
  have hread : (String.utf8EncodeChar c).foldl step ⟨done, none⟩
      = ⟨Char.ofNat c.toNat :: done, none⟩ := by
    show (String.utf8EncodeChar c).foldl step _ = ⟨Char.ofNat c.val.toNat :: done, none⟩
    unfold String.utf8EncodeChar
    generalize hv : c.val.toNat = v
    have hv : c.toNat = v := hv
    rw [hv] at hvalid
    -- By the length of the sequence.
    by_cases hone : v ≤ 0x7F
    · rw [if_pos hone]
      simp only [List.foldl, step, restart, first_of_one v (by omega)]
    by_cases htwo : v ≤ 0x7FF
    · rw [if_neg hone, if_pos htwo]
      exact foldl_step_two (by omega) (by omega)
    by_cases hthree : v ≤ 0xFFFF
    · rw [if_neg hone, if_neg htwo, if_pos hthree]
      exact foldl_step_three (by omega) (by omega) (by omega)
    · rw [if_neg hone, if_neg htwo, if_neg hthree]
      exact foldl_step_four (by omega) (by omega)
  rw [hread, Char.ofNat_toNat]

end

/-! ## §3. Whole texts -/

/-- What has been read already makes no difference to how a byte is read. -/
theorem step_append (s : State) (done : List Char) (b : UInt8) :
    step ⟨s.done ++ done, s.begun⟩ b = ⟨(step s b).done ++ done, (step s b).begun⟩ := by
  -- The byte that breaks a sequence off is read like one between two sequences.
  have hrestart (read : List Char) :
      restart (read ++ done) b = ⟨(restart read b).done ++ done, (restart read b).begun⟩ := by
    unfold restart
    cases first b <;> rfl
  obtain ⟨read, begun⟩ := s
  cases begun with
  | none => exact hrestart read
  | some q =>
    simp only [step]
    split
    · split <;> rfl
    · exact hrestart (replacement :: read)

theorem foldl_step_append (bytes : List UInt8) (s : State) (done : List Char) :
    bytes.foldl step ⟨s.done ++ done, s.begun⟩
      = ⟨(bytes.foldl step s).done ++ done, (bytes.foldl step s).begun⟩ := by
  induction bytes generalizing s with
  | nil => rfl
  | cons b rest ih =>
    rw [List.foldl_cons, step_append, List.foldl_cons]
    exact ih (step s b)

/-- Bytes after which the reader is between two sequences are read by themselves. -/
theorem decodeChars_append {front : List UInt8} {read : List Char}
    (h : front.foldl step ⟨[], none⟩ = ⟨read.reverse, none⟩) (rest : List UInt8) :
    decodeChars (front ++ rest) = read ++ decodeChars rest := by
  have hrest := foldl_step_append rest ⟨[], none⟩ read.reverse
  rw [List.nil_append] at hrest
  rw [decodeChars, decodeChars, List.foldl_append, h, hrest]
  obtain ⟨done, begun⟩ := rest.foldl step ⟨[], none⟩
  cases begun <;> simp [finish]

/-- **An encoded text** is read back, whatever follows it. -/
theorem decode_encode_append (text : String) (rest : List UInt8) :
    decode (encode text ++ rest) = text ++ decode rest := by
  -- From one character to the next the reader is between two sequences.
  have hread : ∀ (chars : List Char) (done : List Char),
      (chars.flatMap String.utf8EncodeChar).foldl step ⟨done, none⟩
        = ⟨chars.reverse ++ done, none⟩ := by
    intro chars
    induction chars with
    | nil =>
      intro done
      rfl
    | cons c rest ih =>
      intro done
      rw [List.flatMap_cons, List.foldl_append, foldl_step_char, ih]
      simp
  have htext : (encode text).foldl step ⟨[], none⟩ = ⟨text.toList.reverse, none⟩ := by
    rw [encode, hread, List.append_nil]
  rw [decode, decodeChars_append htext, String.ofList_append, String.ofList_toList, decode]

theorem decode_encode (text : String) : decode (encode text) = text := by
  have h := decode_encode_append text []
  rw [List.append_nil] at h
  rw [h]
  exact String.append_empty

/-- **A byte that can begin no sequence** is read as one replacement character, and the texts on
both of its sides as they are. -/
theorem decode_stray {b : UInt8} (h : first b = .malformed) (before after : String) :
    decode (encode before ++ b :: encode after)
      = before ++ (String.singleton replacement ++ after) := by
  have hstray : [b].foldl step ⟨[], none⟩ = ⟨[replacement].reverse, none⟩ := by
    simp only [List.foldl, step, restart, h, List.reverse_singleton]
  have hrest : decode (b :: encode after) = String.singleton replacement ++ after := by
    rw [← List.singleton_append, decode, decodeChars_append hstray, String.ofList_append]
    exact congrArg (String.singleton replacement ++ ·) (decode_encode after)
  rw [decode_encode_append, hrest]

theorem encode_injective : Function.Injective encode :=
  Function.LeftInverse.injective decode_encode

theorem not_ofNat_lt {n : Nat} (hlow : 0x80 ≤ n) (hhigh : n < 256) :
    ¬ UInt8.ofNat n < 0x80 := by
  rw [UInt8.lt_iff_toNat_lt, UInt8.toNat_ofNat', Nat.mod_eq_of_lt hhigh]
  exact Nat.not_lt.mpr hlow

/-- A byte of the low half stands for the character of its value, and for no other. -/
theorem toNat_eq_of_mem_char {c : Char} {b : UInt8} (hb : b ∈ String.utf8EncodeChar c)
    (hlow : b < 0x80) : c.toNat = b.toNat := by
  show c.val.toNat = b.toNat
  simp only [String.utf8EncodeChar] at hb
  generalize c.val.toNat = v at hb
  -- A single byte is the value itself, and every other byte has its mark.
  split at hb
  · obtain rfl := List.mem_singleton.mp hb
    rw [UInt8.toNat_ofNat']
    omega
  split at hb
  · simp only [List.mem_cons, List.not_mem_nil, or_false] at hb
    rcases hb with rfl | rfl <;> exact absurd hlow (not_ofNat_lt (by omega) (by omega))
  split at hb
  · simp only [List.mem_cons, List.not_mem_nil, or_false] at hb
    rcases hb with rfl | rfl | rfl <;> exact absurd hlow (not_ofNat_lt (by omega) (by omega))
  · simp only [List.mem_cons, List.not_mem_nil, or_false] at hb
    rcases hb with rfl | rfl | rfl | rfl <;>
      exact absurd hlow (not_ofNat_lt (by omega) (by omega))

/-- **A character of one byte** is in a text exactly if its byte is in the encoding. -/
theorem mem_encode_iff {c : Char} (h : c.toNat < 0x80) {text : String} :
    UInt8.ofNat c.toNat ∈ encode text ↔ c ∈ text.toList := by
  have hvalue : (UInt8.ofNat c.toNat).toNat = c.toNat := by
    rw [UInt8.toNat_ofNat']
    omega
  constructor
  · intro hmem
    obtain ⟨d, hd, hbyte⟩ := List.mem_flatMap.mp hmem
    -- A low byte is all of a character.
    have hlow : UInt8.ofNat c.toNat < 0x80 := by
      rw [UInt8.lt_iff_toNat_lt, hvalue]
      exact h
    have hsame : d.toNat = c.toNat := (toNat_eq_of_mem_char hbyte hlow).trans hvalue
    rwa [← Char.toNat_inj.mp hsame]
  · intro hc
    refine List.mem_flatMap.mpr ⟨c, hc, ?_⟩
    have hone : c.val.toNat ≤ 0x7F := Nat.le_of_lt_succ h
    rw [String.utf8EncodeChar, if_pos hone]
    exact List.mem_singleton.mpr rfl

/-! ## §4. C strings -/

/-- The bytes from an address on spell a text as a C string: the text has no NUL, its encoding is
there, and what follows it, if anything, comes behind a zero byte. -/
structure Spells (bytes : List UInt8) (text : String) : Prop where
  free : '\x00' ∉ text.toList
  encoded : ∃ rest, bytes = encode text ++ rest ∧ (rest = [] ∨ rest.head? = some 0)

/-- **A C string** is read as the text that it spells. -/
theorem decode_of_spells {bytes : List UInt8} {text : String} (h : Spells bytes text) :
    decode (terminated bytes) = text := by
  obtain ⟨hfree, rest, rfl, hrest⟩ := h
  -- No byte of the text is a NUL, and what stands behind it begins with one.
  have hnonzero : ∀ b ∈ encode text, (b != 0) = true := by
    intro b hb
    have hzero : b ≠ 0 := by
      rintro rfl
      exact hfree ((mem_encode_iff (by decide)).mp hb)
    simpa using hzero
  have hend : rest.takeWhile (· != 0) = [] := by
    rcases hrest with rfl | hzero
    · rfl
    · obtain ⟨tail, rfl⟩ : ∃ tail, rest = 0 :: tail := List.head?_eq_some_iff.mp hzero
      rfl
  have hterminated : terminated (encode text ++ rest) = encode text := by
    rw [terminated, List.takeWhile_append_of_pos hnonzero, hend, List.append_nil]
  rw [hterminated, decode_encode]

/-! ## §5. How a text ends -/

/-- A character whose bytes end those of another one is that one: only the first byte of a character
can begin one. -/
theorem eq_of_char_suffix {c d : Char} (h : String.utf8EncodeChar c <:+ String.utf8EncodeChar d) :
    c = d := by
  obtain ⟨front, hfront⟩ := h
  have hpos : 0 < (String.utf8EncodeChar c).length := by
    rw [String.length_utf8EncodeChar]
    exact c.utf8Size_pos
  have hin : front.length < (String.utf8EncodeChar d).length := by
    rw [← hfront, List.length_append]
    omega
  -- The shorter sequence begins where the longer one has the first byte of a character, and it has
  -- only one of these.
  have hfirst : (String.utf8EncodeChar d)[front.length].IsUTF8FirstByte := by
    have hbyte : (String.utf8EncodeChar d)[front.length] = (String.utf8EncodeChar c)[0] := by
      simp only [← hfront, List.getElem_append_right (Nat.le_refl _), Nat.sub_self]
    rw [hbyte]
    exact UInt8.isUTF8FirstByte_getElem_zero_utf8EncodeChar
  have hnone : front = [] :=
    List.length_eq_zero_iff.mp (UInt8.isUTF8FirstByte_getElem_utf8EncodeChar.mp hfirst)
  rw [hnone, List.nil_append] at hfront
  have hread : (String.utf8EncodeChar d).foldl step ⟨[], none⟩ = ⟨[d], none⟩ := foldl_step_char d
  rw [← hfront, foldl_step_char] at hread
  simpa using hread

theorem flatMap_suffix_iff {xs ys : List Char} :
    xs.flatMap String.utf8EncodeChar <:+ ys.flatMap String.utf8EncodeChar ↔ xs <:+ ys := by
  constructor
  · -- On the characters from the last one on: the last ones are the same, and what comes before
    -- them ends alike.
    induction xs using List.reverseRecOn generalizing ys with
    | nil => exact fun _ => List.nil_suffix
    | append_singleton xs c ih =>
      intro h
      rcases List.eq_nil_or_concat ys with rfl | ⟨ys, d, rfl⟩
      · have hempty := List.suffix_nil.mp h
        rw [List.flatMap_append, List.flatMap_singleton, List.append_eq_nil_iff] at hempty
        exact absurd hempty.2 String.utf8EncodeChar_ne_nil
      · simp only [List.concat_eq_append, List.flatMap_append, List.flatMap_singleton] at h ⊢
        have hc := (List.suffix_append _ (String.utf8EncodeChar c)).trans h
        have hd := List.suffix_append (ys.flatMap String.utf8EncodeChar) (String.utf8EncodeChar d)
        have hsame : c = d := by
          rcases List.suffix_or_suffix_of_suffix hc hd with hends | hends
          · exact eq_of_char_suffix hends
          · exact (eq_of_char_suffix hends).symm
        subst hsame
        rw [List.suffix_append_inj_of_length_eq rfl] at h ⊢
        exact ⟨ih h.1, rfl⟩
  · rintro ⟨front, rfl⟩
    rw [List.flatMap_append]
    exact List.suffix_append _ _

/-- **The bytes of a text** end with those of another one exactly if the text ends with it. -/
theorem encode_suffix_iff {ending text : String} :
    encode ending <:+ encode text ↔ ending.toList <:+ text.toList :=
  flatMap_suffix_iff

end ModelAdapter.Utf8
