import ModelAdapter.Number.Decimal

/-! # How numbers are written

Readers of numbers are generous: they take any sign, any zeros in front and, for float64
values, points, exponents and words.  What is written of a number is one text of these.

  * **Whole numbers** (`Plain`): the text of a number is read as that number, and among
    the texts that are read as it, it is the one without a plus sign and without zeros in
    front (`toString_eq_iff`).
  * **float64 values** (`Tidy`): the text of a value has no plus sign, no exponent, no
    zeros in front but one before a point, and none at the end of a fraction
    (`tidy_text`).
  * **Characters** (`Numeric`): letters, digits, signs and points are all that a text of
    a number has.
-/

namespace ModelAdapter

namespace Integer

/-! ## §1. Whole numbers -/

/-- Digits of which the first is no zero, or a single zero. -/
structure Plain (digits : List Char) : Prop where
  isDigit : digits.all Char.isDigit = true
  nonempty : digits ≠ []
  leading : digits.head? = some '0' → digits = ['0']

theorem plain_zero : Plain ['0'] where
  isDigit := rfl
  nonempty := by decide
  leading _ := rfl

theorem valueOf_eq_ofDigitChars (digits : List Char) :
    valueOf digits = Nat.ofDigitChars 10 digits 0 := by
  rw [Nat.ofDigitChars_eq_foldl]
  simp only [valueOf, digit, Nat.mul_comm]

theorem valueOf_toDigits (n : Nat) : valueOf (Nat.toDigits 10 n) = n := by
  rw [valueOf_eq_ofDigitChars, Nat.ofDigitChars_ten_toDigits]

theorem range_of_isDigit {c : Char} (h : c.isDigit = true) : 48 ≤ c.toNat ∧ c.toNat ≤ 57 := by
  simpa [Char.isDigit, UInt32.le_iff_toNat_le] using h

/-- A digit is the one that is written of its value. -/
theorem digitChar_digit {c : Char} (h : c.isDigit = true) :
    digit c < 10 ∧ (digit c).digitChar = c := by
  have hrange := range_of_isDigit h
  have hlt : digit c < 10 := by
    show c.toNat - 48 < 10
    omega
  refine ⟨hlt, ?_⟩
  apply Char.toNat_inj.mp
  rw [Nat.toNat_digitChar_of_lt_ten hlt]
  show 48 + (c.toNat - 48) = c.toNat
  omega

theorem digits_toDigits (n : Nat) : (Nat.toDigits 10 n).all Char.isDigit = true := by
  apply List.all_eq_true.mpr
  intro c hc
  exact Nat.isDigit_of_mem_toDigits (by decide) (by decide) hc

theorem head?_toDigits_append (n : Nat) (cs : List Char) :
    (Nat.toDigits 10 n ++ cs).head? = (Nat.toDigits 10 n).head? := by
  rw [List.head?_append, List.head?_eq_some_head Nat.toDigits_ne_nil, Option.some_or]

/-- What is written of a number begins with a zero only if the number is zero. -/
theorem head?_toDigits {n : Nat} (h : (Nat.toDigits 10 n).head? = some '0') : n = 0 := by
  induction n using Nat.strongRecOn with
  | ind n ih =>
    by_cases hsmall : n < 10
    · rw [Nat.toDigits_of_lt_base hsmall] at h
      exact Nat.digitChar_eq_zero.mp (Option.some.inj h)
    · -- The first digit is that of a tenth of the number.
      rw [Nat.toDigits_of_base_le (by decide) (by omega), head?_toDigits_append] at h
      have htenth := ih (n / 10) (by omega) h
      omega

theorem plain_toDigits (n : Nat) : Plain (Nat.toDigits 10 n) where
  isDigit := digits_toDigits n
  nonempty := Nat.toDigits_ne_nil
  leading h := by rw [head?_toDigits h, Nat.toDigits_zero]

/-- Digits that are read behind a number that is not zero are written behind it. -/
theorem toDigits_foldl {digits : List Char} (hdigits : digits.all Char.isDigit = true) :
    ∀ {n : Nat}, 0 < n →
      Nat.toDigits 10 (digits.foldl (fun value c => value * 10 + digit c) n)
        = Nat.toDigits 10 n ++ digits := by
  induction digits with
  | nil =>
    intro n _
    exact (List.append_nil _).symm
  | cons c rest ih =>
    intro n hn
    obtain ⟨hc, hrest⟩ : c.isDigit = true ∧ rest.all Char.isDigit = true := by simpa using hdigits
    -- One more digit multiplies by ten, so the digits before it stay.
    obtain ⟨hlt, hchar⟩ := digitChar_digit hc
    have hone : Nat.toDigits 10 (n * 10 + digit c) = Nat.toDigits 10 n ++ [c] := by
      rw [Nat.mul_comm, ← Nat.toDigits_append_toDigits (by decide) hn hlt,
        Nat.toDigits_of_lt_base hlt, hchar]
    rw [List.foldl_cons, ih hrest (by omega), hone, List.append_assoc, List.singleton_append]

/-- Plain digits are what is written of their value. -/
theorem toDigits_valueOf {digits : List Char} (h : Plain digits) :
    Nat.toDigits 10 (valueOf digits) = digits := by
  obtain ⟨hdigits, hnonempty, hleading⟩ := h
  cases digits with
  | nil => exact absurd rfl hnonempty
  | cons c rest =>
    obtain ⟨hc, hrest⟩ : c.isDigit = true ∧ rest.all Char.isDigit = true := by simpa using hdigits
    obtain ⟨hlt, hchar⟩ := digitChar_digit hc
    by_cases hzero : digit c = 0
    · -- A zero in front is the only digit.
      rw [hzero] at hchar
      have halone : c :: rest = ['0'] := hleading (congrArg some hchar.symm)
      rw [halone]
      rfl
    · have hvalue : valueOf (c :: rest)
          = rest.foldl (fun value c => value * 10 + digit c) (digit c) := by
        show rest.foldl _ (0 * 10 + digit c) = _
        rw [Nat.zero_mul, Nat.zero_add]
      -- Each further digit is put behind those of the value so far.
      rw [hvalue, toDigits_foldl hrest (by omega), Nat.toDigits_of_lt_base hlt, hchar,
        List.singleton_append]

theorem natural?_eq_some_iff {digits : List Char} {n : Nat} :
    natural? digits = some n ↔
      digits ≠ [] ∧ digits.all Char.isDigit = true ∧ valueOf digits = n := by
  simp [natural?, and_assoc]

theorem natural?_toDigits (n : Nat) : natural? (Nat.toDigits 10 n) = some n :=
  natural?_eq_some_iff.mpr ⟨Nat.toDigits_ne_nil, digits_toDigits n, valueOf_toDigits n⟩

/-- Plain digits, or a minus sign and plain digits of a number that is not zero. -/
inductive PlainSigned : List Char → Prop
  | natural {digits : List Char} (plain : Plain digits) : PlainSigned digits
  | negative {digits : List Char} (plain : Plain digits) (nonzero : digits ≠ ['0']) :
      PlainSigned ('-' :: digits)

theorem toList_toString_of_nonneg {n : Int} (h : 0 ≤ n) :
    (toString n).toList = Nat.toDigits 10 n.toNat := by
  rw [Int.toString_eq_repr, Int.repr_eq_if, if_pos h, Nat.toList_repr]

theorem toList_toString_of_neg {n : Int} (h : n < 0) :
    (toString n).toList = '-' :: Nat.toDigits 10 (-n).toNat := by
  rw [Int.toString_eq_repr, Int.repr_eq_if, if_neg (by omega), String.toList_append,
    Nat.toList_repr]
  rfl

/-- What is written of a whole number is plain. -/
theorem plainSigned_toString (n : Int) : PlainSigned (toString n).toList := by
  by_cases hn : 0 ≤ n
  · rw [toList_toString_of_nonneg hn]
    exact .natural (plain_toDigits _)
  · rw [toList_toString_of_neg (by omega)]
    refine .negative (plain_toDigits _) ?_
    intro hzero
    have hhead := head?_toDigits (congrArg List.head? hzero)
    omega

/-- No sign is a digit, so digits are read as they are. -/
theorem signed?_of_digits {digits : List Char} (h : digits.all Char.isDigit = true) :
    signed? digits = (natural? digits).map Int.ofNat := by
  unfold signed?
  split
  · simp [Char.isDigit] at h
  · simp [Char.isDigit] at h
  · rfl

/-- A plain text that is read as a number is what is written of that number. -/
theorem toString_of_plainSigned {cs : List Char} {n : Int} (h : PlainSigned cs)
    (hread : signed? cs = some n) : (toString n).toList = cs := by
  cases h with
  | natural hplain =>
    rw [signed?_of_digits hplain.isDigit] at hread
    obtain ⟨k, hk, rfl⟩ := Option.map_eq_some_iff.mp hread
    obtain ⟨-, -, rfl⟩ := natural?_eq_some_iff.mp hk
    have hnonneg : (0 : Int) ≤ Int.ofNat (valueOf cs) := Int.natCast_nonneg _
    rw [toList_toString_of_nonneg hnonneg]
    exact toDigits_valueOf hplain
  | @negative digits hplain hnonzero =>
    obtain ⟨k, hk, rfl⟩ := Option.map_eq_some_iff.mp hread
    obtain ⟨-, -, rfl⟩ := natural?_eq_some_iff.mp hk
    -- A minus stands before no zero.
    have hpositive : 0 < valueOf digits := by
      apply Nat.pos_of_ne_zero
      intro hzero
      have hdigits := toDigits_valueOf hplain
      rw [hzero] at hdigits
      exact hnonzero hdigits.symm
    have hminus : (-Int.ofNat (valueOf digits)) < 0 := by
      simpa using hpositive
    rw [toList_toString_of_neg hminus]
    simp [toDigits_valueOf hplain]

/-- **Among the texts that are read as a number**, what is written of it is the plain one. -/
theorem toString_eq_iff {cs : List Char} {n : Int} (hread : signed? cs = some n) :
    (toString n).toList = cs ↔ PlainSigned cs := by
  constructor
  · intro hwritten
    rw [← hwritten]
    exact plainSigned_toString n
  · intro hplain
    exact toString_of_plainSigned hplain hread

end Integer

/-! ## §2. Characters -/

/-- A character that a text of a number can have. -/
def Numeric (c : Char) : Prop := c.isAlphanum = true ∨ c = '+' ∨ c = '-' ∨ c = '.'

theorem numeric_of_isDigit {c : Char} (h : c.isDigit = true) : Numeric c := by
  left
  simp [Char.isAlphanum, h]

/-- A character whose small letter is a letter or digit is one itself. -/
theorem isAlphanum_of_toLower {c : Char} (h : c.toLower.isAlphanum = true) :
    c.isAlphanum = true := by
  by_cases hupper : c.isUpper = true
  · show ((c.isUpper || c.isLower) || c.isDigit) = true
    rw [hupper]
    rfl
  · have hsame : c.toLower = c := dif_neg fun hcapital => hupper (decide_eq_true hcapital)
    rw [← hsame]
    exact h

/-- A text that is a word but for the case of its letters has letters only. -/
theorem numeric_of_lower {cs : List Char} (word : String)
    (hword : word.toList.all Char.isAlphanum = true)
    (h : String.ofList (cs.map Char.toLower) = word) : ∀ c ∈ cs, Numeric c := by
  intro c hc
  left
  apply isAlphanum_of_toLower
  apply List.all_eq_true.mp hword
  rw [← h, String.toList_ofList]
  exact List.mem_map_of_mem hc

namespace Integer

theorem numeric_of_natural? {cs : List Char} {n : Nat} (h : natural? cs = some n) :
    ∀ c ∈ cs, Numeric c := by
  obtain ⟨-, hdigits, -⟩ := natural?_eq_some_iff.mp h
  intro c hc
  exact numeric_of_isDigit (List.all_eq_true.mp hdigits c hc)

theorem numeric_of_signed? {cs : List Char} {n : Int} (h : signed? cs = some n) :
    ∀ c ∈ cs, Numeric c := by
  unfold signed? at h
  split at h
  all_goals
    obtain ⟨k, hk, -⟩ := Option.map_eq_some_iff.mp h
    have hdigits := numeric_of_natural? hk
  · exact List.forall_mem_cons.mpr ⟨.inr (.inl rfl), hdigits⟩
  · exact List.forall_mem_cons.mpr ⟨.inr (.inr (.inl rfl)), hdigits⟩
  · exact hdigits

end Integer

namespace Binary64

/-- The digits at the beginning of a text are numeric, so the rest of it decides. -/
theorem numeric_of_dropWhile {cs : List Char} (h : ∀ c ∈ cs.dropWhile Char.isDigit, Numeric c) :
    ∀ c ∈ cs, Numeric c := by
  intro c hc
  rw [← List.takeWhile_append_dropWhile (p := Char.isDigit) (l := cs)] at hc
  rcases List.mem_append.mp hc with hdigit | hrest
  · exact numeric_of_isDigit (List.all_eq_true.mp List.all_takeWhile c hdigit)
  · exact h c hrest

/-- What can stand behind the digits is nothing or an exponent. -/
theorem numeric_of_exponent {behind : List Char} {exponent : Int}
    (h : (match behind with
      | [] => some 0
      | 'e' :: exponent | 'E' :: exponent => Integer.signed? exponent
      | _ => none) = some exponent) : ∀ c ∈ behind, Numeric c := by
  split at h
  · intro c hc
    cases hc
  · exact List.forall_mem_cons.mpr ⟨.inl rfl, Integer.numeric_of_signed? h⟩
  · exact List.forall_mem_cons.mpr ⟨.inl rfl, Integer.numeric_of_signed? h⟩
  · cases h

/-- A number without its sign has numeric characters only. -/
theorem numeric_of_unsigned? {negative : Bool} {cs : List Char} {x : Binary64}
    (h : unsigned? negative cs = some x) : ∀ c ∈ cs, Numeric c := by
  unfold unsigned? at h
  obtain ⟨_, h⟩ := Option.ite_none_left_eq_some.mp h
  obtain ⟨exponent, hexponent, -⟩ := Option.map_eq_some_iff.mp h
  have hbehind := numeric_of_exponent hexponent
  apply numeric_of_dropWhile
  split at hbehind
  · -- There is a point, and more digits behind it.
    rename_i hrest
    rw [hrest]
    exact List.forall_mem_cons.mpr ⟨.inr (.inr (.inr rfl)), numeric_of_dropWhile hbehind⟩
  · exact hbehind

theorem numeric_of_magnitude? {negative : Bool} {cs : List Char} {x : Binary64}
    (h : magnitude? negative cs = some x) : ∀ c ∈ cs, Numeric c := by
  unfold magnitude? at h
  simp only at h
  -- A word is numeric letter by letter, whatever the case of the letters.
  split at h
  · rename_i hword
    rcases hword with hword | hword
    · exact numeric_of_lower "inf" (by decide) hword
    · exact numeric_of_lower "infinity" (by decide) hword
  split at h
  · rename_i hword
    exact numeric_of_lower "nan" (by decide) hword
  · exact numeric_of_unsigned? h

theorem numeric_of_read? {cs : List Char} {x : Binary64} (h : read? cs = some x) :
    ∀ c ∈ cs, Numeric c := by
  unfold read? at h
  split at h
  · exact List.forall_mem_cons.mpr ⟨.inr (.inl rfl), numeric_of_magnitude? h⟩
  · exact List.forall_mem_cons.mpr ⟨.inr (.inr (.inl rfl)), numeric_of_magnitude? h⟩
  · exact numeric_of_magnitude? h

/-! ## §3. float64 values -/

def sign (negative : Bool) : List Char := if negative then ['-'] else []

/-- A fraction with the point before it; where there is no fraction there is no point. -/
def pointed (fraction : List Char) : List Char :=
  match fraction with
  | [] => []
  | fraction => '.' :: fraction

/-- A word for a value that is infinite or no number, or a number of plain digits and a fraction
that does not end in a zero. -/
inductive Tidy : List Char → Prop
  | nan : Tidy "NaN".toList
  | infinite (negative : Bool) : Tidy (sign negative ++ "inf".toList)
  | number (negative : Bool) {whole fraction : List Char} (plain : Integer.Plain whole)
      (isDigit : fraction.all Char.isDigit = true) (trimmed : fraction.getLast? ≠ some '0') :
      Tidy (sign negative ++ (whole ++ pointed fraction))

theorem tidy_of_plain (negative : Bool) {whole : List Char} (h : Integer.Plain whole) :
    Tidy (sign negative ++ whole) := by
  have htidy : Tidy (sign negative ++ (whole ++ pointed [])) := .number negative h rfl (by decide)
  rwa [pointed, List.append_nil] at htidy

/-- Digits with zeros in front, so that there are more than `places` of them. -/
def padded (places : Nat) (digits : List Char) : List Char :=
  List.replicate (places + 1 - digits.length) '0' ++ digits

/-- What stands before a point that has `places` digits behind it. -/
def wholeOf (places : Nat) (digits : List Char) : List Char :=
  (padded places digits).take ((padded places digits).length - places)

/-- What stands behind the point, without zeros at the end. -/
def fractionOf (places : Nat) (digits : List Char) : List Char :=
  (((padded places digits).drop ((padded places digits).length - places)).reverse.dropWhile
    (· == '0')).reverse

theorem positional_of_neg {d : Decimal} (h : d.exponent < 0) :
    positional d =
      wholeOf (-d.exponent).toNat (Nat.toDigits 10 d.digits) ++
        pointed (fractionOf (-d.exponent).toNat (Nat.toDigits 10 d.digits)) := by
  rw [positional, if_neg (by omega)]
  unfold pointed fractionOf wholeOf padded
  dsimp only
  split <;> simp_all

/-- What stands before the point is plain. -/
theorem plain_wholeOf {places : Nat} {digits : List Char} (hplain : Integer.Plain digits)
    (hplaces : 0 < places) : Integer.Plain (wholeOf places digits) := by
  by_cases hshort : digits.length ≤ places
  · -- All digits stand behind the point, and a zero before it.
    have hlength : (padded places digits).length - places = 1 := by
      rw [padded, List.length_append, List.length_replicate]
      omega
    have hzeros : places + 1 - digits.length = (places - digits.length) + 1 := by omega
    have hwhole : wholeOf places digits = ['0'] := by
      rw [wholeOf, hlength, padded, hzeros, List.replicate_succ]
      rfl
    rw [hwhole]
    exact Integer.plain_zero
  · have hnone : places + 1 - digits.length = 0 := by omega
    have hcount : digits.length - places ≠ 0 := by omega
    have hwhole : wholeOf places digits = digits.take (digits.length - places) := by
      simp [wholeOf, padded, hnone]
    rw [hwhole]
    refine ⟨?_, ?_, ?_⟩
    · apply List.all_eq_true.mpr
      intro c hc
      exact List.all_eq_true.mp hplain.isDigit c (List.mem_of_mem_take hc)
    · intro hnil
      have hlength := congrArg List.length hnil
      simp only [List.length_take, List.length_nil] at hlength
      omega
    · intro hhead
      rw [List.head?_take, if_neg hcount] at hhead
      -- A zero in front would be the only digit, but there are more than `places` of them.
      rw [hplain.leading hhead] at hshort
      exact absurd hplaces (by simpa using hshort)

theorem digits_fractionOf {places : Nat} {digits : List Char}
    (h : digits.all Char.isDigit = true) : (fractionOf places digits).all Char.isDigit = true := by
  apply List.all_eq_true.mpr
  intro c hc
  have hdropped := (List.dropWhile_sublist _).subset (List.mem_reverse.mp hc)
  have hpadded : c ∈ padded places digits := List.mem_of_mem_drop (List.mem_reverse.mp hdropped)
  rcases List.mem_append.mp hpadded with hzero | hdigit
  · rw [List.eq_of_mem_replicate hzero]
    rfl
  · exact List.all_eq_true.mp h c hdigit

theorem getLast?_fractionOf (places : Nat) (digits : List Char) :
    (fractionOf places digits).getLast? ≠ some '0' := by
  rw [fractionOf, List.getLast?_reverse]
  intro hzero
  have hnot := List.head?_dropWhile_not (· == '0')
    ((padded places digits).drop ((padded places digits).length - places)).reverse
  rw [hzero] at hnot
  cases hnot

/-- Plain digits of a number that is not zero stay plain with zeros behind them. -/
theorem plain_append_zeros {n : Nat} (hn : n ≠ 0) (zeros : Nat) :
    Integer.Plain (Nat.toDigits 10 n ++ List.replicate zeros '0') := by
  obtain ⟨hdigits, hnonempty, -⟩ := Integer.plain_toDigits n
  refine ⟨?_, ?_, ?_⟩
  · rw [List.all_append, hdigits, Bool.true_and, List.all_replicate]
    split <;> rfl
  · exact List.append_ne_nil_of_left_ne_nil hnonempty _
  · intro hhead
    rw [Integer.head?_toDigits_append] at hhead
    exact absurd (Integer.head?_toDigits hhead) hn

/-- A decimal is written tidily, unless it is a zero with a positive exponent. -/
theorem tidy_positional {d : Decimal} (h : d.digits = 0 → d.exponent ≤ 0) (negative : Bool) :
    Tidy (sign negative ++ positional d) := by
  -- A negative exponent puts digits behind the point, and any other puts zeros behind the digits.
  by_cases hexponent : d.exponent < 0
  · rw [positional_of_neg hexponent]
    have hplain := Integer.plain_toDigits d.digits
    exact .number negative (plain_wholeOf hplain (by omega)) (digits_fractionOf hplain.isDigit)
      (getLast?_fractionOf _ _)
  · have hwhole : Integer.Plain (positional d) := by
      rw [positional, if_pos (by omega)]
      by_cases hdigits : d.digits = 0
      · have hzero : d.exponent = 0 := by
          have := h hdigits
          omega
        rw [hzero, hdigits]
        exact Integer.plain_zero
      · exact plain_append_zeros hdigits _
    exact tidy_of_plain negative hwhole

/-- The values before a value that is not zero are less than twice that value apart. -/
theorem spacing_lt {units : Nat} (h : units ≠ 0) : spacing (units - 1) < 2 * units := by
  have hle : spacing (units - 1) ≤ units := by
    by_cases hone : units - 1 = 0
    · rw [hone]
      have hspacing : spacing 0 = 1 := by decide
      omega
    · -- The spacing is a power of two that the value itself reaches.
      have hpower : Nat.pow 2 ((units - 1).log2 + 1 - 53) ≤ 2 ^ (units - 1).log2 :=
        Nat.pow_le_pow_right (by decide) (by omega)
      have hlog := Nat.log2_self_le hone
      unfold spacing
      omega
  omega

/-- Zero does not read back as another value. -/
theorem digits_ne_zero_of_readsBack {units : Nat} {d : Decimal} (hunits : units ≠ 0)
    (h : readsBack units d = true) : d.digits ≠ 0 := by
  intro hzero
  have hden : 0 < (tenPower d.exponent).2 := by
    unfold tenPower
    split
    · exact Nat.one_pos
    · exact Nat.pow_pos (by decide)
  have hlow : 0 < (2 * units - spacing (units - 1)) * (tenPower d.exponent).2 := by
    have hspacing := spacing_lt hunits
    exact Nat.mul_pos (by omega) hden
  unfold readsBack at h
  simp only [hzero, Nat.zero_mul, Nat.mul_zero] at h
  -- The lower end of what reads back lies above zero, whether or not it belongs to it.
  split at h
  · obtain ⟨hle, -⟩ := (Bool.and_eq_true _ _).mp h
    exact absurd (of_decide_eq_true hle) (Nat.not_le.mpr hlow)
  · obtain ⟨hlt, -⟩ := (Bool.and_eq_true _ _).mp h
    exact absurd (of_decide_eq_true hlt) (Nat.not_lt_zero _)

/-- Of two decimals one is chosen that is allowed, whichever is nearer. -/
theorem chosen {down up d : Decimal} {allowsDown allowsUp : Bool} {nearer : Prop}
    [Decidable nearer]
    (h : (match allowsDown, allowsUp with
      | true, true => some (if nearer then down else up)
      | true, false => some down
      | false, true => some up
      | false, false => none) = some d) :
    (allowsDown = true ∧ down = d) ∨ (allowsUp = true ∧ up = d) := by
  cases allowsDown <;> cases allowsUp <;> by_cases hnearer : nearer <;> simp_all

theorem readsBack_of_withExponent? {units : Nat} {exponent : Int} {d : Decimal}
    (h : withExponent? units exponent = some d) : readsBack units d = true := by
  unfold withExponent? at h
  rcases chosen h with ⟨hdown, rfl⟩ | ⟨hup, rfl⟩
  · exact hdown
  · exact hup

/-- The fewest digits of a value that is not zero are not zero, or there are none. -/
theorem exponent_shortest {units : Nat} (hunits : units ≠ 0) (hzero : (shortest units).digits = 0) :
    (shortest units).exponent ≤ 0 := by
  unfold shortest at hzero ⊢
  cases hfound : (List.range 17).findSome? (fun n => withDigits? units (n + 1)) with
  | none => exact Int.le_refl 0
  | some d =>
    obtain ⟨n, -, hd⟩ := List.exists_of_findSome?_eq_some hfound
    rw [hfound] at hzero
    exact absurd hzero (digits_ne_zero_of_readsBack hunits (readsBack_of_withExponent? hd))

/-- **What is written of a value** is tidy. -/
theorem tidy_text (x : Binary64) : Tidy x.text.toList := by
  cases x with
  | nan => exact .nan
  | infinite negative =>
    have htidy := Tidy.infinite negative
    cases negative <;> exact htidy
  | finite negative units =>
    have hsign : (if negative then "-" else "").toList = sign negative := by
      cases negative <;> rfl
    rw [text, String.toList_append, hsign]
    -- Zero is written by itself, and other values with the fewest digits.
    by_cases hunits : units = 0
    · rw [if_pos hunits]
      exact tidy_of_plain negative Integer.plain_zero
    · rw [if_neg hunits, String.toList_ofList]
      exact tidy_positional (exponent_shortest hunits) negative

theorem tidy_of_plainSigned {cs : List Char} (h : Integer.PlainSigned cs) : Tidy cs := by
  cases h with
  | natural hplain => exact tidy_of_plain false hplain
  | negative hplain => exact tidy_of_plain true hplain

end Binary64

end ModelAdapter
