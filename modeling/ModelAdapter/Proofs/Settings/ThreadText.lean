import Mathlib.Data.List.DropRight
import ModelAdapter.Proofs.Number.Written
import ModelAdapter.Threads

/-! # Which texts are thread counts

A thread count comes as a text that anyone can have written.  It is a count if, but for blanks, it
is digits behind a plus sign or behind none, and these spell a positive number that fits; and a text
that is no count is warned of, unless it is blank.

  * **Blanks** (`Text.Trimmed`): what is left of a text without the blanks at its ends is one text
    (`Text.trim_eq_iff`).
  * **Numerals** (`Integer.Digits`, `Integer.Numeral`): what the readers of numbers accept, and the
    number that it spells.
  * **Counts** (`Threads.Count`, `Threads.Reading`): what reading a text comes to.
-/

namespace ModelAdapter

/-! ## §1. Blanks -/

namespace Text

/-- What is left of a text without the blanks at its ends. -/
structure Trimmed (text core : List Char) : Prop where
  between : ∃ front back, text = front ++ (core ++ back) ∧
    (∀ c ∈ front, isBlank c = true) ∧ ∀ c ∈ back, isBlank c = true
  first : ∀ c, core.head? = some c → isBlank c = false
  last : ∀ c, core.getLast? = some c → isBlank c = false

theorem dropWhile_blanks {front cs : List Char} (hfront : ∀ c ∈ front, isBlank c = true)
    (hcs : ∀ c, cs.head? = some c → isBlank c = false) :
    (front ++ cs).dropWhile isBlank = cs := by
  rw [List.dropWhile_append_of_pos hfront]
  cases cs with
  | nil => rfl
  | cons c rest => rw [List.dropWhile_cons_of_neg (by simp [hcs c rfl])]

theorem trim_of_trimmed {text core : List Char} (h : Trimmed text core) : trim text = core := by
  obtain ⟨⟨front, back, rfl, hfront, hback⟩, hfirst, hlast⟩ := h
  have hback' : ∀ c ∈ back.reverse, isBlank c = true :=
    fun c hc => hback c (List.mem_reverse.mp hc)
  unfold trim
  by_cases hcore : core = []
  · -- All of the text is blank.
    subst hcore
    have hblank : (front ++ ([] ++ back)).dropWhile isBlank = [] := by
      rw [List.dropWhile_eq_nil_iff]
      intro c hc
      rcases List.mem_append.mp hc with hc | hc
      · exact hfront c hc
      · exact hback c hc
    rw [hblank]
    rfl
  · -- The blanks in front are dropped first; what is left ends in those behind, read backwards.
    have hhead : ∀ c, (core ++ back).head? = some c → isBlank c = false := by
      intro c hc
      rw [List.head?_append_of_ne_nil _ hcore] at hc
      exact hfirst c hc
    have hend : ∀ c, core.reverse.head? = some c → isBlank c = false := by
      intro c hc
      rw [List.head?_reverse] at hc
      exact hlast c hc
    -- One pass from each side.
    rw [dropWhile_blanks hfront hhead, List.reverse_append, dropWhile_blanks hback' hend,
      List.reverse_reverse]

theorem isBlank_of_head?_dropWhile {cs : List Char} {c : Char}
    (h : (cs.dropWhile isBlank).head? = some c) : isBlank c = false := by
  have hnot := List.head?_dropWhile_not isBlank cs
  rwa [h] at hnot

theorem trimmed_trim (text : List Char) : Trimmed text (trim text) where
  between := by
    refine ⟨text.takeWhile isBlank, (text.dropWhile isBlank).rtakeWhile isBlank, ?_,
      fun c => List.mem_takeWhile_imp, fun c => List.mem_rtakeWhile_imp⟩
    show text = text.takeWhile isBlank ++
      ((text.dropWhile isBlank).rdropWhile isBlank ++ (text.dropWhile isBlank).rtakeWhile isBlank)
    rw [List.rdropWhile_append_rtakeWhile, List.takeWhile_append_dropWhile]
  first c hc := by
    -- What is left begins as the text does behind its first blanks.
    obtain ⟨back, hback⟩ := List.rdropWhile_prefix isBlank (l := text.dropWhile isBlank)
    have hhead : (text.dropWhile isBlank).head? = some c := by
      rw [← hback, List.head?_append]
      show (trim text).head?.or _ = some c
      rw [hc, Option.some_or]
    exact isBlank_of_head?_dropWhile hhead
  last c hc := by
    unfold trim at hc
    rw [List.getLast?_reverse] at hc
    exact isBlank_of_head?_dropWhile hc

/-- **There is one such text**, and it is what trimming leaves. -/
theorem trim_eq_iff {text core : List Char} : trim text = core ↔ Trimmed text core := by
  constructor
  · rintro rfl
    exact trimmed_trim text
  · exact trim_of_trimmed

theorem Trimmed.unique {text core core' : List Char} (h : Trimmed text core)
    (h' : Trimmed text core') : core = core' :=
  (trim_eq_iff.mpr h).symm.trans (trim_eq_iff.mpr h')

end Text

/-! ## §2. Numerals -/

namespace Integer

/-- Digits, and the number that they spell in base ten. -/
inductive Digits : List Char → Nat → Prop
  | one {d : Nat} (small : d < 10) : Digits [d.digitChar] d
  | more {front : List Char} {n d : Nat} (spelled : Digits front n) (small : d < 10) :
      Digits (front ++ [d.digitChar]) (n * 10 + d)

theorem digit_digitChar {d : Nat} (h : d < 10) : digit d.digitChar = d := by
  show d.digitChar.toNat - 48 = d
  rw [Nat.toNat_digitChar_of_lt_ten h]
  omega

theorem valueOf_concat (front : List Char) (c : Char) :
    valueOf (front ++ [c]) = valueOf front * 10 + digit c := by
  simp [valueOf]

/-- **Digits are read** as the number that they spell. -/
theorem natural?_eq_some_iff_digits {cs : List Char} {n : Nat} :
    natural? cs = some n ↔ Digits cs n := by
  rw [natural?_eq_some_iff]
  constructor
  · -- On the digits, from the last one on.
    induction cs using List.reverseRecOn generalizing n with
    | nil => simp
    | append_singleton front c ih =>
      rintro ⟨-, hdigits, rfl⟩
      rw [List.all_append, Bool.and_eq_true] at hdigits
      obtain ⟨hfront, hc⟩ := hdigits
      obtain ⟨hsmall, hchar⟩ := digitChar_digit (c := c) (by simpa using hc)
      rw [valueOf_concat, ← hchar, digit_digitChar hsmall]
      by_cases hnil : front = []
      · subst hnil
        have hvalue : valueOf [] * 10 + digit c = digit c := by simp [valueOf]
        rw [hvalue]
        exact .one hsmall
      · exact .more (ih ⟨hnil, hfront, rfl⟩) hsmall
  · intro h
    -- On the grammar, which adds a digit at the end.
    induction h with
    | @one d hsmall =>
      refine ⟨by simp, by simp [Nat.isDigit_digitChar, hsmall], ?_⟩
      have hvalue := valueOf_concat [] d.digitChar
      rw [digit_digitChar hsmall] at hvalue
      simpa [valueOf] using hvalue
    | @more front n d _ hsmall ih =>
      obtain ⟨-, hdigits, rfl⟩ := ih
      refine ⟨by simp, ?_, by rw [valueOf_concat, digit_digitChar hsmall]⟩
      rw [List.all_append, hdigits]
      simp [Nat.isDigit_digitChar, hsmall]

/-- Zeros in front of digits spell nothing. -/
theorem Digits.zeros {cs : List Char} {n : Nat} (h : Digits cs n) (k : Nat) :
    Digits (List.replicate k '0' ++ cs) n := by
  induction k with
  | zero => exact h
  | succ k ih =>
    -- Reading begins with the value zero, and a zero in front leaves it there.
    obtain ⟨-, hdigits, hvalue⟩ := natural?_eq_some_iff.mp (natural?_eq_some_iff_digits.mpr ih)
    rw [List.replicate_succ, List.cons_append]
    apply natural?_eq_some_iff_digits.mp
    apply natural?_eq_some_iff.mpr
    exact ⟨by simp, by rw [List.all_cons, hdigits]; rfl, hvalue⟩

/-- Digits with a sign in front or without one, and the whole number that they spell. -/
inductive Numeral : List Char → Int → Prop
  | bare {digits : List Char} {n : Nat} (spelled : Digits digits n) : Numeral digits n
  | plus {digits : List Char} {n : Nat} (spelled : Digits digits n) : Numeral ('+' :: digits) n
  | minus {digits : List Char} {n : Nat} (spelled : Digits digits n) : Numeral ('-' :: digits) (-n)

/-- **Numerals are read** as the number that they spell. -/
theorem signed?_eq_some_iff {cs : List Char} {i : Int} : signed? cs = some i ↔ Numeral cs i := by
  constructor
  · intro h
    unfold signed? at h
    -- By the sign that the text begins with, if any.
    split at h
    all_goals
      obtain ⟨n, hn, rfl⟩ := Option.map_eq_some_iff.mp h
      have hdigits := natural?_eq_some_iff_digits.mp hn
    · exact .plus hdigits
    · exact .minus hdigits
    · exact .bare hdigits
  · intro h
    cases h with
    | bare hdigits =>
      have hn := natural?_eq_some_iff_digits.mpr hdigits
      rw [signed?_of_digits (natural?_eq_some_iff.mp hn).2.1, hn]
      rfl
    | plus hdigits => simp [signed?, natural?_eq_some_iff_digits.mpr hdigits]
    | minus hdigits => simp [signed?, natural?_eq_some_iff_digits.mpr hdigits]

/-- A word is read from the numerals of its value. -/
theorem word32?_eq_some_iff {cs : List Char} {n : Int32} :
    word32? cs = some n ↔ Numeral cs n.toInt := by
  rw [← signed?_eq_some_iff]
  unfold word32?
  constructor
  · intro h
    cases hsigned : signed? cs with
    | none => simp [hsigned] at h
    | some i =>
      simp only [hsigned] at h
      obtain ⟨hfits, hword⟩ := Option.ite_none_right_eq_some.mp h
      have hrange : -2 ^ 31 ≤ i ∧ i < 2 ^ 31 := by simpa [fits32] using hfits
      cases hword
      rw [Int32.toInt_ofInt_of_le hrange.1 hrange.2]
  · intro h
    -- The value of a word is in its range already.
    have hfits : fits32 n.toInt = true := by
      have hlow := n.le_toInt
      have hhigh := n.toInt_lt
      simp [fits32]
      omega
    simp only [h, if_pos hfits, Int32.ofInt_toInt]

end Integer

/-! ## §3. Counts -/

namespace Threads

/-- The text of a thread count: an optional plus sign, and digits that spell a number from 1 to the
largest one of a word. -/
structure Count (core : List Char) (m : Nat) : Prop where
  spelled : ∃ digits, (core = digits ∨ core = '+' :: digits) ∧ Integer.Digits digits m
  positive : 1 ≤ m
  fits : m ≤ 0x7FFFFFFF

/-- **Counts are read** as the positive words, and nothing else is. -/
theorem count_iff_word {core : List Char} {n : Int32} :
    (∃ m : Nat, Count core m ∧ n.toInt = m) ↔ Integer.word32? core = some n ∧ 0 < n := by
  have hpositive : 0 < n ↔ 0 < n.toInt := Int32.lt_iff_toInt_lt
  rw [Integer.word32?_eq_some_iff, hpositive]
  constructor
  · rintro ⟨m, ⟨⟨digits, hcore, hdigits⟩, hone, -⟩, hn⟩
    rw [hn]
    refine ⟨?_, by omega⟩
    rcases hcore with rfl | rfl
    · exact .bare hdigits
    · exact .plus hdigits
  · rintro ⟨hnumeral, hn⟩
    have hlimit := n.toInt_lt
    generalize n.toInt = i at hnumeral hn hlimit
    cases hnumeral with
    | @bare _ m hdigits => exact ⟨m, ⟨⟨core, .inl rfl, hdigits⟩, by omega, by omega⟩, rfl⟩
    | @plus digits m hdigits => exact ⟨m, ⟨⟨digits, .inr rfl, hdigits⟩, by omega, by omega⟩, rfl⟩
    | minus =>
      -- Behind a minus sign nothing is spelled that is positive.
      omega

theorem Count.exists_word {core : List Char} {m : Nat} (h : Count core m) :
    ∃ n : Int32, n.toInt = m := by
  have hfits := h.fits
  exact ⟨Int32.ofInt m, Int32.toInt_ofInt_of_le (by omega) (by omega)⟩

/-- What reading a text comes to. -/
inductive Reading : Option String → Option Int32 × List Event → Prop
  | absent : Reading none (none, [])
  | blank {text : String} (trimmed : Text.Trimmed text.toList []) : Reading (some text) (none, [])
  | count {text : String} {core : List Char} {m : Nat} {n : Int32}
      (trimmed : Text.Trimmed text.toList core) (spelled : Count core m) (word : n.toInt = m) :
      Reading (some text) (some n, [])
  | ignored {text : String} {core : List Char} (trimmed : Text.Trimmed text.toList core)
      (something : core ≠ []) (other : ∀ m, ¬ Count core m) :
      Reading (some text) (none, [.threadsIgnored (String.ofList core)])

theorem Count.ne_nil {core : List Char} {m : Nat} (h : Count core m) : core ≠ [] := by
  rintro rfl
  obtain ⟨n, hn⟩ := h.exists_word
  obtain ⟨hword, -⟩ := count_iff_word.mp ⟨m, h, hn⟩
  cases hword

theorem read_of_reading {value : Option String} {result : Option Int32 × List Event}
    (h : Reading value result) : read value = result := by
  cases h with
  | absent => rfl
  | blank htrimmed => simp [read, Text.trim_of_trimmed htrimmed]
  | count htrimmed hcount hn =>
    obtain ⟨hword, hpositive⟩ := count_iff_word.mp ⟨_, hcount, hn⟩
    simp [read, Text.trim_of_trimmed htrimmed, hcount.ne_nil, hword, hpositive]
  | @ignored text core htrimmed hsomething hother =>
    cases hword : Integer.word32? core with
    | none => simp [read, Text.trim_of_trimmed htrimmed, hsomething, hword]
    | some n =>
      -- A number that is a word and positive would be a count.
      have hpositive : ¬ 0 < n := by
        intro hpositive
        obtain ⟨m, hcount, -⟩ := count_iff_word.mpr ⟨hword, hpositive⟩
        exact hother m hcount
      simp [read, Text.trim_of_trimmed htrimmed, hsomething, hword, hpositive]

/-- Every text, and its absence, comes to one of the four. -/
theorem exists_reading (value : Option String) : ∃ result, Reading value result := by
  cases value with
  | none => exact ⟨_, .absent⟩
  | some text =>
    -- In the order of the checks.
    have htrimmed := Text.trimmed_trim text.toList
    by_cases hblank : Text.trim text.toList = []
    · rw [hblank] at htrimmed
      exact ⟨_, .blank htrimmed⟩
    by_cases hcount : ∃ m, Count (Text.trim text.toList) m
    · obtain ⟨m, hcount⟩ := hcount
      obtain ⟨n, hn⟩ := hcount.exists_word
      exact ⟨_, .count htrimmed hcount hn⟩
    · exact ⟨_, .ignored htrimmed hblank (fun m hm => hcount ⟨m, hm⟩)⟩

/-- **Reading a text** comes to one of the four. -/
theorem read_eq_iff {value : Option String} {result : Option Int32 × List Event} :
    read value = result ↔ Reading value result := by
  constructor
  · rintro rfl
    obtain ⟨result, h⟩ := exists_reading value
    rwa [read_of_reading h]
  · exact read_of_reading

/-- A count is read from the texts that have the text of one between blanks. -/
theorem fst_read_eq_some_iff {value : Option String} {n : Int32} :
    (read value).1 = some n ↔ ∃ text core m, value = some text ∧
      Text.Trimmed text.toList core ∧ Count core m ∧ n.toInt = m := by
  constructor
  · intro h
    have hreading := read_eq_iff.mp (rfl : read value = _)
    generalize read value = result at h hreading
    cases hreading with
    | absent => cases h
    | blank => cases h
    | @count text core m _ htrimmed hcount hn =>
      cases h
      exact ⟨text, core, m, rfl, htrimmed, hcount, hn⟩
    | ignored => cases h
  · rintro ⟨text, core, m, rfl, htrimmed, hcount, hn⟩
    rw [read_of_reading (.count htrimmed hcount hn)]

/-- A text that is not blank is warned of if no count is read from it. -/
theorem snd_read {text : String} {core : List Char} (htrimmed : Text.Trimmed text.toList core) :
    (read (some text)).2 = if core ≠ [] ∧ (read (some text)).1 = none
      then [.threadsIgnored (String.ofList core)] else [] := by
  have hreading := read_eq_iff.mp (rfl : read (some text) = _)
  generalize read (some text) = result at hreading
  cases hreading with
  | blank hblank =>
    simp [htrimmed.unique hblank]
  | count => simp
  | @ignored _ other hother hsomething =>
    simp [htrimmed.unique hother, hsomething]

/-- No character of a count is a blank. -/
theorem Count.not_blank {core : List Char} {m : Nat} (h : Count core m) :
    ∀ c ∈ core, Text.isBlank c = false := by
  -- A count is digits behind at most a plus sign, and neither is a blank.
  obtain ⟨digits, hcore, hdigits⟩ := h.spelled
  have hall :=
    (Integer.natural?_eq_some_iff.mp (Integer.natural?_eq_some_iff_digits.mpr hdigits)).2.1
  have hdigit : ∀ c ∈ digits, Text.isBlank c = false := by
    intro c hc
    have hrange := Integer.range_of_isDigit (List.all_eq_true.mp hall c hc)
    simp only [Text.isBlank, Bool.or_eq_false_iff, Bool.and_eq_false_iff, decide_eq_false_iff_not,
      beq_eq_false_iff_ne]
    omega
  rcases hcore with rfl | rfl
  · exact hdigit
  · exact List.forall_mem_cons.mpr ⟨by decide, hdigit⟩

/-- So blanks around a count are all that trimming takes away. -/
theorem Count.trimmed {core front back : List Char} {m : Nat} (h : Count core m)
    (hfront : ∀ c ∈ front, Text.isBlank c = true) (hback : ∀ c ∈ back, Text.isBlank c = true) :
    Text.Trimmed (front ++ (core ++ back)) core where
  between := ⟨front, back, rfl, hfront, hback⟩
  first c hc := h.not_blank c (List.mem_of_head? hc)
  last c hc := h.not_blank c (List.mem_of_getLast? hc)

/-- A positive number is written as a count, also behind zeros and a plus sign. -/
theorem count_toString {n : Int32} (h : 0 < n) {sign : List Char} (hsign : sign = [] ∨ sign = ['+'])
    (k : Nat) :
    Count (sign ++ (List.replicate k '0' ++ (toString n.toInt).toList)) n.toInt.toNat := by
  have hpositive : 0 < n.toInt := Int32.lt_iff_toInt_lt.mp h
  have hlimit := n.toInt_lt
  have hdigits : Integer.Digits (toString n.toInt).toList n.toInt.toNat := by
    rw [Integer.toList_toString_of_nonneg (by omega)]
    exact Integer.natural?_eq_some_iff_digits.mp (Integer.natural?_toDigits _)
  refine ⟨⟨_, ?_, hdigits.zeros k⟩, by omega, by omega⟩
  rcases hsign with rfl | rfl
  · exact .inl rfl
  · exact .inr rfl

/-- **Thread counts are what their grammar says.**  A number is read from a text exactly if the text
is there and, between blanks, it is an optional plus sign and digits that spell the number, which is
positive and fits.  What is left of a text without the blanks at its ends is one text; if that is
something and no number is read from it, it is the value of the one warning, and else there is none.
So every positive number is read from what is written of it, with any blanks around it, and with
zeros and a plus sign in front. -/
theorem read_accepts_counts :
    (∀ value n, (read value).1 = some n ↔ ∃ text core m, value = some text ∧
      Text.Trimmed text.toList core ∧ Count core m ∧ n.toInt = m) ∧
    (∀ text : String, ∃! core, Text.Trimmed text.toList core) ∧
    read none = (none, []) ∧
    (∀ (text : String) core, Text.Trimmed text.toList core →
      (read (some text)).2 = if core ≠ [] ∧ (read (some text)).1 = none
        then [.threadsIgnored (String.ofList core)] else []) ∧
    (∀ value, ∀ e ∈ (read value).2, e.level = .warning ∧
      ∃ text core, value = some text ∧ Text.Trimmed text.toList core ∧
        e.fields = [("value", String.ofList core)]) ∧
    (∀ n : Int32, 0 < n → ∀ (front sign back : String) (k : Nat),
      (∀ c ∈ front.toList, Text.isBlank c = true) → (∀ c ∈ back.toList, Text.isBlank c = true) →
      (sign = "" ∨ sign = "+") →
      read (some (front ++ sign ++ String.ofList (List.replicate k '0') ++ toString n.toInt
        ++ back)) = (some n, [])) := by
  refine ⟨fun value n => fst_read_eq_some_iff, ?_, rfl, fun text core => snd_read, ?_, ?_⟩
  · intro text
    exact ⟨_, Text.trim_eq_iff.mp rfl, fun other hother => (Text.trim_eq_iff.mpr hother).symm⟩
  · intro value e he
    have hreading := read_eq_iff.mp (rfl : read value = _)
    generalize read value = result at he hreading
    cases hreading with
    | absent => cases he
    | blank => cases he
    | count => cases he
    | @ignored text core htrimmed =>
      rw [List.mem_singleton.mp he]
      exact ⟨rfl, text, core, rfl, htrimmed, rfl⟩
  · intro n hpositive front sign back k hfront hback hsign
    have hsign' : sign.toList = [] ∨ sign.toList = ['+'] := by
      rcases hsign with rfl | rfl
      · exact .inl rfl
      · exact .inr rfl
    have hcount := count_toString hpositive hsign' k
    have hn : n.toInt = n.toInt.toNat := by
      have hlow : 0 < n.toInt := Int32.lt_iff_toInt_lt.mp hpositive
      omega
    apply read_of_reading
    refine .count ?_ hcount hn
    -- The sign, the zeros and the digits are the count; only the blanks are trimmed.
    have htext : (front ++ sign ++ String.ofList (List.replicate k '0') ++ toString n.toInt
        ++ back).toList = front.toList ++
          (sign.toList ++ (List.replicate k '0' ++ (toString n.toInt).toList) ++ back.toList) := by
      simp
    rw [htext]
    exact hcount.trimmed hfront hback

/-- Seven is read from a text with blanks, a plus sign and two zeros. -/
theorem seven_of_padded_text : read (some "\t +007\u00A0") = (some 7, []) := by
  obtain ⟨-, -, -, -, -, hwritten⟩ := read_accepts_counts
  have hfront : ∀ c ∈ "\t ".toList, Text.isBlank c = true := List.all_eq_true.mp (by decide)
  have hback : ∀ c ∈ "\u00A0".toList, Text.isBlank c = true := List.all_eq_true.mp (by decide)
  exact hwritten 7 (by decide) "\t " "+" "\u00A0" 2 hfront hback (.inr rfl)

end Threads

end ModelAdapter
