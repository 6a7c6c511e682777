import ModelAdapter.Json.Reader
import ModelAdapter.Proofs.Number.Written

/-! # What is written in JSON is read again

Every JSON value has a text: the one without blanks in which a string escapes what must
be escaped and nothing else, a whole number is its digits, and any other number is its
digits and an exponent.  The reader of `Json/Reader` gives the value again.

  * **Strings** (`escapeChar_cases`, `stringRest?_escaped`): a character is written as an
    escape that stands for it, or as itself.
  * **Numbers** (`number?_numberChars`): the digits that were written are all read, if
    what follows does not go on with the number (`Stops`).
  * **Values** (`read?_write`): arrays and objects are read part by part.  What follows a
    part begins with a comma or a closing bracket, so that no part runs on.
-/

namespace ModelAdapter.Json

/-! ## §1. Strings -/

def quoted (s : String) : List Char := '"' :: (s.toList.flatMap escapeChar ++ ['"'])

theorem toList_quote (s : String) : (quote s).toList = quoted s := by
  simp [quote, quoted]

theorem digitIn?_hexDigit : ∀ n < 16, Integer.digitIn? 16 (hexDigit n) = some n := by
  decide

/-- The code of a control character is read from four digits. -/
theorem unicode?_hexDigits {c : Char} (h : c.toNat < 0x20) (rest : List Char) :
    unicode? ('0' :: '0' :: hexDigit (c.toNat / 16) :: hexDigit (c.toNat % 16) :: rest)
      = some (some c, rest) := by
  have hzero : Integer.digitIn? 16 '0' = some 0 := by decide
  have hhigh := digitIn?_hexDigit (c.toNat / 16) (by omega)
  have hlow := digitIn?_hexDigit (c.toNat % 16) (by omega)
  have hcode : ((0 * 16 + 0) * 16 + c.toNat / 16) * 16 + c.toNat % 16 = c.toNat := by omega
  have hplane : ¬ (0xD800 ≤ c.toNat ∧ c.toNat < 0xDC00) := by omega
  have hplane' : ¬ (0xDC00 ≤ c.toNat ∧ c.toNat < 0xE000) := by omega
  simp only [unicode?, hex4?, hzero, hhigh, hlow, hcode, bind, Option.bind, pure, if_neg hplane,
    if_neg hplane', Char.ofNat_toNat]

/-- A character is written as an escape that stands for it, or as itself. -/
theorem escapeChar_cases (c : Char) :
    (∃ code, escapeChar c = '\\' :: code ∧ ∀ rest, escape? (code ++ rest) = some (some c, rest)) ∨
      (escapeChar c = [c] ∧ c ≠ '"' ∧ c ≠ '\\' ∧ ¬ c.toNat < 0x20) := by
  -- The characters with a letter of their own come first.
  by_cases hquote : c = '"'
  · subst hquote
    exact .inl ⟨['"'], rfl, fun _ => rfl⟩
  by_cases hbackslash : c = '\\'
  · subst hbackslash
    exact .inl ⟨['\\'], rfl, fun _ => rfl⟩
  by_cases hline : c = '\n'
  · subst hline
    exact .inl ⟨['n'], rfl, fun _ => rfl⟩
  by_cases hreturn : c = '\r'
  · subst hreturn
    exact .inl ⟨['r'], rfl, fun _ => rfl⟩
  by_cases htab : c = '\t'
  · subst htab
    exact .inl ⟨['t'], rfl, fun _ => rfl⟩
  by_cases hback : c = '\x08'
  · subst hback
    exact .inl ⟨['b'], rfl, fun _ => rfl⟩
  by_cases hfeed : c = '\x0c'
  · subst hfeed
    exact .inl ⟨['f'], rfl, fun _ => rfl⟩
  have hother : escapeChar c = if c.toNat < 0x20 then
      ['\\', 'u', '0', '0', hexDigit (c.toNat / 16), hexDigit (c.toNat % 16)] else [c] := by
    rw [escapeChar, if_neg hquote, if_neg hbackslash, if_neg hline, if_neg hreturn, if_neg htab,
      if_neg hback, if_neg hfeed]
  -- What is left is escaped by its number if it is a control character.
  by_cases hcontrol : c.toNat < 0x20
  · rw [hother, if_pos hcontrol]
    exact .inl ⟨_, rfl, unicode?_hexDigits hcontrol⟩
  · rw [hother, if_neg hcontrol]
    exact .inr ⟨rfl, hquote, hbackslash, hcontrol⟩

/-- What is written of a character is read as that character, in one step. -/
theorem stringBody?_escapeChar (c : Char) (steps : Nat) (rest : List Char) :
    stringBody? (steps + 1) (escapeChar c ++ rest)
      = (stringBody? steps rest).map (fun p => (joined c p.1, p.2)) := by
  rcases escapeChar_cases c with ⟨code, hcode, hescape⟩ | ⟨hcode, hquote, hbackslash, hcontrol⟩
  · rw [hcode, List.cons_append, stringBody?, hescape]
    rfl
  · rw [hcode, List.singleton_append, stringBody?, if_neg hcontrol]
    · exact hquote
    · exact hbackslash

theorem stringBody?_escaped (text rest : List Char) : ∀ {steps : Nat}, text.length < steps →
    stringBody? steps (text.flatMap escapeChar ++ '"' :: rest) = some (some text, rest) := by
  -- On the text; an escape takes one step, however many characters it is written with.
  induction text with
  | nil =>
    intro steps hsteps
    obtain ⟨steps, rfl⟩ := Nat.exists_eq_succ_of_ne_zero (Nat.ne_of_gt hsteps)
    rfl
  | cons c text ih =>
    intro steps hsteps
    obtain ⟨steps, rfl⟩ := Nat.exists_eq_succ_of_ne_zero (Nat.ne_of_gt (Nat.zero_lt_of_lt hsteps))
    rw [List.flatMap_cons, List.append_assoc, stringBody?_escapeChar,
      ih (Nat.lt_of_succ_lt_succ hsteps)]
    rfl

/-- Something is written of every character. -/
theorem length_le_escaped (text : List Char) : text.length ≤ (text.flatMap escapeChar).length := by
  induction text with
  | nil => exact Nat.le_refl _
  | cons c text ih =>
    have hone : 1 ≤ (escapeChar c).length := by
      rcases escapeChar_cases c with ⟨code, hcode, -⟩ | ⟨hcode, -⟩
      · simp [hcode]
      · simp [hcode]
    rw [List.flatMap_cons, List.length_append, List.length_cons]
    omega

/-- **A string** is read as it was written. -/
theorem stringRest?_escaped (s : String) (rest : List Char) :
    stringRest? (s.toList.flatMap escapeChar ++ '"' :: rest) = some (some s, rest) := by
  have hsteps : s.toList.length
      < (s.toList.flatMap escapeChar ++ '"' :: rest).length + 1 := by
    have hlong := length_le_escaped s.toList
    rw [List.length_append]
    omega
  rw [stringRest?, stringBody?_escaped s.toList rest hsteps, Option.map_some, Option.map_some,
    String.ofList_toList]

/-! ## §2. Numbers -/

def numberChars : JsonNumber → List Char
  | .integer n => (toString n).toList
  | .decimal negative digits exponent =>
      (if negative then ['-'] else []) ++
        (Nat.toDigits 10 digits ++ 'e' :: (toString exponent).toList)

/-- A text that does not go on with a number before it. -/
structure Stops (rest : List Char) : Prop where
  digit : ∀ c ∈ rest.head?, c.isDigit = false
  point : rest.head? ≠ some '.'
  exponent : rest.head? ≠ some 'e' ∧ rest.head? ≠ some 'E'

theorem stops_nil : Stops [] :=
  ⟨by simp, by simp, by simp⟩

theorem isDigit_of_toDigits {n : Nat} {rest tail : List Char} {c : Char}
    (h : Nat.toDigits 10 n ++ rest = c :: tail) : c.isDigit = true := by
  have hhead := congrArg List.head? h
  rw [Integer.head?_toDigits_append] at hhead
  exact List.all_eq_true.mp (Integer.digits_toDigits n) c (List.mem_of_head? hhead)

/-- Digits are read up to where no digit follows. -/
theorem digits?_toDigits {n : Nat} {rest : List Char}
    (hrest : ∀ c ∈ rest.head?, c.isDigit = false) :
    digits? (Nat.toDigits 10 n ++ rest) = some (Nat.toDigits 10 n, rest) := by
  have hall : ∀ c ∈ Nat.toDigits 10 n, c.isDigit = true :=
    List.all_eq_true.mp (Integer.digits_toDigits n)
  -- The digits end where the text behind them begins with something else.
  have htake : (Nat.toDigits 10 n ++ rest).takeWhile Char.isDigit = Nat.toDigits 10 n := by
    rw [List.takeWhile_append_of_pos hall]
    cases rest with
    | nil => simp
    | cons c rest => simp [hrest c rfl]
  have hdrop : (Nat.toDigits 10 n ++ rest).dropWhile Char.isDigit = rest := by
    rw [List.dropWhile_append_of_pos hall]
    cases rest with
    | nil => rfl
    | cons c rest => simp [hrest c rfl]
  unfold digits?
  rw [htake, hdrop]
  split
  case h_1 hnil => exact absurd hnil Nat.toDigits_ne_nil
  case h_2 => rfl

theorem whole?_toDigits {n : Nat} {rest : List Char} (hrest : ∀ c ∈ rest.head?, c.isDigit = false) :
    whole? (Nat.toDigits 10 n ++ rest) = some (Nat.toDigits 10 n, rest) := by
  by_cases hzero : n = 0
  · subst hzero
    rfl
  · unfold whole?
    split
    case h_1 tail htext =>
      -- Only what is written of zero begins with a zero.
      have hhead := congrArg List.head? htext
      rw [Integer.head?_toDigits_append] at hhead
      exact absurd (Integer.head?_toDigits hhead) hzero
    case h_2 => exact digits?_toDigits hrest

theorem fraction?_of_stops {rest : List Char} (h : rest.head? ≠ some '.') :
    fraction? rest = some (none, rest) := by
  unfold fraction?
  split
  case h_1 => exact absurd rfl h
  case h_2 => rfl

theorem exponent?_of_stops {rest : List Char}
    (h : rest.head? ≠ some 'e' ∧ rest.head? ≠ some 'E') : exponent? rest = some (none, rest) := by
  unfold exponent?
  split
  case h_1 => exact absurd rfl h.1
  case h_2 => exact absurd rfl h.2
  case h_3 => rfl

/-- An exponent is read as the whole number that it is written as. -/
theorem exponent?_toString (n : Int) {rest : List Char}
    (hrest : ∀ c ∈ rest.head?, c.isDigit = false) :
    exponent? ('e' :: (toString n).toList ++ rest) = some (some n, rest) := by
  show (signedExponent? ((toString n).toList ++ rest)).map _ = _
  by_cases hn : 0 ≤ n
  · rw [Integer.toList_toString_of_nonneg hn]
    have hdigits : signedExponent? (Nat.toDigits 10 n.toNat ++ rest) = some (n, rest) := by
      unfold signedExponent?
      -- No digit is a sign, so the third alternative is the one that is taken.
      split
      case h_1 htext => exact absurd (isDigit_of_toDigits htext) (by decide)
      case h_2 htext => exact absurd (isDigit_of_toDigits htext) (by decide)
      case h_3 =>
        rw [digits?_toDigits hrest, Option.map_some, Integer.valueOf_toDigits]
        simp [Int.toNat_of_nonneg hn]
    rw [hdigits]
    rfl
  · rw [Integer.toList_toString_of_neg (by omega)]
    have hdigits :
        signedExponent? ('-' :: Nat.toDigits 10 (-n).toNat ++ rest) = some (n, rest) := by
      show (digits? (Nat.toDigits 10 (-n).toNat ++ rest)).map _ = _
      rw [digits?_toDigits hrest, Option.map_some, Integer.valueOf_toDigits]
      simp
      omega
    rw [hdigits]
    rfl

/-- Digits, and what follows them if no fraction does. -/
theorem unsigned?_toDigits {negative : Bool} {n : Nat} {after rest : List Char}
    {exponent : Option Int} (hdigit : ∀ c ∈ after.head?, c.isDigit = false)
    (hpoint : after.head? ≠ some '.') (hexponent : exponent? after = some (exponent, rest)) :
    unsigned? negative (Nat.toDigits 10 n ++ after)
      = some (makeNumber negative (Nat.toDigits 10 n) none exponent, rest) := by
  rw [unsigned?, whole?_toDigits hdigit]
  show (fraction? after >>= _) = _
  rw [fraction?_of_stops hpoint]
  show (exponent? after >>= _) = _
  rw [hexponent]
  rfl

/-- No digit is a sign. -/
theorem number?_toDigits (n : Nat) (rest : List Char) :
    number? (Nat.toDigits 10 n ++ rest) = unsigned? false (Nat.toDigits 10 n ++ rest) := by
  unfold number?
  split
  case h_1 htext => exact absurd (isDigit_of_toDigits htext) (by decide)
  case h_2 => rfl

/-- **A number** is read as it was written. -/
theorem number?_numberChars (n : JsonNumber) {rest : List Char} (h : Stops rest) :
    number? (numberChars n ++ rest) = some (n, rest) := by
  have hnone := exponent?_of_stops h.exponent
  -- A whole number has no exponent behind it, and any other is written with one.
  cases n with
  | integer n =>
    show number? ((toString n).toList ++ rest) = _
    by_cases hn : 0 ≤ n
    · rw [Integer.toList_toString_of_nonneg hn, number?_toDigits,
        unsigned?_toDigits h.digit h.point hnone]
      simp [makeNumber, Integer.valueOf_toDigits, Int.toNat_of_nonneg hn]
    · rw [Integer.toList_toString_of_neg (by omega)]
      show unsigned? true (Nat.toDigits 10 (-n).toNat ++ rest) = _
      -- The digit 0 with a minus in front would read as a decimal.
      have hzero : (-n).toNat ≠ 0 := by omega
      rw [unsigned?_toDigits h.digit h.point hnone]
      simp [makeNumber, Integer.valueOf_toDigits, hzero]
      omega
  | decimal negative digits exponent =>
    have hexponent := exponent?_toString exponent h.digit
    have hread : unsigned? negative
        (Nat.toDigits 10 digits ++ ('e' :: (toString exponent).toList ++ rest))
          = some (.decimal negative digits exponent, rest) := by
      rw [unsigned?_toDigits (by simp) (by simp) hexponent]
      simp [makeNumber, Integer.valueOf_toDigits]
    cases negative with
    | true =>
      show unsigned? true ((Nat.toDigits 10 digits ++ 'e' :: (toString exponent).toList) ++ rest)
        = _
      rw [List.append_assoc]
      exact hread
    | false =>
      show number? ((Nat.toDigits 10 digits ++ 'e' :: (toString exponent).toList) ++ rest) = _
      rw [List.append_assoc, number?_toDigits]
      exact hread

/-! ## §3. Values -/

mutual

/-- A value as it is written, without blanks. -/
def chars : Json → List Char
  | .null => ['n', 'u', 'l', 'l']
  | .bool true => ['t', 'r', 'u', 'e']
  | .bool false => ['f', 'a', 'l', 's', 'e']
  | .number n => numberChars n
  | .string s => quoted s
  | .array [] => ['[', ']']
  | .array (element :: rest) => '[' :: (chars element ++ elementsEnd rest)
  | .object [] => ['\x7b', '\x7d']
  | .object ((name, value) :: rest) =>
      '\x7b' :: (quoted name ++ ':' :: (chars value ++ membersEnd rest))
  -- Of what no text can hold it is all one how it is written: this is half of a character.
  | .unreadable => ['"', '\\', 'u', 'd', '8', '0', '0', '"']

/-- What follows an element of an array: the other elements, and the closing bracket. -/
def elementsEnd : List Json → List Char
  | [] => [']']
  | element :: rest => ',' :: (chars element ++ elementsEnd rest)

/-- What follows a member of an object: the other members, and the closing brace. -/
def membersEnd : List (String × Json) → List Char
  | [] => ['\x7d']
  | (name, value) :: rest =>
      ',' :: (quoted name ++ ':' :: (chars value ++ membersEnd rest))

end

def write (j : Json) : String := String.ofList (chars j)

theorem stops_elementsEnd (elements : List Json) (rest : List Char) :
    Stops (elementsEnd elements ++ rest) := by
  cases elements with
  | nil => exact ⟨by simp [elementsEnd], by simp [elementsEnd], by simp [elementsEnd]⟩
  | cons => exact ⟨by simp [elementsEnd], by simp [elementsEnd], by simp [elementsEnd]⟩

theorem stops_membersEnd (members : List (String × Json)) (rest : List Char) :
    Stops (membersEnd members ++ rest) := by
  rcases members with _ | ⟨⟨name, value⟩, others⟩
  · exact ⟨by simp [membersEnd], by simp [membersEnd], by simp [membersEnd]⟩
  · exact ⟨by simp [membersEnd], by simp [membersEnd], by simp [membersEnd]⟩

theorem skip_cons {c : Char} (h : isBlank c = false) (cs : List Char) :
    skip (c :: cs) = c :: cs := by
  simp [skip, h]

/-- A number begins with a digit or with a minus sign. -/
theorem numberChars_eq_cons (n : JsonNumber) :
    ∃ c cs, numberChars n = c :: cs ∧ (c.isDigit = true ∨ c = '-') := by
  -- What is written of a natural number is not empty, whatever follows it.
  have hdigits (k : Nat) (after : List Char) :
      ∃ c cs, Nat.toDigits 10 k ++ after = c :: cs ∧ (c.isDigit = true ∨ c = '-') := by
    cases htext : Nat.toDigits 10 k ++ after with
    | nil => simp [Nat.toDigits_ne_nil] at htext
    | cons c cs => exact ⟨c, cs, rfl, .inl (isDigit_of_toDigits htext)⟩
  cases n with
  | integer n =>
    show ∃ c cs, (toString n).toList = c :: cs ∧ _
    by_cases hn : 0 ≤ n
    · rw [Integer.toList_toString_of_nonneg hn, ← List.append_nil (Nat.toDigits 10 n.toNat)]
      exact hdigits _ _
    · rw [Integer.toList_toString_of_neg (by omega)]
      exact ⟨'-', _, rfl, .inr rfl⟩
  | decimal negative digits exponent =>
    cases negative with
    | true => exact ⟨'-', _, rfl, .inr rfl⟩
    | false => exact hdigits _ _

theorem not_special {c special : Char} (h : c.isDigit = true ∨ c = '-')
    (hdigit : special.isDigit = false) (hminus : special ≠ '-') : c ≠ special := by
  rintro rfl
  rcases h with h | h
  · rw [hdigit] at h
    cases h
  · exact hminus h

theorem not_blank {c : Char} (h : c.isDigit = true ∨ c = '-') : isBlank c = false := by
  have hspace : c ≠ ' ' := not_special h (by decide) (by decide)
  have htab : c ≠ '\t' := not_special h (by decide) (by decide)
  have hline : c ≠ '\n' := not_special h (by decide) (by decide)
  have hreturn : c ≠ '\r' := not_special h (by decide) (by decide)
  simp [isBlank, hspace, htab, hline, hreturn]

theorem value?_of_number {c : Char} (h : c.isDigit = true ∨ c = '-') (steps : Nat)
    (cs : List Char) :
    value? (steps + 1) (c :: cs) = (number? (c :: cs)).map (fun p => (.number p.1, p.2)) := by
  rw [value?, skip_cons (not_blank h)]
  split
  case h_7 => rfl
  all_goals
    rename_i heq
    cases heq
    exact absurd h (by decide)

/-- What is written of a value is not empty, and begins neither with a blank nor with the closing
bracket of an array. -/
theorem chars_eq_cons (j : Json) :
    ∃ c cs, chars j = c :: cs ∧ isBlank c = false ∧ c ≠ ']' := by
  -- Each kind of value begins with a character of its own.
  cases j with
  | null => exact ⟨_, _, rfl, by decide, by decide⟩
  | bool b => cases b <;> exact ⟨_, _, rfl, by decide, by decide⟩
  | number n =>
    obtain ⟨c, cs, htext, hc⟩ := numberChars_eq_cons n
    exact ⟨c, cs, htext, not_blank hc, not_special hc (by decide) (by decide)⟩
  | string s => exact ⟨_, _, rfl, by decide, by decide⟩
  | array elements => cases elements <;> exact ⟨_, _, rfl, by decide, by decide⟩
  | object members =>
    rcases members with _ | ⟨⟨name, value⟩, rest⟩
    · exact ⟨_, _, rfl, by decide, by decide⟩
    · exact ⟨_, _, rfl, by decide, by decide⟩
  | unreadable => exact ⟨_, _, rfl, by decide, by decide⟩

/-- An array that has elements is read from its first element on. -/
theorem value?_of_elements (element : Json) (steps : Nat) (cs : List Char) :
    value? (steps + 1) ('[' :: (chars element ++ cs))
      = (elements? steps (chars element ++ cs)).map (fun p => (.array p.1, p.2)) := by
  obtain ⟨c, tail, htext, hblank, hbracket⟩ := chars_eq_cons element
  rw [htext, List.cons_append, value?, skip_cons (by decide)]
  simp only [skip_cons hblank]
  split
  case h_1 heq =>
    cases heq
    exact absurd rfl hbracket
  case h_2 => rfl

/-- A member is read up to its value, and then its value is. -/
theorem members?_of_member (name : String) (steps : Nat) (cs : List Char) :
    members? (steps + 1) (quoted name ++ ':' :: cs) =
      (value? steps cs >>= fun p =>
        match skip p.2 with
        | ',' :: rest => (members? steps rest).map (fun q => (withMember name p.1 q.1, q.2))
        | '\x7d' :: rest => some (withMember name p.1 (some []), rest)
        | _ => none) := by
  have hname := stringRest?_escaped name (':' :: cs)
  show (stringRest? (name.toList.flatMap escapeChar ++ ['"'] ++ ':' :: cs) >>= _) = _
  rw [List.append_assoc, List.singleton_append, hname]
  rfl

mutual

/-- **A value** is read as it was written, if there are steps enough and it does not run on. -/
theorem value?_chars : ∀ (j : Json) (steps : Nat) (rest : List Char),
    (chars j).length < steps → Stops rest → value? steps (chars j ++ rest) = some (j, rest)
  | _, 0, _, h, _ => absurd h (Nat.not_lt_zero _)
  | .null, steps + 1, rest, _, _ => rfl
  | .bool true, steps + 1, rest, _, _ => rfl
  | .bool false, steps + 1, rest, _, _ => rfl
  | .number n, steps + 1, rest, _, hrest => by
    obtain ⟨c, cs, htext, hc⟩ := numberChars_eq_cons n
    have hread := number?_numberChars n hrest
    show value? (steps + 1) (numberChars n ++ rest) = _
    rw [htext, List.cons_append] at hread ⊢
    rw [value?_of_number hc, hread]
    rfl
  | .string s, steps + 1, rest, _, _ => by
    show (stringRest? (s.toList.flatMap escapeChar ++ ['"'] ++ rest)).map _ = _
    rw [List.append_assoc, List.singleton_append, stringRest?_escaped]
    rfl
  | .array [], steps + 1, rest, _, _ => rfl
  | .array (element :: others), steps + 1, rest, h, _ => by
    -- One step is taken for the bracket; the elements are shorter than the array.
    have hsteps : (chars element ++ elementsEnd others).length < steps := by
      simp only [chars, List.length_cons] at h
      omega
    have hread := elements?_chars element others steps rest hsteps
    rw [List.append_assoc] at hread
    show value? (steps + 1) ('[' :: (chars element ++ elementsEnd others ++ rest)) = _
    rw [List.append_assoc, value?_of_elements, hread]
    rfl
  | .unreadable, steps + 1, rest, _, _ => rfl
  | .object [], steps + 1, rest, _, _ => rfl
  | .object ((name, value) :: others), steps + 1, rest, h, _ => by
    -- So it is with the members of an object.
    have hsteps : (quoted name ++ ':' :: (chars value ++ membersEnd others)).length < steps := by
      simp only [chars, List.length_cons] at h
      omega
    have hread := members?_chars name value others steps rest hsteps
    show (members? steps (quoted name ++ ':' :: (chars value ++ membersEnd others) ++ rest)).map _
      = _
    rw [hread]
    rfl

/-- **The elements** of an array are read up to its closing bracket. -/
theorem elements?_chars : ∀ (element : Json) (others : List Json) (steps : Nat) (rest : List Char),
    (chars element ++ elementsEnd others).length < steps →
      elements? steps (chars element ++ elementsEnd others ++ rest)
        = some (element :: others, rest)
  | _, _, 0, _, h => absurd h (Nat.not_lt_zero _)
  | element, [], steps + 1, rest, h => by
    have hsteps : (chars element).length < steps := by
      simp only [elementsEnd, List.length_append, List.length_singleton] at h
      omega
    have hread := value?_chars element steps _ hsteps (stops_elementsEnd [] rest)
    rw [List.append_assoc, elements?, hread]
    rfl
  | element, next :: others, steps + 1, rest, h => by
    simp only [elementsEnd, List.length_append, List.length_cons] at h
    have hread := value?_chars element steps _ (by omega) (stops_elementsEnd (next :: others) rest)
    -- The comma took the step that the others lack.
    have hothers := elements?_chars next others steps rest (by simp; omega)
    rw [List.append_assoc, elements?, hread]
    show (elements? steps (chars next ++ elementsEnd others ++ rest)).map _ = _
    rw [hothers]
    rfl

/-- **The members** of an object are read up to its closing brace. -/
theorem members?_chars : ∀ (name : String) (value : Json) (others : List (String × Json))
    (steps : Nat) (rest : List Char),
    (quoted name ++ ':' :: (chars value ++ membersEnd others)).length < steps →
      members? steps (quoted name ++ ':' :: (chars value ++ membersEnd others) ++ rest)
        = some (some ((name, value) :: others), rest)
  | _, _, _, 0, _, h => absurd h (Nat.not_lt_zero _)
  | name, value, [], steps + 1, rest, h => by
    simp only [membersEnd, List.length_append, List.length_cons] at h
    have hread := value?_chars value steps _ (by omega) (stops_membersEnd [] rest)
    rw [List.append_assoc, List.cons_append, members?_of_member, List.append_assoc, hread]
    rfl
  | name, value, (name', value') :: others, steps + 1, rest, h => by
    simp only [membersEnd, List.length_append, List.length_cons] at h
    have hread := value?_chars value steps _ (by omega)
      (stops_membersEnd ((name', value') :: others) rest)
    have hothers := members?_chars name' value' others steps rest (by simp; omega)
    rw [List.append_assoc, List.cons_append, members?_of_member, List.append_assoc, hread]
    show (members? steps (quoted name' ++ ':' :: (chars value' ++ membersEnd others) ++ rest)).map _
      = _
    rw [hothers]
    rfl

end

/-- **Writing and reading.**  A value that was written is read again. -/
theorem read?_write (j : Json) : read? (write j) = some j := by
  have hread := value?_chars j ((chars j).length + 1) [] (Nat.lt_succ_self _) stops_nil
  rw [List.append_nil] at hread
  rw [read?, write, String.toList_ofList, hread]
  rfl

end ModelAdapter.Json
