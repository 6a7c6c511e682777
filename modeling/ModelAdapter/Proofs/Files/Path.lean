import Mathlib.Data.List.Basic
import ModelAdapter.Files.Path
import ModelAdapter.Proofs.Text.Utf8

/-! # What a path says of a file

A file is known by its name, and what is listed of it is a path, which begins with the
directory as that was spelled: from the root or not, with slashes at its end, with dots in
it.  The last name of the path is the name of the file again, so no spelling makes a file
look like one of another kind.

  * **Text** (`text?_eq_some_iff`, `Ends`): most names are text.  One that is not is told
    apart from all that are, and ends with nothing.
  * **Names** (`Proper`, `components_join`, `fileName_join`): the path of an entry leads
    through its directory and then to its name.
  * **Order** (`Precedes`, `key_join`): of two entries of one directory the names alone
    decide which one comes first.
-/

namespace ModelAdapter

namespace Text

section
variable {α : Type} [DecidableEq α]

theorem pieces_of_not_mem {separator : α} {cs : List α} (h : separator ∉ cs) :
    pieces separator cs = [cs] := by
  induction cs with
  | nil => rfl
  | cons c rest ih =>
    have hc : c ≠ separator := by
      intro heq
      exact h (heq ▸ List.mem_cons_self)
    have hrest : separator ∉ rest := fun hmem => h (List.mem_cons_of_mem _ hmem)
    rw [pieces, if_neg hc, ih hrest]

theorem pieces_ne_nil (separator : α) (cs : List α) : pieces separator cs ≠ [] := by
  cases cs with
  | nil => simp [pieces]
  | cons c rest =>
    by_cases hc : c = separator
    · simp [pieces, hc]
    · rw [pieces, if_neg hc]
      split <;> simp

/-- The pieces of two sequences with a separator between them are those of both. -/
theorem pieces_append (separator : α) (xs ys : List α) :
    pieces separator (xs ++ separator :: ys) = pieces separator xs ++ pieces separator ys := by
  induction xs with
  | nil => simp [pieces]
  | cons c rest ih =>
    by_cases hc : c = separator
    · simp [pieces, hc, ← ih]
    · rw [List.cons_append, pieces, if_neg hc, pieces, if_neg hc, ih]
      -- The first piece of the first sequence takes the element, and there is one.
      cases hpieces : pieces separator rest with
      | nil => exact absurd hpieces (pieces_ne_nil separator rest)
      | cons piece others => rfl

end

end Text

namespace Path

/-! ## §1. Text -/

@[simp]
theorem ofText_inj {a b : String} : ofText a = ofText b ↔ a = b := by
  rw [ofText, ofText, mk.injEq]
  exact Utf8.encode_injective.eq_iff

@[simp]
theorem display_ofText (text : String) : (ofText text).display = text := Utf8.decode_encode text

/-- **A path spells a text** exactly if it is the path of that text. -/
theorem text?_eq_some_iff {path : Path} {text : String} :
    path.text? = some text ↔ path = ofText text := by
  unfold text?
  constructor
  · intro h
    by_cases hback : Utf8.encode path.display = path.bytes
    · rw [if_pos hback, Option.some_inj] at h
      rw [← h, ofText, hback]
    · simp [hback] at h
  · rintro rfl
    rw [display_ofText]
    exact if_pos rfl

@[simp]
theorem text_ofText (text : String) : (ofText text).text = text := by
  rw [Path.text, text?_eq_some_iff.mpr rfl, Option.getD_some]

theorem text_eq_iff {name : Path} {text : String} (h : text ≠ "") :
    name.text = text ↔ name = ofText text := by
  constructor
  · intro htext
    cases hspelled : name.text? with
    | none => simp [Path.text, hspelled, h.symm] at htext
    | some found =>
      rw [Path.text, hspelled, Option.getD_some] at htext
      rw [text?_eq_some_iff.mp hspelled, htext]
  · rintro rfl
    exact text_ofText text

theorem endsWith_iff {text ending : String} :
    endsWith text ending = true ↔ ∃ front, text = front ++ ending := by
  rw [endsWith, List.isSuffixOf_iff_suffix]
  constructor
  · rintro ⟨front, hfront⟩
    refine ⟨String.ofList front, String.toList_inj.mp ?_⟩
    rw [String.toList_append, String.toList_ofList, hfront]
  · rintro ⟨front, rfl⟩
    rw [String.toList_append]
    exact List.suffix_append _ _

/-- **Comparing bytes** tells the same: no text ends within a character. -/
theorem endsWith_iff_encode {text ending : String} :
    endsWith text ending = true ↔ Utf8.encode ending <:+ Utf8.encode text := by
  rw [endsWith, List.isSuffixOf_iff_suffix, Utf8.encode_suffix_iff]

/-- A name that a directory can give to something in it. -/
structure Proper (name : Path) : Prop where
  noSlash : slash ∉ name.bytes
  notEmpty : name ≠ ""
  notHere : name ≠ "."
  notAbove : name ≠ ".."

instance (name : Path) : Decidable (Proper name) :=
  decidable_of_iff (slash ∉ name.bytes ∧ name ≠ "" ∧ name ≠ "." ∧ name ≠ "..")
    ⟨fun ⟨hslash, hempty, hhere, habove⟩ => ⟨hslash, hempty, hhere, habove⟩,
      fun h => ⟨h.noSlash, h.notEmpty, h.notHere, h.notAbove⟩⟩

theorem proper_ofText_iff {text : String} :
    Proper text ↔ '/' ∉ text.toList ∧ text ≠ "" ∧ text ≠ "." ∧ text ≠ ".." := by
  have hslash : slash ∈ (ofText text).bytes ↔ '/' ∈ text.toList :=
    Utf8.mem_encode_iff (c := '/') (by decide)
  constructor
  · intro h
    exact ⟨mt hslash.mpr h.noSlash, mt ofText_inj.mpr h.notEmpty, mt ofText_inj.mpr h.notHere,
      mt ofText_inj.mpr h.notAbove⟩
  · rintro ⟨hfree, hempty, hhere, habove⟩
    exact ⟨mt hslash.mp hfree, mt ofText_inj.mp hempty, mt ofText_inj.mp hhere,
      mt ofText_inj.mp habove⟩

theorem bytes_eq_nil_iff {path : Path} : path.bytes = [] ↔ path = "" := by
  constructor
  · intro h
    cases path
    exact congrArg mk h
  · rintro rfl
    rfl

theorem pieces_of_proper {name : Path} (h : Proper name) : name.pieces = [name] := by
  rw [pieces, Text.pieces_of_not_mem h.noSlash]
  rfl

/-- The pieces of the path of an entry are those of its directory's path, without the empty one that
may stand at the end of these, and the name. -/
theorem pieces_join (dir : Path) {name : Path} (h : Proper name) :
    ∃ front back, dir.pieces = front ++ back ∧ (∀ piece ∈ back, piece = "") ∧
      (dir.join name).pieces = front ++ [name] ∧ (dir ≠ "" → front ≠ []) := by
  have hname : Text.pieces slash name.bytes = [name.bytes] := Text.pieces_of_not_mem h.noSlash
  have hsome (bytes : List UInt8) : (Text.pieces slash bytes).map mk ≠ [] :=
    mt List.map_eq_nil_iff.mp (Text.pieces_ne_nil slash bytes)
  -- How the two are joined: without a directory, at a slash that is there, or at a new one.
  by_cases hempty : dir = ""
  · subst hempty
    refine ⟨[], [""], rfl, by simp, ?_, fun hne => absurd rfl hne⟩
    rw [join, if_pos rfl, pieces_of_proper h, List.nil_append]
  by_cases hslash : dir.bytes.getLast? = some slash
  · obtain ⟨front, hfront⟩ := List.getLast?_eq_some_iff.mp hslash
    refine ⟨(Text.pieces slash front).map mk, [""], ?_, by simp, ?_, fun _ => hsome front⟩
    · have hdir : Text.pieces slash dir.bytes = Text.pieces slash front ++ [[]] := by
        rw [hfront]
        exact Text.pieces_append slash front []
      rw [pieces, hdir, List.map_append]
      rfl
    · have hjoined : (dir.join name).bytes = front ++ slash :: name.bytes := by
        rw [join, if_neg hempty, if_pos hslash, hfront]
        simp
      rw [pieces, hjoined, Text.pieces_append, hname, List.map_append]
      rfl
  · refine ⟨dir.pieces, [], by simp, by simp, ?_, fun _ => hsome dir.bytes⟩
    rw [pieces, join, if_neg hempty, if_neg hslash, Text.pieces_append, hname, List.map_append]
    rfl

/-- **The path of an entry** leads through its directory, whatever the spelling of that, and then to
its name. -/
theorem components_join (dir : Path) {name : Path} (h : Proper name) :
    (dir.join name).components = dir.components ++ [name] := by
  obtain ⟨front, back, hdir, hback, hjoined, -⟩ := pieces_join dir h
  have hdropped : back.filter (fun (piece : Path) => piece ≠ "" ∧ piece ≠ ".") = [] := by
    apply List.filter_eq_nil_iff.mpr
    intro piece hpiece
    simp [hback piece hpiece]
  have hkept : [name].filter (fun (piece : Path) => piece ≠ "" ∧ piece ≠ ".") = [name] := by
    simp [h.notEmpty, h.notHere]
  rw [components, components, hjoined, hdir, List.filter_append, List.filter_append, hdropped,
    hkept, List.append_nil]

theorem lastName?_join (dir : Path) {name : Path} (h : Proper name) :
    (dir.join name).lastName? = some name := by
  rw [lastName?, components_join dir h, List.getLast?_concat]
  exact if_neg h.notAbove

theorem fileName_eq (path : Path) : path.fileName = (path.lastName?.map text).getD "" := by
  rw [fileName]
  cases path.lastName? <;> rfl

/-- **The path of a file** has the text of the file's name as its last name. -/
theorem fileName_join (dir : Path) {name : Path} (h : Proper name) :
    (dir.join name).fileName = name.text := by
  rw [fileName, lastName?_join dir h]

theorem fileNameEndsWith_join (dir : Path) {name : Path} (h : Proper name) (ending : String) :
    (dir.join name).fileNameEndsWith ending = endsWith name.text ending := by
  rw [fileNameEndsWith, fileName_join dir h]

theorem isAbsolute_join {dir : Path} (h : dir ≠ "") (name : Path) :
    (dir.join name).isAbsolute = dir.isAbsolute := by
  obtain ⟨more, hmore⟩ : ∃ more, (dir.join name).bytes = dir.bytes ++ more := by
    by_cases hslash : dir.bytes.getLast? = some slash
    · exact ⟨name.bytes, by rw [join, if_neg h, if_pos hslash]⟩
    · exact ⟨slash :: name.bytes, by rw [join, if_neg h, if_neg hslash]⟩
  rw [isAbsolute, hmore, List.head?_append_of_ne_nil _ (mt bytes_eq_nil_iff.mp h)]
  rfl

/-! ## §3. Order -/

/-- A path comes before another one: its components do, compared from the first one on. -/
def Precedes (a b : Path) : Prop := a.key < b.key

/-- What the path of an entry is ordered by is what that of its directory is, and then the name. -/
theorem key_join (dir : Path) {name : Path} (h : Proper name) :
    (dir.join name).key = dir.key ++ [3 :: name.bytes] := by
  -- A path begins as that of its directory; without one the name stands alone, which is neither the
  -- root nor a dot.
  have hstart : (if (dir.join name).isAbsolute = true then [[0]]
        else if (dir.join name).pieces.head? = some "." then [[1]] else [])
      = (if dir.isAbsolute = true then [[(0 : UInt8)]]
        else if dir.pieces.head? = some "." then [[1]] else []) := by
    by_cases hempty : dir = ""
    · subst hempty
      have hjoined : (ofText "").join name = name := if_pos rfl
      have hfirst : name.pieces.head? ≠ some "." := by
        rw [pieces_of_proper h]
        simpa using h.notHere
      have hrelative : name.isAbsolute = false := by
        rw [isAbsolute, beq_eq_false_iff_ne]
        exact fun hslash => h.noSlash (List.mem_of_mem_head? hslash)
      rw [hjoined, hrelative, if_neg hfirst]
      rfl
    · obtain ⟨front, back, hdir, -, hjoined, hfront⟩ := pieces_join dir h
      have hhead : (dir.join name).pieces.head? = dir.pieces.head? := by
        rw [hjoined, hdir, List.head?_append_of_ne_nil _ (hfront hempty),
          List.head?_append_of_ne_nil _ (hfront hempty)]
      rw [isAbsolute_join hempty, hhead]
  rw [key, hstart, components_join dir h, List.map_append, ← List.append_assoc]
  congr 1
  simp [h.notAbove]

theorem precedes_join (dir : Path) {a b : Path} (ha : Proper a) (hb : Proper b)
    (h : a.bytes < b.bytes) : Precedes (dir.join a) (dir.join b) := by
  rw [Precedes, key_join dir ha, key_join dir hb]
  apply List.append_left_lt
  exact List.Lex.rel (List.Lex.cons h)

/-- **In one directory** the last names decide. -/
theorem precedes_join_iff (dir : Path) {a b : Path} (ha : Proper a) (hb : Proper b) :
    Precedes (dir.join a) (dir.join b) ↔ a.bytes < b.bytes := by
  refine ⟨fun h => ?_, precedes_join dir ha hb⟩
  by_contra hno
  by_cases hsame : b.bytes = a.bytes
  · rw [Precedes, key_join dir ha, key_join dir hb, hsame] at h
    exact List.lt_irrefl _ h
  · have hback := precedes_join dir hb ha (Std.lt_of_le_of_ne (List.not_lt.mp hno) hsame)
    exact List.lt_irrefl _ (List.lt_trans h hback)

/-- Names are ordered by their bytes. -/
def nameLe (a b : Path) : Bool := decide (a.bytes ≤ b.bytes)

theorem nameLe_trans (a b c : Path) (hab : nameLe a b = true) (hbc : nameLe b c = true) :
    nameLe a c = true := by
  simp only [nameLe, decide_eq_true_eq] at hab hbc ⊢
  exact List.le_trans hab hbc

theorem nameLe_total (a b : Path) : (nameLe a b || nameLe b a) = true := by
  simp only [nameLe, Bool.or_eq_true, decide_eq_true_eq]
  exact List.le_total _ _

theorem lt_of_nameLe {a b : Path} (h : nameLe a b = true) (hne : a ≠ b) : a.bytes < b.bytes := by
  have hbytes : a.bytes ≠ b.bytes := fun hsame => hne (congrArg mk hsame)
  simp only [nameLe, decide_eq_true_eq] at h
  exact Std.lt_of_le_of_ne h hbytes

theorem le_join (dir : Path) {a b : Path} (ha : Proper a) (hb : Proper b) :
    (dir.join a).le (dir.join b) = nameLe a b := by
  rw [le, nameLe, decide_eq_decide, ← List.not_lt, ← List.not_lt]
  exact not_congr (precedes_join_iff dir hb ha)

end Path

end ModelAdapter
