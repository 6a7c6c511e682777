import ModelAdapter.Files.Path

/-! # The environment of the process

The variables of the process, each with its value.  A variable is set for the
whole process: setting it again replaces the value.  A value need not be text, as
when it is a path, and a variable that is read as text is not there when its value
is none.
-/

namespace ModelAdapter

/-- Variables and their values. -/
abbrev Variables (α : Type) := List (String × α)

/-- The variables of the process that are text. -/
abbrev Environment := Variables String

namespace Variables

variable {α : Type}

def get? (env : Variables α) (name : String) : Option α := env.lookup name

/-- The variables when one of them has been given a value. -/
def set (env : Variables α) (name : String) (value : α) : Variables α :=
  (name, value) :: env.filter (fun v => v.1 != name)

/-- The variables whose values are text. -/
def texts (env : Variables Path) : Environment :=
  env.filterMap (fun v => v.2.text?.map (v.1, ·))

theorem get?_set_self (env : Variables α) (name : String) (value : α) :
    (env.set name value).get? name = some value := by
  simp [get?, set]

theorem get?_set_ne (env : Variables α) {name other : String} (value : α)
    (h : other ≠ name) : (env.set name value).get? other = env.get? other := by
  have hother : (other == name) = false := by simpa using h
  simp only [get?, set, List.lookup_cons, hother]
  induction env with
  | nil => rfl
  | cons v rest ih =>
      obtain ⟨n, x⟩ := v
      by_cases hn : n = name
      · subst hn
        rw [List.filter_cons_of_neg (by simp), List.lookup_cons, hother]
        exact ih
      · rw [List.filter_cons_of_pos (by simpa using hn), List.lookup_cons, List.lookup_cons, ih]

theorem set_set (env : Variables α) (name : String) (value value' : α) :
    (env.set name value).set name value' = env.set name value' := by
  simp [set, List.filter_filter]

end Variables

end ModelAdapter
