/-! # Buffers

A buffer belongs to whoever allocated it and keeps its length: writing to it
replaces bytes or values from its start on, and what does not fit is not
written.
-/

namespace ModelAdapter

variable {α : Type}

/-- A buffer after `new` was written over its start. -/
def overwrite (buffer new : List α) : List α :=
  new.take buffer.length ++ buffer.drop new.length

/-- A buffer brought to a given length: cut off at the end, or filled up. -/
def resize (buffer : List α) (length : Nat) (filler : α) : List α :=
  buffer.take length ++ List.replicate (length - buffer.length) filler

@[simp] theorem length_overwrite (buffer new : List α) :
    (overwrite buffer new).length = buffer.length := by
  simp [overwrite]
  omega

@[simp] theorem length_resize (buffer : List α) (length : Nat) (filler : α) :
    (resize buffer length filler).length = length := by
  simp [resize]
  omega

theorem resize_of_length_eq {buffer : List α} {length : Nat} (h : buffer.length = length)
    (filler : α) : resize buffer length filler = buffer := by
  simp [resize, ← h]

/-- What fits is written as it is, and the rest of the buffer stays. -/
theorem overwrite_of_length_le {buffer new : List α} (h : new.length ≤ buffer.length) :
    overwrite buffer new = new ++ buffer.drop new.length := by
  simp [overwrite, List.take_of_length_le h]

/-- Behind what is written, a buffer of fillers has fillers. -/
theorem overwrite_replicate {length : Nat} {new : List α} (filler : α) (h : new.length ≤ length) :
    overwrite (List.replicate length filler) new
      = new ++ List.replicate (length - new.length) filler := by
  have hle : new.length ≤ (List.replicate length filler).length := by
    rw [List.length_replicate]
    exact h
  rw [overwrite_of_length_le hle, List.drop_replicate]

theorem overwrite_of_le_length {buffer new : List α} (h : buffer.length ≤ new.length) :
    overwrite buffer new = new.take buffer.length := by
  rw [overwrite, List.drop_of_length_le h, List.append_nil]

theorem overwrite_of_length_eq {buffer new : List α} (h : new.length = buffer.length) :
    overwrite buffer new = new := by
  rw [overwrite_of_length_le (Nat.le_of_eq h), h, List.drop_length, List.append_nil]

end ModelAdapter
