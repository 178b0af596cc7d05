import BuildCapture.Octets

/-!
# Slices of octets

A field with a fixed place is a slice of a concatenation whose parts have known
lengths.  Such a slice lies in one of the parts, or is one of them.  What is apart
from a slice, or cut off behind it, does not change it.
-/

namespace BuildCapture.Octets

theorem slice_length_zero
    (data : Octets)
    (offset : Nat) :
    slice data offset 0 = [] := by
  rw [slice, List.take_zero]

/-- Inside the data a slice has the length that was asked for. -/
theorem length_slice
    {data : Octets}
    {offset length : Nat}
    (inside : offset + length ≤ data.length) :
    (slice data offset length).length = length := by
  rw [slice, List.length_take, List.length_drop]
  omega

/-- Inside its bounds a slice has the octets of the data. -/
theorem getElem?_slice
    {length index : Nat}
    (inside : index < length)
    (data : Octets)
    (offset : Nat) :
    (slice data offset length)[index]? = data[offset + index]? := by
  rw [slice, List.getElem?_take_of_lt inside, List.getElem?_drop]

/-! ## Parts of data -/

/-- Two slices that meet are one. -/
theorem slice_append_slice
    {offset next first : Nat}
    (meets : offset + first = next)
    (data : Octets)
    (second : Nat) :
    slice data offset first ++ slice data next second = slice data offset (first + second) := by
  rw [slice, slice, slice, ← meets, List.take_add, List.drop_drop]

/-- Data is what is in front of a slice, the slice, and what is behind it. -/
theorem take_append_slice
    (data : Octets)
    (offset length : Nat) :
    data.take offset ++ (slice data offset length ++ data.drop (offset + length)) = data := by
  rw [slice, ← List.drop_drop, List.take_append_drop, List.take_append_drop]

/-- A slice of what follows a prefix is a slice further on. -/
theorem slice_drop
    (data : Octets)
    (skipped offset length : Nat) :
    slice (data.drop skipped) offset length = slice data (skipped + offset) length := by
  rw [slice, slice, List.drop_drop]

/-- A slice that ends before a cut is not changed by it. -/
theorem slice_take
    {offset length cut : Nat}
    (before : offset + length ≤ cut)
    (data : Octets) :
    slice (data.take cut) offset length = slice data offset length := by
  unfold slice
  rw [List.drop_take, List.take_take, Nat.min_eq_left (by omega)]

/-! ## Slices of a concatenation -/

/-- A slice that ends within the first part is a slice of it. -/
theorem slice_append_left
    {front : Octets}
    {offset length : Nat}
    (within : offset + length ≤ front.length)
    (back : Octets) :
    slice (front ++ back) offset length = slice front offset length := by
  unfold slice
  rw [List.drop_append_of_le_length (by omega), List.take_append_of_le_length]
  rw [List.length_drop]
  omega

/-- A slice that starts behind the first part is a slice of the second. -/
theorem slice_append_of_length_le
    {front : Octets}
    {offset : Nat}
    (behind : front.length ≤ offset)
    (back : Octets)
    (length : Nat) :
    slice (front ++ back) offset length = slice back (offset - front.length) length := by
  unfold slice
  rw [List.drop_append, List.drop_eq_nil_of_le behind, List.nil_append]

/-- The slice that is the first part. -/
theorem slice_append_zero
    {front : Octets}
    {length : Nat}
    (exact_ : front.length = length)
    (back : Octets) :
    slice (front ++ back) 0 length = front := by
  rw [slice, List.drop_zero, ← exact_, List.take_left]

/-- The slice that is a part in the middle. -/
theorem slice_middle
    (front middle back : Octets) :
    slice (front ++ (middle ++ back)) front.length middle.length = middle := by
  rw [slice_append_of_length_le (Nat.le_refl _), Nat.sub_self]
  exact slice_append_zero rfl back

/-- The slice that is the last part. -/
theorem slice_last
    (front back : Octets) :
    slice (front ++ back) front.length back.length = back := by
  have middle := slice_middle front back []
  rw [List.append_nil] at middle
  exact middle

/-! ## One octet -/

section

variable
    {before after : Octets}
    {offset length : Nat}

/-- A slice that lies apart from an octet does not depend on it. -/
theorem slice_of_apart
    (apart : before.length < offset ∨ offset + length ≤ before.length)
    (left right : UInt8) :
    slice (before ++ left :: after) offset length =
      slice (before ++ right :: after) offset length := by
  rcases apart with earlier | later
  · have behind : ∀ octet : UInt8, (before ++ [octet]).length ≤ offset := by
      intro octet
      rw [List.length_append]
      exact earlier
    rw [List.append_cons, List.append_cons before right, slice_append_of_length_le (behind left),
      slice_append_of_length_le (behind right), List.length_append, List.length_append]
    rfl
  · rw [slice_append_left later, slice_append_left later]

/-- A slice around an octet is a message with that octet in it. -/
theorem slice_of_around
    (start : offset ≤ before.length)
    (stop : before.length < offset + length)
    (octet : UInt8) :
    slice (before ++ octet :: after) offset length =
      before.drop offset ++ octet :: after.take (offset + length - before.length - 1) := by
  have taken :
      length = (before.drop offset).length + (offset + length - before.length - 1 + 1) := by
    rw [List.length_drop]
    omega
  rw [slice, List.drop_append_of_le_length start, taken, List.take_length_add_append]
  rw [← taken, List.take_succ_cons]

end

end BuildCapture.Octets
