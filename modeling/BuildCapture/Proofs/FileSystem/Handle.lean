import BuildCapture.FileSystem.Handle
import BuildCapture.Proofs.FileSystem

/-!
# What a handle does to its file

A handle that is at the end of its file stays there: a write appends to the
file, all of the octets or as many as fit, and cutting takes octets off its
end.
-/

namespace BuildCapture.FileSystem.Handle

/-- A handle is at the end of the file with a content that a route leads to. -/
structure Holds
    (handle : Handle)
    (route : Route)
    (content : Octets) : Prop where
  found : ∃ location stamp,
    handle.files.find route = .ok (location, .file handle.identity stamp content)
  position : handle.position = content.length
  size : content.length ≤ maximalFile

namespace Holds

variable
  {handle after : Handle}
  {route : Route}
  {content data left : Octets}

/-- A write appends a first part of the octets, which is all of them if there is room. -/
theorem write
    (holds : handle.Holds route content)
    (writing : handle.write data = (after, left)) :
    ∃ part, data = part ++ left ∧ after.Holds route (content ++ part) ∧
      (left ≠ [] → maximalFile < content.length + data.length) := by
  rw [Handle.write, room, holds.position] at writing
  cases writing
  have size := holds.size
  refine ⟨data.take (maximalFile - content.length), (List.take_append_drop _ _).symm, ?_, ?_⟩
  · constructor
    case found =>
      rcases holds.found with ⟨location, stamp, found⟩
      have changed :=
        find_edit found (overwritten content.length (data.take (maximalFile - content.length)))
      rw [overwritten_length] at changed
      exact ⟨location, _, changed⟩
    case position => rw [List.length_append]
    case size =>
      rw [List.length_append, List.length_take]
      omega
  · intro exceeds
    have long := List.length_pos_iff.2 exceeds
    rw [List.length_drop] at long
    omega

/-- A write that leaves nothing appends all octets. -/
theorem write_all
    (holds : handle.Holds route content)
    (writing : handle.write data = (after, [])) :
    after.Holds route (content ++ data) := by
  rcases holds.write writing with ⟨part, rfl, extended, -⟩
  rw [List.append_nil]
  exact extended

/-- Octets for which there is room are all written. -/
theorem write_of_fits
    (holds : handle.Holds route content)
    (fits : content.length + data.length ≤ maximalFile) :
    ∃ after, handle.write data = (after, []) ∧ after.Holds route (content ++ data) := by
  cases writing : handle.write data with
  | mk after left =>
    rcases holds.write writing with ⟨part, split, extended, exceeds⟩
    have nothing : left = [] := by
      by_contra some
      exact absurd fits (Nat.not_le.2 (exceeds some))
    subst nothing
    exact ⟨after, rfl, holds.write_all writing⟩

/-- Cutting keeps the beginning of the content. -/
theorem cut
    (holds : handle.Holds route content)
    {length : Nat}
    (shorter : length ≤ content.length) :
    (handle.cut length).Holds route (content.take length) := by
  constructor
  case found =>
    rcases holds.found with ⟨location, stamp, found⟩
    have changed := find_edit found (resized length)
    rw [resized_of_le shorter] at changed
    exact ⟨location, _, changed⟩
  case position => exact (List.length_take_of_le shorter).symm
  case size =>
    rw [List.length_take_of_le shorter]
    exact Nat.le_trans shorter holds.size

end Holds

end BuildCapture.FileSystem.Handle
