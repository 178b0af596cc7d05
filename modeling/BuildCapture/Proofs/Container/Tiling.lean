import BuildCapture.Container.Directory
import Mathlib.Data.List.Basic

/-!
# Tilings

Entries tile a region of a container if their stored octets follow each other
from its start to its end.  Every octet of the region then belongs to exactly
one entry, and no octet outside of it belongs to any.
-/

namespace BuildCapture.Container

/-- Entries fill a region in order: each of them starts where the one before it ends. -/
def Tiles : (start limit : Nat) → List DirectoryEntry → Prop
  | start, limit, [] => start = limit
  | start, limit, entry :: rest => entry.offset = start ∧ Tiles entry.storedEnd limit rest

namespace Tiles

variable
  {start limit : Nat}
  {entries : List DirectoryEntry}

/-- An entry that starts where a region ends makes the region longer. -/
theorem append_singleton
    (tiles : Tiles start limit entries)
    {entry : DirectoryEntry}
    (starts : entry.offset = limit) :
    Tiles start entry.storedEnd (entries ++ [entry]) := by
  induction entries generalizing start with
  | nil => exact ⟨starts.trans tiles.symm, rfl⟩
  | cons first rest ih => exact ⟨tiles.1, ih tiles.2⟩

theorem start_le
    (tiles : Tiles start limit entries) :
    start ≤ limit := by
  induction entries generalizing start with
  | nil => exact Nat.le_of_eq tiles
  | cons first rest ih =>
    have ends : first.storedEnd = first.offset + first.storedLength := rfl
    have behind := ih tiles.2
    have starts := tiles.1
    omega

/-- No entry starts before the region. -/
theorem start_le_offset
    (tiles : Tiles start limit entries) :
    ∀ entry ∈ entries, start ≤ entry.offset := by
  induction entries generalizing start with
  | nil => simp
  | cons first rest ih =>
    intro entry member
    rcases List.mem_cons.1 member with rfl | later
    · exact Nat.le_of_eq tiles.1.symm
    · have ends : first.storedEnd = first.offset + first.storedLength := rfl
      have behind := ih tiles.2 entry later
      have starts := tiles.1
      omega

/-- There is no overlap. -/
theorem pairwise_storedEnd_le
    (tiles : Tiles start limit entries) :
    entries.Pairwise fun left right => left.storedEnd ≤ right.offset := by
  induction entries generalizing start with
  | nil => exact List.Pairwise.nil
  | cons first rest ih => exact List.Pairwise.cons tiles.2.start_le_offset (ih tiles.2)

/-- There is no gap, and nothing outside of the region. -/
theorem exists_mem_iff
    (tiles : Tiles start limit entries)
    (position : Nat) :
    (∃ entry ∈ entries, entry.offset ≤ position ∧ position < entry.storedEnd) ↔
      start ≤ position ∧ position < limit := by
  induction entries generalizing start with
  | nil =>
    have empty : start = limit := tiles
    constructor
    · simp
    · intro inside
      omega
  | cons first rest ih =>
    have starts := tiles.1
    have ends : first.storedEnd = first.offset + first.storedLength := rfl
    have behind := tiles.2.start_le
    rw [List.exists_mem_cons_iff, ih tiles.2]
    omega

end Tiles

/-- Entries fill a region in order, without a gap and without an overlap. -/
structure Fills
    (start limit : Nat)
    (entries : List DirectoryEntry) : Prop where
  tiles : Tiles start limit entries
  apart : entries.Pairwise fun left right => left.storedEnd ≤ right.offset
  /-- The octets of the region, and no others, are stored for an entry. -/
  covers : ∀ position,
    (∃ entry ∈ entries, entry.offset ≤ position ∧ position < entry.storedEnd) ↔
      start ≤ position ∧ position < limit

theorem Tiles.fills
    {start limit : Nat}
    {entries : List DirectoryEntry}
    (tiles : Tiles start limit entries) :
    Fills start limit entries where
  tiles := tiles
  apart := tiles.pairwise_storedEnd_le
  covers := tiles.exists_mem_iff

end BuildCapture.Container
