import BuildCapture.Container
import BuildCapture.Proofs.Container.Streams
import BuildCapture.Proofs.Octets.Slice

/-!
# What an image stores

An image stores the data of an entry if the data is got back from the octets in
the place of the entry.  Images that grow, or that are cut behind the place,
store the same.  Octets of length zero may lie anywhere, even behind the end of
the image, since nothing is read for them.
-/

namespace BuildCapture

namespace Container

/-! ## Stretches -/

/-- The place of stored octets in an image. -/
structure Stretch where
  offset : Nat
  length : Nat

namespace Stretch

/-- Nothing is stored in both of two stretches. -/
def Apart (left right : Stretch) : Prop :=
  left.length = 0 ∨ right.length = 0 ∨
    left.offset + left.length ≤ right.offset ∨ right.offset + right.length ≤ left.offset

theorem Apart.symm
    {left right : Stretch}
    (apart : left.Apart right) :
    right.Apart left := by
  rcases apart with nothing | nothing | before | behind
  · exact Or.inr (Or.inl nothing)
  · exact Or.inl nothing
  · exact Or.inr (Or.inr (Or.inr before))
  · exact Or.inr (Or.inr (Or.inl behind))

/-- All that a stretch stores is in an image of this length. -/
def Within (stretch : Stretch) (length : Nat) : Prop :=
  stretch.length = 0 ∨ stretch.offset + stretch.length ≤ length

theorem Within.mono
    {stretch : Stretch}
    {length longer : Nat}
    (within : stretch.Within length)
    (grows : length ≤ longer) :
    stretch.Within longer := by
  rcases within with nothing | inside
  · exact Or.inl nothing
  · exact Or.inr (Nat.le_trans inside grows)

/-- A stretch within an image is apart from whatever comes behind the image. -/
theorem Within.apart
    {stretch next : Stretch}
    (within : stretch.Within next.offset) :
    stretch.Apart next := by
  rcases within with nothing | inside
  · exact Or.inl nothing
  · exact Or.inr (Or.inr (Or.inl inside))

/-- Cutting the last stretch off leaves those that are apart from it. -/
theorem Within.cut
    {stretch last : Stretch}
    {length : Nat}
    (within : stretch.Within length)
    (apart : stretch.Apart last)
    (ends : last.offset + last.length = length) :
    stretch.Within last.offset := by
  unfold Within at within ⊢
  rcases apart with nothing | nothing | before | behind
  · exact Or.inl nothing
  · omega
  · exact Or.inr before
  · omega

end Stretch

/-- The place of an entry. -/
def stretchOf
    (entry : DirectoryEntry) :
    Stretch where
  offset := entry.offset
  length := entry.storedLength

/-- The place of pending octets. -/
def Pending.stretch
    (pending : Pending) :
    Stretch where
  offset := pending.offset
  length := pending.storedLength

/-! ## Stored data -/

/-- An image has the stored octets of an entry, and they stand for some data. -/
structure Stores (image : Octets) (entry : DirectoryEntry) (data : Octets) : Prop where
  behindHeader : headerLength ≤ entry.offset
  within : (stretchOf entry).Within image.length
  checksum : crc32 (Octets.slice image entry.offset entry.storedLength) = entry.checksum
  expands : expand entry (Octets.slice image entry.offset entry.storedLength) = .ok data
  /-- A stream gives the data as well. -/
  decoders : entry.isCompressed = true →
    Zstd.DecodersAgree (Octets.slice image entry.offset entry.storedLength)
  offset_lt : entry.offset < Octets.bound 8
  storedLength_lt : entry.storedLength < Octets.bound 8
  rawLength_lt : entry.rawLength < Octets.bound 8

namespace Stores

/-- Another image with the same octets in the place of the entry stores the same data. -/
theorem transfer
    {image other : Octets}
    {entry : DirectoryEntry}
    {data : Octets}
    (stores : Stores image entry data)
    (within : (stretchOf entry).Within other.length)
    (same : entry.storedEnd ≤ image.length → entry.storedEnd ≤ other.length →
      Octets.slice other entry.offset entry.storedLength =
        Octets.slice image entry.offset entry.storedLength) :
    Stores other entry data := by
  have slices :
      Octets.slice other entry.offset entry.storedLength =
        Octets.slice image entry.offset entry.storedLength := by
    rcases stores.within with nothing | inside
    · have zero : entry.storedLength = 0 := nothing
      rw [zero, Octets.slice_length_zero, Octets.slice_length_zero]
    · rcases within with nothing | insideOther
      · have zero : entry.storedLength = 0 := nothing
        rw [zero, Octets.slice_length_zero, Octets.slice_length_zero]
      · exact same inside insideOther
  exact {
    behindHeader := stores.behindHeader
    within := within
    checksum := slices ▸ stores.checksum
    expands := slices ▸ stores.expands
    decoders := slices ▸ stores.decoders
    offset_lt := stores.offset_lt
    storedLength_lt := stores.storedLength_lt
    rawLength_lt := stores.rawLength_lt }

theorem append
    {image : Octets}
    {entry : DirectoryEntry}
    {data : Octets}
    (stores : Stores image entry data)
    (more : Octets) :
    Stores (image ++ more) entry data := by
  apply stores.transfer
  · apply stores.within.mono
    rw [List.length_append]
    exact Nat.le_add_right _ _
  · intro inside _
    exact Octets.slice_append_left inside more

theorem take
    {image : Octets}
    {entry : DirectoryEntry}
    {data : Octets}
    (stores : Stores image entry data)
    {cut : Nat}
    (before : (stretchOf entry).Within cut)
    (short : cut ≤ image.length) :
    Stores (image.take cut) entry data := by
  have length : (image.take cut).length = cut := List.length_take_of_le short
  apply stores.transfer
  · rw [length]
    exact before
  · intro _ inside
    rw [length] at inside
    exact Octets.slice_take inside image

/-- The name of an entry does not matter for what it stores. -/
theorem renamed
    {image : Octets}
    {pending : Pending}
    {name : String}
    {data : Octets}
    (stores : Stores image (pending.named name) data)
    (other : String) :
    Stores image (pending.named other) data where
  behindHeader := stores.behindHeader
  within := stores.within
  checksum := stores.checksum
  expands := by
    have expands := stores.expands
    unfold expand at expands ⊢
    split at expands
    · next compressed =>
      have compressedToo : (pending.named other).isCompressed = true := compressed
      rw [if_pos compressedToo]
      split at expands
      · cases expands
      next raw unpacked =>
      have unpackedToo :
          Zstd.decompressWhole? (pending.named other).rawLength
            (Octets.slice image (pending.named other).offset
              (pending.named other).storedLength) = some raw := unpacked
      rw [unpackedToo]
      split at expands
      · next long =>
        have longToo : raw.length = (pending.named other).rawLength := long
        rw [← expands]
        exact if_pos longToo
      · cases expands
    · next plain =>
      have plainToo : ¬ (pending.named other).isCompressed = true := plain
      rw [if_neg plainToo]
      exact expands
  decoders := stores.decoders
  offset_lt := stores.offset_lt
  storedLength_lt := stores.storedLength_lt
  rawLength_lt := stores.rawLength_lt

/-- An entry that stores something has fields that a directory can state. -/
theorem fits
    {image : Octets}
    {entry : DirectoryEntry}
    {data : Octets}
    (stores : Stores image entry data)
    (short : (Octets.ofText entry.name).length < Octets.bound 2) :
    entry.Fits where
  name := short
  offset := stores.offset_lt
  storedLength := stores.storedLength_lt
  rawLength := stores.rawLength_lt

end Stores

/-! ## Forms in which data is stored -/

/-- A form that the data is got back from. -/
def Restores (form : Octets × UInt16) (data : Octets) : Prop :=
  form = (data, 0) ∨ form.2 = DirectoryEntry.compressedFlags ∧ Zstd.Encodes form.1 data

/-- The longest file has a length that a directory can state. -/
theorem maximalFile_lt : FileSystem.maximalFile < Octets.bound 8 := by
  decide

/-- An entry of octets that are stored as they are is not compressed. -/
theorem not_isCompressed_of_plain
    (offset : Nat)
    (data : Octets)
    (name : String) :
    ¬ ((Pending.ofStored offset data data 0).named name).isCompressed = true := by
  show ¬ decide ((0 : UInt16) &&& DirectoryEntry.compressedFlags ≠ 0) = true
  decide

/-- An entry whose octets are a form of the data expands to the data. -/
theorem Restores.expands
    {data : Octets}
    {form : Octets × UInt16}
    (restores : Restores form data)
    (offset : Nat)
    (name : String) :
    expand ((Pending.ofStored offset data form.1 form.2).named name) form.1 = .ok data := by
  rcases restores with rfl | ⟨compressed, encodes⟩
  · exact if_neg (not_isCompressed_of_plain offset data name)
  · have flagged :
        ((Pending.ofStored offset data form.1 form.2).named name).isCompressed = true := by
      show decide (form.2 &&& DirectoryEntry.compressedFlags ≠ 0) = true
      rw [compressed]
      decide
    have unpacked :
        Zstd.decompressWhole?
            ((Pending.ofStored offset data form.1 form.2).named name).rawLength form.1 =
          some data := encodes.whole
    have long :
        data.length = ((Pending.ofStored offset data form.1 form.2).named name).rawLength := rfl
    rw [expand, if_pos flagged, unpacked]
    exact if_pos long

/-- Octets that were appended in a form are stored. -/
theorem stores_appended
    {image data : Octets}
    {form : Octets × UInt16}
    (restores : Restores form data)
    (behind : headerLength ≤ image.length)
    (fits : image.length + form.1.length ≤ FileSystem.maximalFile)
    (name : String) :
    Stores (image ++ form.1)
      ((Pending.ofStored image.length data form.1 form.2).named name) data := by
  have small := maximalFile_lt
  have place := Octets.slice_last image form.1
  constructor
  case behindHeader => exact behind
  case within =>
    right
    rw [List.length_append]
    exact Nat.le_refl _
  case checksum => exact congrArg crc32 place
  case expands =>
    show expand _ (Octets.slice (image ++ form.1) image.length form.1.length) = _
    rw [place]
    exact restores.expands image.length name
  case decoders =>
    intro compressed
    show Zstd.DecodersAgree (Octets.slice (image ++ form.1) image.length form.1.length)
    rw [place]
    rcases restores with rfl | ⟨-, encodes⟩
    · exact absurd compressed (not_isCompressed_of_plain _ _ _)
    · exact encodes.decodersAgree
  case offset_lt =>
    show image.length < _
    omega
  case storedLength_lt =>
    show form.1.length < _
    omega
  case rawLength_lt =>
    show data.length < _
    rcases restores with rfl | ⟨-, encodes⟩
    · have same : (data, (0 : UInt16)).1.length = data.length := rfl
      omega
    · exact encodes.fits

namespace Draft

section Forms

variable [Zstd.Encoder]

/-- Octets from memory are stored in a form that they are got back from. -/
theorem pack?_restores
    {compression : CompressionConfig}
    {data : Octets}
    {form : Octets × UInt16}
    (packing : pack? compression data = some form) :
    Restores form data := by
  rw [pack?] at packing
  split at packing
  · rcases Option.map_eq_some_iff.1 packing with ⟨packed, encoded, rfl⟩
    split
    · exact Or.inr ⟨rfl, Zstd.Encoder.whole?_encodes encoded⟩
    · exact Or.inl rfl
  · cases packing
    exact Or.inl rfl

/-- Octets from a source are stored in a form that they are got back from. -/
theorem packStream?_restores
    {compression : CompressionConfig}
    {data : Octets}
    {form : Octets × UInt16}
    (packing : packStream? compression data = some form) :
    Restores form data := by
  rw [packStream?] at packing
  split at packing
  · rcases Option.map_eq_some_iff.1 packing with ⟨packed, encoded, rfl⟩
    exact Or.inr ⟨rfl, Zstd.Encoder.stream?_encodes encoded⟩
  · cases packing
    exact Or.inl rfl

end Forms

end Draft

end Container

end BuildCapture
