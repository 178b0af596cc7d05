import BuildCapture.Proofs.Digest.Crc32
import BuildCapture.Proofs.Module.Image

/-!
# Changed module images

Reading an image looks at the fields of the header that it needs and at as many
octets of metadata as the header states.  The header guards the metadata with a
checksum, and no two metadata that differ in one octet have the same checksum, so
such a change is always noticed.  Flags, reserved octets and the body are never
looked at, so they may change in any way without the description changing.
-/

namespace BuildCapture

namespace Octets

/-- Slices of data that have the same octets there are the same. -/
theorem slice_congr
    {data other : Octets}
    {offset length : Nat}
    (same : ∀ index, offset ≤ index → index < offset + length → other[index]? = data[index]?) :
    slice other offset length = slice data offset length := by
  apply List.ext_getElem?
  intro index
  by_cases inside : index < length
  · rw [getElem?_slice inside, getElem?_slice inside]
    exact same _ (Nat.le_add_right _ _) (Nat.add_lt_add_left inside _)
  · have short (some : Octets) : (slice some offset length)[index]? = none := by
      rw [List.getElem?_eq_none_iff, slice, List.length_take]
      omega
    rw [short, short]

/-- A slice around an octet has another checksum when that octet is another one. -/
theorem crc32_slice_set_ne
    {data : Octets}
    {offset length index : Nat}
    (start : offset ≤ index)
    (stop : index < offset + length)
    (inside : index < data.length)
    {changed : UInt8}
    (different : data[index]? ≠ some changed) :
    crc32 (slice (data.set index changed) offset length) ≠ crc32 (slice data offset length) := by
  have front : (data.take index).length = index := List.length_take_of_le (Nat.le_of_lt inside)
  have whole : data = data.take index ++ data[index] :: data.drop (index + 1) := by
    rw [← List.drop_eq_getElem_cons inside, List.take_append_drop]
  have new : data.set index changed = data.take index ++ changed :: data.drop (index + 1) :=
    List.set_eq_take_append_cons_drop.trans (if_pos inside)
  have other : data[index] ≠ changed := by
    intro same
    rw [List.getElem?_eq_getElem inside, same] at different
    exact different rfl
  have before : offset ≤ (data.take index).length := by
    rw [front]
    exact start
  have behind : (data.take index).length < offset + length := by
    rw [front]
    exact stop
  rw [new, slice_of_around before behind changed]
  conv_rhs => rw [whole, slice_of_around before behind data[index]]
  exact crc32_ne_of_one_octet _ _ other.symm

end Octets

namespace ModuleInfo

open ModuleImage

/-! ## What reading looks at -/

/-- Where the metadata ends that the header of an image states. -/
def metadataEnd
    (data : Octets) :
    Nat :=
  headerLength + (Header.ofOctets data).metadataLength.toNat

/-- The metadata that the header of an image states. -/
def metadataOf
    (data : Octets) :
    Octets :=
  data.slice headerLength (Header.ofOctets data).metadataLength.toNat

/-- What metadata describes together with the identity and the version of a header. -/
def describe
    (header : Header)
    (metadata : Octets) :
    Except ImageFault ModuleInfo :=
  match ModuleId.ofOctets? header.id with
  | none => .error .truncated
  | some id => ofMetadata id header.version metadata

/-- An image with a header of the right kind and all the metadata that the header states. -/
structure IsComplete (data : Octets) : Prop where
  magic : (Header.ofOctets data).magic = ModuleImage.magic
  version : (Header.ofOctets data).headerVersion = ModuleImage.headerVersion
  bounded : (Header.ofOctets data).metadataLength.toNat ≤ maximalMetadata
  long : metadataEnd data ≤ data.length

/-- Of a complete image only header and metadata count, and a checksum guards the metadata. -/
theorem IsComplete.ofSource_eq
    {data : Octets}
    (complete : IsComplete data)
    (fault : Option FileFault) :
    ofSource ⟨data, fault⟩ =
      if crc32 (metadataOf data) ≠ (Header.ofOctets data).metadataChecksum then
        .error .checksumMismatch
      else
        (describe (Header.ofOctets data) (metadataOf data)).map
          fun info => (info, data.drop (metadataEnd data)) := by
  have long := complete.long
  rw [metadataEnd] at long
  have header : ¬ data.length < headerLength := by omega
  have metadata : ¬ (data.drop headerLength).length <
      (Header.ofOctets data).metadataLength.toNat := by
    rw [List.length_drop]
    omega
  rw [ofSource, if_neg header]
  simp only [complete.magic, complete.version, ne_eq, not_true_eq_false, if_false, gt_iff_lt,
    if_neg (Nat.not_lt.2 complete.bounded), if_neg metadata, List.drop_drop]
  rw [metadataOf, metadataEnd, Octets.slice]
  apply if_congr Iff.rfl rfl
  rw [describe]
  cases ModuleId.ofOctets? (Header.ofOctets data).id with
  | none => rfl
  | some id =>
    simp only
    cases ofMetadata id _ _ <;> rfl

/-- An image that is described is complete. -/
theorem isComplete_of_ofSource
    {data body : Octets}
    {fault : Option FileFault}
    {info : ModuleInfo}
    (reading : ofSource ⟨data, fault⟩ = .ok (info, body)) :
    IsComplete data := by
  rw [ofSource] at reading
  simp only at reading
  split at reading
  · cases reading
  next header =>
  split at reading
  · cases reading
  next magic =>
  split at reading
  · cases reading
  next version =>
  split at reading
  · cases reading
  next bounded =>
  split at reading
  · cases reading
  next metadata =>
  rw [List.length_drop] at metadata
  constructor
  case magic => exact not_not.1 magic
  case version => exact not_not.1 version
  case bounded => exact Nat.not_lt.1 bounded
  case long =>
    rw [metadataEnd]
    omega

/-! ## What reading does not look at -/

/-- A place in the flags or in the reserved part of the header. -/
def IsUnused
    (index : Nat) :
    Prop :=
  (6 ≤ index ∧ index < 8) ∨ (40 ≤ index ∧ index < headerLength)

/-- Data that has the header fields and the metadata of an image, and anything else besides. -/
structure KeepsFields (data other : Octets) : Prop where
  long : metadataEnd data ≤ other.length
  same : ∀ index, index < metadataEnd data → ¬ IsUnused index → other[index]? = data[index]?

section

variable {data other : Octets}

/-- The fields of a header are apart from its unused places. -/
theorem header_congr
    (same : ∀ index, index < headerLength → ¬ IsUnused index → other[index]? = data[index]?) :
    Header.ofOctets other = Header.ofOctets data := by
  have field {offset length : Nat}
      (apart : offset + length ≤ 6 ∨ (8 ≤ offset ∧ offset + length ≤ 40)) :
      Octets.slice other offset length = Octets.slice data offset length := by
    apply Octets.slice_congr
    intro index start stop
    apply same index
    · rw [headerLength]
      omega
    · rw [IsUnused]
      omega
  rw [Header.ofOctets, Header.ofOctets, field (by decide), field (by decide), field (by decide),
    field (by decide), field (by decide), field (by decide)]

/-- Whether an image is complete depends on its header fields and its length. -/
theorem IsComplete.congr
    (complete : IsComplete data)
    (header : Header.ofOctets other = Header.ofOctets data)
    (long : metadataEnd data ≤ other.length) :
    IsComplete other where
  magic := header ▸ complete.magic
  version := header ▸ complete.version
  bounded := header ▸ complete.bounded
  long := by
    rw [metadataEnd, header]
    exact long

namespace KeepsFields

theorem header_eq
    (keeps : KeepsFields data other) :
    Header.ofOctets other = Header.ofOctets data :=
  header_congr fun index inside used =>
    keeps.same index (Nat.lt_of_lt_of_le inside (Nat.le_add_right _ _)) used

theorem metadataOf_eq
    (keeps : KeepsFields data other) :
    metadataOf other = metadataOf data := by
  rw [metadataOf, metadataOf, keeps.header_eq]
  apply Octets.slice_congr
  intro index start stop
  apply keeps.same index stop
  rw [IsUnused]
  rw [headerLength] at start ⊢
  omega

end KeepsFields

/-- The header does not depend on an octet behind it. -/
theorem header_set
    {index : Nat}
    (behind : headerLength ≤ index)
    (changed : UInt8) :
    Header.ofOctets (data.set index changed) = Header.ofOctets data :=
  header_congr fun _ inside _ =>
    List.getElem?_set_ne (Nat.ne_of_gt (Nat.lt_of_lt_of_le inside behind))

end

/--
If an image is described, then the same image with one other octet in its metadata
is refused for its checksum, and every image that has its header fields and its
metadata is described alike, whatever its flags, its reserved octets and its body
are, and whether or not reading breaks off behind it.
-/
theorem changed_image_is_refused_or_described_alike
    {data body : Octets}
    {fault : Option FileFault}
    {info : ModuleInfo}
    (reading : ofSource ⟨data, fault⟩ = .ok (info, body)) :
    (∀ index changed,
        headerLength ≤ index → index < metadataEnd data → data[index]? ≠ some changed →
          ofSource ⟨data.set index changed, fault⟩ = .error .checksumMismatch) ∧
      ∀ other otherFault, KeepsFields data other →
        ofSource ⟨other, otherFault⟩ = .ok (info, other.drop (metadataEnd data)) := by
  have complete := isComplete_of_ofSource reading
  rw [complete.ofSource_eq] at reading
  split at reading
  · cases reading
  next checksum =>
  have meets := not_not.1 checksum
  constructor
  · intro index changed behind within different
    have inside : index < data.length := Nat.lt_of_lt_of_le within complete.long
    have noticed := Octets.crc32_slice_set_ne behind within inside different
    have header : Header.ofOctets (data.set index changed) = Header.ofOctets data :=
      header_set behind changed
    have still : IsComplete (data.set index changed) := by
      apply complete.congr header
      rw [List.length_set]
      exact complete.long
    have mismatch : crc32 (metadataOf (data.set index changed)) ≠
        (Header.ofOctets (data.set index changed)).metadataChecksum := by
      rw [metadataOf, header, ← meets]
      exact noticed
    rw [still.ofSource_eq, if_pos mismatch]
  · intro other otherFault keeps
    have described : describe (Header.ofOctets data) (metadataOf data) = .ok info := by
      cases describing : describe (Header.ofOctets data) (metadataOf data) with
      | error fault =>
        rw [describing] at reading
        cases reading
      | ok found =>
        rw [describing] at reading
        cases reading
        rfl
    have still := complete.congr keeps.header_eq keeps.long
    rw [still.ofSource_eq, keeps.metadataOf_eq, metadataEnd, keeps.header_eq, if_neg checksum,
      described]
    rfl

end ModuleInfo

/-! ## A changed image -/

namespace ModuleImage

/-- The small image with other flags, another reserved octet and a longer body. -/
def retouchedLinter : Octets :=
  ((linter.octets.set 6 255).set 50 9) ++ [4]

theorem metadataEnd_linter : ModuleInfo.metadataEnd linter.octets = 261 := by
  have bounded : linter.document.length ≤ maximalMetadata := by
    rw [length_document_linter]
    decide
  rw [octets_eq, ModuleInfo.metadataEnd, ofOctets_header bounded, length_document_linter]
  rfl

theorem length_octets_linter : linter.octets.length = 264 := by
  rw [octets_eq, List.length_append, List.length_append, length_header, length_document_linter]
  rfl

theorem keepsFields_retouchedLinter :
    ModuleInfo.KeepsFields linter.octets retouchedLinter := by
  constructor
  case long =>
    rw [metadataEnd_linter, retouchedLinter, List.length_append, List.length_set, List.length_set,
      length_octets_linter]
    decide
  case same =>
    intro index inside used
    rw [metadataEnd_linter] at inside
    rw [ModuleInfo.IsUnused, headerLength] at used
    have short : index < ((linter.octets.set 6 255).set 50 9).length := by
      rw [List.length_set, List.length_set, length_octets_linter]
      omega
    rw [retouchedLinter, List.getElem?_append_left short, List.getElem?_set_ne (by omega),
      List.getElem?_set_ne (by omega)]

/-- With one other octet in its metadata the image is refused, and retouched it says the same. -/
theorem changed_linter_is_refused_or_described_alike :
    ModuleInfo.ofSource (.ofOctets linter.octets) = .ok (linter.info, [1, 2, 3]) ∧
      linter.octets[100]? = some 97 ∧
      ModuleInfo.ofSource (.ofOctets (linter.octets.set 100 84)) = .error .checksumMismatch ∧
      ModuleInfo.ofSource (.ofOctets retouchedLinter) = .ok (linter.info, [1, 2, 3, 4]) := by
  have octet : linter.octets[100]? = some 97 := by
    decide +kernel
  have reads := linter_is_read_back.2.1
  rcases ModuleInfo.changed_image_is_refused_or_described_alike reads with ⟨refused, alike⟩
  have within : 100 < ModuleInfo.metadataEnd linter.octets := by
    rw [metadataEnd_linter]
    decide
  have different : linter.octets[100]? ≠ some 84 := by
    rw [octet]
    decide
  have retouched := alike retouchedLinter none keepsFields_retouchedLinter
  have body : retouchedLinter.drop (ModuleInfo.metadataEnd linter.octets) = [1, 2, 3, 4] := by
    rw [metadataEnd_linter]
    decide +kernel
  rw [body] at retouched
  exact ⟨reads, octet, refused 100 84 (by decide) within different, retouched⟩

end ModuleImage

end BuildCapture
