import BuildCapture.Container.Directory
import BuildCapture.Proofs.Octets.Hex
import BuildCapture.Proofs.Octets.Slice

/-!
# Reading back a directory

Every field of an entry has a fixed place in front of the name, so reading an
encoded entry comes down to slices of a concatenation whose parts have known
lengths.  A directory is read back entry by entry.
-/

namespace BuildCapture

namespace DirectoryEntry

/-- Every field of an entry fits the octets that the directory has for it. -/
structure Fits (entry : DirectoryEntry) : Prop where
  name : (Octets.ofText entry.name).length < Octets.bound 2
  offset : entry.offset < Octets.bound 8
  storedLength : entry.storedLength < Octets.bound 8
  rawLength : entry.rawLength < Octets.bound 8

/-- The octets of an entry in front of its name. -/
def fixedPart
    (entry : DirectoryEntry) :
    Octets :=
  Octets.littleEndian 2 (Octets.ofText entry.name).length ++
    (Octets.littleEndian 2 entry.flags.toNat ++ (Octets.littleEndian 8 entry.offset ++
      (Octets.littleEndian 8 entry.storedLength ++ (Octets.littleEndian 8 entry.rawLength ++
        (Octets.littleEndian 4 entry.checksum.toNat ++ entry.digest.toList)))))

theorem length_fixedPart
    (entry : DirectoryEntry) :
    entry.fixedPart.length = fixedLength := by
  simp [fixedPart, fixedLength]

theorem encode_eq
    (entry : DirectoryEntry) :
    entry.encode = entry.fixedPart ++ Octets.ofText entry.name := by
  simp [encode, fixedPart]

/-- The fields in front of the name have the places that reading expects. -/
theorem slices_fixedPart
    (entry : DirectoryEntry)
    (rest : Octets) :
    Octets.slice (entry.fixedPart ++ rest) 0 2 =
        Octets.littleEndian 2 (Octets.ofText entry.name).length ∧
      Octets.slice (entry.fixedPart ++ rest) 2 2 = Octets.littleEndian 2 entry.flags.toNat ∧
      Octets.slice (entry.fixedPart ++ rest) 4 8 = Octets.littleEndian 8 entry.offset ∧
      Octets.slice (entry.fixedPart ++ rest) 12 8 = Octets.littleEndian 8 entry.storedLength ∧
      Octets.slice (entry.fixedPart ++ rest) 20 8 = Octets.littleEndian 8 entry.rawLength ∧
      Octets.slice (entry.fixedPart ++ rest) 28 4 =
        Octets.littleEndian 4 entry.checksum.toNat ∧
      Octets.slice (entry.fixedPart ++ rest) 32 32 = entry.digest.toList := by
  rw [fixedPart]
  simp only [List.append_assoc]
  refine ⟨?_, ?_, ?_, ?_, ?_, ?_, ?_⟩ <;>
    simp (disch := simp) only [Octets.slice_append_of_length_le, Octets.slice_append_zero,
      Octets.length_littleEndian, Nat.reduceSub]

/-- An encoded entry is read back, whatever follows it. -/
theorem takeFirst_encode
    {entry : DirectoryEntry}
    (fits : entry.Fits)
    (rest : Octets) :
    takeFirst (entry.encode ++ rest) = .ok (entry, rest) := by
  rcases slices_fixedPart entry (Octets.ofText entry.name ++ rest) with
    ⟨nameLength, flags, offset, storedLength, rawLength, checksum, digest⟩
  have behind :
      (entry.fixedPart ++ (Octets.ofText entry.name ++ rest)).drop fixedLength =
        Octets.ofText entry.name ++ rest := by
    rw [← length_fixedPart entry, List.drop_left]
  have nameFits := Octets.toNat_littleEndian 2 _ fits.name
  have checksumFits : entry.checksum.toNat < Octets.bound 4 := entry.checksum.toNat_lt
  have flagsFit : entry.flags.toNat < Octets.bound 2 := entry.flags.toNat_lt
  have notShort : ¬ (Octets.ofText entry.name).length < (Octets.ofText entry.name).length :=
    Nat.lt_irrefl _
  rw [encode_eq, List.append_assoc, takeFirst]
  simp only [digest, Octets.toVector?_toList, nameLength, nameFits, behind, List.take_left,
    List.drop_left, notShort, if_false, Octets.text?_ofText, flags, offset, storedLength,
    rawLength, checksum, Container.numberAt, Container.wordAt,
    Octets.toNat_littleEndian 2 _ flagsFit, Octets.toNat_littleEndian 8 _ fits.offset,
    Octets.toNat_littleEndian 8 _ fits.storedLength, Octets.toNat_littleEndian 8 _ fits.rawLength,
    Octets.toNat_littleEndian 4 _ checksumFits, UInt16.ofNat_toNat, UInt32.ofNat_toNat]

/-- A directory is read back. -/
theorem decodeAll_encodeAll
    {entries : List DirectoryEntry}
    (fit : ∀ entry ∈ entries, entry.Fits) :
    decodeAll entries.length (encodeAll entries) = .ok entries := by
  induction entries with
  | nil => rfl
  | cons entry rest ih =>
    have first : takeFirst (encodeAll (entry :: rest)) = .ok (entry, encodeAll rest) :=
      takeFirst_encode (fit entry List.mem_cons_self) (encodeAll rest)
    have others := ih fun other member => fit other (List.mem_cons_of_mem _ member)
    rw [List.length_cons, decodeAll, first]
    simp only [others]

end DirectoryEntry

end BuildCapture
