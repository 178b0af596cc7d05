import BuildCapture.Proofs.Container.Opening
import BuildCapture.Proofs.Digest.Crc32

/-!
# One damaged octet

A container in which one octet was changed either does not open, or it opens
with the same entries and never yields other octets for one of them: an entry
reads as before or is reported as corrupt.

The argument follows the position of the octet.  Outside a slice it does not
touch the slice; inside, it changes the checksum.  The trailer has to place
the directory exactly in front of itself, so a changed offset or length of the
directory contradicts the other of the two, and the directory determines the
number of entries it is decoded with.
-/

namespace BuildCapture

/-! ## Slices of the two images -/

namespace Octets

/-- Changing an octet leaves a slice alone or changes its checksum. -/
theorem slice_eq_or_crc32_ne
    (before after : Octets)
    (offset length : Nat)
    {left right : UInt8}
    (different : left ≠ right) :
    slice (before ++ left :: after) offset length =
        slice (before ++ right :: after) offset length ∨
      crc32 (slice (before ++ left :: after) offset length) ≠
        crc32 (slice (before ++ right :: after) offset length) := by
  by_cases apart : before.length < offset ∨ offset + length ≤ before.length
  · exact Or.inl (slice_of_apart apart left right)
  · rw [not_or, Nat.not_lt, Nat.not_le] at apart
    right
    rw [slice_of_around apart.1 apart.2, slice_of_around apart.1 apart.2]
    exact crc32_ne_of_one_octet _ _ different

end Octets

/-! ## The directory -/

namespace DirectoryEntry

/-- No entry starts where nothing follows. -/
theorem takeFirst_nil :
    takeFirst [] = .error .shortDirectoryEntry :=
  rfl

/-- A directory determines how many entries it has, and which. -/
theorem decodeAll_unique
    {data : Octets}
    {leftCount rightCount : Nat}
    {left right : List DirectoryEntry}
    (leftDecoded : decodeAll leftCount data = .ok left)
    (rightDecoded : decodeAll rightCount data = .ok right) :
    left = right := by
  induction leftCount generalizing data rightCount left right with
  | zero =>
    have nothing : data = [] ∧ left = [] := by
      rw [decodeAll] at leftDecoded
      split at leftDecoded
      · next empty => exact ⟨List.isEmpty_iff.1 empty, (Except.ok.inj leftDecoded).symm⟩
      · cases leftDecoded
    rcases nothing with ⟨rfl, rfl⟩
    cases rightCount with
    | zero => exact Except.ok.inj rightDecoded
    | succ count =>
      rw [decodeAll, takeFirst_nil] at rightDecoded
      cases rightDecoded
  | succ count ih =>
    rw [decodeAll] at leftDecoded
    split at leftDecoded
    · cases leftDecoded
    next entry rest first =>
    split at leftDecoded
    · cases leftDecoded
    next others decoded =>
    cases leftDecoded
    cases rightCount with
    | zero =>
      rw [decodeAll] at rightDecoded
      split at rightDecoded
      · next empty =>
        rw [List.isEmpty_iff.1 empty, takeFirst_nil] at first
        cases first
      · cases rightDecoded
    | succ rightCount =>
      rw [decodeAll] at rightDecoded
      simp only [first] at rightDecoded
      split at rightDecoded
      · cases rightDecoded
      next rightOthers rightRest =>
      cases rightDecoded
      rw [ih decoded rightRest]

end DirectoryEntry

namespace Container

/-! ## Opening the damaged image -/

section

variable
    {before after : Octets}
    {octet changed : UInt8}
    {trailer damaged : Trailer}
    {listed others : List DirectoryEntry}

/-- Both images have one length. -/
theorem length_changed
    (before after : Octets)
    (octet changed : UInt8) :
    (before ++ changed :: after).length = (before ++ octet :: after).length := by
  simp

/-- Trailers that place their directories exactly in front of them place them alike. -/
theorem Lists.same_directory
    (lists : Lists (before ++ octet :: after) trailer listed)
    (damagedLists : Lists (before ++ changed :: after) damaged others) :
    damaged.directoryOffset = trailer.directoryOffset ∧
      damaged.directoryLength = trailer.directoryLength := by
  have meets := lists.meetsTrailer
  have damagedMeets := damagedLists.meetsTrailer
  have field := (Trailer.ofOctets_eq_ok_iff.1 lists.trailer_read).2
  have damagedField := (Trailer.ofOctets_eq_ok_iff.1 damagedLists.trailer_read).2
  rw [length_changed before after octet changed] at damagedMeets damagedField
  generalize (before ++ octet :: after).length - trailerLength = body at *
  have offsets :
      before.length < body + 8 ∨ body + 8 + 8 ≤ before.length →
        damaged.directoryOffset = trailer.directoryOffset := by
    intro apart
    rw [field, damagedField]
    simp only [Trailer.spelled, numberAt, Octets.slice_drop]
    rw [Octets.slice_of_apart apart changed octet]
  have lengths :
      before.length < body + 16 ∨ body + 16 + 8 ≤ before.length →
        damaged.directoryLength = trailer.directoryLength := by
    intro apart
    rw [field, damagedField]
    simp only [Trailer.spelled, numberAt, Octets.slice_drop]
    rw [Octets.slice_of_apart apart changed octet]
  by_cases inOffset : before.length < body + 8 ∨ body + 8 + 8 ≤ before.length
  · have sameOffset := offsets inOffset
    omega
  · have sameLength := lengths (by omega)
    omega

/-- Where the octet lies in front of the trailer, the trailer is the same. -/
theorem Lists.same_trailer
    (lists : Lists (before ++ octet :: after) trailer listed)
    (damagedLists : Lists (before ++ changed :: after) damaged others)
    (inFront : before.length < (before ++ octet :: after).length - trailerLength) :
    damaged = trailer := by
  have field := (Trailer.ofOctets_eq_ok_iff.1 lists.trailer_read).2
  have damagedField := (Trailer.ofOctets_eq_ok_iff.1 damagedLists.trailer_read).2
  rw [length_changed before after octet changed] at damagedField
  generalize (before ++ octet :: after).length - trailerLength = body at *
  have same (skip width : Nat) :
      Octets.slice (before ++ changed :: after) (body + skip) width =
        Octets.slice (before ++ octet :: after) (body + skip) width :=
    Octets.slice_of_apart (Or.inl (by omega)) changed octet
  rw [field, damagedField]
  simp only [Trailer.spelled, numberAt, wordAt, Octets.slice_drop, same]

/-- The directory of an image that opens after the change lists the same entries. -/
theorem Lists.same_entries
    (different : octet ≠ changed)
    (lists : Lists (before ++ octet :: after) trailer listed)
    (damagedLists : Lists (before ++ changed :: after) damaged others) :
    others = listed := by
  rcases lists.same_directory damagedLists with ⟨sameOffset, sameLength⟩
  have decoded := damagedLists.decoded
  have checksum := damagedLists.checksum
  rw [sameOffset, sameLength] at decoded checksum
  rcases
      Octets.slice_eq_or_crc32_ne before after
        trailer.directoryOffset trailer.directoryLength different with
    sameSlice | otherChecksum
  · rw [← sameSlice] at decoded
    exact DirectoryEntry.decodeAll_unique decoded lists.decoded
  · -- A change inside the directory leaves the trailer, and with it the checksum, alone.
    have inFront : before.length < (before ++ octet :: after).length - trailerLength := by
      rw [← lists.meetsTrailer]
      by_contra behind
      exact otherChecksum
        (congrArg crc32
          (Octets.slice_of_apart (Or.inr (Nat.le_of_not_lt behind)) octet changed))
    rw [lists.same_trailer damagedLists inFront, ← lists.checksum] at checksum
    exact absurd checksum.symm otherChecksum

/-- Changing one octet leaves the entries of a container alone or makes it unreadable. -/
theorem readEntries_of_one_octet
    (different : octet ≠ changed)
    {entries damagedEntries : List DirectoryEntry}
    (read : readEntries (before ++ octet :: after) = .ok entries)
    (damagedRead : readEntries (before ++ changed :: after) = .ok damagedEntries) :
    damagedEntries = entries := by
  rcases readEntries_eq_ok_iff.1 read with ⟨trailer, listed, lists, added⟩
  rcases readEntries_eq_ok_iff.1 damagedRead with ⟨damaged, others, damagedLists, damagedAdded⟩
  rw [lists.same_entries different damagedLists, (lists.same_directory damagedLists).1, added]
    at damagedAdded
  exact (Except.ok.inj damagedAdded).symm

end

/-! ## Reading from the damaged image -/

/-- An entry whose stored octets contain a changed octet is reported, any other reads as before. -/
theorem read_of_one_octet
    {container damaged : Container}
    {before after : Octets}
    {octet changed : UInt8}
    (different : octet ≠ changed)
    (image : container.image = before ++ octet :: after)
    (damagedImage : damaged.image = before ++ changed :: after)
    (sameEntries : damaged.entries = container.entries)
    (verified : container.verify = true)
    (damagedVerified : damaged.verify = true)
    {name : String}
    {data : Octets}
    (read : container.read name = .ok data) :
    damaged.read name = .ok data ∨
      ∃ cause, damaged.read name = .error (.corrupt cause) := by
  rcases read_eq_ok_iff.1 read with ⟨entry, found, kept, expanded⟩
  have damagedFound : damaged.find? name = some entry := by
    rw [Container.find?, sameEntries]
    exact found
  have checksum :
      crc32 (Octets.slice container.image entry.offset entry.storedLength) = entry.checksum := by
    by_contra otherChecksum
    rw [Container.stored] at kept
    simp only [verified, true_and] at kept
    rw [if_pos otherChecksum] at kept
    cases kept
  rw [image] at checksum expanded
  rcases Octets.slice_eq_or_crc32_ne before after entry.offset entry.storedLength different with
    sameSlice | otherChecksum
  · left
    apply read_eq_ok_iff.2
    refine ⟨entry, damagedFound, ?_, ?_⟩
    · rw [Container.stored, damagedImage, ← sameSlice]
      simp only [checksum, ne_eq, not_true_eq_false, and_false, if_false]
    · rw [damagedImage, ← sameSlice]
      exact expanded
  · right
    refine ⟨.entryChecksum entry.name, ?_⟩
    rw [checksum] at otherChecksum
    have refused :
        damaged.stored entry = .error (.corrupt (.entryChecksum entry.name)) := by
      rw [Container.stored, damagedImage]
      exact if_pos ⟨damagedVerified, otherChecksum.symm⟩
    simp only [Container.read, damagedFound, refused]

/--
Of a container with one octet changed nothing wrong is ever served: it does
not open, or it opens with the same names and every entry that could be read
before yields the same octets or is reported as corrupt.
-/
theorem one_octet_change_is_never_served
    {files damagedFiles : FileSystem}
    {path damagedPath : String}
    {before after : Octets}
    {octet changed : UInt8}
    (different : octet ≠ changed)
    (content : files.read path = .ok (before ++ octet :: after))
    (damagedContent : damagedFiles.read damagedPath = .ok (before ++ changed :: after))
    {container : Container}
    (opened : openFile files path true = .ok container) :
    (∃ failure, openFile damagedFiles damagedPath true = .error failure) ∨
      ∃ damaged,
        openFile damagedFiles damagedPath true = .ok damaged ∧
          damaged.entries.map DirectoryEntry.name =
            container.entries.map DirectoryEntry.name ∧
          ∀ name data,
            container.read name = .ok data →
              damaged.read name = .ok data ∨
                ∃ cause, damaged.read name = .error (.corrupt cause) := by
  rw [openFile_of_read damagedContent]
  rw [openFile_of_read content] at opened
  rcases ofImage_eq_ok_iff.1 opened with ⟨flags, entries, header, read, rfl⟩
  cases damagedOpened : ofImage damagedPath (before ++ changed :: after) true with
  | error failure => exact Or.inl ⟨failure, rfl⟩
  | ok damaged =>
    right
    rcases ofImage_eq_ok_iff.1 damagedOpened with
      ⟨damagedFlags, damagedEntries, damagedHeader, damagedRead, rfl⟩
    have sameEntries := readEntries_of_one_octet different read damagedRead
    refine ⟨_, rfl, congrArg _ sameEntries, ?_⟩
    intro name data served
    exact read_of_one_octet different rfl rfl sameEntries rfl rfl served

/-! ## A damaged container -/

/-- A directory with one entry of three octets, stored right behind the header. -/
def letterDirectory : Octets :=
  DirectoryEntry.encodeAll [{
    name := "a"
    flags := 0
    offset := 64
    storedLength := 3
    rawLength := 3
    checksum := crc32 [1, 2, 3]
    digest := sha256 [1, 2, 3] }]

/-- What follows the second octet of the entry. -/
def letterEnding : Octets :=
  3 :: (letterDirectory ++ Trailer.octets {
    directoryOffset := 67
    directoryLength := letterDirectory.length
    entryCount := 1
    directoryChecksum := crc32 letterDirectory })

/-- A file system with one container, whose second stored octet is given. -/
def letterFiles
    (octet : UInt8) :
    FileSystem where
  workingDirectory := []
  nodes := [(["letters"], .file 1 1 ((header 0 ++ [1]) ++ octet :: letterEnding))]
  clock := 2

set_option maxRecDepth 100000 in
theorem letterFiles_open :
    (openFile (letterFiles 2) "letters" true).isOk = true := by
  decide +kernel

/-- The container with the octet 2 opens, and with the octet 7 in its place it serves nothing else. -/
theorem one_octet_change_in_letters :
    ∃ container,
      openFile (letterFiles 2) "letters" true = .ok container ∧
        ((∃ failure, openFile (letterFiles 7) "letters" true = .error failure) ∨
          ∃ damaged,
            openFile (letterFiles 7) "letters" true = .ok damaged ∧
              damaged.entries.map DirectoryEntry.name =
                container.entries.map DirectoryEntry.name ∧
              ∀ name data,
                container.read name = .ok data →
                  damaged.read name = .ok data ∨
                    ∃ cause, damaged.read name = .error (.corrupt cause)) := by
  have opens := letterFiles_open
  cases opened : openFile (letterFiles 2) "letters" true with
  | error failure =>
    rw [opened] at opens
    cases opens
  | ok container =>
    exact ⟨container, rfl,
      one_octet_change_is_never_served (by decide : (2 : UInt8) ≠ 7) rfl rfl opened⟩

end Container

end BuildCapture
