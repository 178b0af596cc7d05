import BuildCapture.Proofs.Container.Safety

/-!
# The lengths of entries that are read

The directory states of every entry how many octets the entry stands for.  A
compressed entry is never read with another length.  The octets of a plain
entry are given out as they are stored, and their number is not compared with
the stated length, so a plain entry that states another number than it stores is
read all the same.
-/

namespace BuildCapture.Container

/-- Opening a file makes a sound container of it. -/
theorem sound_of_openFile
    {files : FileSystem}
    {path : String}
    {verify : Bool}
    {container : Container}
    (opened : openFile files path verify = .ok container) :
    ∃ trailer, container.Sound trailer := by
  rcases read_of_openFile opened with ⟨image, -, opens⟩
  exact (sound_of_ofImage opens).2

section Found

variable
    {container : Container}
    {trailer : Trailer}
    {name : String}
    {entry : DirectoryEntry}
    {data : Octets}

/-- In the place of an entry of a sound container are as many octets as it stores. -/
theorem Sound.length_octetsOf
    (sound : container.Sound trailer)
    (member : entry ∈ container.entries) :
    (container.octetsOf entry).length = entry.storedLength :=
  Octets.length_slice (sound.fetchable entry member).inside

/-- What a compressed entry expands to has the length that the entry states. -/
theorem length_of_expand
    (compressed : entry.isCompressed = true)
    {stored : Octets}
    (expanded : expand entry stored = .ok data) :
    data.length = entry.rawLength := by
  rw [expand, if_pos compressed] at expanded
  split at expanded
  · cases expanded
  · split at expanded
    · next stated =>
      cases expanded
      exact stated
    · cases expanded

/-- What is read has the stated length if the entry is compressed, and else the stored length. -/
theorem Sound.length_of_read
    (sound : container.Sound trailer)
    (found : container.find? name = some entry)
    (read : container.read name = .ok data) :
    data.length = if entry.isCompressed then entry.rawLength else entry.storedLength := by
  rcases read_eq_ok_iff.1 read with ⟨other, foundOther, -, expanded⟩
  cases Option.some.inj (found.symm.trans foundOther)
  split
  · next compressed => exact length_of_expand compressed expanded
  · next plain =>
    rw [expand, if_neg plain] at expanded
    cases expanded
    exact sound.length_octetsOf (List.mem_of_find?_eq_some found)

/-- A plain entry without damage that states another length than it stores. -/
structure Miscounts (container : Container) (entry : DirectoryEntry) : Prop where
  plain : entry.isCompressed = false
  undamaged : ¬ container.FailsChecksum entry
  miscounted : entry.storedLength ≠ entry.rawLength

/-- A plain entry without damage is read as it is stored. -/
theorem read_of_plain
    (found : container.find? name = some entry)
    (plain : entry.isCompressed = false)
    (undamaged : ¬ container.FailsChecksum entry) :
    container.read name = .ok (container.octetsOf entry) := by
  have kept : container.stored entry = .ok (container.octetsOf entry) :=
    (stored_cases container entry).resolve_right fun damaged => undamaged damaged.1
  have expanded : expand entry (container.octetsOf entry) = .ok (container.octetsOf entry) := by
    simp [expand, plain]
  simp only [Container.read, found, kept, expanded]

/-- What keeps an entry from being read with the length that it states. -/
theorem Sound.miscounts_iff
    (sound : container.Sound trailer)
    (found : container.find? name = some entry) :
    container.Miscounts entry ↔
      ∃ data, container.read name = .ok data ∧ data.length ≠ entry.rawLength := by
  have member := List.mem_of_find?_eq_some found
  constructor
  · rintro ⟨plain, undamaged, miscounted⟩
    refine ⟨container.octetsOf entry, read_of_plain found plain undamaged, ?_⟩
    rw [sound.length_octetsOf member]
    exact miscounted
  · rintro ⟨data, read, different⟩
    have length := sound.length_of_read found read
    have plain : entry.isCompressed = false := by
      cases compressed : entry.isCompressed with
      | false => rfl
      | true =>
        rw [compressed] at length
        exact absurd length different
    constructor
    case plain => exact plain
    case undamaged =>
      intro damaged
      have named := name_of_find? found
      have refused : container.stored entry =
          .error (.corrupt (.entryChecksum entry.name)) := if_pos damaged
      rw [Container.read, found] at read
      simp only [refused] at read
      cases read
    case miscounted =>
      rw [plain] at length
      rw [← length.trans (if_neg Bool.false_ne_true)]
      exact different

end Found

/--
An entry of an opened container is read with the length that it states, unless
it is a plain entry without damage that states another length than it stores.
Such an entry is read, with as many octets as it stores.
-/
theorem read_lengths_are_stated_iff
    {files : FileSystem}
    {path : String}
    {verify : Bool}
    {container : Container}
    (opened : openFile files path verify = .ok container)
    {name : String}
    {entry : DirectoryEntry}
    (found : container.find? name = some entry) :
    ((∀ data, container.read name = .ok data → data.length = entry.rawLength) ↔
        ¬ container.Miscounts entry) ∧
      (entry.isCompressed = true →
        ∀ data, container.read name = .ok data → data.length = entry.rawLength) ∧
      (container.Miscounts entry →
        ∃ data, container.read name = .ok data ∧ data.length = entry.storedLength) := by
  rcases sound_of_openFile opened with ⟨trailer, sound⟩
  refine ⟨?_, ?_, ?_⟩
  · rw [sound.miscounts_iff found]
    simp only [ne_eq, not_exists, not_and, not_not]
  · intro compressed data read
    have length := sound.length_of_read found read
    rw [if_pos compressed] at length
    exact length
  · intro miscounts
    exact ⟨container.octetsOf entry,
      read_of_plain found miscounts.plain miscounts.undamaged,
      sound.length_octetsOf (List.mem_of_find?_eq_some found)⟩

/-! ## A plain entry -/

/-- An entry of three octets, stored as they are, that states the given length. -/
def plainEntry
    (rawLength : Nat) :
    DirectoryEntry where
  name := "a"
  flags := 0
  offset := headerLength
  storedLength := 3
  rawLength := rawLength
  checksum := crc32 [1, 2, 3]
  digest := sha256 [1, 2, 3]

/-- A container whose only entry is the plain one. -/
def plain
    (rawLength : Nat) :
    Container where
  path := "plain"
  image :=
    Draft.sealedImage {
      image := header 0 ++ [1, 2, 3]
      entries := [plainEntry rawLength]
      compression := {} }
  flags := 0
  entries := [plainEntry rawLength]
  verify := true

/-- A file system with the image of the container. -/
def plainFiles
    (rawLength : Nat) :
    FileSystem where
  workingDirectory := []
  nodes := [(["plain"], .file 1 1 (plain rawLength).image)]
  clock := 2

set_option maxRecDepth 100000 in
/-- The container opens whether its entry states three octets or four. -/
theorem openFile_plainFiles :
    openFile (plainFiles 3) "plain" true = .ok (plain 3) ∧
      openFile (plainFiles 4) "plain" true = .ok (plain 4) := by
  decide +kernel

set_option maxRecDepth 100000 in
/-- Its entry is read as it is stored. -/
theorem read_plain :
    (plain 3).read "a" = .ok [1, 2, 3] ∧ (plain 4).read "a" = .ok [1, 2, 3] := by
  decide +kernel

/-- Three octets that are stated as three are read as three. -/
theorem stated_octets_are_read :
    openFile (plainFiles 3) "plain" true = .ok (plain 3) ∧
      (plain 3).find? "a" = some (plainEntry 3) ∧
        (plain 3).read "a" = .ok [1, 2, 3] ∧
          ∀ data, (plain 3).read "a" = .ok data → data.length = 3 := by
  have opened := openFile_plainFiles.1
  have found : (plain 3).find? "a" = some (plainEntry 3) := rfl
  refine ⟨opened, found, read_plain.1, (read_lengths_are_stated_iff opened found).1.2 ?_⟩
  intro miscounts
  exact miscounts.miscounted rfl

/-- Three octets that are stated as four are read as three. -/
theorem overstated_octets_are_read :
    openFile (plainFiles 4) "plain" true = .ok (plain 4) ∧
      (plain 4).find? "a" = some (plainEntry 4) ∧
        (plain 4).read "a" = .ok [1, 2, 3] ∧ (plainEntry 4).rawLength = 4 :=
  ⟨openFile_plainFiles.2, rfl, read_plain.2, rfl⟩

end BuildCapture.Container
