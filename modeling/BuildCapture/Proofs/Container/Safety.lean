import BuildCapture.Proofs.Container.Guarded
import BuildCapture.Proofs.Container.Streams

/-!
# Opening arbitrary octets is safe

Whatever a file holds, opening it as a container comes to an end without a
position outside the octets, a sum beyond 64 bits or a negative difference: the
guarded reader does what the reader does.  The proof follows the checks in
their order.  Header and trailer are looked at once the image is known to hold
them, the directory once it is known to end where the trailer starts, and every
field of an entry once there are 64 octets of it.

What the checks have established stays true of the container.  Its entries are
as many as the trailer states, have different names, and lie between the header
and the directory, so that fetching a listed entry can only fail for the
checksum of its octets or for what they expand to.
-/

namespace BuildCapture

namespace Guarded

/-! ## Header and trailer -/

/-- Reading a header meets no fault. -/
theorem readHeader_eq
    (image : Octets) :
    readHeader image = faultless ((Container.readHeader image).mapError .invalidFormat) := by
  rw [readHeader, Container.readHeader]
  split
  · rfl
  split
  · rfl
  next notShort =>
  have long : 64 ≤ image.length := Nat.not_lt.1 notShort
  rw [word_of_le long (by decide), word_of_le long (by decide), word_of_le long (by decide)]
  simp only [ok_bind]
  split
  · rfl
  split
  · rfl
  · rfl

/-- Reading as many octets as a trailer has meets no fault. -/
theorem readTrailer_eq
    {data : Octets}
    (long : Container.trailerLength ≤ data.length) :
    readTrailer data = faultless ((Container.Trailer.ofOctets data).mapError .corrupt) := by
  have enough : 64 ≤ data.length := long
  rw [readTrailer, if_neg (Nat.not_lt.2 long), Container.Trailer.ofOctets,
    word_of_le enough (by decide), ok_bind]
  split
  · rfl
  · rw [number_of_le enough (by decide), number_of_le enough (by decide),
      number_of_le enough (by decide), word_of_le enough (by decide)]
    rfl

/-! ## The directory -/

/-- Taking an entry from a directory meets no fault. -/
theorem takeFirst_eq
    (data : Octets) :
    takeFirst data = faultless ((DirectoryEntry.takeFirst data).mapError .corrupt) := by
  rw [takeFirst, DirectoryEntry.takeFirst]
  split
  · next short =>
    have shortDigest : ¬ (Octets.slice data 32 32).length = 32 := by
      have shorter : data.length < 64 := short
      rw [Octets.slice, List.length_take, List.length_drop]
      omega
    rw [Octets.toVector?, dif_neg shortDigest]
    rfl
  next notShort =>
  have long : 64 ≤ data.length := Nat.not_lt.1 notShort
  rcases field_of_le long (by decide : 32 + 32 ≤ 64) with ⟨digest, vector, read⟩
  simp (disch := first | exact long | decide) only [number_of_le, word_of_le, ok_bind, read,
    vector]
  rw [behind_of_le (Nat.not_lt.1 notShort), ok_bind]
  -- what follows the fixed part decides whether the name is there and whether it is a text
  generalize data.drop DirectoryEntry.fixedLength = rest
  generalize Octets.toNat (Octets.slice data 0 2) = nameLength
  by_cases shortName : rest.length < nameLength
  · have shortTake : (rest.take nameLength).length < nameLength := by
      rw [List.length_take]
      omega
    rw [if_pos shortName, if_pos shortTake]
    rfl
  · have inside : nameLength ≤ rest.length := Nat.not_lt.1 shortName
    have fullTake : ¬ (rest.take nameLength).length < nameLength := by
      rw [List.length_take_of_le inside]
      exact Nat.lt_irrefl nameLength
    have name : Octets.slice rest 0 (nameLength - 0) = rest.take nameLength := rfl
    rw [if_neg shortName, if_neg fullTake, between_of_le (Nat.zero_le nameLength) inside,
      ok_bind, name]
    cases Octets.text? (rest.take nameLength) with
    | none => rfl
    | some name =>
      simp only [behind_of_le inside]
      rfl

/-- An entry takes at least the octets of its fixed part. -/
theorem length_of_takeFirst
    {data rest : Octets}
    {entry : DirectoryEntry}
    (first : DirectoryEntry.takeFirst data = .ok (entry, rest)) :
    rest.length + DirectoryEntry.fixedLength ≤ data.length := by
  rcases DirectoryEntry.takeFirst_eq_ok_iff.1 first with ⟨-, rfl⟩
  rw [DirectoryEntry.encode_eq, List.length_append, List.length_append,
    DirectoryEntry.length_fixedPart]
  omega

/-- A directory is decoded without a fault in more rounds than it has room for entries. -/
theorem decodeAll_eq
    {rounds count : Nat}
    {data : Octets}
    (enough : data.length < rounds * DirectoryEntry.fixedLength) :
    decodeAll rounds count data =
      faultless ((DirectoryEntry.decodeAll count data).mapError .corrupt) := by
  induction rounds generalizing count data with
  | zero => exact absurd enough (by rw [Nat.zero_mul]; exact Nat.not_lt_zero _)
  | succ rounds ih =>
    cases count with
    | zero =>
      rw [decodeAll, DirectoryEntry.decodeAll]
      split
      · rfl
      · rfl
    | succ count =>
      rw [decodeAll, DirectoryEntry.decodeAll, takeFirst_eq]
      cases first : DirectoryEntry.takeFirst data with
      | error cause => rfl
      | ok found =>
        rcases found with ⟨entry, rest⟩
        have shorter := length_of_takeFirst first
        have enoughOthers : rest.length < rounds * DirectoryEntry.fixedLength := by
          rw [Nat.succ_mul] at enough
          omega
        simp only [mapError_ok, faultless_ok, ok_bind, ih enoughOthers]
        cases DirectoryEntry.decodeAll count rest with
        | error cause => rfl
        | ok entries => rfl

/-- A directory has fewer entries than the rounds for it. -/
theorem lt_roundsFor
    (directory : Octets) :
    directory.length < roundsFor directory * DirectoryEntry.fixedLength := by
  rw [roundsFor, DirectoryEntry.fixedLength]
  omega

/-- Adding entries meets no fault. -/
theorem addEntries_eq
    (limit : Nat)
    (known entries : List DirectoryEntry) :
    addEntries limit known entries =
      faultless ((Container.addEntries limit known entries).mapError .corrupt) := by
  induction entries generalizing known with
  | nil => rfl
  | cons entry rest ih =>
    rw [addEntries, Container.addEntries]
    by_cases large : entry.storedEnd ≥ Octets.bound 8
    · rw [if_pos large, sum?_of_le large]
      rfl
    · have stop : sum? entry.offset entry.storedLength = some entry.storedEnd :=
        sum?_of_lt (Nat.not_le.1 large)
      rw [if_neg large, stop]
      simp only
      split
      · rfl
      cases Container.placeByName? entry known with
      | none => rfl
      | some placed => exact ih placed

/-- Reading the entries of an image meets no fault. -/
theorem readEntries_eq
    (image : Octets) :
    readEntries image = faultless ((Container.readEntries image).mapError .corrupt) := by
  rw [readEntries, Container.readEntries]
  split
  · rfl
  next notShort =>
  have long : Container.headerLength + Container.trailerLength ≤ image.length :=
    Nat.not_lt.1 notShort
  have body : Container.trailerLength ≤ image.length := Nat.le_of_add_left_le long
  have closing :
      (image.drop (image.length - Container.trailerLength)).length = Container.trailerLength := by
    rw [List.length_drop, Nat.sub_sub_self body]
  have bodyLength :
      minus image.length Container.trailerLength =
        .ok (image.length - Container.trailerLength) :=
    if_pos body
  rw [bodyLength, ok_bind, behind_of_le (Nat.sub_le _ _), ok_bind, readTrailer_eq (Nat.le_of_eq closing.symm)]
  simp only
  cases Container.Trailer.ofOctets (image.drop (image.length - Container.trailerLength)) with
  | error cause => rfl
  | ok trailer =>
    simp only [mapError_ok, faultless_ok, ok_bind]
    by_cases large : trailer.directoryOffset + trailer.directoryLength ≥ Octets.bound 8
    · rw [if_pos large, sum?_of_le large]
      rfl
    have small := Nat.not_le.1 large
    rw [if_neg large, sum?_of_lt small]
    simp only
    split
    · rfl
    next placed =>
    rw [not_or, not_not] at placed
    have inside : trailer.directoryOffset + trailer.directoryLength ≤ image.length := by
      rw [placed.2]
      exact Nat.sub_le _ _
    rw [range_of_le small inside, ok_bind]
    split
    · rfl
    rw [decodeAll_eq (lt_roundsFor _)]
    cases DirectoryEntry.decodeAll trailer.entryCount
        (Octets.slice image trailer.directoryOffset trailer.directoryLength) with
    | error cause => rfl
    | ok entries => exact addEntries_eq trailer.directoryOffset [] entries

/-! ## Opening -/

/-- Opening an image meets no fault. -/
theorem ofImage_eq
    (path : String)
    (image : Octets)
    (verify : Bool) :
    ofImage path image verify = faultless (Container.ofImage path image verify) := by
  rw [ofImage, Container.ofImage, readHeader_eq]
  cases Container.readHeader image with
  | error cause => rfl
  | ok flags =>
    simp only [mapError_ok, faultless_ok, ok_bind, readEntries_eq]
    cases Container.readEntries image with
    | error cause => rfl
    | ok entries => rfl

/-- Opening a file meets no fault, whatever is in the file. -/
theorem openFile_eq
    (files : FileSystem)
    (path : String)
    (verify : Bool) :
    openFile files path verify = faultless (Container.openFile files path verify) := by
  rw [openFile, Container.openFile]
  cases files.find (.ofPath path) with
  | error fault => rfl
  | ok entry =>
    rcases entry with ⟨location, node⟩
    cases node with
    | directory => rfl
    | file identity stamp image flaw =>
      cases flaw with
      | none => exact ofImage_eq path image verify
      | some flaw => rfl

/-! ## Fetching -/

/-- An entry whose stored octets lie inside the image and whose fields fit into 64 bits. -/
structure Fetchable (container : Container) (entry : DirectoryEntry) : Prop where
  narrow : entry.storedEnd < Octets.bound 8
  inside : entry.storedEnd ≤ container.image.length
  rawLength : entry.rawLength < Octets.bound 8

section Fetching

variable
    {container : Container}
    {name : String}
    (fetchable : ∀ entry ∈ container.entries, Fetchable container entry)

include fetchable

/-- Getting at the stored octets of an entry meets no fault. -/
theorem stored_eq
    {entry : DirectoryEntry}
    (member : entry ∈ container.entries) :
    stored container entry = faultless (container.stored entry) := by
  have here := fetchable entry member
  rw [stored, range_of_le here.narrow here.inside, ok_bind, Container.stored]
  split
  · rfl
  · rfl

/-- Reading meets no fault, whether or not the name is listed. -/
theorem read_eq
    (name : String) :
    read container name = faultless (container.read name) := by
  rw [read, Container.read]
  cases found : container.find? name with
  | none => rfl
  | some entry =>
    have member : entry ∈ container.entries := List.mem_of_find?_eq_some found
    simp only [stored_eq fetchable member]
    cases container.stored entry with
    | error failure => rfl
    | ok octets =>
      have capacity : index entry.rawLength = .ok entry.rawLength :=
        if_pos (fetchable entry member).rawLength
      simp only [faultless_ok, ok_bind, capacity, Container.expand]
      split
      · cases Zstd.decompressWhole? entry.rawLength octets with
        | none => rfl
        | some raw =>
          simp only
          split
          · rfl
          · rfl
      · rfl

/-- Opening an entry meets no fault, whether or not the name is listed. -/
theorem openEntry_eq
    (name : String) :
    openEntry container name = faultless (container.openEntry name) := by
  rw [openEntry, Container.openEntry]
  cases found : container.find? name with
  | none => rfl
  | some entry =>
    have member : entry ∈ container.entries := List.mem_of_find?_eq_some found
    simp only [stored_eq fetchable member]
    cases container.stored entry with
    | error failure => rfl
    | ok octets => rfl

end Fetching

end Guarded

namespace Container

/-! ## What opening establishes -/

/--
A container whose entries are those of the directory that the trailer of its
image states: as many as the trailer says, all with different names, and each
between the header and the directory.
-/
structure Sound (container : Container) (trailer : Trailer) : Prop where
  directory : ∃ listed, Lists container.image trailer listed ∧ container.entries.Perm listed
  counted : container.entries.length = trailer.entryCount
  listable : Listable trailer.directoryOffset container.entries

/-- An image opens to a container that is sound. -/
theorem sound_of_ofImage
    {path : String}
    {image : Octets}
    {verify : Bool}
    {container : Container}
    (opened : ofImage path image verify = .ok container) :
    container.image = image ∧ ∃ trailer, container.Sound trailer := by
  rcases ofImage_eq_ok_iff.1 opened with ⟨flags, entries, -, read, rfl⟩
  rcases readEntries_eq_ok_iff.1 read with ⟨trailer, listed, lists, adding⟩
  rcases DirectoryEntry.decodeAll_eq_ok_iff.1 lists.decoded with ⟨counted, -, -⟩
  rcases perm_of_addEntries adding with ⟨perm, inside⟩
  refine ⟨rfl, trailer, ?_⟩
  constructor
  case directory => exact ⟨listed, lists, perm⟩
  case counted => exact perm.length_eq.trans counted.symm
  case listable =>
    constructor
    case distinct =>
      exact nodup_names_of_pairwise (pairwise_of_addEntries List.Pairwise.nil adding)
    case inside =>
      intro entry member
      exact inside entry (perm.mem_iff.1 member)

/-- The entries of a sound container can be fetched without a fault. -/
theorem Sound.fetchable
    {container : Container}
    {trailer : Trailer}
    (sound : container.Sound trailer) :
    ∀ entry ∈ container.entries, Guarded.Fetchable container entry := by
  rcases sound.directory with ⟨listed, lists, perm⟩
  rcases DirectoryEntry.decodeAll_eq_ok_iff.1 lists.decoded with ⟨-, fit, -⟩
  have narrow := lists.narrow
  have meets := lists.meetsTrailer
  intro entry member
  have before := (sound.listable.inside entry member).2
  constructor
  case narrow => omega
  case inside => omega
  case rawLength => exact (fit entry (perm.mem_iff.1 member)).rawLength

/-! ## What fetching may fail with -/

/-- An opened container checks stored octets, and those of an entry are not what was checked. -/
def FailsChecksum (container : Container) (entry : DirectoryEntry) : Prop :=
  container.verify = true ∧ crc32 (container.octetsOf entry) ≠ entry.checksum

/-- Why the octets of a listed entry can not be had, although all of them are in place. -/
inductive Withheld (container : Container) (entry : DirectoryEntry) : Corruption → Prop where
  | checksum
    (damaged : container.FailsChecksum entry) :
    Withheld container entry (.entryChecksum entry.name)
  | compression
    (compressed : entry.isCompressed = true)
    (broken : Zstd.decompressWhole? entry.rawLength (container.octetsOf entry) = none) :
    Withheld container entry .compression
  | length
    (compressed : entry.isCompressed = true)
    {raw : Octets}
    (found : Zstd.decompressWhole? entry.rawLength (container.octetsOf entry) = some raw)
    (misstated : raw.length ≠ entry.rawLength) :
    Withheld container entry (.entryLength entry.name)

section Listed

variable
    {container : Container}
    {entry : DirectoryEntry}

/-- The stored octets of an entry are given out unless their checksum is wrong. -/
theorem stored_cases
    (container : Container)
    (entry : DirectoryEntry) :
    container.stored entry = .ok (container.octetsOf entry) ∨
      container.FailsChecksum entry ∧
        container.stored entry = .error (.corrupt (.entryChecksum entry.name)) := by
  by_cases damaged : container.FailsChecksum entry
  · exact .inr ⟨damaged, if_pos damaged⟩
  · exact .inl (if_neg damaged)

/-- What is in the place of an entry expands, or there is a reason to withhold it. -/
theorem expand_cases
    (container : Container)
    (entry : DirectoryEntry) :
    (∃ raw, expand entry (container.octetsOf entry) = .ok raw) ∨
      ∃ cause, container.Withheld entry cause ∧
        expand entry (container.octetsOf entry) = .error cause := by
  rw [expand]
  split
  · next compressed =>
    cases expanded : Zstd.decompressWhole? entry.rawLength (container.octetsOf entry) with
    | none => exact .inr ⟨_, .compression compressed expanded, rfl⟩
    | some raw =>
      by_cases stated : raw.length = entry.rawLength
      · exact .inl ⟨raw, if_pos stated⟩
      · exact .inr ⟨_, .length compressed expanded stated, if_neg stated⟩
  · exact .inl ⟨_, rfl⟩

/-- A listed entry is read, or there is a reason to withhold its octets. -/
theorem read_cases
    (found : container.find? entry.name = some entry) :
    (∃ raw, container.read entry.name = .ok raw) ∨
      ∃ cause, container.Withheld entry cause ∧
        container.read entry.name = .error (.corrupt cause) := by
  rcases stored_cases container entry with kept | ⟨damaged, refused⟩
  · rcases expand_cases container entry with ⟨raw, expanded⟩ | ⟨cause, withheld, expanded⟩
    · exact .inl ⟨raw, by simp only [Container.read, found, kept, expanded]⟩
    · exact .inr ⟨cause, withheld, by simp only [Container.read, found, kept, expanded]⟩
  · exact .inr ⟨_, .checksum damaged, by simp only [Container.read, found, refused]⟩

/-- A listed entry is streamed unless its checksum is wrong; only a compressed one breaks off. -/
theorem openEntry_cases
    (found : container.find? entry.name = some entry) :
    (∃ source, container.openEntry entry.name = .ok source ∧
        (source.fault = none ∨
          entry.isCompressed = true ∧
            Zstd.decompressStream? (container.octetsOf entry) = none ∧
              source.fault = some .brokenStream)) ∨
      container.FailsChecksum entry ∧
        container.openEntry entry.name = .error (.corrupt (.entryChecksum entry.name)) := by
  rcases stored_cases container entry with kept | ⟨damaged, refused⟩
  · refine .inl ⟨expandStream entry (container.octetsOf entry), ?_, ?_⟩
    · simp only [Container.openEntry, found, kept]
    rw [expandStream]
    split
    · next compressed =>
      cases Zstd.decompressStream? (container.octetsOf entry) with
      | none => exact .inr ⟨compressed, rfl, rfl⟩
      | some raw => exact .inl rfl
    · exact .inl rfl
  · exact .inr ⟨damaged, by simp only [Container.openEntry, found, refused]⟩

end Listed

/-- An image is opened or refused for its format or for damage. -/
theorem ofImage_cases
    (path : String)
    (image : Octets)
    (verify : Bool) :
    (∃ container, ofImage path image verify = .ok container) ∨
      (∃ cause, ofImage path image verify = .error (.invalidFormat cause)) ∨
        ∃ cause, ofImage path image verify = .error (.corrupt cause) := by
  rw [ofImage]
  cases readHeader image with
  | error cause => exact .inr (.inl ⟨cause, rfl⟩)
  | ok flags =>
    cases readEntries image with
    | error cause => exact .inr (.inr ⟨cause, rfl⟩)
    | ok entries => exact .inl ⟨_, rfl⟩

/-! ## Opening arbitrary octets -/

/--
An entry that is found under its name and fetched without a fault, whole or as
a stream, unless its octets are damaged or are not what the entry states.
-/
structure Served (container : Container) (entry : DirectoryEntry) : Prop where
  found : container.find? entry.name = some entry
  read_guarded :
    Guarded.read container entry.name = Guarded.faultless (container.read entry.name)
  stream_guarded :
    Guarded.openEntry container entry.name = Guarded.faultless (container.openEntry entry.name)
  read :
    (∃ raw, container.read entry.name = .ok raw) ∨
      ∃ cause, container.Withheld entry cause ∧
        container.read entry.name = .error (.corrupt cause)
  stream :
    (∃ source, container.openEntry entry.name = .ok source ∧
        (source.fault = none ∨
          entry.isCompressed = true ∧
            Zstd.decompressStream? (container.octetsOf entry) = none ∧
              source.fault = some .brokenStream)) ∨
      container.FailsChecksum entry ∧
        container.openEntry entry.name = .error (.corrupt (.entryChecksum entry.name))

/-- All entries of a sound container are served. -/
theorem Sound.served
    {container : Container}
    {trailer : Trailer}
    (sound : container.Sound trailer) :
    ∀ entry ∈ container.entries, container.Served entry := by
  intro entry member
  have found : container.find? entry.name = some entry :=
    find?_of_nodup sound.listable.distinct member
  exact {
    found := found
    read_guarded := Guarded.read_eq sound.fetchable entry.name
    stream_guarded := Guarded.openEntry_eq sound.fetchable entry.name
    read := read_cases found
    stream := openEntry_cases found }

/--
Opening a file meets no fault, whatever its content is.  The file is opened, or
refused for its format or for damage; and a container that was opened is sound
and serves all its entries.
-/
theorem any_content_is_opened_safely
    {files : FileSystem}
    {path : String}
    {image : Octets}
    (content : files.read path = .ok image)
    (verify : Bool) :
    Guarded.openFile files path verify = Guarded.faultless (openFile files path verify) ∧
      ((∃ container, openFile files path verify = .ok container) ∨
        (∃ cause, openFile files path verify = .error (.invalidFormat cause)) ∨
          ∃ cause, openFile files path verify = .error (.corrupt cause)) ∧
        ∀ container, openFile files path verify = .ok container →
          container.image = image ∧ (∃ trailer, container.Sound trailer) ∧
            ∀ entry ∈ container.entries, container.Served entry := by
  refine ⟨Guarded.openFile_eq files path verify, ?_, ?_⟩
  · rw [openFile_of_read content]
    exact ofImage_cases path image verify
  · intro container opened
    rw [openFile_of_read content] at opened
    rcases sound_of_ofImage opened with ⟨same, trailer, sound⟩
    exact ⟨same, ⟨trailer, sound⟩, sound.served⟩

/-! ## An overstated directory -/

/-- A header and a trailer that states as many entries as it can, with no room for any. -/
def overstatedImage : Octets :=
  header 0 ++ Trailer.octets {
    directoryOffset := headerLength
    directoryLength := 0
    entryCount := Octets.bound 8 - 1
    directoryChecksum := crc32 [] }

/-- A file system with this image and with a sound container. -/
def mixedFiles : FileSystem where
  workingDirectory := []
  nodes := [
    (["overstated"], .file 1 1 overstatedImage),
    (["packed"], .file 2 2 (packedDraft 3).sealedImage)]
  clock := 3

/-- The loop over the overstated directory ends at once, and the sound container is served. -/
theorem overstated_directory_is_refused :
    Guarded.openFile mixedFiles "overstated" true =
        .error (.failure (.corrupt .shortDirectoryEntry)) ∧
      openFile mixedFiles "packed" true = .ok (packed 3) ∧
        (packed 3).entries.length = 1 ∧ Guarded.read (packed 3) "a" = .ok [1, 2, 3] := by
  have overstated : mixedFiles.read "overstated" = .ok overstatedImage := rfl
  have sound : mixedFiles.read "packed" = .ok (packedDraft 3).sealedImage := rfl
  rcases any_content_is_opened_safely overstated true with ⟨refused, -, -⟩
  rcases any_content_is_opened_safely sound true with ⟨-, -, opens⟩
  have same : (packedFiles 3).read "packed" = .ok (packedDraft 3).sealedImage := rfl
  have opened : openFile mixedFiles "packed" true = .ok (packed 3) := by
    rw [openFile_of_read sound, ← openFile_of_read same]
    exact openFile_packedFiles (by decide)
  have served := (opens (packed 3) opened).2.2 (packedEntry 3) List.mem_cons_self
  have reads : (packed 3).read "a" = .ok [1, 2, 3] := by
    decide +kernel
  have refuses :
      openFile mixedFiles "overstated" true = .error (.corrupt .shortDirectoryEntry) := by
    decide +kernel
  refine ⟨?_, opened, rfl, ?_⟩
  · rw [refused, refuses]
    rfl
  · exact served.read_guarded.trans (congrArg Guarded.faultless reads)

end Container

end BuildCapture
