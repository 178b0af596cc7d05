import BuildCapture.Container
import BuildCapture.Proofs.FileSystem
import BuildCapture.Proofs.Octets.Slice
import Mathlib.Logic.Basic

/-!
# What opening a container checks

Opening is a chain of checks.  This module states once which facts about an
image they establish, so that later proofs argue about trailer, directory and
entries and never about the order of the checks.
-/

namespace BuildCapture

namespace Container

/-! ## Trailer and header -/

namespace Trailer

/-- The trailer that some octets spell, whether or not they start with its magic word. -/
def spelled
    (data : Octets) :
    Trailer where
  directoryOffset := numberAt data 8
  directoryLength := numberAt data 16
  entryCount := numberAt data 24
  directoryChecksum := wordAt data 32

theorem ofOctets_eq_ok_iff
    {data : Octets}
    {trailer : Trailer} :
    ofOctets data = .ok trailer ↔
      wordAt data 0 = trailerMagic ∧ trailer = spelled data := by
  rw [ofOctets]
  split
  · next foreign =>
    constructor
    · intro read
      cases read
    · intro facts
      exact absurd facts.1 foreign
  · next native =>
    constructor
    · intro read
      exact ⟨not_not.1 native, (Except.ok.inj read).symm⟩
    · intro facts
      rw [facts.2]
      rfl

end Trailer

/-! ## Entries -/

/-- An image whose trailer and directory list these entries, in the order of the directory. -/
structure Lists (image : Octets) (trailer : Trailer) (listed : List DirectoryEntry) : Prop where
  long : headerLength + trailerLength ≤ image.length
  trailer_read : Trailer.ofOctets (image.drop (image.length - trailerLength)) = .ok trailer
  narrow : trailer.directoryOffset + trailer.directoryLength < Octets.bound 8
  behindHeader : headerLength ≤ trailer.directoryOffset
  meetsTrailer :
    trailer.directoryOffset + trailer.directoryLength = image.length - trailerLength
  checksum :
    crc32 (Octets.slice image trailer.directoryOffset trailer.directoryLength) =
      trailer.directoryChecksum
  decoded :
    DirectoryEntry.decodeAll trailer.entryCount
      (Octets.slice image trailer.directoryOffset trailer.directoryLength) = .ok listed

/-- The entries of an image are those that its directory lists, put in order. -/
theorem readEntries_eq_ok_iff
    {image : Octets}
    {entries : List DirectoryEntry} :
    readEntries image = .ok entries ↔
      ∃ trailer listed,
        Lists image trailer listed ∧
          addEntries trailer.directoryOffset [] listed = .ok entries := by
  constructor
  · intro read
    rw [readEntries] at read
    split at read
    · cases read
    next long =>
    simp only at read
    split at read
    · cases read
    next trailer trailerRead =>
    split at read
    · cases read
    next narrow =>
    split at read
    · cases read
    next placed =>
    split at read
    · cases read
    next checksum =>
    split at read
    · cases read
    next listed decoded =>
    rw [not_or] at placed
    exact ⟨trailer, listed,
      { long := Nat.le_of_not_lt long
        trailer_read := trailerRead
        narrow := Nat.lt_of_not_ge narrow
        behindHeader := Nat.le_of_not_lt placed.1
        meetsTrailer := not_not.1 placed.2
        checksum := not_not.1 checksum
        decoded := decoded }, read⟩
  · rintro ⟨trailer, listed, lists, added⟩
    have placed :
        ¬ (trailer.directoryOffset < headerLength ∨
          trailer.directoryOffset + trailer.directoryLength ≠ image.length - trailerLength) := by
      rw [not_or]
      exact ⟨Nat.not_lt.2 lists.behindHeader, not_not.2 lists.meetsTrailer⟩
    rw [readEntries, if_neg (Nat.not_lt.2 lists.long)]
    simp only [lists.trailer_read]
    rw [if_neg (Nat.not_le.2 lists.narrow), if_neg placed, if_neg (not_not.2 lists.checksum)]
    simp only [lists.decoded]
    exact added

/-- An opened container holds the image, its flags and its entries. -/
theorem ofImage_eq_ok_iff
    {path : String}
    {image : Octets}
    {verify : Bool}
    {container : Container} :
    ofImage path image verify = .ok container ↔
      ∃ flags entries,
        readHeader image = .ok flags ∧ readEntries image = .ok entries ∧
          container = { path, image, flags, entries, verify } := by
  constructor
  · intro opened
    rw [ofImage] at opened
    split at opened
    · cases opened
    next flags header =>
    split at opened
    · cases opened
    next entries read =>
    exact ⟨flags, entries, header, read, (Except.ok.inj opened).symm⟩
  · rintro ⟨flags, entries, header, read, rfl⟩
    simp only [ofImage, header, read]

/-- Opening a file opens its content. -/
theorem openFile_of_read
    {files : FileSystem}
    {path : String}
    {image : Octets}
    (found : files.read path = .ok image)
    (verify : Bool) :
    openFile files path verify = ofImage path image verify := by
  rcases FileSystem.read_eq_ok_iff.1 found with ⟨location, identity, stamp, there⟩
  simp only [openFile, there]

/-- A file that was opened could be read to its end. -/
theorem read_of_openFile
    {files : FileSystem}
    {path : String}
    {verify : Bool}
    {container : Container}
    (opened : openFile files path verify = .ok container) :
    ∃ image, files.read path = .ok image ∧ ofImage path image verify = .ok container := by
  rw [openFile] at opened
  split at opened
  · cases opened
  · cases opened
  · cases opened
  · next found => exact ⟨_, FileSystem.read_of_find found, opened⟩

/-! ## Looking up -/

/-- An entry is found under its own name. -/
theorem name_of_find?
    {container : Container}
    {name : String}
    {entry : DirectoryEntry}
    (found : container.find? name = some entry) :
    entry.name = name := by
  rw [find?] at found
  have named := List.find?_some found
  exact beq_iff_eq.1 named

/-- A name that is there is one of those in the directory. -/
theorem mem_names_of_contains
    {container : Container}
    {name : String}
    (there : container.contains name = true) :
    name ∈ container.entries.map DirectoryEntry.name := by
  rcases Option.isSome_iff_exists.1 there with ⟨entry, found⟩
  rw [← name_of_find? found]
  exact List.mem_map_of_mem (List.mem_of_find?_eq_some found)

/-! ## Reading -/

/-- What reading an entry yields is decided by its stored octets. -/
theorem read_eq_ok_iff
    {container : Container}
    {name : String}
    {data : Octets} :
    container.read name = .ok data ↔
      ∃ entry,
        container.find? name = some entry ∧
          container.stored entry =
            .ok (Octets.slice container.image entry.offset entry.storedLength) ∧
          expand entry (Octets.slice container.image entry.offset entry.storedLength) =
            .ok data := by
  constructor
  · intro read
    rw [Container.read] at read
    split at read
    · cases read
    next entry found =>
    split at read
    · cases read
    next stored kept =>
    have slice : stored = Octets.slice container.image entry.offset entry.storedLength := by
      unfold Container.stored at kept
      simp only at kept
      split at kept
      · cases kept
      · exact (Except.ok.inj kept).symm
    subst slice
    split at read
    · cases read
    next raw expanded =>
    cases read
    exact ⟨entry, found, kept, expanded⟩
  · rintro ⟨entry, found, kept, expanded⟩
    simp only [Container.read, found, kept, expanded]

/-- What can be read is there. -/
theorem contains_of_read
    {container : Container}
    {name : String}
    {data : Octets}
    (reading : container.read name = .ok data) :
    container.contains name = true := by
  rcases read_eq_ok_iff.1 reading with ⟨entry, found, -⟩
  rw [Container.contains, found]
  rfl

end Container

end BuildCapture
