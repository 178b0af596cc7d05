import BuildCapture.Container.Layout
import BuildCapture.Digest.Crc32
import BuildCapture.Digest.Sha256

/-!
# The directory of a container

The directory lists the entries of a container.  An entry takes 64 octets and
those of its name:

| offset | size | field                            |
|--------|------|----------------------------------|
| 0      | 2    | length of the name               |
| 2      | 2    | flags                            |
| 4      | 8    | offset of the stored octets      |
| 12     | 8    | number of stored octets          |
| 20     | 8    | number of octets they stand for  |
| 28     | 4    | CRC-32 of the stored octets      |
| 32     | 32   | digest of what they stand for    |
| 64     |      | name                             |

`DirectoryEntry.encodeAll` writes a directory and `DirectoryEntry.decodeAll`
reads one that holds exactly the given number of entries.
-/

namespace BuildCapture

/-- One named stretch of a container. -/
structure DirectoryEntry where
  name : String
  flags : UInt16
  offset : Nat
  storedLength : Nat
  rawLength : Nat
  /-- The CRC-32 of the stored octets. -/
  checksum : UInt32
  /-- The digest of the octets that the stored ones stand for. -/
  digest : Digest
deriving DecidableEq, Repr

namespace DirectoryEntry

/-- The flags of an entry that is stored compressed. -/
def compressedFlags : UInt16 := 1

/-- Whether an entry is stored compressed. -/
def isCompressed
    (entry : DirectoryEntry) :
    Bool :=
  entry.flags &&& compressedFlags ≠ 0

/-- The offset behind the last stored octet. -/
def storedEnd
    (entry : DirectoryEntry) :
    Nat :=
  entry.offset + entry.storedLength

/-- The length of an entry without its name. -/
def fixedLength : Nat := 64

/-! ## Writing -/

/-- An entry as octets. -/
def encode
    (entry : DirectoryEntry) :
    Octets :=
  Octets.littleEndian 2 (Octets.ofText entry.name).length ++
    Octets.littleEndian 2 entry.flags.toNat ++ Octets.littleEndian 8 entry.offset ++
    Octets.littleEndian 8 entry.storedLength ++ Octets.littleEndian 8 entry.rawLength ++
    Octets.littleEndian 4 entry.checksum.toNat ++ entry.digest.toList ++
    Octets.ofText entry.name

/-- The directory with these entries. -/
def encodeAll
    (entries : List DirectoryEntry) :
    Octets :=
  entries.flatMap encode

/-! ## Reading -/

/-- The entry at the start of a directory, and what follows it. -/
def takeFirst
    (data : Octets) :
    Except Corruption (DirectoryEntry × Octets) :=
  match Octets.toVector? 32 (Octets.slice data 32 32) with
  | none => .error .shortDirectoryEntry
  | some digest =>
    let nameLength := Octets.toNat (Octets.slice data 0 2)
    let rest := data.drop fixedLength
    let name := rest.take nameLength
    if name.length < nameLength then
      .error .shortEntryName
    else
      match Octets.text? name with
      | none => .error .entryNameNotText
      | some name =>
        .ok ({
          name := name
          flags := UInt16.ofNat (Octets.toNat (Octets.slice data 2 2))
          offset := Container.numberAt data 4
          storedLength := Container.numberAt data 12
          rawLength := Container.numberAt data 20
          checksum := Container.wordAt data 28
          digest := digest }, rest.drop nameLength)

/-- The entries of a directory that holds exactly `count` of them. -/
def decodeAll : (count : Nat) → Octets → Except Corruption (List DirectoryEntry)
  | 0, data => if data.isEmpty then .ok [] else .error .trailingDirectory
  | count + 1, data =>
    match takeFirst data with
    | .error cause => .error cause
    | .ok (entry, rest) =>
      match decodeAll count rest with
      | .error cause => .error cause
      | .ok entries => .ok (entry :: entries)

end DirectoryEntry

end BuildCapture
