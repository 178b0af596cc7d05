import BuildCapture.Configuration
import BuildCapture.Container.Directory
import BuildCapture.Source
import BuildCapture.Zstd.Encoder

/-!
# Drafts of containers

A draft is a container in the making: the octets written so far, and the
entries that have a name.  Octets from memory become an entry at once.  Octets
from a source are written first and get their name afterwards, when their
digest is known; until then they are pending and can be discarded again.
Only the latest octets of a draft can get a name or be discarded.
-/

namespace BuildCapture.Container

/-- Octets of a draft that do not have a name yet. -/
structure Pending where
  offset : Nat
  storedLength : Nat
  rawLength : Nat
  checksum : UInt32
  digest : Digest
  flags : UInt16
deriving DecidableEq, Repr

namespace Pending

/-- The offset behind the last stored octet. -/
def storedEnd
    (pending : Pending) :
    Nat :=
  pending.offset + pending.storedLength

/-- What is pending for octets that are stored at an offset in some form. -/
def ofStored
    (offset : Nat)
    (raw stored : Octets)
    (flags : UInt16) :
    Pending where
  offset := offset
  storedLength := stored.length
  rawLength := raw.length
  checksum := crc32 stored
  digest := sha256 raw
  flags := flags

/-- The entry that pending octets become under a name. -/
def named
    (pending : Pending)
    (name : String) :
    DirectoryEntry where
  name := name
  flags := pending.flags
  offset := pending.offset
  storedLength := pending.storedLength
  rawLength := pending.rawLength
  checksum := pending.checksum
  digest := pending.digest

end Pending

/-- A container in the making. -/
structure Draft where
  /-- The header and all octets written after it. -/
  image : Octets
  /-- The entries in the order in which they got their names. -/
  entries : List DirectoryEntry := []
  compression : CompressionConfig
  /-- The draft has been finished and takes no more octets. -/
  isSealed : Bool := false
deriving DecidableEq, Repr

namespace Draft

/-- A draft without entries. -/
def new
    (config : WriterConfig) :
    Draft where
  image := header config.pathStyle.flag
  compression := config.compression

/-- Whether an entry has a name. -/
def contains
    (draft : Draft)
    (name : String) :
    Bool :=
  draft.entries.any fun entry => entry.name == name

/-! ## Adding octets -/

variable [Zstd.Encoder]

/--
The form in which octets from memory are stored: compressed only where that
pays.  There is none where compressing fails.
-/
def pack?
    (compression : CompressionConfig)
    (data : Octets) :
    Option (Octets × UInt16) :=
  if compression.enabled ∧ compression.minimalSize.toNat ≤ data.length then
    (Zstd.Encoder.whole? compression.level data).map fun packed =>
      if packed.length < data.length then (packed, DirectoryEntry.compressedFlags) else (data, 0)
  else
    some (data, 0)

/--
The form in which octets from a source are stored: compressed unless that is
turned off.  There is none where compressing fails.
-/
def packStream?
    (compression : CompressionConfig)
    (data : Octets) :
    Option (Octets × UInt16) :=
  if compression.enabled then
    (Zstd.Encoder.stream? compression.level data).map fun packed =>
      (packed, DirectoryEntry.compressedFlags)
  else
    some (data, 0)

/-- Adds stored octets at the end. -/
def append
    (draft : Draft)
    (raw : Octets)
    (form : Octets × UInt16) :
    Pending × Draft :=
  (.ofStored draft.image.length raw form.1 form.2,
    { draft with image := draft.image ++ form.1 })

/-- Adds stored octets at the end, if the file can hold them. -/
def place
    (draft : Draft)
    (raw : Octets)
    (form : Octets × UInt16) :
    Except Failure (Pending × Draft) :=
  if draft.image.length + form.1.length > FileSystem.maximalFile then
    .error (.file .tooLarge)
  else
    .ok (draft.append raw form)

/-- Adds an entry with octets from memory. -/
def write
    (draft : Draft)
    (name : String)
    (data : Octets) :
    Except Failure Draft :=
  if draft.contains name then
    .error (.unsupported .duplicateEntry)
  else
    match pack? draft.compression data with
    | none => .error (.file .uncompressed)
    | some form =>
      if draft.isSealed then
        .error .alreadySealed
      else
        match draft.place data form with
        | .error failure => .error failure
        | .ok (pending, draft) =>
          .ok { draft with entries := draft.entries ++ [pending.named name] }

/-- Adds all octets of a source without a name. -/
def stream
    (draft : Draft)
    (source : Source) :
    Except Failure (Pending × Draft) :=
  if draft.isSealed then
    .error .alreadySealed
  else
    match source.readAll with
    | .error fault => .error (.file fault)
    | .ok data =>
      match packStream? draft.compression data with
      | none => .error (.file .uncompressed)
      | some form => draft.place data form

/-! ## Settling pending octets -/

/-- Whether nothing has been written after pending octets. -/
def isLatest
    (draft : Draft)
    (pending : Pending) :
    Bool :=
  pending.storedEnd == draft.image.length

/-- Takes the latest pending octets back. -/
def discard
    (draft : Draft)
    (pending : Pending) :
    Except Failure Draft :=
  if !draft.isLatest pending then
    .error (.unsupported .notLatest)
  else if draft.isSealed then
    .error .alreadySealed
  else
    .ok { draft with image := draft.image.take pending.offset }

/-- Gives the latest pending octets a name; if the name is taken, they are discarded. -/
def commit
    (draft : Draft)
    (pending : Pending)
    (name : String) :
    Draft × Except Failure Unit :=
  if !draft.isLatest pending then
    (draft, .error (.unsupported .notLatest))
  else if draft.contains name then
    match draft.discard pending with
    | .error failure => (draft, .error failure)
    | .ok shorter => (shorter, .error (.unsupported .duplicateEntry))
  else
    ({ draft with entries := draft.entries ++ [pending.named name] }, .ok ())

/-! ## Finishing -/

/-- The octets that complete a draft: its directory and its trailer. -/
def ending
    (draft : Draft) :
    Octets :=
  let directory := DirectoryEntry.encodeAll draft.entries
  directory ++ Trailer.octets {
    directoryOffset := draft.image.length
    directoryLength := directory.length
    entryCount := draft.entries.length
    directoryChecksum := crc32 directory }

/-- The octets of the finished container. -/
def sealedImage
    (draft : Draft) :
    Octets :=
  draft.image ++ draft.ending

/-- The draft after it has been finished. -/
def sealed
    (draft : Draft) :
    Draft :=
  { draft with isSealed := true }

end Draft

end BuildCapture.Container
