import BuildCapture.Container.Directory
import BuildCapture.Failure
import BuildCapture.FileSystem
import BuildCapture.Zstd.Frame

/-!
# Containers

A container is one file with many named entries: a header, the stored octets
of the entries, the directory, and a trailer that says where the directory is.
`Container.ofImage` opens the octets of a container and checks that the
directory is undamaged, that no two entries share a name, and that every entry
lies between header and directory.  `read` and `openEntry` then give the
octets that an entry stands for.
-/

namespace BuildCapture

/-- A container that was opened for reading. -/
structure Container where
  path : String
  image : Octets
  flags : UInt32
  /-- The entries in the order of their names. -/
  entries : List DirectoryEntry
  /-- Stored octets are checked against their checksum before they are used. -/
  verify : Bool
deriving DecidableEq, Repr

namespace Container

/-! ## Opening -/

/-- Puts an entry among others in the order of names, unless the name is taken. -/
def placeByName?
    (entry : DirectoryEntry) : List DirectoryEntry → Option (List DirectoryEntry)
  | [] => some [entry]
  | first :: rest =>
    if entry.name = first.name then
      none
    else if Octets.textBefore entry.name first.name then
      some (entry :: first :: rest)
    else
      (placeByName? entry rest).map (first :: ·)

/-- Adds entries, which have to lie between the header and `limit`, to those already known. -/
def addEntries
    (limit : Nat)
    (known : List DirectoryEntry) :
    List DirectoryEntry → Except Corruption (List DirectoryEntry)
  | [] => .ok known
  | entry :: rest =>
    if entry.storedEnd ≥ Octets.bound 8 then
      .error .entryOverflow
    else if entry.offset < headerLength ∨ entry.storedEnd > limit then
      .error (.entryOutOfBounds entry.name)
    else
      match placeByName? entry known with
      | none => .error .duplicateEntry
      | some known => addEntries limit known rest

/-- The entries of a container whose header has been read, in the order of their names. -/
def readEntries
    (image : Octets) :
    Except Corruption (List DirectoryEntry) :=
  if image.length < headerLength + trailerLength then
    .error .shortContainer
  else
    let bodyLength := image.length - trailerLength
    match Trailer.ofOctets (image.drop bodyLength) with
    | .error cause => .error cause
    | .ok trailer =>
      let directoryEnd := trailer.directoryOffset + trailer.directoryLength
      if directoryEnd ≥ Octets.bound 8 then
        .error .directoryOverflow
      else if trailer.directoryOffset < headerLength ∨ directoryEnd ≠ bodyLength then
        .error .directoryMisplaced
      else
        let directory := Octets.slice image trailer.directoryOffset trailer.directoryLength
        if crc32 directory ≠ trailer.directoryChecksum then
          .error .directoryChecksum
        else
          match DirectoryEntry.decodeAll trailer.entryCount directory with
          | .error cause => .error cause
          | .ok entries => addEntries trailer.directoryOffset [] entries

/-- The container that an image is. -/
def ofImage
    (path : String)
    (image : Octets)
    (verify : Bool) :
    Except Failure Container :=
  match readHeader image with
  | .error cause => .error (.invalidFormat cause)
  | .ok flags =>
    match readEntries image with
    | .error cause => .error (.corrupt cause)
    | .ok entries => .ok { path, image, flags, entries, verify }

/--
Opens the container at a path; a directory can not be read as one.  The file is
mapped whole, so one that has a flaw anywhere is not opened.
-/
def openFile
    (files : FileSystem)
    (path : String)
    (verify : Bool) :
    Except Failure Container :=
  match files.find (.ofPath path) with
  | .error fault => .error (.file fault)
  | .ok (_, .directory) => .error (.file .noDevice)
  | .ok (_, .file _ _ _ (some flaw)) => .error (.file flaw.fault)
  | .ok (_, .file _ _ image none) => ofImage path image verify

/-! ## Looking up -/

/-- The separator convention that the header names. -/
def pathStyle
    (container : Container) :
    PathStyle :=
  .ofFlags container.flags

/-- The entry with a name. -/
def find?
    (container : Container)
    (name : String) :
    Option DirectoryEntry :=
  container.entries.find? fun entry => entry.name == name

/-- Whether there is an entry with a name. -/
def contains
    (container : Container)
    (name : String) :
    Bool :=
  (container.find? name).isSome

/-- The entries whose names start with some text, a stretch of the sorted entries. -/
def entriesWithPrefix
    (container : Container)
    (start : String) :
    List DirectoryEntry :=
  (container.entries.dropWhile fun entry => Octets.textBefore entry.name start).takeWhile
    fun entry => (Octets.ofText start).isPrefixOf (Octets.ofText entry.name)

/-! ## Reading -/

/-- The stored octets of an entry. -/
def stored
    (container : Container)
    (entry : DirectoryEntry) :
    Except Failure Octets :=
  let stored := Octets.slice container.image entry.offset entry.storedLength
  if container.verify ∧ crc32 stored ≠ entry.checksum then
    .error (.corrupt (.entryChecksum entry.name))
  else
    .ok stored

/-- The octets that the stored octets of an entry stand for. -/
def expand
    (entry : DirectoryEntry)
    (stored : Octets) :
    Except Corruption Octets :=
  if entry.isCompressed then
    match Zstd.decompressWhole? entry.rawLength stored with
    | none => .error .compression
    | some raw =>
      if raw.length = entry.rawLength then .ok raw else .error (.entryLength entry.name)
  else
    .ok stored

/-- The octets of the entry with a name. -/
def read
    (container : Container)
    (name : String) :
    Except Failure Octets :=
  match container.find? name with
  | none => .error (.notFound name)
  | some entry =>
    match container.stored entry with
    | .error failure => .error failure
    | .ok stored =>
      match expand entry stored with
      | .error cause => .error (.corrupt cause)
      | .ok raw => .ok raw

/-- What streaming the stored octets of an entry yields. -/
def expandStream
    (entry : DirectoryEntry)
    (stored : Octets) :
    Source :=
  if entry.isCompressed then
    match Zstd.decompressStream? stored with
    | none => { data := [], fault := some .brokenStream }
    | some raw => .ofOctets raw
  else
    .ofOctets stored

/-- A stream of the octets of the entry with a name. -/
def openEntry
    (container : Container)
    (name : String) :
    Except Failure Source :=
  match container.find? name with
  | none => .error (.notFound name)
  | some entry =>
    match container.stored entry with
    | .error failure => .error failure
    | .ok stored => .ok (expandStream entry stored)

end Container

end BuildCapture
