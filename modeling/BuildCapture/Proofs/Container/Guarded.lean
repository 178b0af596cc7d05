import BuildCapture.Proofs.Container.Listing

/-!
# Reading a container with guarded operations

A slice of a list takes what there is and natural numbers have no bound, so the
reader of a container is total whatever an image states.  A machine offers
less: a position has to be inside the octets, a sum has to fit into 64 bits, a
difference must not be negative, and a loop over a stated number of entries has
to come to an end.

This module reads a container with operations that stop with a fault as soon as
one of these conditions does not hold, in the order in which a machine carries
them out.  A loop gets as many rounds as the directory has room for entries,
since an entry takes at least 64 octets.  Checks that earlier ones decide are
made all the same, and it is a fault if one of them fails.
-/

namespace BuildCapture

namespace Octets

/-- Octets of the right length are a vector. -/
theorem toVector?_of_length
    {size : Nat}
    {data : Octets}
    (length : data.length = size) :
    ∃ vector, toVector? size data = some vector := by
  rw [toVector?, dif_pos length]
  exact ⟨_, rfl⟩

end Octets

/-- A condition of an operation that does not hold. -/
inductive Fault where
  /-- A position is behind the end of the octets. -/
  | outOfBounds
  /-- A sum does not fit into 64 bits. -/
  | overflow
  /-- A difference is negative. -/
  | underflow
  /-- Octets do not have the length of the field that they are put into. -/
  | wrongLength
  /-- A loop has used up the rounds that it was given. -/
  | unfinished
  /-- A check fails whose outcome an earlier check has decided. -/
  | repeatedCheck
deriving DecidableEq, Repr

/-- Why a guarded computation stops. -/
inductive Stop where
  | fault (fault : Fault)
  | failure (failure : Failure)
deriving DecidableEq, Repr

/-- A computation with guarded operations. -/
abbrev Guarded (α : Type) := Except Stop α

namespace Guarded

/-! ## Operations -/

/-- The guarded computation that meets no fault and has this outcome. -/
def faultless
    {α : Type}
    (outcome : Except Failure α) :
    Guarded α :=
  outcome.mapError .failure

/-- Stops because the condition of an operation does not hold. -/
def fault
    {α : Type}
    (condition : Fault) :
    Guarded α :=
  .error (.fault condition)

/-- Stops because the image is of another format. -/
def invalid
    {α : Type}
    (cause : Malformation) :
    Guarded α :=
  .error (.failure (.invalidFormat cause))

/-- Stops because the container is damaged. -/
def corrupt
    {α : Type}
    (cause : Corruption) :
    Guarded α :=
  .error (.failure (.corrupt cause))

/-- The sum of two numbers, if it fits into 64 bits. -/
def sum?
    (left right : Nat) :
    Option Nat :=
  if left + right < Octets.bound 8 then some (left + right) else none

/-- The sum of two numbers, which has to fit into 64 bits. -/
def plus
    (left right : Nat) :
    Guarded Nat :=
  match sum? left right with
  | none => fault .overflow
  | some total => .ok total

/-- The difference of two numbers, which must not be negative. -/
def minus
    (left right : Nat) :
    Guarded Nat :=
  if right ≤ left then .ok (left - right) else fault .underflow

/-- The octets between two positions. -/
def between
    (data : Octets)
    (start stop : Nat) :
    Guarded Octets :=
  if start ≤ stop ∧ stop ≤ data.length then
    .ok (Octets.slice data start (stop - start))
  else
    fault .outOfBounds

/-- The octets from a position on. -/
def behind
    (data : Octets)
    (start : Nat) :
    Guarded Octets :=
  if start ≤ data.length then .ok (data.drop start) else fault .outOfBounds

/-- The octets of a field with a fixed place and width. -/
def field
    (data : Octets)
    (offset width : Nat) :
    Guarded (Vector UInt8 width) := do
  let stop ← plus offset width
  let octets ← between data offset stop
  match Octets.toVector? width octets with
  | none => fault .wrongLength
  | some vector => .ok vector

/-- The number that a field states. -/
def number
    (data : Octets)
    (offset width : Nat) :
    Guarded Nat := do
  let octets ← field data offset width
  return Octets.toNat octets.toList

/-- The word that a field states. -/
def word
    (data : Octets)
    (offset : Nat) :
    Guarded UInt32 := do
  let value ← number data offset 4
  return UInt32.ofNat value

/-- A number as an index of the machine, which has 64 bits. -/
def index
    (number : Nat) :
    Guarded Nat :=
  if number < Octets.bound 8 then .ok number else fault .repeatedCheck

/-! ## Opening -/

/-- The flags of the header; all words are read before any of them is looked at. -/
def readHeader
    (image : Octets) :
    Guarded UInt32 :=
  if image.isEmpty then
    invalid .emptyContainer
  else if image.length < Container.headerLength then
    invalid .shortHeader
  else do
    let magic ← word image 0
    let version ← word image 4
    let flags ← word image 8
    if magic ≠ Container.magic then
      invalid (.foreignContainer magic)
    else if version > Container.layoutVersion then
      invalid (.newerContainer version)
    else
      return flags

/-- The trailer that octets are, whose length is checked a second time. -/
def readTrailer
    (data : Octets) :
    Guarded Container.Trailer :=
  if data.length < Container.trailerLength then
    fault .repeatedCheck
  else do
    let magic ← word data 0
    if magic ≠ Container.trailerMagic then
      corrupt .unsealed
    else do
      let directoryOffset ← number data 8 8
      let directoryLength ← number data 16 8
      let entryCount ← number data 24 8
      let directoryChecksum ← word data 32
      return { directoryOffset, directoryLength, entryCount, directoryChecksum }

/-- A range of an image; each of its checks repeats one that opening makes. -/
def range
    (image : Octets)
    (offset length : Nat) :
    Guarded Octets := do
  let start ← index offset
  let count ← index length
  match sum? start count with
  | none => fault .repeatedCheck
  | some stop =>
    if stop > image.length then fault .repeatedCheck else between image start stop

/-- The entry at the start of a directory, and what follows it. -/
def takeFirst
    (data : Octets) :
    Guarded (DirectoryEntry × Octets) :=
  if data.length < DirectoryEntry.fixedLength then
    corrupt .shortDirectoryEntry
  else do
    let nameLength ← number data 0 2
    let flags ← number data 2 2
    let offset ← number data 4 8
    let storedLength ← number data 12 8
    let rawLength ← number data 20 8
    let checksum ← word data 28
    let digest ← field data 32 32
    let rest ← behind data DirectoryEntry.fixedLength
    if rest.length < nameLength then
      corrupt .shortEntryName
    else do
      let name ← between rest 0 nameLength
      match Octets.text? name with
      | none => corrupt .entryNameNotText
      | some name => do
        let rest ← behind rest nameLength
        let flags := UInt16.ofNat flags
        return ({ name, flags, offset, storedLength, rawLength, checksum, digest }, rest)

/-- The entries of a directory with a stated number of entries, in so many rounds at most. -/
def decodeAll : (rounds count : Nat) → Octets → Guarded (List DirectoryEntry)
  | _, 0, data => if data.isEmpty then .ok [] else corrupt .trailingDirectory
  | 0, _ + 1, _ => fault .unfinished
  | rounds + 1, count + 1, data => do
    let (entry, rest) ← takeFirst data
    let entries ← decodeAll rounds count rest
    return entry :: entries

/-- Adds entries, which have to lie between the header and `limit`, to those already known. -/
def addEntries
    (limit : Nat)
    (known : List DirectoryEntry) :
    List DirectoryEntry → Guarded (List DirectoryEntry)
  | [] => .ok known
  | entry :: rest =>
    match sum? entry.offset entry.storedLength with
    | none => corrupt .entryOverflow
    | some stop =>
      if entry.offset < Container.headerLength ∨ stop > limit then
        corrupt (.entryOutOfBounds entry.name)
      else
        match Container.placeByName? entry known with
        | none => corrupt .duplicateEntry
        | some known => addEntries limit known rest

/-- The rounds in which a directory can be decoded: as many as it has room for, and a last one. -/
def roundsFor
    (directory : Octets) :
    Nat :=
  directory.length / DirectoryEntry.fixedLength + 1

/-- The entries of a container whose header has been read. -/
def readEntries
    (image : Octets) :
    Guarded (List DirectoryEntry) :=
  if image.length < Container.headerLength + Container.trailerLength then
    corrupt .shortContainer
  else do
    let bodyLength ← minus image.length Container.trailerLength
    let closing ← behind image bodyLength
    let trailer ← readTrailer closing
    match sum? trailer.directoryOffset trailer.directoryLength with
    | none => corrupt .directoryOverflow
    | some directoryEnd =>
      if trailer.directoryOffset < Container.headerLength ∨ directoryEnd ≠ bodyLength then
        corrupt .directoryMisplaced
      else do
        let directory ← range image trailer.directoryOffset trailer.directoryLength
        if crc32 directory ≠ trailer.directoryChecksum then
          corrupt .directoryChecksum
        else do
          let entries ← decodeAll (roundsFor directory) trailer.entryCount directory
          addEntries trailer.directoryOffset [] entries

/-- The container that an image is. -/
def ofImage
    (path : String)
    (image : Octets)
    (verify : Bool) :
    Guarded Container := do
  let flags ← readHeader image
  let entries ← readEntries image
  return { path, image, flags, entries, verify }

/-- Opens the container at a path. -/
def openFile
    (files : FileSystem)
    (path : String)
    (verify : Bool) :
    Guarded Container :=
  match files.find (.ofPath path) with
  | .error fault => .error (.failure (.file fault))
  | .ok (_, .directory) => .error (.failure (.file .noDevice))
  | .ok (_, .file _ _ _ (some flaw)) => .error (.failure (.file flaw.fault))
  | .ok (_, .file _ _ image none) => ofImage path image verify

/-! ## Fetching -/

/-- The stored octets of an entry. -/
def stored
    (container : Container)
    (entry : DirectoryEntry) :
    Guarded Octets := do
  let stored ← range container.image entry.offset entry.storedLength
  if container.verify ∧ crc32 stored ≠ entry.checksum then
    corrupt (.entryChecksum entry.name)
  else
    return stored

/-- The octets of the entry with a name; the memory that decompression takes is not counted. -/
def read
    (container : Container)
    (name : String) :
    Guarded Octets :=
  match container.find? name with
  | none => .error (.failure (.notFound name))
  | some entry => do
    let octets ← stored container entry
    if entry.isCompressed then do
      let capacity ← index entry.rawLength
      match Zstd.decompressWhole? capacity octets with
      | none => corrupt .compression
      | some raw =>
        if raw.length = entry.rawLength then return raw else corrupt (.entryLength entry.name)
    else
      return octets

/-- A stream of the octets of the entry with a name. -/
def openEntry
    (container : Container)
    (name : String) :
    Guarded Source :=
  match container.find? name with
  | none => .error (.failure (.notFound name))
  | some entry => do
    let octets ← stored container entry
    return Container.expandStream entry octets

/-! ## Operations whose conditions hold -/

section Operations

variable
    {data : Octets}
    {offset width : Nat}

@[simp]
theorem ok_bind
    {α β : Type}
    (value : α)
    (next : α → Guarded β) :
    (Except.ok value : Guarded α) >>= next = next value :=
  rfl

@[simp]
theorem faultless_ok
    {α : Type}
    (value : α) :
    faultless (.ok value) = .ok value :=
  rfl

@[simp]
theorem mapError_ok
    {Cause α : Type}
    (as : Cause → Failure)
    (value : α) :
    (Except.ok value).mapError as = .ok value :=
  rfl

theorem sum?_of_lt
    {left right : Nat}
    (small : left + right < Octets.bound 8) :
    sum? left right = some (left + right) :=
  if_pos small

theorem sum?_of_le
    {left right : Nat}
    (large : Octets.bound 8 ≤ left + right) :
    sum? left right = none :=
  if_neg (Nat.not_lt.2 large)

theorem between_of_le
    {start stop : Nat}
    (ordered : start ≤ stop)
    (inside : stop ≤ data.length) :
    between data start stop = .ok (Octets.slice data start (stop - start)) :=
  if_pos ⟨ordered, inside⟩

theorem behind_of_le
    (inside : offset ≤ data.length) :
    behind data offset = .ok (data.drop offset) :=
  if_pos inside

/-- Header, trailer and the fixed part of an entry have 64 octets, in which every field fits. -/
theorem field_of_le
    (long : 64 ≤ data.length)
    (within : offset + width ≤ 64) :
    ∃ octets,
      Octets.toVector? width (Octets.slice data offset width) = some octets ∧
        field data offset width = .ok octets := by
  have small : offset + width < Octets.bound 8 := Nat.lt_of_le_of_lt within (by decide)
  have length : (Octets.slice data offset width).length = width :=
    Octets.length_slice (Nat.le_trans within long)
  rcases Octets.toVector?_of_length length with ⟨octets, vector⟩
  refine ⟨octets, vector, ?_⟩
  rw [field, plus, sum?_of_lt small]
  simp only [ok_bind, between_of_le (Nat.le_add_right offset width) (Nat.le_trans within long),
    Nat.add_sub_cancel_left, vector]

/-- A number in such 64 octets is read without a fault. -/
theorem number_of_le
    (long : 64 ≤ data.length)
    (within : offset + width ≤ 64) :
    number data offset width = .ok (Octets.toNat (Octets.slice data offset width)) := by
  rcases field_of_le long within with ⟨octets, vector, read⟩
  rw [number, read, ok_bind, Octets.toList_of_toVector? vector]
  rfl

/-- A word in such 64 octets is read without a fault. -/
theorem word_of_le
    (long : 64 ≤ data.length)
    (within : offset + 4 ≤ 64) :
    word data offset = .ok (Container.wordAt data offset) := by
  rw [word, number_of_le long within]
  rfl

example : word [1, 2] 1 = fault .outOfBounds := rfl

/-- A range that lies inside an image is cut out of it. -/
theorem range_of_le
    {length : Nat}
    (small : offset + length < Octets.bound 8)
    (inside : offset + length ≤ data.length) :
    range data offset length = .ok (Octets.slice data offset length) := by
  have start : index offset = .ok offset :=
    if_pos (Nat.lt_of_le_of_lt (Nat.le_add_right offset length) small)
  have count : index length = .ok length :=
    if_pos (Nat.lt_of_le_of_lt (Nat.le_add_left length offset) small)
  rw [range, start, count]
  simp only [ok_bind, sum?_of_lt small]
  rw [if_neg (Nat.not_lt.2 inside), between_of_le (Nat.le_add_right offset length) inside,
    Nat.add_sub_cancel_left]

end Operations

end Guarded

end BuildCapture
