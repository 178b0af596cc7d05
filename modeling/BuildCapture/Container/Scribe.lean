import BuildCapture.Container.Sink
import BuildCapture.Container.Writer
import BuildCapture.Source.Reader

/-!
# A writer at work

A scribe is a container writer as it deals with its file: it knows where the
payload ends, and it never looks back at what it has written.  A write that
breaks off may have left anything behind the end of the payload; the scribe then
cuts the file back to where the payload ended before.
-/

namespace BuildCapture.Container

/-- A container writer with the handle of its temporary file. -/
structure Scribe where
  path : String
  handle : FileSystem.Handle
  /-- Where the payload ends. -/
  offset : Nat
  entries : List DirectoryEntry := []
  /-- The names that are taken. -/
  names : List String := []
  compression : CompressionConfig
  isSealed : Bool := false
deriving DecidableEq, Repr

namespace Scribe

/-- The scribe of a writer that was just started. -/
def ofWriter
    (files : FileSystem)
    (writer : Writer) :
    Scribe where
  path := writer.path
  handle := { files, identity := writer.identity, position := headerLength }
  offset := headerLength
  compression := writer.draft.compression

/-! ## Going back -/

/-- Cuts the file to an offset, where the payload ends from then on. -/
def rewind
    (scribe : Scribe)
    (offset : Nat) :
    Scribe × Except Failure Unit :=
  if scribe.isSealed then
    (scribe, .error .alreadySealed)
  else
    ({ scribe with handle := scribe.handle.cut offset, offset }, .ok ())

/-- Goes back to the end of the payload after a write that broke off, and reports the failure. -/
def recover
    {α : Type}
    (scribe : Scribe)
    (failure : Failure) :
    Scribe × Except Failure α :=
  match scribe.rewind scribe.offset with
  | (scribe, .error failure) => (scribe, .error failure)
  | (scribe, .ok ()) => (scribe, .error failure)

/-! ## Adding octets -/

/-- Lists an entry under its name. -/
def enter
    (scribe : Scribe)
    (entry : DirectoryEntry) :
    Scribe :=
  { scribe with
    entries := scribe.entries ++ [entry]
    names := scribe.names ++ [entry.name] }

section Growing

variable [Zstd.Encoder]

/-- Adds an entry with octets from memory. -/
def write
    (scribe : Scribe)
    (name : String)
    (data : Octets) :
    Scribe × Except Failure Unit :=
  if scribe.names.contains name then
    (scribe, .error (.unsupported .duplicateEntry))
  else
    match Draft.pack? scribe.compression data with
    | none => (scribe, .error (.file .uncompressed))
    | some (stored, flags) =>
      if scribe.isSealed then
        (scribe, .error .alreadySealed)
      else
        match scribe.handle.write stored with
        | (handle, _ :: _) => recover { scribe with handle } (.file .tooLarge)
        | (handle, []) =>
          let entry := (Pending.ofStored scribe.offset data stored flags).named name
          (enter { scribe with handle, offset := scribe.offset + entry.storedLength } entry, .ok ())

end Growing

section Streaming

variable [Zstd.Packer]

/-- How octets from a source are packed. -/
def packing
    (compression : CompressionConfig) :
    Zstd.Packing :=
  if compression.enabled then Zstd.Packer.packing compression.level else .plain

/-- The flags of an entry with octets from a source. -/
def streamFlags
    (compression : CompressionConfig) :
    UInt16 :=
  if compression.enabled then DirectoryEntry.compressedFlags else 0

/-- Adds all octets of a reader without a name. -/
def stream
    (scribe : Scribe)
    (reader : Reader) :
    Scribe × Except Failure Pending :=
  if scribe.isSealed then
    (scribe, .error .alreadySealed)
  else
    let sink : Sink := { handle := scribe.handle }
    match sink.copy (packing scribe.compression) reader.fault [] reader.pieces with
    | (sink, .error fault) => recover { scribe with handle := sink.close } (.file fault)
    | (sink, .ok ()) =>
      ({ scribe with handle := sink.handle, offset := scribe.offset + sink.written }, .ok {
        offset := scribe.offset
        storedLength := sink.written
        rawLength := reader.pieces.flatten.length
        checksum := ~~~ sink.register
        digest := sha256 reader.pieces.flatten
        flags := streamFlags scribe.compression })

end Streaming

/-! ## Settling pending octets -/

/-- Whether pending octets end where the payload ends. -/
def isLatest
    (scribe : Scribe)
    (pending : Pending) :
    Bool :=
  pending.storedEnd == scribe.offset

/-- Takes the latest pending octets back. -/
def discard
    (scribe : Scribe)
    (pending : Pending) :
    Scribe × Except Failure Unit :=
  if !scribe.isLatest pending then
    (scribe, .error (.unsupported .notLatest))
  else
    scribe.rewind pending.offset

/-- Gives the latest pending octets a name; if the name is taken, they are discarded. -/
def commit
    (scribe : Scribe)
    (pending : Pending)
    (name : String) :
    Scribe × Except Failure Unit :=
  if !scribe.isLatest pending then
    (scribe, .error (.unsupported .notLatest))
  else if scribe.names.contains name then
    match scribe.discard pending with
    | (scribe, .error failure) => (scribe, .error failure)
    | (scribe, .ok ()) => (scribe, .error (.unsupported .duplicateEntry))
  else
    (scribe.enter (pending.named name), .ok ())

/-! ## Settling at once -/

section AtOnce

variable [Zstd.Packer]

/-- Adds all octets of a reader and gives them a name at once. -/
def deposit
    (scribe : Scribe)
    (reader : Reader)
    (name : String) :
    Scribe × Except Failure Unit :=
  match scribe.stream reader with
  | (scribe, .error failure) => (scribe, .error failure)
  | (scribe, .ok pending) => scribe.commit pending name

/-- Adds all octets of a reader and takes them back at once. -/
def visit
    (scribe : Scribe)
    (reader : Reader) :
    Scribe × Except Failure Unit :=
  match scribe.stream reader with
  | (scribe, .error failure) => (scribe, .error failure)
  | (scribe, .ok pending) => scribe.discard pending

end AtOnce

/-! ## Finishing -/

/-- Moves the finished file to the final path, unless it is too long. -/
def publish
    (scribe : Scribe) :
    FileSystem × Except Failure Unit :=
  let directory := DirectoryEntry.encodeAll scribe.entries
  let trailer : Trailer := {
    directoryOffset := scribe.offset
    directoryLength := directory.length
    entryCount := scribe.entries.length
    directoryChecksum := crc32 directory }
  match scribe.handle.write directory with
  | (handle, _ :: _) => (Writer.removeTemporary handle.files scribe.path, .error (.file .tooLarge))
  | (handle, []) =>
    match handle.write trailer.octets with
    | (handle, _ :: _) =>
      (Writer.removeTemporary handle.files scribe.path, .error (.file .tooLarge))
    | (handle, []) =>
      match handle.files.rename (Writer.temporaryRoute scribe.path) (.ofPath scribe.path) with
      | .error fault => (Writer.removeTemporary handle.files scribe.path, .error (.file fault))
      | .ok files => (files, .ok ())

/-- Finishes the container, which takes no more octets even if it can not be published. -/
def finish
    (scribe : Scribe) :
    Scribe × Except Failure Unit :=
  if scribe.isSealed then
    (scribe, .error .alreadySealed)
  else
    match scribe.publish with
    | (files, outcome) =>
      ({ scribe with handle := { scribe.handle with files }, isSealed := true }, outcome)

end Scribe

end BuildCapture.Container
