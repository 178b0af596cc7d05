import BuildCapture.Container.Scribe
import BuildCapture.Pool.Modules

/-!
# Pools over a scribe

A storeroom is a scribe with a blob pool and a module pool that store into its
container.  Every request is carried out to its end, so octets that were
streamed are settled before the next request.  Where a path is read, the
request says what opening the path yields.
-/

namespace BuildCapture

open Container

/-- A container that is written to, with the pools that store into it. -/
structure Storeroom where
  scribe : Scribe
  blobs : BlobPool := {}
  modules : ModulePool := {}
deriving DecidableEq, Repr

namespace Storeroom

/-! ## Storing from memory -/

section FromMemory

variable [Zstd.Encoder]

/-- Stores octets from memory. -/
def storeContent
    (room : Storeroom)
    (data : Octets) :
    Storeroom × Except Failure ContentKey :=
  let key := ContentKey.of data
  if room.blobs.contains key then
    (room, .ok key)
  else
    match room.scribe.write key.entryName data with
    | (scribe, .error failure) => ({ room with scribe }, .error failure)
    | (scribe, .ok ()) =>
      ({ room with scribe, blobs := room.blobs.remember key data.length }, .ok key)

/-- Stores a module whose image is in memory, unless its identity is stored already. -/
def storeModule
    (room : Storeroom)
    (image : Octets) :
    Storeroom × Except Failure ModuleInfo :=
  match ModuleInfo.ofOctets image with
  | .error fault => (room, .error (.unsupportedModule "" fault))
  | .ok info =>
    match room.modules.get? info.id with
    | some known => (room, .ok known)
    | none =>
      match room.scribe.write info.id.entryName image with
      | (scribe, .error failure) => ({ room with scribe }, .error failure)
      | (scribe, .ok ()) =>
        ({ room with scribe, modules := room.modules.remember info }, .ok info)

end FromMemory

/-! ## Storing what is read -/

section FromReaders

variable [Zstd.Packer]

/-- Stores all octets of a reader. -/
def storeReader
    (room : Storeroom)
    (reader : Reader) :
    Storeroom × Except Failure ContentKey :=
  match room.scribe.stream reader with
  | (scribe, .error failure) => ({ room with scribe }, .error failure)
  | (scribe, .ok pending) =>
    let key : ContentKey := ⟨pending.digest⟩
    if room.blobs.contains key then
      match scribe.discard pending with
      | (scribe, .error failure) => ({ room with scribe }, .error failure)
      | (scribe, .ok ()) => ({ room with scribe }, .ok key)
    else
      match scribe.commit pending key.entryName with
      | (scribe, .error failure) => ({ room with scribe }, .error failure)
      | (scribe, .ok ()) =>
        ({ room with scribe, blobs := room.blobs.remember key pending.rawLength }, .ok key)

/-- Stores the content of the file at a path. -/
def storeFile
    (room : Storeroom)
    (path : String) :
    Except FileFault Reader → Storeroom × Except Failure ContentKey
  | .error fault => (room, .error (.inputUnreadable path fault))
  | .ok reader =>
    match room.storeReader reader with
    | (room, .error failure) => (room, .error (BlobPool.blame reader.source path failure))
    | (room, .ok key) => (room, .ok key)

/-- Stores the module at a path, unless its identity is stored already. -/
def storeModuleFile
    (room : Storeroom)
    (path : String) :
    Except FileFault Reader → Storeroom × Except Failure ModuleInfo
  | .error fault => (room, .error (.inputUnreadable path fault))
  | .ok reader =>
    match ModuleInfo.ofSource reader.source with
    | .error fault => (room, .error (.unsupportedModule path fault))
    | .ok (info, _) =>
      match room.modules.get? info.id with
      | some known => (room, .ok known)
      | none =>
        match room.scribe.deposit reader info.id.entryName with
        | (scribe, .error failure) =>
          ({ room with scribe }, .error (BlobPool.blame reader.source path failure))
        | (scribe, .ok ()) =>
          ({ room with scribe, modules := room.modules.remember info }, .ok info)

end FromReaders

/-! ## Requests -/

/-- What a storeroom is asked to do. -/
inductive Request where
  | entry (name : String) (data : Octets)
  | deposit (name : String) (reader : Reader)
  | visit (reader : Reader)
  | content (data : Octets)
  | contentFrom (reader : Reader)
  | contentOf (path : String) (opened : Except FileFault Reader)
  | moduleImage (image : Octets)
  | moduleOf (path : String) (opened : Except FileFault Reader)

/-- What is left of an answer if only its success matters. -/
def forget
    {α : Type}
    (answer : Storeroom × Except Failure α) :
    Storeroom × Except Failure Unit :=
  (answer.1, answer.2.map fun _ => ())

variable [Zstd.Encoder] [Zstd.Packer]

/-- Does what a storeroom is asked to do. -/
def serve
    (room : Storeroom) : Request → Storeroom × Except Failure Unit
  | .entry name data =>
    match room.scribe.write name data with
    | (scribe, outcome) => ({ room with scribe }, outcome)
  | .deposit name reader =>
    match room.scribe.deposit reader name with
    | (scribe, outcome) => ({ room with scribe }, outcome)
  | .visit reader =>
    match room.scribe.visit reader with
    | (scribe, outcome) => ({ room with scribe }, outcome)
  | .content data => forget (room.storeContent data)
  | .contentFrom reader => forget (room.storeReader reader)
  | .contentOf path opened => forget (room.storeFile path opened)
  | .moduleImage image => forget (room.storeModule image)
  | .moduleOf path opened => forget (room.storeModuleFile path opened)

/-- The storeroom after requests. -/
def run
    (room : Storeroom)
    (requests : List Request) :
    Storeroom :=
  requests.foldl (fun room request => (room.serve request).1) room

end Storeroom

end BuildCapture
