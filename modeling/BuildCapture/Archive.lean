import BuildCapture.Archive.Diagnostic
import BuildCapture.Archive.Manifest
import BuildCapture.Configuration
import BuildCapture.Container
import BuildCapture.Hash.Invocation
import BuildCapture.Module.Index

/-!
# Archives

An archive is a container with a manifest, one entry for each record, the pools
of blobs and modules, and an index of the modules.  Opening checks that the
manifest, all records it counts, the index and all modules it lists are there,
so none of them can be missing later.
-/

namespace BuildCapture

/-- An archive that was opened for reading. -/
structure Archive where
  container : Container
  manifest : Manifest
  /-- The indexed modules in the order of their identities. -/
  modules : List ModuleInfo
  diagnostics : List Diagnostic
deriving DecidableEq, Repr

namespace Archive

/-! ## Opening -/

/-- The octets of an entry that every archive has. -/
def required
    (container : Container)
    (name : String) :
    Except Failure Octets :=
  match container.read name with
  | .error (.notFound _) => .error (.corrupt (.missingEntry name))
  | outcome => outcome

/--
The first of `count` records that has no entry.  A container with `n` entries
lacks one of the first `n + 1` records, so no more of them need be looked for.
-/
def missingRecord?
    (container : Container)
    (count : Nat) :
    Option Nat :=
  (List.range (min count (container.entries.length + 1))).find? fun index =>
    !container.contains (InvocationRecord.entryName index)

/-- Puts a module among others in the order of identities, in place of one with its identity. -/
def insertModule
    (info : ModuleInfo) : List ModuleInfo → List ModuleInfo
  | [] => [info]
  | first :: rest =>
    if info.id = first.id then
      info :: rest
    else if info.id.octets < first.id.octets then
      info :: first :: rest
    else
      first :: insertModule info rest

/-- Adds the modules of an index, which all have to be stored, to those already known. -/
def addModules
    (container : Container)
    (known : List ModuleInfo) :
    List ModuleInfo → Except Failure (List ModuleInfo)
  | [] => .ok known
  | info :: rest =>
    if container.contains info.id.entryName then
      addModules container (insertModule info known) rest
    else
      .error (.corrupt (.unstoredModule info.id))

/-- The modules that the index of a container lists. -/
def readModules
    (container : Container) :
    Except Failure (List ModuleInfo) :=
  match required container ModuleIndex.entryName with
  | .error failure => .error failure
  | .ok document =>
    match ModuleIndex.decode document with
    | .error failure => .error failure
    | .ok infos => addModules container [] infos

/-- The diagnostics of a container, none where it has no entry for them. -/
def readDiagnostics
    (container : Container) :
    Except Failure (List Diagnostic) :=
  if container.contains Diagnostic.entryName then
    match container.read Diagnostic.entryName with
    | .error failure => .error failure
    | .ok document => Diagnostic.decodeAll document
  else
    .ok []

/-- The manifest of a container, all of whose records are there. -/
def readManifest
    (container : Container) :
    Except Failure Manifest :=
  match required container Manifest.entryName with
  | .error failure => .error failure
  | .ok document =>
    match Manifest.decode document with
    | .error failure => .error failure
    | .ok manifest =>
      match missingRecord? container manifest.recordCount.toNat with
      | some index => .error (.corrupt (.missingEntry (InvocationRecord.entryName index)))
      | none => .ok manifest

/-- The archive that a container holds. -/
def ofContainer
    (container : Container) :
    Except Failure Archive :=
  match readManifest container with
  | .error failure => .error failure
  | .ok manifest =>
    match readModules container with
    | .error failure => .error failure
    | .ok modules =>
      match readDiagnostics container with
      | .error failure => .error failure
      | .ok diagnostics => .ok { container, manifest, modules, diagnostics }

/-- Opens the archive at a path. -/
def openFile
    (files : FileSystem)
    (path : String)
    (config : ReaderConfig) :
    Except Failure Archive :=
  match Container.openFile files path config.verifyChecksums with
  | .error failure => .error failure
  | .ok container => ofContainer container

/-! ## Records -/

/-- How many records the archive holds. -/
def count
    (archive : Archive) :
    Nat :=
  archive.manifest.recordCount.toNat

/-- The record with an index. -/
def record
    (archive : Archive)
    (index : Nat) :
    Except Failure InvocationRecord :=
  if index ≥ archive.count then
    .error (.outOfRange index archive.count)
  else
    match archive.container.read (InvocationRecord.entryName index) with
    | .error failure => .error failure
    | .ok document => InvocationRecord.decode document

/-- Every record, or the failure to read it. -/
def records
    (archive : Archive) :
    List (Except Failure InvocationRecord) :=
  (List.range archive.count).map archive.record

/-- The records among those with the given indices that satisfy a predicate. -/
def selectRecords
    (archive : Archive)
    (predicate : InvocationRecord → Bool) :
    List Nat → Except Failure (List (Nat × InvocationRecord))
  | [] => .ok []
  | index :: rest =>
    match archive.record index with
    | .error failure => .error failure
    | .ok record =>
      match archive.selectRecords predicate rest with
      | .error failure => .error failure
      | .ok others => .ok (if predicate record then (index, record) :: others else others)

/-- The records that satisfy a predicate, with their indices; every record has to be readable. -/
def findRecords
    (archive : Archive)
    (predicate : InvocationRecord → Bool) :
    Except Failure (List (Nat × InvocationRecord)) :=
  archive.selectRecords predicate (List.range archive.count)

/-! ## Pools -/

/-- The content with a key. -/
def blob
    (archive : Archive)
    (key : ContentKey) :
    Except Failure Octets :=
  archive.container.read key.entryName

/-- A stream of the content with a key. -/
def openBlob
    (archive : Archive)
    (key : ContentKey) :
    Except Failure Source :=
  archive.container.openEntry key.entryName

/-- The image of the module with an identity. -/
def module
    (archive : Archive)
    (id : ModuleId) :
    Except Failure Octets :=
  archive.container.read id.entryName

/-- A stream of the image of the module with an identity. -/
def openModule
    (archive : Archive)
    (id : ModuleId) :
    Except Failure Source :=
  archive.container.openEntry id.entryName

/-- The description of the module with an identity. -/
def moduleInfo
    (archive : Archive)
    (id : ModuleId) :
    Except Failure ModuleInfo :=
  match archive.modules.find? fun info => info.id == id with
  | none => .error (.notFound id.entryName)
  | some info => .ok info

/-- The digest of the image of the module with an identity. -/
def moduleDigest
    (archive : Archive)
    (id : ModuleId) :
    Except Failure Digest :=
  match archive.container.find? id.entryName with
  | none => .error (.notFound id.entryName)
  | some entry => .ok entry.digest

/-! ## Hashes -/

/-- The content hash of the record with an index. -/
def contentHash
    (archive : Archive)
    (index : Nat) :
    Except Failure Digest :=
  match archive.record index with
  | .error failure => .error failure
  | .ok record => record.contentHash archive.moduleDigest

/-- The identity hash of the record with an index. -/
def identityHash
    (archive : Archive)
    (index : Nat) :
    Except Failure Digest :=
  (archive.record index).map InvocationRecord.identityHash

end Archive

end BuildCapture
