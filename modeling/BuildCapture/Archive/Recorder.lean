import BuildCapture.Archive.Diagnostic
import BuildCapture.Archive.Manifest
import BuildCapture.Module.Index
import BuildCapture.Pool.Modules

/-!
# Recorders

A recorder writes one archive.  Inputs go through the blob pool or the module
pool; the path of an input that has not changed since it was read is answered
from memory.  A failure that concerns only an input leaves the recorder usable.
Any other failure aborts it: the temporary file is removed and every later
operation fails.  Sealing adds the module index, the diagnostics and the
manifest, and publishes the container.
-/

namespace BuildCapture

open Container

/-! ## State -/

/-- What a recorder is doing. -/
inductive RecorderState where
  | recording (writer : Writer)
  | published (path : String)
  | aborted (reason : String)
deriving DecidableEq, Repr

/-- What an input turned out to be. -/
inductive InputIdentity where
  | content (key : ContentKey)
  | module (info : ModuleInfo)
deriving DecidableEq, Repr

/-- An input that was read, and what its file looked like then. -/
structure KnownInput where
  fingerprint : Fingerprint
  identity : InputIdentity
deriving DecidableEq, Repr

/-- A writer of one archive. -/
structure Recorder where
  state : RecorderState
  config : WriterConfig
  blobs : BlobPool := {}
  modules : ModulePool := {}
  /-- What was read from each path, the latest first. -/
  inputs : List (String × KnownInput) := []
  recordCount : Nat := 0
  diagnostics : List Diagnostic := []
deriving DecidableEq, Repr

/-- A recorder together with the file system it reads from and writes to. -/
structure Recording where
  files : FileSystem
  recorder : Recorder
deriving DecidableEq, Repr

/-- What a published archive holds and where it is. -/
structure SealedArchive where
  path : String
  recordCount : Nat
  blobCount : Nat
  moduleCount : Nat
  diagnostics : List Diagnostic
deriving DecidableEq, Repr

namespace Recorder

/-- Starts an archive. -/
def create
    (files : FileSystem)
    (path : String)
    (config : WriterConfig) :
    FileSystem × Except Failure Recorder :=
  match Writer.create files path config with
  | (files, .error failure) => (files, .error failure)
  | (files, .ok writer) => (files, .ok { state := .recording writer, config := config })

/-- Whether the archive has been published. -/
def isSealed
    (recorder : Recorder) :
    Bool :=
  match recorder.state with
  | .published _ => true
  | _ => false

/-- The path of the archive, once it is published. -/
def archivePath
    (recorder : Recorder) :
    Except Failure String :=
  match recorder.state with
  | .published path => .ok path
  | .recording _ => .error .notSealed
  | .aborted reason => .error (.aborted reason)

/-- The writer of a recorder that still records. -/
def writer
    (recorder : Recorder) :
    Except Failure Writer :=
  match recorder.state with
  | .recording writer => .ok writer
  | .published _ => .error .alreadySealed
  | .aborted reason => .error (.aborted reason)

/-- What is known of an input whose file has not changed. -/
def known?
    (recorder : Recorder)
    (path : String)
    (fingerprint : Fingerprint) :
    Option InputIdentity :=
  match List.lookup path recorder.inputs with
  | none => none
  | some input => if input.fingerprint = fingerprint then some input.identity else none

/-- The key of an unchanged input that was read as a content. -/
def knownContent?
    (recorder : Recorder)
    (path : String)
    (fingerprint : Fingerprint) :
    Option ContentKey :=
  match recorder.known? path fingerprint with
  | some (.content key) => some key
  | _ => none

/-- The description of an unchanged input that was read as a module. -/
def knownModule?
    (recorder : Recorder)
    (path : String)
    (fingerprint : Fingerprint) :
    Option ModuleInfo :=
  match recorder.known? path fingerprint with
  | some (.module info) => some info
  | _ => none

/-- The manifest of what has been recorded. -/
def manifest
    (recorder : Recorder) :
    Manifest :=
  { Manifest.new recorder.config.pathStyle with
    recordCount := UInt64.ofNat recorder.recordCount
    blobCount := UInt64.ofNat recorder.blobs.size
    moduleCount := UInt64.ofNat recorder.modules.size }

/-- The documents that complete an archive, by entry name. -/
def documents
    (recorder : Recorder) :
    List (String × Octets) := [
  (ModuleIndex.entryName, ModuleIndex.encode recorder.modules.infos),
  (Diagnostic.entryName, Diagnostic.encodeAll recorder.diagnostics),
  (Manifest.entryName, recorder.manifest.encode)]

end Recorder

namespace Recording

/-! ## Failing -/

/-- The container being written, if the recorder still records. -/
def bench
    (recording : Recording) :
    Except Failure Workbench :=
  match recording.recorder.writer with
  | .error failure => .error failure
  | .ok writer => .ok { files := recording.files, writer := writer }

/-- Carries on with a container to which something was written. -/
def withBench
    (recording : Recording)
    (bench : Workbench) :
    Recording where
  files := bench.files
  recorder := { recording.recorder with state := .recording bench.writer }

/-- Gives up the archive; a recorder that no longer records stays as it is. -/
def abort
    (recording : Recording)
    (failure : Failure) :
    Recording :=
  match recording.bench with
  | .error _ => recording
  | .ok bench =>
    { files := bench.abandon
      recorder := { recording.recorder with
        state := .aborted failure.message
        inputs := [] } }

/-- Fails; the archive is given up unless the failure concerns only an input. -/
def fail
    {α : Type}
    (recording : Recording)
    (failure : Failure) :
    Recording × Except Failure α :=
  if failure.isInvocationScoped then
    (recording, .error failure)
  else
    (recording.abort failure, .error failure)

/-- Notes why the invocation of a project is left out. -/
def report
    (recording : Recording)
    (projectPath : String)
    (failure : Failure) :
    Recording where
  files := recording.files
  recorder := { recording.recorder with
    diagnostics := recording.recorder.diagnostics ++ [.ofFailure projectPath failure] }

/-! ## Inputs -/

/-- Remembers what was read from a path. -/
def remember
    (recording : Recording)
    (path : String)
    (fingerprint : Fingerprint)
    (identity : InputIdentity) :
    Recording where
  files := recording.files
  recorder := { recording.recorder with
    inputs := (path, ⟨fingerprint, identity⟩) :: recording.recorder.inputs.filter fun input =>
      input.1 != path }

/-- The recording after its blob pool and its container have changed. -/
def withBlobs
    (recording : Recording)
    (blobs : BlobPool)
    (bench : Workbench) :
    Recording :=
  let recording := recording.withBench bench
  { recording with recorder := { recording.recorder with blobs } }

/-- The recording after its module pool and its container have changed. -/
def withModules
    (recording : Recording)
    (modules : ModulePool)
    (bench : Workbench) :
    Recording :=
  let recording := recording.withBench bench
  { recording with recorder := { recording.recorder with modules } }

variable [Zstd.Encoder]

/-- Stores the content of the file at a path, whatever is known of it. -/
def storeContent
    (recording : Recording)
    (path : String) :
    Recording × Except Failure ContentKey :=
  match recording.bench with
  | .error failure => recording.fail failure
  | .ok bench =>
    match recording.recorder.blobs.putFile bench path with
    | .error failure => recording.fail failure
    | .ok (key, blobs, bench) => (recording.withBlobs blobs bench, .ok key)

/-- Stores the module at a path, whatever is known of it. -/
def storeModule
    (recording : Recording)
    (path : String) :
    Recording × Except Failure ModuleInfo :=
  match recording.bench with
  | .error failure => recording.fail failure
  | .ok bench =>
    match recording.recorder.modules.putFile bench path with
    | .error failure => recording.fail failure
    | .ok (info, modules, bench) => (recording.withModules modules bench, .ok info)

/-- The key of the content of the file at a path, which is stored if need be. -/
def contentKey
    (recording : Recording)
    (path : String) :
    Recording × Except Failure ContentKey :=
  match recording.files.stat path with
  | .error fault => (recording, .error (.inputUnreadable path fault))
  | .ok fingerprint =>
    match recording.recorder.knownContent? path fingerprint with
    | some key => (recording, .ok key)
    | none =>
      match recording.storeContent path with
      | (recording, .error failure) => (recording, .error failure)
      | (recording, .ok key) => (recording.remember path fingerprint (.content key), .ok key)

/-- The description of the module at a path, which is stored if need be. -/
def moduleInfo
    (recording : Recording)
    (path : String) :
    Recording × Except Failure ModuleInfo :=
  match recording.files.stat path with
  | .error fault => (recording, .error (.inputUnreadable path fault))
  | .ok fingerprint =>
    match recording.recorder.knownModule? path fingerprint with
    | some info => (recording, .ok info)
    | none =>
      match recording.storeModule path with
      | (recording, .error failure) => (recording, .error failure)
      | (recording, .ok info) => (recording.remember path fingerprint (.module info), .ok info)

/-- Stores a text from memory and returns its key. -/
def storeText
    (recording : Recording)
    (data : Octets) :
    Recording × Except Failure ContentKey :=
  match recording.bench with
  | .error failure => recording.fail failure
  | .ok bench =>
    match recording.recorder.blobs.put bench data with
    | .error failure => recording.fail failure
    | .ok (key, blobs, bench) => (recording.withBlobs blobs bench, .ok key)

/-! ## Records -/

/-- Writes a record as the next of the archive and returns its index. -/
def storeRecord
    (recording : Recording)
    (record : InvocationRecord) :
    Recording × Except Failure Nat :=
  let index := recording.recorder.recordCount
  match recording.bench with
  | .error failure => recording.fail failure
  | .ok bench =>
    match bench.write (InvocationRecord.entryName index) record.encode with
    | .error failure => recording.fail failure
    | .ok bench =>
      let recording := recording.withBench bench
      ({ recording with recorder := { recording.recorder with recordCount := index + 1 } },
        .ok index)

/-! ## Sealing -/

/-- Adds several documents to a container. -/
def addDocuments
    (bench : Workbench) : List (String × Octets) → Except Failure Workbench
  | [] => .ok bench
  | (name, document) :: rest =>
    match bench.write name document with
    | .error failure => .error failure
    | .ok bench => addDocuments bench rest

/-- The recording after its container has been published at a path. -/
def settle
    (recording : Recording)
    (bench : Workbench) :
    Recording where
  files := bench.files
  recorder := { recording.recorder with
    state := .published bench.writer.path
    inputs := [] }

/-- What a recorder has put into the archive at a path. -/
def summary
    (recorder : Recorder)
    (path : String) :
    SealedArchive where
  path := path
  recordCount := recorder.recordCount
  blobCount := recorder.blobs.size
  moduleCount := recorder.modules.size
  diagnostics := recorder.diagnostics

/-- Completes and publishes the archive; any failure of that gives it up. -/
def finish
    (recording : Recording) :
    Recording × Except Failure SealedArchive :=
  match recording.bench with
  | .error failure => (recording, .error failure)
  | .ok bench =>
    match addDocuments bench recording.recorder.documents with
    | .error failure => (recording.abort failure, .error failure)
    | .ok bench =>
      match bench.finish with
      | (bench, .error failure) => ((recording.withBench bench).abort failure, .error failure)
      | (bench, .ok ()) =>
        (recording.settle bench, .ok (summary recording.recorder bench.writer.path))

/-- The file system after a recorder has been given up before its archive was published. -/
def abandon
    (recording : Recording) :
    FileSystem :=
  match recording.bench with
  | .error _ => recording.files
  | .ok bench => bench.abandon

end Recording

end BuildCapture
