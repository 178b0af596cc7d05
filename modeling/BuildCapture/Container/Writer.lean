import BuildCapture.Container.Draft
import BuildCapture.FileSystem

/-!
# Writing container files

While a container is being written, its octets are in a temporary file beside
the final path.  Sealing completes the file and moves it to the final path, so
whatever is found there is complete.  A writer that is abandoned, or that can
not publish its container, removes the temporary file.
-/

namespace BuildCapture.Container

/-- A container draft together with the temporary file that holds its octets. -/
structure Writer where
  path : String
  draft : Draft
  /-- The identity of the temporary file. -/
  identity : Nat
deriving DecidableEq, Repr

namespace Writer

/-- The way to the temporary file of the container with a path. -/
def temporaryRoute
    (path : String) :
    Route :=
  (Route.ofPath path).beside ".tmp"

/-- Removes the temporary file of the container with a path, if it is there. -/
def removeTemporary
    (files : FileSystem)
    (path : String) :
    FileSystem :=
  match files.removeFile (temporaryRoute path) with
  | .error _ => files
  | .ok files => files

end Writer

/-- A writer together with the file system it writes to. -/
structure Workbench where
  files : FileSystem
  writer : Writer
deriving DecidableEq, Repr

/-! ## Starting -/

/-- Starts a container whose directory is there already. -/
def Writer.createFile
    (files : FileSystem)
    (path : String)
    (config : WriterConfig) :
    FileSystem × Except Failure Writer :=
  let files := removeTemporary files path
  match files.createFile (temporaryRoute path) with
  | .error fault => (files, .error (.file fault))
  | .ok (identity, files) =>
    let draft := Draft.new config
    (files.writeAt identity 0 draft.image, .ok { path, draft, identity })

/-- Starts a container; directories above it are made as needed. -/
def Writer.create
    (files : FileSystem)
    (path : String)
    (config : WriterConfig) :
    FileSystem × Except Failure Writer :=
  match files.createDirectories (Route.ofPath path).parent with
  | (files, .error fault) => (files, .error (.file fault))
  | (files, .ok ()) => createFile files path config

namespace Workbench

/-! ## Adding octets -/

/-- Follows a draft that has grown: the new octets go into the temporary file. -/
def grow
    (bench : Workbench)
    (draft : Draft) :
    Workbench :=
  let length := bench.writer.draft.image.length
  { files := bench.files.writeAt bench.writer.identity length (draft.image.drop length)
    writer := { bench.writer with draft } }

/-- Follows a draft that has taken octets back: the temporary file is cut. -/
def shrink
    (bench : Workbench)
    (draft : Draft) :
    Workbench where
  files := bench.files.resize bench.writer.identity draft.image.length
  writer := { bench.writer with draft }

/-- Whether an entry has a name. -/
def contains
    (bench : Workbench)
    (name : String) :
    Bool :=
  bench.writer.draft.contains name

variable [Zstd.Encoder]

/-- Adds an entry with octets from memory. -/
def write
    (bench : Workbench)
    (name : String)
    (data : Octets) :
    Except Failure Workbench :=
  match bench.writer.draft.write name data with
  | .error failure => .error failure
  | .ok draft => .ok (bench.grow draft)

/-- Adds all octets of a source without a name. -/
def stream
    (bench : Workbench)
    (source : Source) :
    Except Failure (Pending × Workbench) :=
  match bench.writer.draft.stream source with
  | .error failure => .error failure
  | .ok (pending, draft) => .ok (pending, bench.grow draft)

/-- Takes the latest pending octets back. -/
def discard
    (bench : Workbench)
    (pending : Pending) :
    Except Failure Workbench :=
  match bench.writer.draft.discard pending with
  | .error failure => .error failure
  | .ok draft => .ok (bench.shrink draft)

/-- Gives the latest pending octets a name; if the name is taken, they are discarded. -/
def commit
    (bench : Workbench)
    (pending : Pending)
    (name : String) :
    Workbench × Except Failure Unit :=
  if bench.writer.draft.isLatest pending ∧ bench.contains name then
    match bench.discard pending with
    | .error failure => (bench, .error failure)
    | .ok shorter => (shorter, .error (.unsupported .duplicateEntry))
  else
    match bench.writer.draft.commit pending name with
    | (draft, outcome) => ({ bench with writer := { bench.writer with draft } }, outcome)

/-! ## Finishing -/

/-- Completes the temporary file and moves it to the final path. -/
def publish
    (bench : Workbench) :
    FileSystem × Except Failure Unit :=
  let writer := bench.writer
  if writer.draft.sealedImage.length > FileSystem.maximalFile then
    (Writer.removeTemporary bench.files writer.path, .error (.file .tooLarge))
  else
    let files := bench.files.writeAt writer.identity writer.draft.image.length writer.draft.ending
    match files.rename (Writer.temporaryRoute writer.path) (.ofPath writer.path) with
    | .error fault => (Writer.removeTemporary files writer.path, .error (.file fault))
    | .ok files => (files, .ok ())

/-- Finishes the container, which takes no more octets even if it can not be published. -/
def finish
    (bench : Workbench) :
    Workbench × Except Failure Unit :=
  if bench.writer.draft.isSealed then
    (bench, .error .alreadySealed)
  else
    match bench.publish with
    | (files, outcome) =>
      ({ files, writer := { bench.writer with draft := bench.writer.draft.sealed } }, outcome)

/-- The file system after a writer has been given up; an unfinished file goes. -/
def abandon
    (bench : Workbench) :
    FileSystem :=
  if bench.writer.draft.isSealed then
    bench.files
  else
    Writer.removeTemporary bench.files bench.writer.path

end Workbench

end BuildCapture.Container
