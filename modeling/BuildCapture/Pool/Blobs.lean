import BuildCapture.Container.Writer
import BuildCapture.ContentKey

/-!
# The blob pool

Contents are stored under their keys, so equal octets are stored once wherever
they come from.  Contents from memory are only written if their key is new.
Contents from a source are written first, because their key is known only
afterwards, and are taken back if the key turns out to be stored already.
-/

namespace BuildCapture

open Container

/-- The contents stored so far: the key and the length of each. -/
structure BlobPool where
  known : List (ContentKey × Nat) := []
deriving DecidableEq, Repr

namespace BlobPool

/-- Whether a content is stored. -/
def contains
    (pool : BlobPool)
    (key : ContentKey) :
    Bool :=
  pool.known.any fun entry => entry.1 == key

/-- How many contents are stored. -/
def size
    (pool : BlobPool) :
    Nat :=
  pool.known.length

/-- How long all stored contents are together. -/
def totalLength
    (pool : BlobPool) :
    Nat :=
  pool.known.foldl (fun total entry => total + entry.2) 0

/-- The pool with one more content. -/
def remember
    (pool : BlobPool)
    (key : ContentKey)
    (length : Nat) :
    BlobPool where
  known := pool.known ++ [(key, length)]

variable [Zstd.Encoder]

/-- Stores octets from memory. -/
def put
    (pool : BlobPool)
    (bench : Workbench)
    (data : Octets) :
    Except Failure (ContentKey × BlobPool × Workbench) :=
  let key := ContentKey.of data
  if pool.contains key then
    .ok (key, pool, bench)
  else
    match bench.write key.entryName data with
    | .error failure => .error failure
    | .ok bench => .ok (key, pool.remember key data.length, bench)

/-- Stores all octets of a source. -/
def putSource
    (pool : BlobPool)
    (bench : Workbench)
    (source : Source) :
    Except Failure (ContentKey × BlobPool × Workbench) :=
  match bench.stream source with
  | .error failure => .error failure
  | .ok (pending, bench) =>
    let key : ContentKey := ⟨pending.digest⟩
    if pool.contains key then
      match bench.discard pending with
      | .error failure => .error failure
      | .ok bench => .ok (key, pool, bench)
    else
      match bench.commit pending key.entryName with
      | (_, .error failure) => .error failure
      | (bench, .ok ()) => .ok (key, pool.remember key pending.rawLength, bench)

/-- Blames a fault of the input on the path it was read from. -/
def blame
    (source : Source)
    (path : String)
    (failure : Failure) :
    Failure :=
  match failure, source.fault with
  | .file fault, some _ => .inputUnreadable path fault
  | other, _ => other

/-- Stores the content of the file at a path. -/
def putFile
    (pool : BlobPool)
    (bench : Workbench)
    (path : String) :
    Except Failure (ContentKey × BlobPool × Workbench) :=
  match bench.files.openSource path with
  | .error fault => .error (.inputUnreadable path fault)
  | .ok source =>
    match pool.putSource bench source with
    | .error failure => .error (blame source path failure)
    | .ok stored => .ok stored

end BlobPool

end BuildCapture
