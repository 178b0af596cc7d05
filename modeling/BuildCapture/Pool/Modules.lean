import BuildCapture.Module.Image
import BuildCapture.Pool.Blobs

/-!
# The module pool

Modules are stored under the identity in their header.  Files at different
paths that carry one identity are stored once; modules with one name and
different identities are stored apart.  The pool finds modules by identity and
by name, and lists them in the order in which they were stored.
-/

namespace BuildCapture

open Container

/-- The modules stored so far, with an index by identity and one by name. -/
structure ModulePool where
  known : List (ModuleId × ModuleInfo) := []
  /-- The identities in the order in which they were stored. -/
  order : List ModuleId := []
  byName : List (String × List ModuleId) := []
deriving DecidableEq, Repr

namespace ModulePool

/-! ## Looking up -/

/-- The module with an identity. -/
def get?
    (pool : ModulePool)
    (id : ModuleId) :
    Option ModuleInfo :=
  List.lookup id pool.known

/-- Whether a module is stored. -/
def contains
    (pool : ModulePool)
    (id : ModuleId) :
    Bool :=
  (pool.get? id).isSome

/-- The identities of the modules with a simple name, in the order in which they were stored. -/
def idsNamed
    (pool : ModulePool)
    (name : String) :
    List ModuleId :=
  (List.lookup name pool.byName).getD []

/-- All modules in the order in which they were stored. -/
def infos
    (pool : ModulePool) :
    List ModuleInfo :=
  pool.order.filterMap pool.get?

/-- How many modules are stored. -/
def size
    (pool : ModulePool) :
    Nat :=
  pool.known.length

/-! ## Storing -/

/-- The index by name after a module got one more identity. -/
def addName
    (name : String)
    (id : ModuleId) : List (String × List ModuleId) → List (String × List ModuleId)
  | [] => [(name, [id])]
  | (other, ids) :: rest =>
    if other = name then
      (other, ids ++ [id]) :: rest
    else
      (other, ids) :: addName name id rest

/-- The pool with one more module. -/
def remember
    (pool : ModulePool)
    (info : ModuleInfo) :
    ModulePool where
  known := pool.known ++ [(info.id, info)]
  order := pool.order ++ [info.id]
  byName := addName info.name info.id pool.byName

variable [Zstd.Encoder]

/-- Stores a module whose image is in memory, unless its identity is stored already. -/
def putOctets
    (pool : ModulePool)
    (bench : Workbench)
    (image : Octets) :
    Except Failure (ModuleInfo × ModulePool × Workbench) :=
  match ModuleInfo.ofOctets image with
  | .error fault => .error (.unsupportedModule "" fault)
  | .ok info =>
    match pool.get? info.id with
    | some known => .ok (known, pool, bench)
    | none =>
      match bench.write info.id.entryName image with
      | .error failure => .error failure
      | .ok bench => .ok (info, pool.remember info, bench)

/-- Stores a module whose image a source yields, under the description that was read from it. -/
def putSource
    (pool : ModulePool)
    (bench : Workbench)
    (info : ModuleInfo)
    (source : Source) :
    Except Failure (ModuleInfo × ModulePool × Workbench) :=
  match bench.stream source with
  | .error failure => .error failure
  | .ok (pending, bench) =>
    match bench.commit pending info.id.entryName with
    | (_, .error failure) => .error failure
    | (bench, .ok ()) => .ok (info, pool.remember info, bench)

/-- Stores the module at a path, unless its identity is stored already. -/
def putFile
    (pool : ModulePool)
    (bench : Workbench)
    (path : String) :
    Except Failure (ModuleInfo × ModulePool × Workbench) :=
  match bench.files.openSource path with
  | .error fault => .error (.inputUnreadable path fault)
  | .ok source =>
    match ModuleInfo.ofSource source with
    | .error fault => .error (.unsupportedModule path fault)
    | .ok (info, _) =>
      match pool.get? info.id with
      | some known => .ok (known, pool, bench)
      | none =>
        match pool.putSource bench info source with
        | .error failure => .error (BlobPool.blame source path failure)
        | .ok stored => .ok stored

end ModulePool

end BuildCapture
