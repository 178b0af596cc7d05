import BuildCapture.Failure
import BuildCapture.FileSystem
import BuildCapture.Module.Info
import BuildCapture.SourcePath

/-!
# Configuration

Settings for capturing, reading and replaying.  Every field has a default, so
a configuration document only has to mention what it changes.
-/

namespace BuildCapture

open Json

/-! ## Writing -/

/-- How container entries are compressed. -/
structure CompressionConfig where
  enabled : Bool := true
  level : Int := 3
  /-- Entries from memory that are shorter than this are stored as they are. -/
  minimalSize : UInt64 := 512
deriving DecidableEq, Repr

namespace CompressionConfig

/-- The settings as a tree. -/
def toTree
    (config : CompressionConfig) :
    Tree :=
  .ofFields [
    ("enabled", .bool config.enabled),
    ("level", .ofInt config.level),
    ("min_size", .ofNat config.minimalSize.toNat)]

/-- The settings a tree holds. -/
def ofTree?
    (tree : Tree) :
    Option CompressionConfig := do
  let fields ← tree.fields? ["enabled", "level", "min_size"]
  return {
    enabled := ← fields.defaulted "enabled" Tree.bool? true
    level := ← fields.defaulted "level" (Tree.integer? (Octets.bound 4 / 2)) 3
    minimalSize := ← fields.defaulted "min_size" Tree.uint64? 512 }

end CompressionConfig

/-- How archives are written. -/
structure WriterConfig where
  compression : CompressionConfig := {}
  pathStyle : PathStyle := .unix
deriving DecidableEq, Repr

namespace WriterConfig

/-- The settings as a tree. -/
def toTree
    (config : WriterConfig) :
    Tree :=
  .ofFields [
    ("compression", config.compression.toTree),
    ("path_style", .ofText config.pathStyle.name)]

/-- The settings a tree holds. -/
def ofTree?
    (tree : Tree) :
    Option WriterConfig := do
  let fields ← tree.fields? ["compression", "path_style"]
  return {
    compression := ← fields.defaulted "compression" CompressionConfig.ofTree? {}
    pathStyle := ← fields.defaulted "path_style" (Tree.choice? PathStyle.named) .unix }

end WriterConfig

/-! ## Reading -/

/-- How archives are read. -/
structure ReaderConfig where
  verifyChecksums : Bool := true
deriving DecidableEq, Repr

namespace ReaderConfig

/-- The settings as a tree. -/
def toTree
    (config : ReaderConfig) :
    Tree :=
  .ofFields [("verify_checksums", .bool config.verifyChecksums)]

/-- The settings a tree holds. -/
def ofTree?
    (tree : Tree) :
    Option ReaderConfig := do
  let fields ← tree.fields? ["verify_checksums"]
  return { verifyChecksums := ← fields.defaulted "verify_checksums" Tree.bool? true }

end ReaderConfig

/-! ## Loading extensions -/

/-- How the extensions of a record are made available to a replay. -/
inductive LoaderKind where
  /-- Nothing is run; captured generator output stands in. -/
  | none
  /-- Modules become files of a private directory. -/
  | onDisk
  /-- Modules are held in memory. -/
  | inMemory
deriving DecidableEq, Repr

namespace LoaderKind

/-- The name of a loader kind. -/
def name : LoaderKind → String
  | .none => "none"
  | .onDisk => "on-disk"
  | .inMemory => "in-memory"

/-- Every loader kind by its stored name. -/
def named : List (String × LoaderKind) :=
  [("none", .none), ("on-disk", .onDisk), ("in-memory", .inMemory)]

/-- The lower-case form of an ASCII letter; any other character stays. -/
def lower
    (symbol : Char) :
    Char :=
  if 'A' ≤ symbol ∧ symbol ≤ 'Z' then Char.ofNat (symbol.toNat + 32) else symbol

/-- The kind a text names, in any case of ASCII letters and with or without the hyphen. -/
def parse
    (text : String) :
    Except Malformation LoaderKind :=
  let spelling := String.ofList (text.toList.map lower)
  if spelling = "none" then .ok .none
  else if spelling = "on-disk" ∨ spelling = "ondisk" then .ok .onDisk
  else if spelling = "in-memory" ∨ spelling = "inmemory" then .ok .inMemory
  else .error (.loaderKind text)

end LoaderKind

/-- The modules a host toolchain provides, each simple name with its version, in name order. -/
structure HostModules where
  entries : List (String × ModuleVersion) := []
deriving DecidableEq, Repr

namespace HostModules

/-- The entries after a name got a version. -/
def put
    (name : String)
    (version : ModuleVersion) : List (String × ModuleVersion) → List (String × ModuleVersion)
  | [] => [(name, version)]
  | (other, known) :: rest =>
    if other = name then
      (name, version) :: rest
    else if Octets.textBefore name other then
      (name, version) :: (other, known) :: rest
    else
      (other, known) :: put name version rest

/-- Provides a module, in place of an earlier one of the same name. -/
def insert
    (host : HostModules)
    (name : String)
    (version : ModuleVersion) :
    HostModules where
  entries := put name version host.entries

/-- The version that the host provides of a module. -/
def get?
    (host : HostModules)
    (name : String) :
    Option ModuleVersion :=
  List.lookup name host.entries

/-- How many modules the host provides. -/
def size
    (host : HostModules) :
    Nat :=
  host.entries.length

/-- Whether the host provides no modules. -/
def isEmpty
    (host : HostModules) :
    Bool :=
  host.entries.isEmpty

/-- The host set that results from providing modules one after the other. -/
def ofList
    (modules : List (String × ModuleVersion)) :
    HostModules :=
  modules.foldl (fun host entry => host.insert entry.1 entry.2) {}

/-- A host set as an object from names to versions. -/
def toTree
    (host : HostModules) :
    Tree :=
  .ofFields (host.entries.map fun entry => (entry.1, entry.2.toTree))

/-- The host module that a member of an object names. -/
def ofMember?
    (member : Octets × Tree) :
    Option (String × ModuleVersion) := do
  return (← Octets.text? member.1, ← ModuleVersion.ofTree? member.2)

/-- The host set that an object gives; the last member of a name counts. -/
def ofTree? : Tree → Option HostModules
  | .object members => (members.mapM ofMember?).map ofList
  | _ => none

end HostModules

/-- How the extensions of a record are loaded. -/
structure LoaderConfig where
  kind : LoaderKind := .inMemory
  /-- The parent of session directories; the system's temporary directory where missing. -/
  temporaryRoot : Option String := none
  host : HostModules := {}
deriving DecidableEq, Repr

namespace LoaderConfig

/-- The settings as a tree. -/
def toTree
    (config : LoaderConfig) :
    Tree :=
  .ofFields [
    ("kind", .ofText config.kind.name),
    ("temp_root", .ofOption .ofText config.temporaryRoot),
    ("host", config.host.toTree)]

/-- The settings a tree holds. -/
def ofTree?
    (tree : Tree) :
    Option LoaderConfig := do
  let fields ← tree.fields? ["kind", "temp_root", "host"]
  return {
    kind := ← fields.defaulted "kind" (Tree.choice? LoaderKind.named) .inMemory
    temporaryRoot := ← fields.defaulted "temp_root" (Tree.option? Tree.text?) none
    host := ← fields.defaulted "host" HostModules.ofTree? {} }

end LoaderConfig

/-! ## Replaying -/

/-- How invocations are replayed. -/
structure ReplayConfig where
  workers : UInt64 := 1
  loader : LoaderConfig := {}
deriving DecidableEq, Repr

namespace ReplayConfig

/-- The settings as a tree. -/
def toTree
    (config : ReplayConfig) :
    Tree :=
  .ofFields [("workers", .ofNat config.workers.toNat), ("loader", config.loader.toTree)]

/-- The settings a tree holds. -/
def ofTree?
    (tree : Tree) :
    Option ReplayConfig := do
  let fields ← tree.fields? ["workers", "loader"]
  return {
    workers := ← fields.defaulted "workers" Tree.uint64? 1
    loader := ← fields.defaulted "loader" LoaderConfig.ofTree? {} }

end ReplayConfig

/-! ## Everything -/

/-- All settings. -/
structure CaptureConfig where
  writer : WriterConfig := {}
  reader : ReaderConfig := {}
  replay : ReplayConfig := {}
deriving DecidableEq, Repr

namespace CaptureConfig

/-- The settings as a tree. -/
def toTree
    (config : CaptureConfig) :
    Tree :=
  .ofFields [
    ("writer", config.writer.toTree),
    ("reader", config.reader.toTree),
    ("replay", config.replay.toTree)]

/-- The settings a tree holds. -/
def ofTree?
    (tree : Tree) :
    Option CaptureConfig := do
  let fields ← tree.fields? ["writer", "reader", "replay"]
  return {
    writer := ← fields.defaulted "writer" WriterConfig.ofTree? {}
    reader := ← fields.defaulted "reader" ReaderConfig.ofTree? {}
    replay := ← fields.defaulted "replay" ReplayConfig.ofTree? {} }

/-- The settings that a document gives. -/
def decode
    (data : Octets) :
    Except Failure CaptureConfig :=
  match (Tree.read? data).bind ofTree? with
  | none => .error .codec
  | some config => .ok config

/-- The settings that the file at a path gives. -/
def load
    (files : FileSystem)
    (path : String) :
    Except Failure CaptureConfig :=
  match files.read path with
  | .error fault => .error (.file fault)
  | .ok data => decode data

end CaptureConfig

end BuildCapture
