import BuildCapture.FileSystem.Route
import BuildCapture.Source

/-!
# File systems

A file system is a tree of directories and files, kept as a table from
locations to nodes.  A file has an identity, which it keeps when it is renamed
or given another content, and a stamp, which changes with every change of its
content.  It may also have a flaw, behind which it can not be read.  Every
operation either yields a new file system or says what is wrong with the path.
-/

namespace BuildCapture

/-- The names on the way from the root to a node. -/
abbrev Location := List String

/-- Where reading a file breaks off, and the fault that is met there. -/
structure Flaw where
  reach : Nat
  fault : FileFault
deriving DecidableEq, Repr

/-- What stands at a location. -/
inductive Node where
  | directory
  | file (identity stamp : Nat) (content : Octets) (flaw : Option Flaw := none)
deriving DecidableEq, Repr

/-- What tells one state of a file from another. -/
structure Fingerprint where
  identity : Nat
  stamp : Nat
  length : Nat
deriving DecidableEq, Repr

/-- The fingerprint of a node; directories have none of their own. -/
def Node.fingerprint : Node → Fingerprint
  | .directory => ⟨0, 0, 0⟩
  | .file identity stamp content _ => ⟨identity, stamp, content.length⟩

/-- What reading a node yields; a directory can be opened but not read. -/
def Node.source : Node → Source
  | .directory => { data := [], fault := some .isDirectory }
  | .file _ _ content none => .ofOctets content
  | .file _ _ content (some flaw) =>
    { data := content.take flaw.reach, fault := some flaw.fault }

/-- A file system with the directory that relative paths start from. -/
structure FileSystem where
  workingDirectory : Location
  nodes : List (Location × Node)
  /-- A number above every identity and stamp in use. -/
  clock : Nat
deriving DecidableEq, Repr

namespace FileSystem

/-! ## Locations -/

/-- What stands at a location; the root is always a directory. -/
def node?
    (files : FileSystem)
    (location : Location) :
    Option Node :=
  if location = [] then
    some .directory
  else
    List.lookup location files.nodes

/-- The table without a location. -/
def without
    (location : Location)
    (nodes : List (Location × Node)) :
    List (Location × Node) :=
  nodes.filter fun entry => entry.1 != location

/-- The file system with a node at a location. -/
def put
    (files : FileSystem)
    (location : Location)
    (node : Node) :
    FileSystem :=
  { files with nodes := (location, node) :: without location files.nodes }

/-- The file system with nothing at a location. -/
def erase
    (files : FileSystem)
    (location : Location) :
    FileSystem :=
  { files with nodes := without location files.nodes }

/-- The file system with nothing at or below a location. -/
def eraseTree
    (files : FileSystem)
    (location : Location) :
    FileSystem :=
  { files with nodes := files.nodes.filter fun entry => !location.isPrefixOf entry.1 }

/-- The names directly below a location. -/
def children
    (files : FileSystem)
    (location : Location) :
    List String :=
  files.nodes.filterMap fun entry =>
    if entry.1 ≠ [] ∧ entry.1.dropLast = location then entry.1.getLast? else none

/-! ## Ways -/

/-- The greatest length of a name, in octets. -/
def maximalName : Nat := 255

/-- Follows steps from a location; every location that is left has to be a directory. -/
def follow
    (files : FileSystem)
    (here : Location) : List Step → Except FileFault Location
  | [] => .ok here
  | step :: rest =>
    match files.node? here with
    | none => .error .notFound
    | some (.file _ _ _ _) => .error .notDirectory
    | some .directory =>
      match step with
      | .up => files.follow here.dropLast rest
      | .down name =>
        if name.utf8ByteSize > maximalName then
          .error .nameTooLong
        else
          files.follow (here ++ [name]) rest

/-- Whether a step has a name that no file can have. -/
def hasStrayNul : Step → Bool
  | .up => false
  | .down name => name.toList.contains '\x00'

/-- The location at the end of a route, whether or not anything stands there. -/
def locate
    (files : FileSystem)
    (route : Route) :
    Except FileFault Location :=
  if route.steps.any hasStrayNul then
    .error .strayNul
  else if route.isEmpty then
    .error .notFound
  else if route.isTooLong then
    .error .nameTooLong
  else
    files.follow (if route.isAbsolute then [] else files.workingDirectory) route.steps

/-- The node at the end of a route. -/
def find
    (files : FileSystem)
    (route : Route) :
    Except FileFault (Location × Node) :=
  match files.locate route with
  | .error fault => .error fault
  | .ok location =>
    match files.node? location with
    | none => .error .notFound
    | some .directory => .ok (location, .directory)
    | some (.file identity stamp content flaw) =>
      if route.endsInDirectory then .error .notDirectory
      else .ok (location, .file identity stamp content flaw)

/-- Whether a route leads to a directory. -/
def leadsToDirectory
    (files : FileSystem)
    (route : Route) :
    Bool :=
  match files.find route with
  | .ok (_, .directory) => true
  | _ => false

/-! ## Reading -/

/-- The fingerprint of what a path names. -/
def stat
    (files : FileSystem)
    (path : String) :
    Except FileFault Fingerprint :=
  (files.find (.ofPath path)).map fun found => found.2.fingerprint

/-- What reading from a path yields. -/
def openSource
    (files : FileSystem)
    (path : String) :
    Except FileFault Source :=
  (files.find (.ofPath path)).map fun found => found.2.source

/-- The content of the file at a path. -/
def read
    (files : FileSystem)
    (path : String) :
    Except FileFault Octets :=
  match files.openSource path with
  | .error fault => .error fault
  | .ok source => source.readAll

/-- The identity of the file at a path, if there is one. -/
def identity?
    (files : FileSystem)
    (path : String) :
    Option Nat :=
  match files.find (.ofPath path) with
  | .ok (_, .file identity _ _ _) => some identity
  | _ => none

/-- The names in the directory at a path, if there is one. -/
def names?
    (files : FileSystem)
    (path : String) :
    Option (List String) :=
  match files.find (.ofPath path) with
  | .ok (location, .directory) => some (files.children location)
  | _ => none

/-! ## Writing -/

/-- The greatest length of a file, in octets. -/
def maximalFile : Nat := Nat.pow 2 63 - 1

/-- Opens an empty file at the end of a route and returns its identity. -/
def createFile
    (files : FileSystem)
    (route : Route) :
    Except FileFault (Nat × FileSystem) :=
  match files.locate route with
  | .error fault => .error fault
  | .ok location =>
    match files.node? location with
    | some .directory => .error .isDirectory
    | some (.file identity _ _ _) =>
      if route.endsInDirectory then
        .error .notDirectory
      else
        .ok (identity, { files.put location (.file identity files.clock []) with
          clock := files.clock + 1 })
    | none =>
      if route.endsInDirectory then
        .error .isDirectory
      else
        .ok (files.clock, { files.put location (.file files.clock files.clock []) with
          clock := files.clock + 1 })

/-- Puts a new file at a location, in place of what stands there. -/
def placeFile
    (files : FileSystem)
    (location : Location)
    (content : Octets) :
    FileSystem :=
  { files.put location (.file files.clock files.clock content) with clock := files.clock + 1 }

/-- Changes the content of the file with an identity, wherever it stands. -/
def edit
    (files : FileSystem)
    (identity : Nat)
    (change : Octets → Octets) :
    FileSystem where
  workingDirectory := files.workingDirectory
  nodes := files.nodes.map fun
    | (location, .file other stamp content flaw) =>
      if other = identity then (location, .file other files.clock (change content) flaw)
      else (location, .file other stamp content flaw)
    | entry => entry
  clock := files.clock + 1

/-- A content cut or filled up with zeros to a length. -/
def resized
    (length : Nat)
    (content : Octets) :
    Octets :=
  content.take length ++ List.replicate (length - content.length) 0

/-- A content with octets written over it from an offset on. -/
def overwritten
    (offset : Nat)
    (data content : Octets) :
    Octets :=
  if data.isEmpty then
    content
  else
    resized offset content ++ data ++ content.drop (offset + data.length)

/-- Writes octets into the file with an identity, from an offset on. -/
def writeAt
    (files : FileSystem)
    (identity offset : Nat)
    (data : Octets) :
    FileSystem :=
  files.edit identity (overwritten offset data)

/-- Cuts or fills up the file with an identity. -/
def resize
    (files : FileSystem)
    (identity length : Nat) :
    FileSystem :=
  files.edit identity (resized length)

/-- Removes the file at the end of a route. -/
def removeFile
    (files : FileSystem)
    (route : Route) :
    Except FileFault FileSystem :=
  match files.find route with
  | .error fault => .error fault
  | .ok (_, .directory) => .error .isDirectory
  | .ok (location, .file _ _ _ _) => .ok (files.erase location)

/-- Moves a file to the end of another route, in place of a file that stands there. -/
def rename
    (files : FileSystem)
    (source target : Route) :
    Except FileFault FileSystem :=
  match files.find source, files.locate target with
  | .error fault, _ => .error fault
  | _, .error fault => .error fault
  | .ok (_, .directory), _ => .error .isDirectory
  | .ok (origin, .file identity stamp content flaw), .ok location =>
    if target.endsInDirectory then
      .error .notDirectory
    else
      match files.node? location with
      | some .directory => .error .isDirectory
      | _ => .ok ((files.erase origin).put location (.file identity stamp content flaw))

/-! ## Directories -/

/-- Makes a directory at the end of a route. -/
def createDirectory
    (files : FileSystem)
    (route : Route) :
    Except FileFault FileSystem :=
  match files.locate route with
  | .error fault => .error fault
  | .ok location =>
    match files.node? location with
    | some _ => .error .exists
    | none => .ok (files.put location .directory)

/-- What trying to make a directory leaves; a failure is none where the directory is there anyway. -/
def settleDirectory
    (files : FileSystem)
    (route : Route) :
    Except FileFault FileSystem → FileSystem × Except FileFault Unit
  | .ok changed => (changed, .ok ())
  | .error fault => (files, if files.leadsToDirectory route then .ok () else .error fault)

/--
Makes a directory and all missing ones above it, for a route of at most
`depth` steps; the directories may be there already.  Directories that were
made before a failure stay.
-/
def createDirectoriesFrom
    (files : FileSystem)
    (route : Route) :
    (depth : Nat) → FileSystem × Except FileFault Unit
  | 0 => files.settleDirectory route (files.createDirectory route)
  | depth + 1 =>
    match files.createDirectory route with
    | .error .notFound =>
      match files.createDirectoriesFrom route.parent depth with
      | (files, .error fault) => (files, .error fault)
      | (files, .ok ()) => files.settleDirectory route (files.createDirectory route)
    | outcome => files.settleDirectory route outcome

/-- Makes a directory and all missing ones above it. -/
def createDirectories
    (files : FileSystem)
    (route : Route) :
    FileSystem × Except FileFault Unit :=
  files.createDirectoriesFrom route route.steps.length

/-- Puts a new file at a path, in place of an old one; missing directories are made. -/
def replaceFile
    (files : FileSystem)
    (path : String)
    (content : Octets) :
    FileSystem × Except FileFault Unit :=
  match files.createDirectories (Route.ofPath path).parent with
  | (files, .error fault) => (files, .error fault)
  | (files, .ok ()) =>
    match files.locate (.ofPath path) with
    | .error fault => (files, .error fault)
    | .ok location => (files.placeFile location content, .ok ())

/-- The first name of the form `start` and a number that is free below a location. -/
def freshName
    (files : FileSystem)
    (location : Location)
    (start : String) :
    String :=
  let candidates := (List.range (files.nodes.length + 1)).map fun index =>
    start ++ toString (files.clock + index)
  (candidates.find? fun name => (files.node? (location ++ [name])).isNone).getD start

/-- Makes a directory with a new name below a location. -/
def createFresh
    (files : FileSystem)
    (location : Location)
    (start : String) :
    Location × FileSystem :=
  let location := location ++ [files.freshName location start]
  (location, { files.put location .directory with clock := files.clock + 1 })

end FileSystem

end BuildCapture
