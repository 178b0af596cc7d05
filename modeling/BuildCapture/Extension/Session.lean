import BuildCapture.Extension.Plan

/-!
# Sessions

A session makes the extensions of one record available to a replay.  It either
runs nothing and stands in for all generators with their captured output, or
it loads the modules of the record: into memory, or into files of a private
directory.  Sessions share nothing, so disposing of one never affects another.
-/

namespace BuildCapture

/-! ## What a session offers -/

/-- A source text that a generator produced when the invocation was captured. -/
structure GeneratedFile where
  path : String
  text : Octets
deriving DecidableEq, Repr

/-- What the stand-in for all generators produces. -/
inductive GeneratedOutcome where
  /-- Generator output was never recorded. -/
  | notCaptured
  /-- The recorded output, in stored order. -/
  | captured (generated : List GeneratedFile)
deriving DecidableEq, Repr

namespace GeneratedOutcome

/-- Whether generator output was recorded. -/
def isCaptured : GeneratedOutcome → Bool
  | .notCaptured => false
  | .captured _ => true

/-- The recorded texts. -/
def generated : GeneratedOutcome → List GeneratedFile
  | .notCaptured => []
  | .captured generated => generated

end GeneratedOutcome

/-- Where the image of a loaded module is. -/
inductive ModuleLocation where
  /-- The host has its own copy in this version. -/
  | host (version : ModuleVersion)
  | memory (image : Octets)
  /-- A file below the directory of the session. -/
  | file (directory : Location) (below : List String)
deriving DecidableEq, Repr

/-- Where an extension comes from. -/
inductive ExtensionOrigin where
  | synthetic (outcome : GeneratedOutcome)
  | module (id : ModuleId) (name : String) (location : ModuleLocation)
deriving DecidableEq, Repr

/-- An analyzer or generator that a session offers. -/
structure ExtensionHandle where
  typeName : String
  kind : ExtensionKind
  origin : ExtensionOrigin
deriving DecidableEq, Repr

/-- What a session has loaded. -/
inductive SessionContent where
  /-- The captured output of the generators for a language. -/
  | output (language : Language) (outcome : GeneratedOutcome)
  | modules (loaded : List (ModuleInfo × ModuleLocation))
deriving DecidableEq, Repr

/-- The extensions of one record, available until the session is disposed of. -/
structure Session where
  kind : LoaderKind
  /-- Missing once the session has been disposed of. -/
  content : Option SessionContent
  /-- The private directory of the session. -/
  directory : Option Location := none
deriving DecidableEq, Repr

/-- The type name of the stand-in for all generators. -/
def syntheticGenerator : String := "complog.CapturedOutputGenerator"

/-! ## Enumerating -/

/-- The extensions of a kind for a language that a loaded module exports. -/
def ModuleInfo.handles
    (info : ModuleInfo)
    (location : ModuleLocation)
    (kind : ExtensionKind)
    (language : Language) :
    List ExtensionHandle :=
  (info.extensions kind language).map fun type =>
    { typeName := type.typeName
      kind := kind
      origin := .module info.id info.name location }

namespace SessionContent

/-- The extensions of a kind for a language. -/
def handles
    (content : SessionContent)
    (kind : ExtensionKind)
    (language : Language) :
    List ExtensionHandle :=
  match content with
  | .output captured outcome =>
    if kind = .generator ∧ language = captured then
      [{ typeName := syntheticGenerator, kind := .generator, origin := .synthetic outcome }]
    else
      []
  | .modules loaded => loaded.flatMap fun (info, location) => info.handles location kind language

end SessionContent

namespace Session

/-- The extensions of a kind for a language; none once the session has been disposed of. -/
def handles
    (session : Session)
    (kind : ExtensionKind)
    (language : Language) :
    List ExtensionHandle :=
  match session.content with
  | none => []
  | some content => content.handles kind language

/-- Whether the session has been disposed of. -/
def isDisposed
    (session : Session) :
    Bool :=
  session.content.isNone

/-! ## Captured output -/

/-- The recorded texts with their octets. -/
def readGenerated
    (archive : Archive) : List GeneratedEntry → Except Failure (List GeneratedFile)
  | [] => .ok []
  | entry :: rest =>
    match archive.blob entry.key with
    | .error failure => .error failure
    | .ok text =>
      match readGenerated archive rest with
      | .error failure => .error failure
      | .ok others => .ok ({ path := entry.path, text } :: others)

/-- The captured generator output of a record. -/
def readOutcome
    (archive : Archive)
    (record : InvocationRecord) :
    Except Failure GeneratedOutcome :=
  match record.generated with
  | none => .ok .notCaptured
  | some entries => (readGenerated archive entries).map .captured

/-- A session that runs nothing. -/
def ofOutput
    (archive : Archive)
    (record : InvocationRecord) :
    Except Failure Session :=
  match readOutcome archive record with
  | .error failure => .error failure
  | .ok outcome => .ok { kind := .none, content := some (.output record.language outcome) }

/-! ## Modules in memory -/

/-- Loads planned modules into memory. -/
def loadMemory
    (archive : Archive) :
    List PlannedModule → Except Failure (List (ModuleInfo × ModuleLocation))
  | [] => .ok []
  | planned :: rest =>
    let location : Except Failure ModuleLocation :=
      match planned.host with
      | some version => .ok (.host version)
      | none => (archive.module planned.info.id).map .memory
    match location with
    | .error failure => .error failure
    | .ok location =>
      match loadMemory archive rest with
      | .error failure => .error failure
      | .ok others => .ok ((planned.info, location) :: others)

/-- A session with its modules in memory. -/
def inMemory
    (archive : Archive)
    (record : InvocationRecord)
    (host : HostModules) :
    Except Failure Session :=
  match archive.plan record host with
  | .error failure => .error failure
  | .ok plan =>
    match loadMemory archive plan with
    | .error failure => .error failure
    | .ok loaded => .ok { kind := .inMemory, content := some (.modules loaded) }

/-! ## Modules in files -/

/-- Whether a character can not be part of a file name on every system. -/
def isForeignToNames
    (symbol : Char) :
    Bool :=
  symbol == '/' || symbol == '\\' || symbol == ':' || symbol == '\x00'

/-- The name of a module's file: its own name where that is one plain component, or its identity. -/
def fileName
    (info : ModuleInfo) :
    String :=
  let isPlain := info.name ≠ "" ∧ info.name ≠ "." ∧ info.name ≠ ".." ∧
    !info.name.toList.any isForeignToNames
  (if isPlain then info.name else info.id.hex) ++ ".dll"

/-- Writes the image of a module below the directory of a session. -/
def materialize
    (files : FileSystem)
    (archive : Archive)
    (directory : Location)
    (info : ModuleInfo) :
    Except Failure (FileSystem × ModuleLocation) :=
  let below := [info.id.hex, fileName info]
  match archive.openModule info.id with
  | .error failure => .error failure
  | .ok source =>
    if (fileName info).utf8ByteSize > FileSystem.maximalName then
      .error (.file .nameTooLong)
    else
      match source.readAll with
      | .error fault => .error (.file fault)
      | .ok image =>
        let files := files.put (directory ++ [info.id.hex]) .directory
        .ok (files.placeFile (directory ++ below) image, .file directory below)

/-- Loads planned modules into files below the directory of a session. -/
def loadFiles
    (archive : Archive)
    (directory : Location)
    (files : FileSystem) :
    List PlannedModule → Except Failure (FileSystem × List (ModuleInfo × ModuleLocation))
  | [] => .ok (files, [])
  | planned :: rest =>
    let placed : Except Failure (FileSystem × ModuleLocation) :=
      match planned.host with
      | some version => .ok (files, .host version)
      | none => materialize files archive directory planned.info
    match placed with
    | .error failure => .error failure
    | .ok (files, location) =>
      match loadFiles archive directory files rest with
      | .error failure => .error failure
      | .ok (files, others) => .ok (files, (planned.info, location) :: others)

/-- What the names of session directories start with. -/
def directoryStart : String := "complog-"

/-- The system's directory for temporary files. -/
def systemTemporary : Location := ["tmp"]

/-- Makes the private directory of a session, and all missing ones above it. -/
def createDirectory
    (files : FileSystem)
    (root : Option String) :
    FileSystem × Except Failure Location :=
  match root with
  | none =>
    let (location, files) := files.createFresh systemTemporary directoryStart
    (files, .ok location)
  | some path =>
    let route := { Route.ofPath path with isEmpty := false }
    match files.createDirectories route with
    | (files, .error fault) => (files, .error (.file fault))
    | (files, .ok ()) =>
      match files.locate route with
      | .error fault => (files, .error (.file fault))
      | .ok parent =>
        let (location, files) := files.createFresh parent directoryStart
        (files, .ok location)

/-- A session with its modules in files; its directory goes again if loading fails. -/
def onDisk
    (files : FileSystem)
    (archive : Archive)
    (record : InvocationRecord)
    (config : LoaderConfig) :
    FileSystem × Except Failure Session :=
  match archive.plan record config.host with
  | .error failure => (files, .error failure)
  | .ok plan =>
    match createDirectory files config.temporaryRoot with
    | (files, .error failure) => (files, .error failure)
    | (files, .ok directory) =>
      match loadFiles archive directory files plan with
      | .error failure => (files.eraseTree directory, .error failure)
      | .ok (files, loaded) =>
        (files, .ok {
          kind := .onDisk
          content := some (.modules loaded)
          directory := some directory })

/-! ## Opening and disposing -/

/-- Opens the session that a configuration asks for. -/
def create
    (files : FileSystem)
    (archive : Archive)
    (record : InvocationRecord)
    (config : LoaderConfig) :
    FileSystem × Except Failure Session :=
  match config.kind with
  | .none => (files, ofOutput archive record)
  | .inMemory => (files, inMemory archive record config.host)
  | .onDisk => onDisk files archive record config

/-- Gives up everything a session holds; doing so again changes nothing. -/
def dispose
    (session : Session)
    (files : FileSystem) :
    FileSystem × Session :=
  (session.directory.elim files files.eraseTree,
    { session with content := none, directory := none })

end Session

end BuildCapture
