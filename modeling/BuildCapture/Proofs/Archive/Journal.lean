import BuildCapture.Archive
import BuildCapture.Archive.Capture
import BuildCapture.Proofs.Archive.Operations
import BuildCapture.Proofs.FileSystem.Ageing

/-!
# Runs of a recorder

A transcript is an invocation that is being recorded together with what was
called on it and what the file of each input showed at that moment.  A journal
remembers, for a whole run, the invocations that were committed, all inputs that
were stored and all files that were read for them.  A file that was read last
with the fingerprint that it has now is not read again: what is taken of it is
what it showed then, whatever it holds now.

`Reaches` says which stages a recorder can get to: invocations are begun, called
upon, committed or dropped one after the other, and between any two of these
operations the file system may change: input files may be written, replaced and
removed, with or without getting another fingerprint, and only the temporary file
of the recorder is left alone.
-/

namespace BuildCapture

/-! ## Looking at inputs -/

/-- What a path shows: what tells the state of the file there, and what reading it yields. -/
structure Sight where
  fingerprint : Fingerprint
  source : Source
deriving DecidableEq, Repr

/-- What a path shows now. -/
def FileSystem.look
    (files : FileSystem)
    (path : String) :
    Except FileFault Sight :=
  (files.find (.ofPath path)).map fun found => ⟨found.2.fingerprint, found.2.source⟩

/-- The fingerprint of what a path names is the one that it shows. -/
theorem FileSystem.stat_eq
    (files : FileSystem)
    (path : String) :
    files.stat path = (files.look path).map Sight.fingerprint := by
  rw [stat, look]
  cases files.find (.ofPath path) <;> rfl

/-- Reading from a path yields what it shows. -/
theorem FileSystem.openSource_eq
    (files : FileSystem)
    (path : String) :
    files.openSource path = (files.look path).map Sight.source := by
  rw [openSource, look]
  cases files.find (.ofPath path) <;> rfl

/-! ## Calls -/

/-- What can be called on an invocation that is being recorded. -/
inductive Call where
  | content (path : String) (kind : ContentKind)
  | resource (path name : String) (isPublic : Bool)
  | reference (path : String) (kind : ReferenceKind) (embedInteropTypes : Bool)
      (aliases : List String)
  | analyzer (path : String)
  | generatedFile (path : String)
  | generatedText (path : String) (data : Octets)
  | markGenerated
  | setOptions (options : OptionsBundle)
  | setTargetFramework (targetFramework : String)
  | setOutputName (outputName : String)
  | setWorkingDirectory (workingDirectory : String)
  | setArguments (arguments : List String)
deriving DecidableEq, Repr

/-- The pool that an input goes to. -/
inductive InputPool where
  | blobs
  | modules
deriving DecidableEq, Repr

namespace Call

/-- The pool that the input of a call goes to, if it has one. -/
def pool? : Call → Option InputPool
  | .content _ _ | .resource _ _ _ | .generatedFile _ | .generatedText _ _ => some .blobs
  | .reference _ _ _ _ | .analyzer _ => some .modules
  | _ => none

/-- The file whose octets are the input of a call, if there is one. -/
def path? : Call → Option String
  | .content path _ | .resource path _ _ | .reference path _ _ _ | .analyzer path
  | .generatedFile path => some path
  | _ => none

/-- Carries a call out. -/
def apply
    [Zstd.Encoder]
    (invocation : Invocation) : Call → Invocation
  | .content path kind => invocation.addContent path kind
  | .resource path name isPublic => invocation.addResource path name isPublic
  | .reference path kind embedInteropTypes aliases =>
    invocation.addReference path kind embedInteropTypes aliases
  | .analyzer path => invocation.addAnalyzer path
  | .generatedFile path => invocation.addGeneratedFile path
  | .generatedText path data => invocation.addGeneratedText path data
  | .markGenerated => invocation.markGenerated
  | .setOptions options => invocation.setOptions options
  | .setTargetFramework targetFramework => invocation.setTargetFramework targetFramework
  | .setOutputName outputName => invocation.setOutputName outputName
  | .setWorkingDirectory workingDirectory => invocation.setWorkingDirectory workingDirectory
  | .setArguments arguments => invocation.setArguments arguments

end Call

/-- The identity of the module that an image is. -/
def ModuleId.ofImage?
    (image : Octets) :
    Option ModuleId :=
  (ModuleInfo.ofOctets image).toOption.map ModuleInfo.id

theorem ModuleId.ofImage?_of_described
    {image : Octets}
    {info : ModuleInfo}
    (described : ModuleInfo.ofOctets image = .ok info) :
    ofImage? image = some info.id := by
  rw [ofImage?, described]
  rfl

/-- What a successful call adds to a record, given the octets that are taken for its input. -/
def Call.note
    (call : Call)
    (data : Octets)
    (record : InvocationRecord) :
    InvocationRecord :=
  let key := ContentKey.of data
  match call with
  | .content path kind => { record with contents := record.contents ++ [{ kind, key, path }] }
  | .resource path name isPublic =>
    { record with
      resources := record.resources ++ [{ key, name, fileName := Route.fileName? path, isPublic }] }
  | .reference path kind embedInteropTypes aliases =>
    { record with
      references := record.references ++ (ModuleId.ofImage? data).toList.map fun module =>
        { module, kind, embedInteropTypes, aliases, path } }
  | .analyzer path =>
    { record with
      analyzers := record.analyzers ++ (ModuleId.ofImage? data).toList.map fun module =>
        { module, path } }
  | .generatedFile path | .generatedText path _ =>
    { record with generated := some (record.generated.getD [] ++ [{ key, path }]) }
  | .markGenerated => { record with generated := some (record.generated.getD []) }
  | .setOptions options => { record with options }
  | .setTargetFramework targetFramework => { record with targetFramework := some targetFramework }
  | .setOutputName outputName => { record with outputName := some outputName }
  | .setWorkingDirectory workingDirectory =>
    { record with workingDirectory := some workingDirectory }
  | .setArguments arguments => { record with arguments }

/-! ## Deeds -/

/-- A file that was read for a pool, as it was seen then. -/
structure Reading where
  pool : InputPool
  sight : Sight
deriving DecidableEq, Repr

/-- A call, and what there was to go by. -/
structure Deed where
  call : Call
  /-- What the file of the input showed, if the input is one. -/
  sight? : Option (Except FileFault Sight) := none
  /-- The reading of that file that is trusted to be still right. -/
  recalled? : Option Reading := none
  /-- Whether a module with the identity that is seen was stored before. -/
  isStored : Bool := false
deriving DecidableEq, Repr

namespace Deed

/-- The octets of the input, as far as they could be read at that moment. -/
def present
    (deed : Deed) :
    Octets :=
  match deed.call, deed.sight? with
  | .generatedText _ data, _ => data
  | _, some (.ok sight) => sight.source.data
  | _, _ => []

/-- The octets that are taken for the input. -/
def data
    (deed : Deed) :
    Octets :=
  match deed.recalled? with
  | some reading => reading.sight.source.data
  | none => deed.present

/-- The identity of the module that is taken for the input. -/
def moduleId?
    (deed : Deed) :
    Option ModuleId :=
  ModuleId.ofImage? deed.data

/-- What a deed adds to a record. -/
def note
    (record : InvocationRecord)
    (deed : Deed) :
    InvocationRecord :=
  deed.call.note deed.data record

/-- What a deed reads from its file, unless it recalls it. -/
def reading?
    (deed : Deed) :
    Option (String × Reading) :=
  match deed.recalled?, deed.call.path?, deed.call.pool?, deed.sight? with
  | none, some path, some pool, some (.ok sight) => some (path, ⟨pool, sight⟩)
  | _, _, _, _ => none

end Deed

/-! ## Journals -/

/-- What an invocation is begun with. -/
structure Heading where
  projectPath : String
  language : Language
  kind : InvocationKind
deriving DecidableEq, Repr

/-- The record of an invocation on which nothing has been called. -/
def Heading.record
    (heading : Heading) :
    InvocationRecord where
  projectPath := heading.projectPath
  language := heading.language
  kind := heading.kind

/-- An invocation that was committed: how it came about and what its record was then. -/
structure Committed where
  heading : Heading
  deeds : List Deed
  record : InvocationRecord
deriving DecidableEq, Repr

/-- What has happened in a run so far. -/
structure Journal where
  /-- The invocations that were committed, in order. -/
  committed : List Committed := []
  /-- All contents that were added, whatever became of their invocation. -/
  contents : List Octets := []
  /-- All modules that were added, whatever became of their invocation. -/
  images : List (ModuleId × Octets) := []
  /-- What was read from each path, the latest first. -/
  readings : List (String × Reading) := []
deriving DecidableEq, Repr

namespace Journal

/-- The latest reading of a path, if it was for this pool and the fingerprint is the same. -/
def recalled?
    (journal : Journal)
    (path : String)
    (pool : InputPool)
    (fingerprint : Fingerprint) :
    Option Reading :=
  (List.lookup path journal.readings).filter fun reading =>
    reading.pool == pool && reading.sight.fingerprint == fingerprint

/-- Whether a module with the identity in an image was stored. -/
def hasStored
    (journal : Journal)
    (image : Octets) :
    Bool :=
  (ModuleId.ofImage? image).any fun id => (List.lookup id journal.images).isSome

/-- The journal after the input of a call was stored. -/
def observe
    (journal : Journal)
    (deed : Deed) :
    Journal :=
  let readings := deed.reading?.toList ++ journal.readings
  match deed.call.pool? with
  | none => journal
  | some .blobs => { journal with contents := journal.contents ++ [deed.data], readings }
  | some .modules =>
    { journal with
      images := journal.images ++ deed.moduleId?.toList.map fun id => (id, deed.data)
      readings }

end Journal

/-- What a call amounts to, given what was read before. -/
def Call.deed
    (call : Call)
    (files : FileSystem)
    (journal : Journal) :
    Deed :=
  match call.path?, call.pool? with
  | some path, some pool =>
    let sight? := (files.look path).toOption
    { call
      sight? := some (files.look path)
      recalled? := sight?.bind fun sight => journal.recalled? path pool sight.fingerprint
      isStored := pool == .modules && sight?.any fun sight => journal.hasStored sight.source.data }
  | _, _ => { call }

/-! ## Transcripts -/

/-- An invocation that is being recorded, with what was called on it and the journal of the run. -/
structure Transcript where
  invocation : Invocation
  heading : Heading
  deeds : List Deed := []
  journal : Journal
deriving DecidableEq, Repr

variable [Zstd.Encoder]

namespace Transcript

/-- The first invocation of a run, before anything is called on it. -/
def start
    (recording : Recording)
    (heading : Heading) :
    Transcript where
  invocation := { recording, record := heading.record }
  heading := heading
  journal := {}

/-- What a call amounts to now. -/
def deed
    (transcript : Transcript)
    (call : Call) :
    Deed :=
  call.deed transcript.invocation.recording.files transcript.journal

/-- The transcript after a call; inputs of a failed invocation are not stored. -/
def call
    (transcript : Transcript)
    (call : Call) :
    Transcript :=
  let invocation := call.apply transcript.invocation
  { transcript with
    invocation := invocation
    deeds := transcript.deeds ++ [transcript.deed call]
    journal :=
      if invocation.hasFailed then transcript.journal
      else transcript.journal.observe (transcript.deed call) }

/-- Commits the invocation. -/
def commit
    (transcript : Transcript) :
    Recording × Journal :=
  match transcript.invocation.commit with
  | (recording, .error _) => (recording, transcript.journal)
  | (recording, .ok _) =>
    (recording, { transcript.journal with
      committed := transcript.journal.committed ++
        [⟨transcript.heading, transcript.deeds, transcript.invocation.record⟩] })

end Transcript

/-! ## Captures -/

namespace RawInvocation

/-- What a discovered invocation is begun with. -/
def heading
    (raw : RawInvocation) :
    Heading where
  projectPath := raw.projectPath
  language := raw.language
  kind := raw.kind

/-- The calls that capturing a discovered invocation makes. -/
def calls
    (raw : RawInvocation)
    (inputs : ResolvedInputs) :
    List Call :=
  let within := Route.join raw.workingDirectory
  [.setWorkingDirectory raw.workingDirectory, .setArguments raw.arguments,
      .setOptions inputs.options] ++
    inputs.targetFramework.toList.map .setTargetFramework ++
    inputs.outputName.toList.map .setOutputName ++
    inputs.contents.map (fun (path, kind) => .content (within path) kind) ++
    inputs.resources.map (fun resource =>
      .resource (within resource.path) resource.name resource.isPublic) ++
    inputs.references.map (fun reference =>
      .reference (within reference.path) reference.kind reference.embedInteropTypes
        reference.aliases) ++
    inputs.analyzers.map (fun path => .analyzer (within path)) ++
    inputs.generated.elim [] fun paths =>
      .markGenerated :: paths.map fun path => .generatedFile (within path)

end RawInvocation

/-- The journal after a discovered invocation has been captured. -/
def Journal.capture
    (journal : Journal)
    (recording : Recording)
    (raw : RawInvocation)
    (resolve : InvocationResolver) :
    Journal :=
  match recording.begin raw.projectPath raw.language raw.kind, resolve raw with
  | .ok invocation, .ok inputs =>
    let transcript : Transcript := { invocation, heading := raw.heading, journal }
    ((raw.calls inputs).foldl Transcript.call transcript).commit.2
  | _, _ => journal

/-! ## Runs -/

/-- A recorder between two operations, on its own or lent to an invocation. -/
inductive Stage where
  | idle (recording : Recording) (journal : Journal)
  | lent (transcript : Transcript)

namespace Stage

/-- The recorder at a stage, with its file system. -/
def recording : Stage → Recording
  | .idle recording _ => recording
  | .lent transcript => transcript.invocation.recording

/-- What has happened up to a stage. -/
def journal : Stage → Journal
  | .idle _ journal => journal
  | .lent transcript => transcript.journal

/-- The file system at a stage. -/
def files : Stage → FileSystem
  | .idle recording _ => recording.files
  | .lent transcript => transcript.invocation.recording.files

/-- The stage with another file system. -/
def withFiles
    (files : FileSystem) : Stage → Stage
  | .idle recording journal => .idle { recording with files } journal
  | .lent transcript =>
    .lent { transcript with
      invocation := { transcript.invocation with
        recording := { transcript.invocation.recording with files } } }

end Stage

/-- The stages that a recorder of the archive at a path can get to. -/
inductive Reaches (path : String) (config : WriterConfig) : Stage → Prop
  | create {files after : FileSystem} {recorder : Recorder}
      (sane : files.Sane)
      (creating : Recorder.create files path config = (after, .ok recorder)) :
      Reaches path config (.idle ⟨after, recorder⟩ {})
  /-- The file system changes as time goes on, except for the temporary file. -/
  | elapse {stage : Stage} {files : FileSystem}
      (reached : Reaches path config stage)
      (sane : files.Sane)
      (leaves : FileSystem.Leaves (Container.Writer.temporaryRoute path) stage.files files) :
      Reaches path config (stage.withFiles files)
  | begin {recording : Recording} {journal : Journal} {invocation : Invocation}
      (reached : Reaches path config (.idle recording journal))
      (heading : Heading)
      (beginning :
        recording.begin heading.projectPath heading.language heading.kind = .ok invocation) :
      Reaches path config (.lent { invocation, heading, journal })
  | call {transcript : Transcript}
      (reached : Reaches path config (.lent transcript))
      (call : Call) :
      Reaches path config (.lent (transcript.call call))
  | commit {transcript : Transcript}
      (reached : Reaches path config (.lent transcript)) :
      Reaches path config (.idle transcript.commit.1 transcript.commit.2)
  | drop {transcript : Transcript}
      (reached : Reaches path config (.lent transcript)) :
      Reaches path config (.idle transcript.invocation.recording transcript.journal)
  | capture {recording : Recording} {journal : Journal}
      (reached : Reaches path config (.idle recording journal))
      (raw : RawInvocation)
      (resolve : InvocationResolver) :
      Reaches path config
        (.idle (recording.capture raw resolve).1 (journal.capture recording raw resolve))
  /-- Completing the archive fails. -/
  | unfinished {recording after : Recording} {journal : Journal} {failure : Failure}
      (reached : Reaches path config (.idle recording journal))
      (finishing : recording.finish = (after, .error failure)) :
      Reaches path config (.idle after journal)

/-! ## What capturing amounts to -/

/-- Adding what a resolver found is making the calls of the capture. -/
theorem addInputs_setUp
    (invocation : Invocation)
    (raw : RawInvocation)
    (inputs : ResolvedInputs) :
    (invocation.setUp raw inputs).addInputs raw.workingDirectory inputs =
      (raw.calls inputs).foldl Call.apply invocation := by
  rw [Invocation.setUp, Invocation.addInputs, RawInvocation.calls]
  simp only [List.foldl_append, List.foldl_map, List.foldl_cons, List.foldl_nil]
  cases inputs.targetFramework <;> cases inputs.outputName <;> cases inputs.generated <;>
    simp only [Option.toList, Option.elim, List.foldl_cons, List.foldl_nil, List.foldl_map] <;> rfl

namespace Transcript

theorem invocation_foldl_call
    (calls : List Call)
    (transcript : Transcript) :
    (calls.foldl Transcript.call transcript).invocation =
      calls.foldl Call.apply transcript.invocation := by
  induction calls generalizing transcript with
  | nil => rfl
  | cons call rest ih => exact ih (transcript.call call)

theorem commit_fst
    (transcript : Transcript) :
    transcript.commit.1 = transcript.invocation.commit.1 := by
  rw [commit]
  split
  · next recording failure committing => rw [committing]
  · next recording index committing => rw [committing]

end Transcript

/-- Capturing is beginning an invocation, making the calls and committing. -/
theorem capture_eq_commit
    {recording : Recording}
    {raw : RawInvocation}
    {resolve : InvocationResolver}
    {invocation : Invocation}
    {inputs : ResolvedInputs}
    (beginning : recording.begin raw.projectPath raw.language raw.kind = .ok invocation)
    (resolving : resolve raw = .ok inputs)
    (journal : Journal) :
    let transcript : Transcript := { invocation, heading := raw.heading, journal }
    let committed := ((raw.calls inputs).foldl Transcript.call transcript).commit
    (recording.capture raw resolve).1 = committed.1 ∧
      journal.capture recording raw resolve = committed.2 := by
  rw [Recording.capture, Journal.capture]
  simp only [beginning, resolving]
  constructor
  · rw [Transcript.commit_fst, Transcript.invocation_foldl_call, addInputs_setUp]
  · trivial

end BuildCapture
