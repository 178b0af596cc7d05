import BuildCapture.Archive.Recorder

/-!
# Recording an invocation

An invocation is recorded input by input.  The first input that fails spoils
the invocation: later inputs are not even looked at, and committing reports
that failure instead of writing a record.  Settings are noted either way.
-/

namespace BuildCapture

/-- An invocation that is being recorded. -/
structure Invocation where
  recording : Recording
  record : InvocationRecord
  /-- The first failure of an input. -/
  failure : Option Failure := none
deriving DecidableEq, Repr

/-- Starts an invocation, if the recorder still records. -/
def Recording.begin
    (recording : Recording)
    (projectPath : String)
    (language : Language)
    (kind : InvocationKind) :
    Except Failure Invocation :=
  match recording.bench with
  | .error failure => .error failure
  | .ok _ => .ok { recording, record := { projectPath, language, kind } }

namespace Invocation

/-! ## Inputs -/

/-- Whether an input has failed. -/
def hasFailed
    (invocation : Invocation) :
    Bool :=
  invocation.failure.isSome

/-- Obtains something of an input and notes it, unless an input has failed before. -/
def adding
    {α : Type}
    (invocation : Invocation)
    (obtain : Recording → Recording × Except Failure α)
    (note : α → InvocationRecord → InvocationRecord) :
    Invocation :=
  if invocation.hasFailed then
    invocation
  else
    match obtain invocation.recording with
    | (recording, .error failure) => { invocation with recording, failure := some failure }
    | (recording, .ok found) =>
      { invocation with recording, record := note found invocation.record }

variable [Zstd.Encoder]

/-- Adds a content input. -/
def addContent
    (invocation : Invocation)
    (path : String)
    (kind : ContentKind) :
    Invocation :=
  invocation.adding (·.contentKey path) fun key record =>
    { record with contents := record.contents ++ [{ kind, key, path }] }

/-- Adds an embedded resource. -/
def addResource
    (invocation : Invocation)
    (path name : String)
    (isPublic : Bool) :
    Invocation :=
  invocation.adding (·.contentKey path) fun key record =>
    { record with
      resources := record.resources ++ [{ key, name, fileName := Route.fileName? path, isPublic }] }

/-- Adds a referenced module. -/
def addReference
    (invocation : Invocation)
    (path : String)
    (kind : ReferenceKind)
    (embedInteropTypes : Bool)
    (aliases : List String) :
    Invocation :=
  invocation.adding (·.moduleInfo path) fun info record =>
    { record with
      references := record.references ++
        [{ module := info.id, kind, embedInteropTypes, aliases, path }] }

/-- Adds a module given for its extensions. -/
def addAnalyzer
    (invocation : Invocation)
    (path : String) :
    Invocation :=
  invocation.adding (·.moduleInfo path) fun info record =>
    { record with analyzers := record.analyzers ++ [{ module := info.id, path }] }

/-- Notes a text that a generator produced. -/
def noteGenerated
    (path : String)
    (key : ContentKey)
    (record : InvocationRecord) :
    InvocationRecord :=
  { record with generated := some (record.generated.getD [] ++ [{ key, path }]) }

/-- Adds a file that a generator produced. -/
def addGeneratedFile
    (invocation : Invocation)
    (path : String) :
    Invocation :=
  invocation.adding (·.contentKey path) (noteGenerated path)

/-- Adds a text in memory that a generator produced. -/
def addGeneratedText
    (invocation : Invocation)
    (path : String)
    (data : Octets) :
    Invocation :=
  invocation.adding (·.storeText data) (noteGenerated path)

/-! ## Settings -/

/-- Changes what the record says apart from its inputs. -/
def noting
    (invocation : Invocation)
    (note : InvocationRecord → InvocationRecord) :
    Invocation :=
  { invocation with record := note invocation.record }

/-- Notes that generator output was captured, even if there is none. -/
def markGenerated
    (invocation : Invocation) :
    Invocation :=
  invocation.noting fun record => { record with generated := some (record.generated.getD []) }

/-- Notes the compiler options. -/
def setOptions
    (invocation : Invocation)
    (options : OptionsBundle) :
    Invocation :=
  invocation.noting fun record => { record with options }

/-- Notes the target framework. -/
def setTargetFramework
    (invocation : Invocation)
    (targetFramework : String) :
    Invocation :=
  invocation.noting fun record => { record with targetFramework := some targetFramework }

/-- Notes the name of the output. -/
def setOutputName
    (invocation : Invocation)
    (outputName : String) :
    Invocation :=
  invocation.noting fun record => { record with outputName := some outputName }

/-- Notes the working directory. -/
def setWorkingDirectory
    (invocation : Invocation)
    (workingDirectory : String) :
    Invocation :=
  invocation.noting fun record => { record with workingDirectory := some workingDirectory }

/-- Notes the arguments. -/
def setArguments
    (invocation : Invocation)
    (arguments : List String) :
    Invocation :=
  invocation.noting fun record => { record with arguments }

/-! ## Committing -/

/-- Leaves an invocation out because an input failed. -/
def drop
    (invocation : Invocation)
    (failure : Failure) :
    Recording × Except Failure Nat :=
  if failure.isInvocationScoped then
    (invocation.recording.report invocation.record.projectPath failure, .error failure)
  else
    invocation.recording.fail failure

/-- Writes the record and returns its index, or leaves the invocation out. -/
def commit
    (invocation : Invocation) :
    Recording × Except Failure Nat :=
  match invocation.failure with
  | some failure => invocation.drop failure
  | none => invocation.recording.storeRecord invocation.record

end Invocation

end BuildCapture
