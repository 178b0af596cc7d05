import BuildCapture.Archive.Invocation

/-!
# Capturing discovered invocations

Discovery finds invocations with their unparsed arguments.  A resolver turns
these into inputs and options, and the recorder stores what the resolver made
of them.  A resolver that fails drops its invocation like an unreadable input
does.
-/

namespace BuildCapture

/-! ## Discovered invocations -/

/-- An invocation as it was discovered. -/
structure RawInvocation where
  projectPath : String
  language : Language
  kind : InvocationKind
  workingDirectory : String
  arguments : List String := []
deriving DecidableEq, Repr

/-- A reference that a resolver found. -/
structure ResolvedReference where
  path : String
  kind : ReferenceKind := .assembly
  embedInteropTypes : Bool := false
  aliases : List String := []
deriving DecidableEq, Repr

/-- A resource that a resolver found. -/
structure ResolvedResource where
  path : String
  name : String
  isPublic : Bool
deriving DecidableEq, Repr

/-- Everything a resolver found, in the order of the arguments. -/
structure ResolvedInputs where
  targetFramework : Option String := none
  outputName : Option String := none
  contents : List (String × ContentKind) := []
  resources : List ResolvedResource := []
  references : List ResolvedReference := []
  analyzers : List String := []
  /-- Missing where generator output was not observed. -/
  generated : Option (List String) := none
  options : OptionsBundle := {}
deriving DecidableEq, Repr

/-- Interprets the arguments of an invocation, or gives reasons, the outermost first. -/
abbrev InvocationResolver := RawInvocation → Except (List String) ResolvedInputs

/-! ## Recording them -/

variable [Zstd.Encoder]

namespace Invocation

/-- Adds the inputs of a resolver; relative paths start from the working directory. -/
def addInputs
    (invocation : Invocation)
    (workingDirectory : String)
    (inputs : ResolvedInputs) :
    Invocation :=
  let within := Route.join workingDirectory
  let invocation := inputs.contents.foldl (fun invocation (path, kind) =>
    invocation.addContent (within path) kind) invocation
  let invocation := inputs.resources.foldl (fun invocation resource =>
    invocation.addResource (within resource.path) resource.name resource.isPublic) invocation
  let invocation := inputs.references.foldl (fun invocation reference =>
    invocation.addReference (within reference.path) reference.kind reference.embedInteropTypes
      reference.aliases) invocation
  let invocation := inputs.analyzers.foldl (fun invocation path =>
    invocation.addAnalyzer (within path)) invocation
  match inputs.generated with
  | none => invocation
  | some paths =>
    paths.foldl (fun invocation path => invocation.addGeneratedFile (within path))
      invocation.markGenerated

/-- Notes the settings of an invocation and its resolver. -/
def setUp
    (invocation : Invocation)
    (raw : RawInvocation)
    (inputs : ResolvedInputs) :
    Invocation :=
  let invocation := ((invocation.setWorkingDirectory raw.workingDirectory).setArguments
    raw.arguments).setOptions inputs.options
  let invocation := inputs.targetFramework.elim invocation invocation.setTargetFramework
  inputs.outputName.elim invocation invocation.setOutputName

end Invocation

/-- The failure of a resolver, its reasons joined. -/
def RawInvocation.undiscovered
    (raw : RawInvocation)
    (reasons : List String) :
    Failure :=
  .discovery raw.projectPath (String.intercalate ": " reasons)

/-- Resolves an invocation and records it. -/
def Recording.capture
    (recording : Recording)
    (raw : RawInvocation)
    (resolve : InvocationResolver) :
    Recording × Except Failure Nat :=
  match recording.begin raw.projectPath raw.language raw.kind with
  | .error failure => (recording, .error failure)
  | .ok invocation =>
    match resolve raw with
    | .error reasons =>
      let failure := raw.undiscovered reasons
      (recording.report raw.projectPath failure, .error failure)
    | .ok inputs =>
      ((invocation.setUp raw inputs).addInputs raw.workingDirectory inputs).commit

end BuildCapture
