import BuildCapture.Archive
import BuildCapture.Extension.Resolution

/-!
# Plans of sessions

Before any module of a record is loaded, all of them are looked up and
resolved.  A module whose name the host provides is left to the host, unless
the archived module is newer, which is a conflict.  Every other module needs
all its dependencies.
-/

namespace BuildCapture

/-- A module that a session needs. -/
structure PlannedModule where
  info : ModuleInfo
  /-- The version of the host's own copy, where the host provides the module. -/
  host : Option ModuleVersion
deriving DecidableEq, Repr

namespace Archive

/-- Adds the modules that entries name, each once and in order, to those already known. -/
def addAnalyzers
    (archive : Archive)
    (known : List ModuleInfo) :
    List AnalyzerEntry → Except Failure (List ModuleInfo)
  | [] => .ok known
  | entry :: rest =>
    match archive.moduleInfo entry.module with
    | .error failure => .error failure
    | .ok info =>
      archive.addAnalyzers
        (if known.any fun other => other.id == info.id then known else known ++ [info]) rest

/-- Decides where a module of a session comes from. -/
def planModule
    (context : LoadContext)
    (info : ModuleInfo) :
    Except Failure PlannedModule :=
  match context.host.get? info.name with
  | some available =>
    if available.covers info.version then
      .ok { info, host := some available }
    else
      .error (.versionConflict info.name info.version available)
  | none =>
    match context.resolveDependencies info with
    | .error failure => .error failure
    | .ok _ => .ok { info, host := none }

/-- Decides where each of several modules comes from, or gives the first failure. -/
def planModules
    (context : LoadContext) : List ModuleInfo → Except Failure (List PlannedModule)
  | [] => .ok []
  | info :: rest =>
    match planModule context info with
    | .error failure => .error failure
    | .ok first =>
      match planModules context rest with
      | .error failure => .error failure
      | .ok others => .ok (first :: others)

/-- The distinct extension modules of a record, in stored order, and where they come from. -/
def plan
    (archive : Archive)
    (record : InvocationRecord)
    (host : HostModules) :
    Except Failure (List PlannedModule) :=
  match archive.addAnalyzers [] record.analyzers with
  | .error failure => .error failure
  | .ok infos => planModules (infos.foldl LoadContext.offer { host }) infos

end Archive

end BuildCapture
