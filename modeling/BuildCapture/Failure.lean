import BuildCapture.Failure.Corruption
import BuildCapture.Failure.ImageFault
import BuildCapture.Module.Version

/-!
# Failures

Everything that an operation of the library can fail with.  Some failures
concern only the invocation being captured or replayed; all others concern the
archive itself.
-/

namespace BuildCapture

/-- An operation that a container writer refuses. -/
inductive Refusal where
  | duplicateEntry
  | notLatest
deriving DecidableEq, Repr

/-- What a refusal is reported as. -/
def Refusal.message : Refusal → String
  | .duplicateEntry => "duplicate container entry"
  | .notLatest => "pending entry is not the latest write"

/-- Why an operation failed. -/
inductive Failure where
  | inputUnreadable (path : String) (fault : FileFault)
  | unsupportedModule (path : String) (fault : ImageFault)
  | discovery (projectPath message : String)
  | alreadySealed
  | notSealed
  | aborted (reason : String)
  | invalidFormat (cause : Malformation)
  | corrupt (cause : Corruption)
  | outOfRange (index count : Nat)
  | versionConflict (name : String) (requested available : ModuleVersion)
  | notFound (name : String)
  | unsupported (refusal : Refusal)
  | file (fault : FileFault)
  | codec
deriving DecidableEq, Repr

namespace Failure

/-- What a failure is reported as. -/
def message : Failure → String
  | .inputUnreadable path fault => "input unreadable: " ++ path ++ ": " ++ fault.message
  | .unsupportedModule path fault => "unsupported module " ++ path ++ ": " ++ fault.message
  | .discovery projectPath message =>
    "invocation discovery failed for " ++ projectPath ++ ": " ++ message
  | .alreadySealed => "archive already sealed"
  | .notSealed => "archive not sealed"
  | .aborted reason => "archive writer aborted: " ++ reason
  | .invalidFormat cause => "invalid format: " ++ cause.message
  | .corrupt cause => "corrupt archive: " ++ cause.message
  | .outOfRange index count =>
    "record index " ++ Decimal.text index ++ " out of range (count " ++ Decimal.text count ++ ")"
  | .versionConflict name requested available =>
    "version conflict for " ++ name ++ ": requested " ++ requested.text ++
      ", host provides " ++ available.text
  | .notFound name => "entry not found: " ++ name
  | .unsupported refusal => "unsupported: " ++ refusal.message
  | .file fault => "io error: " ++ fault.message
  | .codec => "codec error"

/-- Whether a failure only affects the invocation being captured or replayed. -/
def isInvocationScoped : Failure → Bool
  | .inputUnreadable _ _ => true
  | .unsupportedModule _ _ => true
  | .discovery _ _ => true
  | .versionConflict _ _ _ => true
  | _ => false

end Failure

/-- A malformation as a failure of the operation that met it. -/
def liftMalformation
    {α : Type} : Except Malformation α → Except Failure α
  | .ok value => .ok value
  | .error cause => .error (.invalidFormat cause)

end BuildCapture
