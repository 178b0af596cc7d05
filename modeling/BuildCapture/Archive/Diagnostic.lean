import BuildCapture.Failure

/-!
# Diagnostics

Why an invocation was left out of an archive.
-/

namespace BuildCapture

open Json

/-- The kind of failure that dropped an invocation. -/
inductive DiagnosticKind where
  | inputUnreadable
  | unsupportedModule
  | discovery
  | other
deriving DecidableEq, Repr

namespace DiagnosticKind

/-- The stored name of a diagnostic kind. -/
def name : DiagnosticKind → String
  | .inputUnreadable => "input-unreadable"
  | .unsupportedModule => "unsupported-module"
  | .discovery => "discovery"
  | .other => "other"

/-- Every diagnostic kind by its stored name. -/
def named : List (String × DiagnosticKind) := [
  ("input-unreadable", .inputUnreadable), ("unsupported-module", .unsupportedModule),
  ("discovery", .discovery), ("other", .other)]

/-- The kind under which a failure is recorded. -/
def ofFailure : Failure → DiagnosticKind
  | .inputUnreadable _ _ => .inputUnreadable
  | .unsupportedModule _ _ => .unsupportedModule
  | .discovery _ _ => .discovery
  | _ => .other

end DiagnosticKind

/-- Why the invocation of a project was left out. -/
structure Diagnostic where
  projectPath : String
  kind : DiagnosticKind
  message : String
deriving DecidableEq, Repr

namespace Diagnostic

/-- The name of the container entry that holds the diagnostics. -/
def entryName : String := "diagnostics.json"

/-- The diagnostic for an invocation that a failure dropped. -/
def ofFailure
    (projectPath : String)
    (failure : Failure) :
    Diagnostic where
  projectPath := projectPath
  kind := .ofFailure failure
  message := failure.message

/-- A diagnostic as a tree. -/
def toTree
    (diagnostic : Diagnostic) :
    Tree :=
  .ofFields [
    ("project_path", .ofText diagnostic.projectPath),
    ("kind", .ofText diagnostic.kind.name),
    ("message", .ofText diagnostic.message)]

/-- The diagnostic a tree holds. -/
def ofTree?
    (tree : Tree) :
    Option Diagnostic := do
  let fields ← tree.fields? ["project_path", "kind", "message"]
  return {
    projectPath := ← fields.required "project_path" Tree.text?
    kind := ← fields.required "kind" (Tree.choice? DiagnosticKind.named)
    message := ← fields.required "message" Tree.text? }

/-- The document that stores diagnostics. -/
def encodeAll
    (diagnostics : List Diagnostic) :
    Octets :=
  (Tree.ofList toTree diagnostics).render

/-- The diagnostics a document stores. -/
def decodeAll
    (data : Octets) :
    Except Failure (List Diagnostic) :=
  match (Tree.read? data).bind (Tree.list? ofTree?) with
  | none => .error (.corrupt (.undecodable .diagnostics))
  | some diagnostics => .ok diagnostics

end Diagnostic

end BuildCapture
