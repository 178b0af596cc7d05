import BuildCapture.Failure
import BuildCapture.Module.Info

/-!
# Module indexes

The descriptions of all modules of an archive, in the order in which they were
stored.
-/

namespace BuildCapture.ModuleIndex

open Json

/-- The name of the container entry that holds the module index. -/
def entryName : String := "modules/index.json"

/-- The document that stores an index. -/
def encode
    (modules : List ModuleInfo) :
    Octets :=
  (Tree.ofList ModuleInfo.toTree modules).render

/-- The index a document stores. -/
def decode
    (data : Octets) :
    Except Failure (List ModuleInfo) :=
  match (Tree.read? data).bind (Tree.list? ModuleInfo.ofTree?) with
  | none => .error (.corrupt (.undecodable .moduleIndex))
  | some modules => .ok modules

end BuildCapture.ModuleIndex
