import BuildCapture.Failure.Malformation
import BuildCapture.Json.Schema

/-!
# Module identities

Every compiled module carries 16 octets that were baked in when it was built.
They identify the module, whatever its path or its name.
-/

namespace BuildCapture

/-- The identity of a compiled module. -/
structure ModuleId where
  value : Vector UInt8 16
deriving DecidableEq, Repr

namespace ModuleId

/-- The octets of an identity. -/
def octets
    (id : ModuleId) :
    Octets :=
  id.value.toList

/-- The 32 hexadecimal digits of an identity. -/
def hex
    (id : ModuleId) :
    String :=
  Octets.hex id.octets

/-- The name of the container entry that holds the module. -/
def entryName
    (id : ModuleId) :
    String :=
  "modules/" ++ id.hex

/-- The identity that 16 octets are. -/
def ofOctets?
    (data : Octets) :
    Option ModuleId :=
  (Octets.toVector? 16 data).map ModuleId.mk

/-- The identity that 32 hexadecimal digits write. -/
def ofHex?
    (text : String) :
    Option ModuleId := do
  ofOctets? (← Octets.ofHex? text)

/-- The identity a text writes, or why it writes none. -/
def parse
    (text : String) :
    Except Malformation ModuleId :=
  match ofHex? text with
  | some id => .ok id
  | none => .error (.moduleId text)

/-- An identity as a tree. -/
def toTree
    (id : ModuleId) :
    Json.Tree :=
  .ofText id.hex

/-- The identity a tree holds. -/
def ofTree?
    (tree : Json.Tree) :
    Option ModuleId :=
  tree.text?.bind ofHex?

end ModuleId

end BuildCapture
