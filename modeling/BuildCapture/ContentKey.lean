import BuildCapture.Digest.Sha256
import BuildCapture.Failure.Malformation
import BuildCapture.Json.Schema

/-!
# Content keys

A blob is named by the SHA-256 digest of its octets, so equal contents have
one key wherever they come from.
-/

namespace BuildCapture

/-- The identity of a blob. -/
structure ContentKey where
  digest : Digest
deriving DecidableEq, Repr

namespace ContentKey

/-- The key of a content. -/
def of
    (data : Octets) :
    ContentKey :=
  ⟨sha256 data⟩

/-- The octets of a key. -/
def octets
    (key : ContentKey) :
    Octets :=
  key.digest.toList

/-- The 64 hexadecimal digits of a key. -/
def hex
    (key : ContentKey) :
    String :=
  Octets.hex key.octets

/-- The name of the container entry that holds the blob. -/
def entryName
    (key : ContentKey) :
    String :=
  "blobs/" ++ key.hex

/-- The key that 64 hexadecimal digits write. -/
def ofHex?
    (text : String) :
    Option ContentKey := do
  return ⟨← Octets.toVector? 32 (← Octets.ofHex? text)⟩

/-- The key a text writes, or why it writes none. -/
def parse
    (text : String) :
    Except Malformation ContentKey :=
  match ofHex? text with
  | some key => .ok key
  | none => .error (.contentKey text)

/-- A key as a tree. -/
def toTree
    (key : ContentKey) :
    Json.Tree :=
  .ofText key.hex

/-- The key a tree holds. -/
def ofTree?
    (tree : Json.Tree) :
    Option ContentKey :=
  tree.text?.bind ofHex?

end ContentKey

end BuildCapture
