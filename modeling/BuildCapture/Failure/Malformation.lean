import BuildCapture.Decimal
import BuildCapture.Octets.Hex

/-!
# Malformed input

Why a text or a file is not what it has to be, although nothing in it is
damaged: it has another shape, or it was written by a newer library.
-/

namespace BuildCapture

/-- What is wrong with an input of the wrong shape. -/
inductive Malformation where
  | contentKey (text : String)
  | moduleId (text : String)
  | moduleVersion (text : String)
  | loaderKind (text : String)
  | emptyContainer
  | shortHeader
  | foreignContainer (magic : UInt32)
  | newerContainer (version : UInt32)
  | newerRecord (version : Nat)
  | newerArchive (version : Nat)
deriving DecidableEq, Repr

namespace Malformation

/-- A word as hexadecimal text with its marker. -/
def hexWord
    (word : UInt32) :
    String :=
  "0x" ++ Octets.hex (Octets.littleEndian 4 word.toNat).reverse

/-- What a malformation is reported as. -/
def message : Malformation → String
  | .contentKey text => "bad content key: " ++ text
  | .moduleId text => "bad module id: " ++ text
  | .moduleVersion text => "bad module version: " ++ text
  | .loaderKind text => "unknown loader kind: " ++ text
  | .emptyContainer => "container is empty"
  | .shortHeader => "container header truncated"
  | .foreignContainer magic => "not a complog container (magic " ++ hexWord magic ++ ")"
  | .newerContainer version =>
    "container version " ++ Decimal.text version.toNat ++ " is newer than supported 1"
  | .newerRecord version =>
    "record version " ++ Decimal.text version ++ " is newer than supported 1"
  | .newerArchive version =>
    "archive format " ++ Decimal.text version ++ " is newer than supported 1"

end Malformation

end BuildCapture
