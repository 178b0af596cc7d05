import BuildCapture.Failure.Malformation
import BuildCapture.Json.Schema

/-!
# Module versions

A version has four parts of 16 bits, compared part by part.  Its text joins
the parts with points; reading also accepts fewer parts, missing ones being
zero, and a plus sign before each.
-/

namespace BuildCapture

/-- A four-part module version. -/
structure ModuleVersion where
  major : UInt16
  minor : UInt16
  build : UInt16
  revision : UInt16
deriving DecidableEq, Repr

namespace ModuleVersion

/-! ## Order -/

/-- Whether a version comes strictly before another: the first differing part decides. -/
def precedes
    (left right : ModuleVersion) :
    Bool :=
  left.major < right.major || (left.major == right.major &&
    (left.minor < right.minor || (left.minor == right.minor &&
      (left.build < right.build || (left.build == right.build &&
        left.revision < right.revision)))))

/-- Whether a version is at least as new as another. -/
def covers
    (available requested : ModuleVersion) :
    Bool :=
  !available.precedes requested

/-! ## Text -/

/-- The text of a version, always with four parts. -/
def text
    (version : ModuleVersion) :
    String :=
  Decimal.text version.major.toNat ++ "." ++ Decimal.text version.minor.toNat ++ "." ++
    Decimal.text version.build.toNat ++ "." ++ Decimal.text version.revision.toNat

/-- Octets without the plus sign they may start with. -/
def withoutPlus : Octets → Octets
  | 0x2B :: rest => rest
  | data => data

/-- The part that a numeral of 16 bits, with an optional plus sign, writes. -/
def part?
    (data : Octets) :
    Option UInt16 :=
  let numeral := withoutPlus data
  if numeral ≠ [] ∧ numeral.all Decimal.isDigit ∧ Decimal.value numeral < Octets.bound 2 then
    some (UInt16.ofNat (Decimal.value numeral))
  else
    none

/-- The pieces of a text between points. -/
def pointPieces : Octets → List Octets
  | [] => [[]]
  | octet :: rest =>
    if octet = 0x2E then
      [] :: pointPieces rest
    else
      match pointPieces rest with
      | [] => [[octet]]
      | first :: others => (octet :: first) :: others

/-- The version with the given leading parts, at most four. -/
def ofParts? : List UInt16 → Option ModuleVersion
  | [major] => some ⟨major, 0, 0, 0⟩
  | [major, minor] => some ⟨major, minor, 0, 0⟩
  | [major, minor, build] => some ⟨major, minor, build, 0⟩
  | [major, minor, build, revision] => some ⟨major, minor, build, revision⟩
  | _ => none

/-- The version a text writes. -/
def ofText?
    (text : String) :
    Option ModuleVersion :=
  ((pointPieces (Octets.ofText text)).mapM part?).bind ofParts?

/-- The version a text writes, or why it writes none. -/
def parse
    (text : String) :
    Except Malformation ModuleVersion :=
  match ofText? text with
  | some version => .ok version
  | none => .error (.moduleVersion text)

/-- A version as a tree. -/
def toTree
    (version : ModuleVersion) :
    Json.Tree :=
  .ofText version.text

/-- The version a tree holds. -/
def ofTree?
    (tree : Json.Tree) :
    Option ModuleVersion :=
  tree.text?.bind ofText?

/-! ## Octets -/

/-- A version as eight octets, each part least significant octet first. -/
def octets
    (version : ModuleVersion) :
    Octets :=
  Octets.littleEndian 2 version.major.toNat ++ Octets.littleEndian 2 version.minor.toNat ++
    Octets.littleEndian 2 version.build.toNat ++ Octets.littleEndian 2 version.revision.toNat

/-- The version that eight octets write. -/
def ofOctets
    (data : Octets) :
    ModuleVersion :=
  let part (offset : Nat) := UInt16.ofNat (Octets.toNat (data.slice offset 2))
  ⟨part 0, part 2, part 4, part 6⟩

end ModuleVersion

end BuildCapture
