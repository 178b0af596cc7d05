import BuildCapture.Digest.Crc32
import BuildCapture.Failure.ImageFault
import BuildCapture.Module.Info
import BuildCapture.Source

/-!
# Module images

A compiled module starts with a header of 64 octets, all integers with the
least significant octet first:

| offset | size | field                    |
|--------|------|--------------------------|
| 0      | 4    | magic                    |
| 4      | 2    | header version           |
| 6      | 2    | flags                    |
| 8      | 16   | module identity          |
| 24     | 8    | module version           |
| 32     | 4    | length of the metadata   |
| 36     | 4    | CRC-32 of the metadata   |
| 40     | 24   | reserved                 |

The metadata, a JSON document, follows the header, and the body follows the
metadata.  `ModuleImage.octets` writes an image; `ModuleInfo.ofSource` reads
header and metadata and leaves the body.
-/

namespace BuildCapture

open Json

/-! ## Metadata -/

/-- The part of a module's description that its metadata holds. -/
structure ModuleMetadata where
  name : String
  dependencies : List ModuleRef := []
  exports : List ExportedType := []
deriving DecidableEq, Repr

namespace ModuleMetadata

/-- Metadata as a tree. -/
def toTree
    (metadata : ModuleMetadata) :
    Tree :=
  .ofFields [
    ("name", .ofText metadata.name),
    ("dependencies", .ofList ModuleRef.toTree metadata.dependencies),
    ("exports", .ofList ExportedType.toTree metadata.exports)]

/-- The metadata a tree holds. -/
def ofTree?
    (tree : Tree) :
    Option ModuleMetadata := do
  let fields ← tree.fields? ["name", "dependencies", "exports"]
  return {
    name := ← fields.required "name" Tree.text?
    dependencies := ← fields.defaulted "dependencies" (Tree.list? ModuleRef.ofTree?) []
    exports := ← fields.defaulted "exports" (Tree.list? ExportedType.ofTree?) [] }

end ModuleMetadata

/-! ## Layout -/

namespace ModuleImage

/-- The first word of every module image. -/
def magic : UInt32 := 0x444D4C43

/-- The only header version. -/
def headerVersion : UInt16 := 1

/-- The length of the header. -/
def headerLength : Nat := 64

/-- The greatest length of the metadata: 16 MiB. -/
def maximalMetadata : Nat := 16 * 1024 * 1024

end ModuleImage

/-! ## Writing -/

/-- A module to be written as an image. -/
structure ModuleImage where
  id : ModuleId
  version : ModuleVersion
  metadata : ModuleMetadata
  body : Octets := []
deriving DecidableEq, Repr

namespace ModuleImage

/-- Whether the module exports a marked type, as the lowest flag tells. -/
def flags
    (image : ModuleImage) :
    Nat :=
  if image.metadata.exports.any fun type => !type.markers.isEmpty then 1 else 0

/-- The metadata document of an image. -/
def document
    (image : ModuleImage) :
    Octets :=
  image.metadata.toTree.render

/-- The header of an image. -/
def header
    (image : ModuleImage) :
    Octets :=
  Octets.littleEndian 4 magic.toNat ++ Octets.littleEndian 2 headerVersion.toNat ++
    Octets.littleEndian 2 image.flags ++ image.id.octets ++ image.version.octets ++
    Octets.littleEndian 4 image.document.length ++
    Octets.littleEndian 4 (crc32 image.document).toNat ++ List.replicate 24 0

/-- The octets of an image. -/
def octets
    (image : ModuleImage) :
    Octets :=
  image.header ++ image.document ++ image.body

end ModuleImage

/-! ## Reading -/

namespace ModuleInfo

/-- What a source that ended too early means: its own fault, or a truncated image. -/
def shortfall
    (fault : Option FileFault) :
    ImageFault :=
  match fault with
  | none => .truncated
  | some fault => .unreadable fault

/-- The module that a metadata document describes, with the identity and version of its header. -/
def ofMetadata
    (id : ModuleId)
    (version : ModuleVersion)
    (document : Octets) :
    Except ImageFault ModuleInfo :=
  match (Tree.read? document).bind ModuleMetadata.ofTree? with
  | none => .error .malformedMetadata
  | some metadata =>
    .ok {
      id := id
      name := metadata.name
      version := version
      dependencies := metadata.dependencies
      exports := metadata.exports }

/-- The fields of a header that reading needs. -/
structure Header where
  magic : UInt32
  headerVersion : UInt16
  id : Octets
  version : ModuleVersion
  metadataLength : UInt32
  metadataChecksum : UInt32

/-- The fields of a header of full length. -/
def Header.ofOctets
    (data : Octets) :
    Header where
  magic := UInt32.ofNat (Octets.toNat (data.slice 0 4))
  headerVersion := UInt16.ofNat (Octets.toNat (data.slice 4 2))
  id := data.slice 8 16
  version := ModuleVersion.ofOctets (data.slice 24 8)
  metadataLength := UInt32.ofNat (Octets.toNat (data.slice 32 4))
  metadataChecksum := UInt32.ofNat (Octets.toNat (data.slice 36 4))

/--
The description of the module whose image a source yields, and the octets of
its body.  The header is checked field by field before the metadata is read.
-/
def ofSource
    (source : Source) :
    Except ImageFault (ModuleInfo × Octets) :=
  if source.data.length < ModuleImage.headerLength then
    .error (shortfall source.fault)
  else
    let header := Header.ofOctets source.data
    let rest := source.data.drop ModuleImage.headerLength
    let length := header.metadataLength.toNat
    if header.magic ≠ ModuleImage.magic then
      .error (.badMagic header.magic)
    else if header.headerVersion ≠ ModuleImage.headerVersion then
      .error (.unsupportedVersion header.headerVersion)
    else if length > ModuleImage.maximalMetadata then
      .error (.metadataTooLarge header.metadataLength)
    else if rest.length < length then
      .error (shortfall source.fault)
    else if crc32 (rest.take length) ≠ header.metadataChecksum then
      .error .checksumMismatch
    else
      match ModuleId.ofOctets? header.id with
      | none => .error .truncated
      | some id =>
        match ofMetadata id header.version (rest.take length) with
        | .error fault => .error fault
        | .ok info => .ok (info, rest.drop length)

/-- The description of the module whose image these octets are. -/
def ofOctets
    (data : Octets) :
    Except ImageFault ModuleInfo :=
  (ofSource (.ofOctets data)).map Prod.fst

end ModuleInfo

end BuildCapture
