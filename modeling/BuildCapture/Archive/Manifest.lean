import BuildCapture.Failure
import BuildCapture.Record.Codec
import BuildCapture.SourcePath

/-!
# Manifests

The manifest says what an archive holds: the version of its format, the
separator convention of the capturing machine, and how many records, blobs and
modules there are.
-/

namespace BuildCapture

open Json

/-- The top-level description of an archive. -/
structure Manifest where
  formatVersion : UInt32
  pathStyle : PathStyle
  recordCount : UInt64
  blobCount : UInt64 := 0
  moduleCount : UInt64 := 0
  toolVersion : String := ""
deriving DecidableEq, Repr

namespace Manifest

/-- The newest archive format, which is also the one that is written. -/
def currentFormat : Nat := 1

/-- The version of the library, as manifests record it. -/
def currentTool : String := "0.1.0"

/-- The name of the container entry that holds the manifest. -/
def entryName : String := "manifest.json"

/-- The manifest of an archive with nothing in it. -/
def new
    (style : PathStyle) :
    Manifest where
  formatVersion := 1
  pathStyle := style
  recordCount := 0
  toolVersion := currentTool

/-- A manifest as a tree. -/
def toTree
    (manifest : Manifest) :
    Tree :=
  .ofFields [
    ("format_version", .ofNat manifest.formatVersion.toNat),
    ("path_style", .ofText manifest.pathStyle.name),
    ("record_count", .ofNat manifest.recordCount.toNat),
    ("blob_count", .ofNat manifest.blobCount.toNat),
    ("module_count", .ofNat manifest.moduleCount.toNat),
    ("tool_version", .ofText manifest.toolVersion)]

/-- The manifest a tree holds. -/
def ofTree?
    (tree : Tree) :
    Option Manifest := do
  let fields ← tree.fields? [
    "format_version", "path_style", "record_count", "blob_count", "module_count", "tool_version"]
  return {
    formatVersion := ← fields.required "format_version" Tree.uint32?
    pathStyle := ← fields.required "path_style" (Tree.choice? PathStyle.named)
    recordCount := ← fields.required "record_count" Tree.uint64?
    blobCount := ← fields.defaulted "blob_count" Tree.uint64? 0
    moduleCount := ← fields.defaulted "module_count" Tree.uint64? 0
    toolVersion := ← fields.defaulted "tool_version" Tree.text? "" }

/-- The document that stores a manifest, one member on a line. -/
def encode
    (manifest : Manifest) :
    Octets :=
  manifest.toTree.renderLines 0

/-- The manifest a document stores. -/
def decode
    (data : Octets) :
    Except Failure Manifest :=
  match Tree.readSettled? data with
  | none => .error (.corrupt (.undecodable .manifest))
  | some tree =>
    match tree.memberNumber? "format_version" with
    | none => .error (.corrupt .unversionedManifest)
    | some version =>
      if version > currentFormat then
        .error (.invalidFormat (.newerArchive version))
      else
        match ofTree? tree with
        | none => .error (.corrupt (.malformed .manifest))
        | some manifest => .ok manifest

end Manifest

end BuildCapture
