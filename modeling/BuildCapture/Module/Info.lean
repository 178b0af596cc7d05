import BuildCapture.Module.Id
import BuildCapture.Module.Version
import BuildCapture.Record.Kind

/-!
# Module descriptions

What an archive knows about a compiled module without its body: identity,
name, version, the modules it depends on and the types it exports.  A type
marked as an analyzer or a generator for some languages is an extension.
-/

namespace BuildCapture

open Json

/-! ## Dependencies and exports -/

/-- A module by its simple name, in at least some version. -/
structure ModuleRef where
  name : String
  version : ModuleVersion
deriving DecidableEq, Repr

namespace ModuleRef

/-- A reference as a tree. -/
def toTree
    (reference : ModuleRef) :
    Tree :=
  .ofFields [("name", .ofText reference.name), ("version", reference.version.toTree)]

/-- The reference a tree holds. -/
def ofTree?
    (tree : Tree) :
    Option ModuleRef := do
  let fields ← tree.fields? ["name", "version"]
  return {
    name := ← fields.required "name" Tree.text?
    version := ← fields.required "version" ModuleVersion.ofTree? }

end ModuleRef

/-- What an extension does for the compiler. -/
inductive ExtensionKind where
  | analyzer
  | generator
deriving DecidableEq, Repr

namespace ExtensionKind

/-- The stored name of an extension kind. -/
def name : ExtensionKind → String
  | .analyzer => "analyzer"
  | .generator => "generator"

/-- Every extension kind by its stored name. -/
def named : List (String × ExtensionKind) :=
  [("analyzer", .analyzer), ("generator", .generator)]

end ExtensionKind

/-- Declares an exported type to be an extension for some languages. -/
structure ExtensionMarker where
  kind : ExtensionKind
  languages : List String
deriving DecidableEq, Repr

namespace ExtensionMarker

/-- Whether a marker makes its type an extension of this kind for this language. -/
def appliesTo
    (marker : ExtensionMarker)
    (kind : ExtensionKind)
    (language : Language) :
    Bool :=
  marker.kind == kind && marker.languages.contains language.markerName

/-- A marker as a tree. -/
def toTree
    (marker : ExtensionMarker) :
    Tree :=
  .ofFields [
    ("kind", .ofText marker.kind.name),
    ("languages", .ofList .ofText marker.languages)]

/-- The marker a tree holds. -/
def ofTree?
    (tree : Tree) :
    Option ExtensionMarker := do
  let fields ← tree.fields? ["kind", "languages"]
  return {
    kind := ← fields.required "kind" (Tree.choice? ExtensionKind.named)
    languages := ← fields.required "languages" (Tree.list? Tree.text?) }

end ExtensionMarker

/-- A type that a module exports. -/
structure ExportedType where
  typeName : String
  markers : List ExtensionMarker := []
deriving DecidableEq, Repr

namespace ExportedType

/-- An exported type as a tree. -/
def toTree
    (type : ExportedType) :
    Tree :=
  .ofFields [
    ("type_name", .ofText type.typeName),
    ("markers", .ofList ExtensionMarker.toTree type.markers)]

/-- The exported type a tree holds. -/
def ofTree?
    (tree : Tree) :
    Option ExportedType := do
  let fields ← tree.fields? ["type_name", "markers"]
  return {
    typeName := ← fields.required "type_name" Tree.text?
    markers := ← fields.defaulted "markers" (Tree.list? ExtensionMarker.ofTree?) [] }

end ExportedType

/-! ## Modules -/

/-- Everything an archive needs to know about a module without its body. -/
structure ModuleInfo where
  id : ModuleId
  name : String
  version : ModuleVersion
  dependencies : List ModuleRef := []
  exports : List ExportedType := []
deriving DecidableEq, Repr

namespace ModuleInfo

/-- The reference that exactly this module satisfies. -/
def reference
    (info : ModuleInfo) :
    ModuleRef where
  name := info.name
  version := info.version

/-- The exported types that are extensions of a kind for a language, in order. -/
def extensions
    (info : ModuleInfo)
    (kind : ExtensionKind)
    (language : Language) :
    List ExportedType :=
  info.exports.filter fun type => type.markers.any fun marker => marker.appliesTo kind language

/-- Whether any exported type carries a marker. -/
def isExtension
    (info : ModuleInfo) :
    Bool :=
  info.exports.any fun type => !type.markers.isEmpty

/-- A module description as a tree. -/
def toTree
    (info : ModuleInfo) :
    Tree :=
  .ofFields [
    ("id", info.id.toTree),
    ("name", .ofText info.name),
    ("version", info.version.toTree),
    ("dependencies", .ofList ModuleRef.toTree info.dependencies),
    ("exports", .ofList ExportedType.toTree info.exports)]

/-- The module description a tree holds. -/
def ofTree?
    (tree : Tree) :
    Option ModuleInfo := do
  let fields ← tree.fields? ["id", "name", "version", "dependencies", "exports"]
  return {
    id := ← fields.required "id" ModuleId.ofTree?
    name := ← fields.required "name" Tree.text?
    version := ← fields.required "version" ModuleVersion.ofTree?
    dependencies := ← fields.defaulted "dependencies" (Tree.list? ModuleRef.ofTree?) []
    exports := ← fields.defaulted "exports" (Tree.list? ExportedType.ofTree?) [] }

end ModuleInfo

end BuildCapture
