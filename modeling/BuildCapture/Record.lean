import BuildCapture.ContentKey
import BuildCapture.Module.Id
import BuildCapture.Record.Kind
import BuildCapture.Record.Options
import BuildCapture.SourcePath

/-!
# Invocation records

The captured metadata of one compiler invocation.  Every list keeps the order
the compiler saw it in; identities point into the archive's pools and the
paths beside them stay as they were spelled.  Generator output is three-fold:
never captured, captured and empty, or captured with files.
-/

namespace BuildCapture

open Json

/-! ## Inputs -/

/-- A content input: what it is used as, which blob it is and where it came from. -/
structure ContentEntry where
  kind : ContentKind
  key : ContentKey
  path : String
deriving DecidableEq, Repr

namespace ContentEntry

/-- A content input as a tree. -/
def toTree
    (entry : ContentEntry) :
    Tree :=
  .ofFields [
    ("kind", .ofText entry.kind.name),
    ("key", entry.key.toTree),
    ("path", .ofText entry.path)]

/-- The content input a tree holds. -/
def ofTree?
    (tree : Tree) :
    Option ContentEntry := do
  let fields ← tree.fields? ["kind", "key", "path"]
  return {
    kind := ← fields.required "kind" ContentKind.ofTree?
    key := ← fields.required "key" ContentKey.ofTree?
    path := ← fields.required "path" Tree.text? }

end ContentEntry

/-- An embedded resource. -/
structure ResourceEntry where
  key : ContentKey
  name : String
  fileName : Option String
  isPublic : Bool
deriving DecidableEq, Repr

namespace ResourceEntry

/-- A resource as a tree; a missing file name is left out. -/
def toTree
    (entry : ResourceEntry) :
    Tree :=
  .ofFields ([("key", entry.key.toTree), ("name", .ofText entry.name)] ++
    Tree.Fields.whenSome "file_name" .ofText entry.fileName ++
    [("is_public", .bool entry.isPublic)])

/-- The resource a tree holds. -/
def ofTree?
    (tree : Tree) :
    Option ResourceEntry := do
  let fields ← tree.fields? ["key", "name", "file_name", "is_public"]
  return {
    key := ← fields.required "key" ContentKey.ofTree?
    name := ← fields.required "name" Tree.text?
    fileName := ← fields.defaulted "file_name" (Tree.option? Tree.text?) none
    isPublic := ← fields.required "is_public" Tree.bool? }

end ResourceEntry

/-- A referenced module. -/
structure ReferenceEntry where
  module : ModuleId
  kind : ReferenceKind
  embedInteropTypes : Bool
  aliases : List String
  path : String
deriving DecidableEq, Repr

namespace ReferenceEntry

/-- A reference as a tree; an empty list of aliases is left out. -/
def toTree
    (entry : ReferenceEntry) :
    Tree :=
  .ofFields ([
    ("module", entry.module.toTree),
    ("kind", .ofText entry.kind.name),
    ("embed_interop_types", .bool entry.embedInteropTypes)] ++
    (if entry.aliases.isEmpty then [] else [("aliases", .ofList .ofText entry.aliases)]) ++
    [("path", .ofText entry.path)])

/-- The reference a tree holds. -/
def ofTree?
    (tree : Tree) :
    Option ReferenceEntry := do
  let fields ← tree.fields? ["module", "kind", "embed_interop_types", "aliases", "path"]
  return {
    module := ← fields.required "module" ModuleId.ofTree?
    kind := ← fields.required "kind" (Tree.choice? ReferenceKind.named)
    embedInteropTypes := ← fields.defaulted "embed_interop_types" Tree.bool? false
    aliases := ← fields.defaulted "aliases" (Tree.list? Tree.text?) []
    path := ← fields.required "path" Tree.text? }

end ReferenceEntry

/-- A module given to the compiler for its extensions. -/
structure AnalyzerEntry where
  module : ModuleId
  path : String
deriving DecidableEq, Repr

namespace AnalyzerEntry

/-- An analyzer module as a tree. -/
def toTree
    (entry : AnalyzerEntry) :
    Tree :=
  .ofFields [("module", entry.module.toTree), ("path", .ofText entry.path)]

/-- The analyzer module a tree holds. -/
def ofTree?
    (tree : Tree) :
    Option AnalyzerEntry := do
  let fields ← tree.fields? ["module", "path"]
  return {
    module := ← fields.required "module" ModuleId.ofTree?
    path := ← fields.required "path" Tree.text? }

end AnalyzerEntry

/-- A source text that a generator produced. -/
structure GeneratedEntry where
  key : ContentKey
  path : String
deriving DecidableEq, Repr

namespace GeneratedEntry

/-- A generated text as a tree. -/
def toTree
    (entry : GeneratedEntry) :
    Tree :=
  .ofFields [("key", entry.key.toTree), ("path", .ofText entry.path)]

/-- The generated text a tree holds. -/
def ofTree?
    (tree : Tree) :
    Option GeneratedEntry := do
  let fields ← tree.fields? ["key", "path"]
  return {
    key := ← fields.required "key" ContentKey.ofTree?
    path := ← fields.required "path" Tree.text? }

end GeneratedEntry

/-! ## Records -/

/-- The captured metadata of one compiler invocation. -/
structure InvocationRecord where
  projectPath : String
  language : Language
  kind : InvocationKind
  targetFramework : Option String := none
  workingDirectory : Option String := none
  outputName : Option String := none
  arguments : List String := []
  contents : List ContentEntry := []
  resources : List ResourceEntry := []
  references : List ReferenceEntry := []
  analyzers : List AnalyzerEntry := []
  generated : Option (List GeneratedEntry) := none
  options : OptionsBundle := {}
deriving DecidableEq, Repr

namespace InvocationRecord

/-- The content inputs of a kind, in order. -/
def contentsOf
    (record : InvocationRecord)
    (kind : ContentKind) :
    List ContentEntry :=
  record.contents.filter fun entry => entry.kind == kind

/-- Every module identity a record points at, references first. -/
def moduleIds
    (record : InvocationRecord) :
    List ModuleId :=
  record.references.map ReferenceEntry.module ++ record.analyzers.map AnalyzerEntry.module

/-- Every content key a record points at: contents, resources, generated texts. -/
def contentKeys
    (record : InvocationRecord) :
    List ContentKey :=
  record.contents.map ContentEntry.key ++ record.resources.map ResourceEntry.key ++
    (record.generated.getD []).map GeneratedEntry.key

/-- The file name of the project without what follows its last point. -/
def projectName
    (record : InvocationRecord) :
    String :=
  let name := (SourcePath.fileName record.projectPath).toList
  match name.reverse.dropWhile fun symbol => symbol != '.' with
  | [] => String.ofList name
  | _ :: stem => String.ofList stem.reverse

/-- The stored names of the fields, in order. -/
def fieldNames : List String := [
  "project_path", "language", "kind", "target_framework", "working_directory", "output_name",
  "arguments", "contents", "resources", "references", "analyzers", "generated", "options"]

/-- A record as a tree; optional texts and generator output are left out where missing. -/
def toTree
    (record : InvocationRecord) :
    Tree :=
  .ofFields ([
    ("project_path", .ofText record.projectPath),
    ("language", .ofText record.language.name),
    ("kind", .ofText record.kind.name)] ++
    Tree.Fields.whenSome "target_framework" .ofText record.targetFramework ++
    Tree.Fields.whenSome "working_directory" .ofText record.workingDirectory ++
    Tree.Fields.whenSome "output_name" .ofText record.outputName ++ [
    ("arguments", .ofList .ofText record.arguments),
    ("contents", .ofList ContentEntry.toTree record.contents),
    ("resources", .ofList ResourceEntry.toTree record.resources),
    ("references", .ofList ReferenceEntry.toTree record.references),
    ("analyzers", .ofList AnalyzerEntry.toTree record.analyzers)] ++
    Tree.Fields.whenSome "generated" (.ofList GeneratedEntry.toTree) record.generated ++
    [("options", record.options.toTree)])

/-- The record a tree holds. -/
def ofTree?
    (tree : Tree) :
    Option InvocationRecord := do
  let fields ← tree.fields? fieldNames
  return {
    projectPath := ← fields.required "project_path" Tree.text?
    language := ← fields.required "language" (Tree.choice? Language.named)
    kind := ← fields.required "kind" (Tree.choice? InvocationKind.named)
    targetFramework := ← fields.defaulted "target_framework" (Tree.option? Tree.text?) none
    workingDirectory := ← fields.defaulted "working_directory" (Tree.option? Tree.text?) none
    outputName := ← fields.defaulted "output_name" (Tree.option? Tree.text?) none
    arguments := ← fields.defaulted "arguments" (Tree.list? Tree.text?) []
    contents := ← fields.defaulted "contents" (Tree.list? ContentEntry.ofTree?) []
    resources := ← fields.defaulted "resources" (Tree.list? ResourceEntry.ofTree?) []
    references := ← fields.defaulted "references" (Tree.list? ReferenceEntry.ofTree?) []
    analyzers := ← fields.defaulted "analyzers" (Tree.list? AnalyzerEntry.ofTree?) []
    generated := ←
      fields.defaulted "generated" (Tree.option? (Tree.list? GeneratedEntry.ofTree?)) none
    options := ← fields.defaulted "options" OptionsBundle.ofTree? {} }

end InvocationRecord

end BuildCapture
