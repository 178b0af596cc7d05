import BuildCapture.Failure
import BuildCapture.Hash.Sorting
import BuildCapture.Record

/-!
# Views of a record

Two invocations are compared through views of their records.  The content view
holds the literal inputs in stored order.  The identity view depends neither
on the machine nor on orders that the compiler does not care about: paths are
relative to the project, and every collection except the sources and the
references is sorted.
-/

namespace BuildCapture

open Json

/-! ## The content view -/

/-- The literal inputs of an invocation. -/
structure ContentView where
  language : Language
  kind : InvocationKind
  targetFramework : Option String
  outputName : Option String
  contents : List (ContentKind × ContentKey)
  resources : List (ContentKey × String × Bool)
  references : List (Digest × ReferenceKind × Bool × List String)
  analyzers : List Digest
  generated : Option (List ContentKey)
  options : OptionsBundle
deriving DecidableEq, Repr

/-- A digest as a tree. -/
def digestTree
    (digest : Digest) :
    Tree :=
  .ofText (Octets.hex digest.toList)

/-- The digests of several modules, or the first failure to find one. -/
def moduleDigests
    (digest : ModuleId → Except Failure Digest) : List ModuleId → Except Failure (List Digest)
  | [] => .ok []
  | id :: rest =>
    match digest id with
    | .error failure => .error failure
    | .ok first =>
      match moduleDigests digest rest with
      | .error failure => .error failure
      | .ok others => .ok (first :: others)

namespace ContentView

/-- The content view of a record, given the digests of its modules. -/
def ofRecord
    (record : InvocationRecord)
    (references analyzers : List Digest) :
    ContentView where
  language := record.language
  kind := record.kind
  targetFramework := record.targetFramework
  outputName := record.outputName
  contents := record.contents.map fun entry => (entry.kind, entry.key)
  resources := record.resources.map fun entry => (entry.key, entry.name, entry.isPublic)
  references := (record.references.zip references).map fun (entry, digest) =>
    (digest, entry.kind, entry.embedInteropTypes, entry.aliases)
  analyzers := analyzers
  generated := record.generated.map fun entries => entries.map GeneratedEntry.key
  options := record.options

/-- A content view as a tree. -/
def toTree
    (view : ContentView) :
    Tree :=
  .ofFields [
    ("language", .ofText view.language.name),
    ("kind", .ofText view.kind.name),
    ("target_framework", .ofOption .ofText view.targetFramework),
    ("output_name", .ofOption .ofText view.outputName),
    ("contents", .ofList (fun (kind, key) => .array [.ofText kind.name, key.toTree])
      view.contents),
    ("resources", .ofList (fun (key, name, isPublic) =>
      .array [key.toTree, .ofText name, .bool isPublic]) view.resources),
    ("references", .ofList (fun (digest, kind, embed, aliases) =>
      .array [digestTree digest, .ofText kind.name, .bool embed, .ofList .ofText aliases])
      view.references),
    ("analyzers", .ofList digestTree view.analyzers),
    ("generated", .ofOption (.ofList ContentKey.toTree) view.generated),
    ("options", view.options.toTree)]

end ContentView

/-! ## The identity view -/

/-- The inputs of an invocation apart from machine and irrelevant order. -/
structure IdentityView where
  language : Language
  kind : InvocationKind
  targetFramework : Option String
  outputName : Option String
  contents : List (ContentKind × ContentKey × String)
  resources : List (ContentKey × String × Bool)
  references : List (ModuleId × ReferenceKind × Bool × List String)
  analyzers : List ModuleId
  generated : Option (List (ContentKey × String))
  options : OptionsBundle
deriving DecidableEq, Repr

namespace IdentityView

/-- The sort key of a content input: kind, content, path. -/
def contentSortKey
    (content : ContentKind × ContentKey × String) :
    List Octets :=
  [[UInt8.ofNat content.1.rank], content.2.1.octets, Octets.ofText content.2.2]

/-- The sort key of a resource: content, name, visibility. -/
def resourceSortKey
    (resource : ContentKey × String × Bool) :
    List Octets :=
  [resource.1.octets, Octets.ofText resource.2.1, [if resource.2.2 then 1 else 0]]

/-- The sort key of a generated text: content, path. -/
def generatedSortKey
    (generated : ContentKey × String) :
    List Octets :=
  [generated.1.octets, Octets.ofText generated.2]

/-- Sources in stored order, then every other content input sorted. -/
def arrangeContents
    (contents : List (ContentKind × ContentKey × String)) :
    List (ContentKind × ContentKey × String) :=
  contents.filter (fun content => content.1.isOrderSensitive) ++
    sortedBy contentSortKey (contents.filter fun content => !content.1.isOrderSensitive)

/-- The aliases of a reference as a set: free of the machine, sorted, each once. -/
def arrangeAliases
    (root : String)
    (aliases : List String) :
    List String :=
  (sortedBy (fun name => [Octets.ofText name])
    (aliases.map fun name => SourcePath.canonicalText name root)).eraseReps

/-- The options with their two paths relative to a root. -/
def relativizeOptions
    (root : String)
    (options : OptionsBundle) :
    OptionsBundle :=
  { options with
    compilation := { options.compilation with
      cryptoKeyFile := options.compilation.cryptoKeyFile.map fun path =>
        SourcePath.relativize path root }
    emit := { options.emit with
      pdbFilePath := options.emit.pdbFilePath.map fun path =>
        SourcePath.relativize path root } }

/-- The identity view of a record; paths are relative to the directory of its project. -/
def ofRecord
    (record : InvocationRecord) :
    IdentityView :=
  let root := SourcePath.parent record.projectPath
  { language := record.language
    kind := record.kind
    targetFramework := record.targetFramework
    outputName := record.outputName
    contents := arrangeContents (record.contents.map fun entry =>
      (entry.kind, entry.key, SourcePath.relativize entry.path root))
    resources := sortedBy resourceSortKey
      (record.resources.map fun entry => (entry.key, entry.name, entry.isPublic))
    references := record.references.map fun entry =>
      (entry.module, entry.kind, entry.embedInteropTypes, arrangeAliases root entry.aliases)
    analyzers := sortedBy (fun id => [id.octets]) (record.analyzers.map AnalyzerEntry.module)
    generated := record.generated.map fun entries =>
      sortedBy generatedSortKey (entries.map fun entry =>
        (entry.key, SourcePath.relativize entry.path root))
    options := relativizeOptions root record.options }

/-- An identity view as a tree. -/
def toTree
    (view : IdentityView) :
    Tree :=
  .ofFields [
    ("language", .ofText view.language.name),
    ("kind", .ofText view.kind.name),
    ("target_framework", .ofOption .ofText view.targetFramework),
    ("output_name", .ofOption .ofText view.outputName),
    ("contents", .ofList (fun (kind, key, path) =>
      .array [.ofText kind.name, key.toTree, .ofText path]) view.contents),
    ("resources", .ofList (fun (key, name, isPublic) =>
      .array [key.toTree, .ofText name, .bool isPublic]) view.resources),
    ("references", .ofList (fun (id, kind, embed, aliases) =>
      .array [id.toTree, .ofText kind.name, .bool embed, .ofList .ofText aliases])
      view.references),
    ("analyzers", .ofList ModuleId.toTree view.analyzers),
    ("generated", .ofOption (.ofList fun (key, path) => .array [key.toTree, .ofText path])
      view.generated),
    ("options", view.options.toTree)]

end IdentityView

end BuildCapture
