import BuildCapture.Hash.Invocation
import BuildCapture.Proofs.Hash.Collections
import BuildCapture.Proofs.Record.Parts
import BuildCapture.Proofs.SourcePath

/-!
# Relocated invocations

The same project built in another directory, or on another machine, has the same
identity hash: its files below the project directory are found by the same
relative paths, files elsewhere count by their names, and nothing else of the
machine enters the identity view.
-/

namespace BuildCapture

/-! ## Corresponding paths -/

/-- Two paths that stand for one file of a project in two directories. -/
inductive Corresponds (here there : String) : (left right : String) → Prop
  /-- Both lie below the directory of their project, at the same place. -/
  | below {left right : String}
      (rest : String)
      (leftBelow : SourcePath.normalize left = SourcePath.normalize here ++ "/" ++ rest)
      (rightBelow : SourcePath.normalize right = SourcePath.normalize there ++ "/" ++ rest) :
      Corresponds here there left right
  /-- Both are absolute and lie elsewhere, and their final components agree. -/
  | elsewhere {left right : String}
      (leftAbsolute : SourcePath.isAbsolute left = true)
      (rightAbsolute : SourcePath.isAbsolute right = true)
      (leftOutside : ¬ SourcePath.Within here left)
      (rightOutside : ¬ SourcePath.Within there right)
      (same : SourcePath.fileName left = SourcePath.fileName right) :
      Corresponds here there left right
  /-- Both are relative, and equal up to separators. -/
  | relative {left right : String}
      (leftRelative : SourcePath.isAbsolute left = false)
      (rightRelative : SourcePath.isAbsolute right = false)
      (same : SourcePath.normalize left = SourcePath.normalize right) :
      Corresponds here there left right

variable {here there : String}

/-- Corresponding paths have one spelling relative to the directories of their projects. -/
theorem Corresponds.relativize_eq
    (isHere : SourcePath.IsDirectory here)
    (isThere : SourcePath.IsDirectory there)
    {left right : String}
    (corresponds : Corresponds here there left right) :
    SourcePath.relativize left (SourcePath.normalize here) =
      SourcePath.relativize right (SourcePath.normalize there) := by
  cases corresponds with
  | below rest leftBelow rightBelow =>
    rw [isHere.relativize_below leftBelow, isThere.relativize_below rightBelow]
  | elsewhere leftAbsolute rightAbsolute leftOutside rightOutside same =>
    rw [isHere.relativize_outside leftAbsolute leftOutside,
      isThere.relativize_outside rightAbsolute rightOutside, same]
  | relative leftRelative rightRelative same =>
    rw [isHere.relativize_relative leftRelative, isThere.relativize_relative rightRelative, same]

/-! ## Relocated records -/

/-- An option bundle without its two paths. -/
def OptionsBundle.withoutPaths
    (options : OptionsBundle) :
    OptionsBundle :=
  { options with
    compilation := { options.compilation with cryptoKeyFile := none }
    emit := { options.emit with pdbFilePath := none } }

/-- Two records of one invocation, with the project directly in either directory. -/
structure Relocated (here there : String) (left right : InvocationRecord) : Prop where
  leftProject : SourcePath.LiesIn here left.projectPath
  rightProject : SourcePath.LiesIn there right.projectPath
  language : left.language = right.language
  kind : left.kind = right.kind
  targetFramework : left.targetFramework = right.targetFramework
  outputName : left.outputName = right.outputName
  contents :
    List.Forall₂
      (fun entry other => entry.kind = other.kind ∧ entry.key = other.key ∧
        Corresponds here there entry.path other.path)
      left.contents right.contents
  resources :
    left.resources.map (fun entry => (entry.key, entry.name, entry.isPublic)) =
      right.resources.map fun entry => (entry.key, entry.name, entry.isPublic)
  references :
    left.references.map
        (fun entry => (entry.module, entry.kind, entry.embedInteropTypes, entry.aliases)) =
      right.references.map
        fun entry => (entry.module, entry.kind, entry.embedInteropTypes, entry.aliases)
  /-- No alias has a separator in it. -/
  plainAliases :
    ∀ entry ∈ left.references, ∀ name ∈ entry.aliases,
      name.toList.any SourcePath.isSeparator = false
  analyzers : left.analyzers.map AnalyzerEntry.module = right.analyzers.map AnalyzerEntry.module
  generated :
    Option.Rel
      (List.Forall₂ fun entry other => entry.key = other.key ∧
        Corresponds here there entry.path other.path)
      left.generated right.generated
  options : left.options.withoutPaths = right.options.withoutPaths
  cryptoKeyFile :
    Option.Rel (Corresponds here there) left.options.compilation.cryptoKeyFile
      right.options.compilation.cryptoKeyFile
  pdbFilePath :
    Option.Rel (Corresponds here there) left.options.emit.pdbFilePath
      right.options.emit.pdbFilePath

/-! ## Equal views -/

/-- Aliases without separators are arranged in one way, whatever the root. -/
theorem IdentityView.arrangeAliases_of_plain
    {aliases : List String}
    (plain : ∀ name ∈ aliases, name.toList.any SourcePath.isSeparator = false)
    (root : String) :
    arrangeAliases root aliases =
      (sortedBy (fun name => [Octets.ofText name]) aliases).eraseReps := by
  have same : (aliases.map fun name => SourcePath.canonicalText name root) = aliases.map id := by
    apply List.map_congr_left
    intro name member
    rw [SourcePath.canonicalText, plain name member]
    rfl
  rw [arrangeAliases, same, List.map_id]

/-- The options with their paths replaced. -/
def OptionsBundle.withPaths
    (options : OptionsBundle)
    (cryptoKeyFile pdbFilePath : Option String) :
    OptionsBundle :=
  { options with
    compilation := { options.compilation with cryptoKeyFile }
    emit := { options.emit with pdbFilePath } }

theorem IdentityView.relativizeOptions_eq
    (root : String)
    (options : OptionsBundle) :
    relativizeOptions root options =
      options.withoutPaths.withPaths
        (options.compilation.cryptoKeyFile.map fun path => SourcePath.relativize path root)
        (options.emit.pdbFilePath.map fun path => SourcePath.relativize path root) :=
  rfl

namespace Relocated

variable {left right : InvocationRecord}

theorem plainAliases_right
    (relocated : Relocated here there left right) :
    ∀ entry ∈ right.references, ∀ name ∈ entry.aliases,
      name.toList.any SourcePath.isSeparator = false := by
  intro entry member
  have listed := List.mem_map_of_mem (f := fun entry : ReferenceEntry =>
    (entry.module, entry.kind, entry.embedInteropTypes, entry.aliases)) member
  rw [← relocated.references] at listed
  rcases List.mem_map.1 listed with ⟨other, otherMember, same⟩
  rw [Prod.mk.injEq, Prod.mk.injEq, Prod.mk.injEq] at same
  rw [← same.2.2.2]
  exact relocated.plainAliases other otherMember

/-- References are viewed alike where their aliases have no separators. -/
theorem references_eq
    (relocated : Relocated here there left right)
    (root otherRoot : String) :
    left.references.map
        (fun entry => (entry.module, entry.kind, entry.embedInteropTypes,
          IdentityView.arrangeAliases root entry.aliases)) =
      right.references.map
        fun entry => (entry.module, entry.kind, entry.embedInteropTypes,
          IdentityView.arrangeAliases otherRoot entry.aliases) := by
  have arranged :=
    congrArg
      (List.map fun reference : ModuleId × ReferenceKind × Bool × List String =>
        (reference.1, reference.2.1, reference.2.2.1,
          (sortedBy (fun name => [Octets.ofText name]) reference.2.2.2).eraseReps))
      relocated.references
  rw [List.map_map, List.map_map] at arranged
  calc
    _ = left.references.map _ := by
      apply List.map_congr_left
      intro entry member
      rw [IdentityView.arrangeAliases_of_plain (relocated.plainAliases entry member)]
      rfl
    _ = right.references.map _ := arranged
    _ = _ := by
      apply List.map_congr_left
      intro entry member
      rw [IdentityView.arrangeAliases_of_plain (relocated.plainAliases_right entry member)]
      rfl

/-- The identity view does not depend on where the project is. -/
theorem view_eq
    (isHere : SourcePath.IsDirectory here)
    (isThere : SourcePath.IsDirectory there)
    (relocated : Relocated here there left right) :
    IdentityView.ofRecord left = IdentityView.ofRecord right := by
  have paths :
      ∀ path other, Corresponds here there path other →
        SourcePath.relativize path (SourcePath.normalize here) =
          SourcePath.relativize other (SourcePath.normalize there) :=
    fun _ _ corresponds => corresponds.relativize_eq isHere isThere
  have contents :
      left.contents.map (fun entry =>
          (entry.kind, entry.key, SourcePath.relativize entry.path (SourcePath.normalize here))) =
        right.contents.map fun entry =>
          (entry.kind, entry.key, SourcePath.relativize entry.path (SourcePath.normalize there)) := by
    apply map_eq_of_forall₂ _ relocated.contents
    rintro entry other ⟨kind, key, path⟩
    rw [kind, key, paths _ _ path]
  have generated :
      (left.generated.map fun entries =>
          sortedBy IdentityView.generatedSortKey (entries.map fun entry =>
            (entry.key, SourcePath.relativize entry.path (SourcePath.normalize here)))) =
        right.generated.map fun entries =>
          sortedBy IdentityView.generatedSortKey (entries.map fun entry =>
            (entry.key, SourcePath.relativize entry.path (SourcePath.normalize there))) := by
    apply map_eq_of_rel _ relocated.generated
    intro entries others pairwise
    apply congrArg
    apply map_eq_of_forall₂ _ pairwise
    rintro entry other ⟨key, path⟩
    rw [key, paths _ _ path]
  have options :
      IdentityView.relativizeOptions (SourcePath.normalize here) left.options =
        IdentityView.relativizeOptions (SourcePath.normalize there) right.options := by
    rw [IdentityView.relativizeOptions_eq, IdentityView.relativizeOptions_eq, relocated.options,
      map_eq_of_rel paths relocated.cryptoKeyFile, map_eq_of_rel paths relocated.pdbFilePath]
  rw [IdentityView.ofRecord, IdentityView.ofRecord, isHere.parent_eq relocated.leftProject,
    isThere.parent_eq relocated.rightProject]
  simp only [relocated.language, relocated.kind, relocated.targetFramework, relocated.outputName,
    relocated.resources, relocated.analyzers, contents, generated, options,
    relocated.references_eq (SourcePath.normalize here) (SourcePath.normalize there)]

end Relocated

namespace InvocationRecord

/--
The identity hash survives relocation: two records of one invocation, with the
project in any two absolute directories under either convention, have one hash.
-/
theorem identityHash_of_relocated
    (isHere : SourcePath.IsDirectory here)
    (isThere : SourcePath.IsDirectory there)
    {left right : InvocationRecord}
    (relocated : Relocated here there left right) :
    left.identityHash = right.identityHash := by
  rw [identityHash, identityHash, relocated.view_eq isHere isThere]

end InvocationRecord

/-! ## A project on two machines -/

namespace TwoMachines

/-- A content that both machines have. -/
def key : ContentKey :=
  ContentKey.of [97]

/-- The identity of a module that both machines reference. -/
def moduleId : ModuleId := .repeating 7

/-- The project below a home directory. -/
def home : InvocationRecord where
  projectPath := "/u/app/a.csproj"
  language := .csharp
  kind := .regular
  workingDirectory := some "/u"
  contents := [
    ⟨.source, key, "/u/app/src/a.cs"⟩,
    ⟨.additionalText, key, "/usr/notes"⟩,
    ⟨.source, key, "lib/b.cs"⟩]
  references := [⟨moduleId, .assembly, false, ["global"], "/usr/lib/core.dll"⟩]
  generated := some [⟨key, "/u/app/obj/c.cs"⟩]
  options := { compilation := { cryptoKeyFile := some "/u/app/k.snk" } }

/-- The project on a drive. -/
def drive : InvocationRecord where
  projectPath := "D:\\w\\b.csproj"
  language := .csharp
  kind := .regular
  arguments := ["/nologo"]
  contents := [
    ⟨.source, key, "D:/w\\src/a.cs"⟩,
    ⟨.additionalText, key, "D:\\ws\\notes"⟩,
    ⟨.source, key, "lib\\b.cs"⟩]
  references := [⟨moduleId, .assembly, false, ["global"], "C:\\sdk\\core.dll"⟩]
  generated := some [⟨key, "D:\\w\\obj\\c.cs"⟩]
  options := { compilation := { cryptoKeyFile := some "D:\\w\\k.snk" } }

theorem relocated : Relocated "/u/app" "D:\\w" home drive where
  leftProject := ⟨'/', "a.csproj".toList, rfl, by simp [SourcePath.isSeparator], rfl⟩
  rightProject := ⟨'\\', "b.csproj".toList, rfl, by simp [SourcePath.isSeparator], rfl⟩
  language := rfl
  kind := rfl
  targetFramework := rfl
  outputName := rfl
  contents :=
    .cons ⟨rfl, rfl, .below "src/a.cs" (by decide) (by decide)⟩
      (.cons ⟨rfl, rfl, .elsewhere (by decide) (by decide) (by decide) (by decide) (by decide)⟩
        (.cons ⟨rfl, rfl, .relative (by decide) (by decide) (by decide)⟩ .nil))
  resources := rfl
  references := rfl
  plainAliases := by decide
  analyzers := rfl
  generated := .some (.cons ⟨rfl, .below "obj/c.cs" (by decide) (by decide)⟩ .nil)
  options := rfl
  cryptoKeyFile := .some (.below "k.snk" (by decide) (by decide))
  pdbFilePath := .none

/-- The same project has one identity on two machines. -/
theorem identityHash_of_two_machines :
    SourcePath.IsDirectory "/u/app" ∧ SourcePath.IsDirectory "D:\\w" ∧
      Relocated "/u/app" "D:\\w" home drive ∧
      home.identityHash = drive.identityHash := by
  have isHere : SourcePath.IsDirectory "/u/app" := ⟨by decide, by decide⟩
  have isThere : SourcePath.IsDirectory "D:\\w" := ⟨by decide, by decide⟩
  exact ⟨isHere, isThere, relocated,
    InvocationRecord.identityHash_of_relocated isHere isThere relocated⟩

end TwoMachines

end BuildCapture
