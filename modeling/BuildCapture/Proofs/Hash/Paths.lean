import BuildCapture.Hash.View
import BuildCapture.Proofs.Hash.Collections
import BuildCapture.Proofs.SourcePath.Remainder

/-!
# Paths in the identity view

The paths of an identity view are the paths of its record relative to the project.
None of them has a backslash.  One is absolute exactly if a path of the record
goes on behind the directory of the project, and one slash, with an absolute path.
-/

open scoped List

namespace BuildCapture

open SourcePath

/-! ## Paths of records and views -/

/-- The paths of a record that count for its identity. -/
def InvocationRecord.countedPaths
    (record : InvocationRecord) :
    List String :=
  record.contents.map ContentEntry.path ++
    (record.generated.getD []).map GeneratedEntry.path ++
    record.options.compilation.cryptoKeyFile.toList ++
    record.options.emit.pdbFilePath.toList

namespace IdentityView

/-- The paths of an identity view. -/
def paths
    (view : IdentityView) :
    List String :=
  view.contents.map (fun content => content.2.2) ++
    (view.generated.getD []).map (fun generated => generated.2) ++
    view.options.compilation.cryptoKeyFile.toList ++
    view.options.emit.pdbFilePath.toList

theorem perm_arrangeContents
    (contents : List (ContentKind × ContentKey × String)) :
    arrangeContents contents ~ contents := by
  have parts := List.filter_append_perm (fun content => content.1.isOrderSensitive) contents
  exact ((perm_sortedBy _).append_left _).trans parts

/-- The paths of a view are those of its record, relative to the directory of the project. -/
theorem perm_paths_ofRecord
    (record : InvocationRecord) :
    (ofRecord record).paths ~
      record.countedPaths.map fun path => relativize path (parent record.projectPath) := by
  have contents :
      (ofRecord record).contents.map (fun content => content.2.2) ~
        record.contents.map fun entry => relativize entry.path (parent record.projectPath) := by
    have same := (perm_arrangeContents (record.contents.map fun entry =>
      (entry.kind, entry.key, relativize entry.path (parent record.projectPath)))).map
        fun content => content.2.2
    rwa [List.map_map] at same
  have generated :
      ((ofRecord record).generated.getD []).map (fun generated => generated.2) ~
        (record.generated.getD []).map fun entry =>
          relativize entry.path (parent record.projectPath) := by
    rw [ofRecord]
    cases record.generated with
    | none => exact .refl []
    | some entries =>
      have sorted :
          sortedBy generatedSortKey (entries.map fun entry =>
              (entry.key, relativize entry.path (parent record.projectPath))) ~
            entries.map fun entry =>
              (entry.key, relativize entry.path (parent record.projectPath)) :=
        perm_sortedBy _
      have same := sorted.map fun generated => generated.2
      rwa [List.map_map] at same
  have options :
      (ofRecord record).options =
        relativizeOptions (parent record.projectPath) record.options := rfl
  rw [paths, InvocationRecord.countedPaths, options]
  simp only [relativizeOptions, Option.toList_map, List.map_append, List.map_map]
  exact ((contents.append generated).append_right _).append_right _

end IdentityView

/-! ## Absolute results -/

namespace SourcePath

/-- A path goes on with an absolute path behind a root and one slash. -/
def LeavesAbsolute (path root : String) : Prop :=
  trunk root.toList ≠ [] ∧
    ∃ rest, slashes path.toList = trunk root.toList ++ '/' :: rest ∧ isRooted rest = true

/-- A path relative to a root is absolute only where it leaves an absolute path behind the root. -/
theorem isAbsolute_relativize_iff
    {path root : String} :
    isAbsolute (relativize path root) = true ↔ LeavesAbsolute path root := by
  rw [isAbsolute, relativize, String.toList_ofList, isRooted_relativizeChars_iff, LeavesAbsolute]

theorem backslash_notMem_relativize
    (path root : String) :
    '\\' ∉ (relativize path root).toList := by
  rw [relativize, String.toList_ofList]
  exact backslash_notMem_relativizeChars path.toList root.toList

end SourcePath

/--
Relative to any root, no path has a backslash, and a path is absolute exactly if
it leaves an absolute path behind the root.  The paths of an identity view are
the paths of the record in this form, so one of them is absolute exactly if a
path of the record leaves an absolute path behind the directory of the project.
-/
theorem identity_paths_are_absolute_iff
    (path root : String)
    (record : InvocationRecord) :
    '\\' ∉ (relativize path root).toList ∧
      (isAbsolute (relativize path root) = true ↔ LeavesAbsolute path root) ∧
      (IdentityView.ofRecord record).paths ~
        record.countedPaths.map (fun path => relativize path (parent record.projectPath)) ∧
      (∀ viewed ∈ (IdentityView.ofRecord record).paths, '\\' ∉ viewed.toList) ∧
      ((∃ viewed ∈ (IdentityView.ofRecord record).paths, isAbsolute viewed = true) ↔
        ∃ counted ∈ record.countedPaths, LeavesAbsolute counted (parent record.projectPath)) := by
  have permuted := IdentityView.perm_paths_ofRecord record
  refine ⟨backslash_notMem_relativize path root, isAbsolute_relativize_iff, permuted, ?_, ?_⟩
  · intro viewed member
    rcases List.mem_map.1 (permuted.mem_iff.1 member) with ⟨counted, -, rfl⟩
    exact backslash_notMem_relativize counted _
  · constructor
    · rintro ⟨viewed, member, absolute⟩
      rcases List.mem_map.1 (permuted.mem_iff.1 member) with ⟨counted, inside, rfl⟩
      exact ⟨counted, inside, isAbsolute_relativize_iff.1 absolute⟩
    · rintro ⟨counted, inside, leaves⟩
      refine ⟨relativize counted (parent record.projectPath), ?_,
        isAbsolute_relativize_iff.2 leaves⟩
      exact permuted.mem_iff.2 (List.mem_map_of_mem inside)

/-- A record with a single source, whose path has two slashes behind the directory. -/
def doubledSlash : InvocationRecord where
  projectPath := "/r/app.csproj"
  language := .csharp
  kind := .regular
  contents := [⟨.source, ContentKey.of [97], "/r//x"⟩]

/-- Two slashes behind the root of a path leave an absolute path, also in an identity view. -/
theorem doubled_slash_leaves_absolute :
    relativize "/r//x" "/r" = "/x" ∧ isAbsolute (relativize "/r//x" "/r") = true ∧
      (IdentityView.ofRecord doubledSlash).paths = ["/x"] := by
  refine ⟨by decide +kernel, by decide +kernel, ?_⟩
  have projected : parent doubledSlash.projectPath = "/r" := by decide +kernel
  have permuted := IdentityView.perm_paths_ofRecord doubledSlash
  rw [projected] at permuted
  exact List.perm_singleton.1 permuted

end BuildCapture
