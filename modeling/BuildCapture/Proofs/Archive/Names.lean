import BuildCapture.Archive.Diagnostic
import BuildCapture.Archive.Manifest
import BuildCapture.Module.Index
import BuildCapture.Proofs.Decimal
import BuildCapture.Proofs.Record.Parts

/-!
# Names of entries

The entries of an archive lie in three directories: contents below `blobs/`,
modules below `modules/` and records below `records/`.  A name tells what the
entry holds, and of which key, identity or index, so no two entries have one
name.
-/

namespace BuildCapture

/-! ## Directories -/

/-- Whether a name lies in a directory. -/
def Container.isBelow
    (directory name : String) :
    Bool :=
  directory.toList.isPrefixOf name.toList

open Container

theorem ContentKey.isBelow_entryName
    (key : ContentKey) :
    isBelow "blobs/" key.entryName = true ∧ isBelow "modules/" key.entryName = false ∧
      isBelow "records/" key.entryName = false := by
  simp only [isBelow, ContentKey.entryName, String.toList_append]
  exact ⟨rfl, rfl, rfl⟩

theorem ModuleId.isBelow_entryName
    (id : ModuleId) :
    isBelow "blobs/" id.entryName = false ∧ isBelow "modules/" id.entryName = true ∧
      isBelow "records/" id.entryName = false := by
  simp only [isBelow, ModuleId.entryName, String.toList_append]
  exact ⟨rfl, rfl, rfl⟩

theorem InvocationRecord.isBelow_entryName
    (index : Nat) :
    isBelow "blobs/" (InvocationRecord.entryName index) = false ∧
      isBelow "modules/" (InvocationRecord.entryName index) = false ∧
      isBelow "records/" (InvocationRecord.entryName index) = true := by
  simp only [isBelow, InvocationRecord.entryName, String.toList_append, List.append_assoc]
  exact ⟨rfl, rfl, rfl⟩

/-! ## Keys, identities and indices -/

theorem ContentKey.entryName_injective : Function.Injective ContentKey.entryName := by
  intro left right equal
  have digits : left.hex = right.hex := (String.append_right_inj "blobs/").1 equal
  have keys := congrArg ofHex? digits
  simpa only [ofHex?_hex, Option.some.injEq] using keys

/-- What does not lie below the directory of contents is not the name of one. -/
theorem ContentKey.ne_entryName
    {name : String}
    (elsewhere : isBelow "blobs/" name = false)
    (key : ContentKey) :
    name ≠ key.entryName := by
  rintro rfl
  rw [key.isBelow_entryName.1] at elsewhere
  cases elsewhere

theorem ModuleId.entryName_injective : Function.Injective ModuleId.entryName := by
  intro left right equal
  have digits : left.hex = right.hex := (String.append_right_inj "modules/").1 equal
  have ids := congrArg ofHex? digits
  simpa only [ofHex?_hex, Option.some.injEq] using ids

theorem InvocationRecord.entryName_injective : Function.Injective InvocationRecord.entryName := by
  intro left right equal
  have names : "records/" ++ Decimal.text left = "records/" ++ Decimal.text right :=
    (String.append_left_inj ".json").1 equal
  have numerals := congrArg Octets.ofText ((String.append_right_inj "records/").1 names)
  rw [Decimal.ofText_text, Decimal.ofText_text] at numerals
  have values := congrArg Decimal.value numerals
  rwa [Decimal.value_octets, Decimal.value_octets] at values

/-- The module index does not have the name of a module. -/
theorem ModuleIndex.ne_entryName
    (id : ModuleId) :
    ModuleIndex.entryName ≠ id.entryName := by
  intro equal
  have index : ModuleIndex.entryName = "modules/" ++ "index.json" := by
    decide
  rw [index] at equal
  have digits : "index.json" = id.hex := (String.append_right_inj "modules/").1 equal
  have none : ModuleId.ofHex? "index.json" = none := by
    decide
  rw [digits, ModuleId.ofHex?_hex] at none
  cases none

/-! ## Entries -/

/-- What an archive can have an entry for. -/
inductive ArchiveEntry where
  | content (key : ContentKey)
  | module (id : ModuleId)
  | record (index : Nat)
  | moduleIndex
  | diagnostics
  | manifest
deriving DecidableEq, Repr

namespace ArchiveEntry

/-- The name of an entry. -/
def name : ArchiveEntry → String
  | .content key => key.entryName
  | .module id => id.entryName
  | .record index => InvocationRecord.entryName index
  | .moduleIndex => ModuleIndex.entryName
  | .diagnostics => Diagnostic.entryName
  | .manifest => Manifest.entryName

/-- The directory of an entry, if it is in one of the three. -/
def directory? : ArchiveEntry → Option String
  | .content _ => some "blobs/"
  | .module _ | .moduleIndex => some "modules/"
  | .record _ => some "records/"
  | .diagnostics | .manifest => none

/-- An entry lies in its own directory and in no other. -/
theorem isBelow_name
    (entry : ArchiveEntry) :
    ∀ directory ∈ ["blobs/", "modules/", "records/"],
      isBelow directory entry.name = (entry.directory? == some directory) := by
  rw [List.forall_mem_cons, List.forall_mem_cons, List.forall_mem_singleton]
  cases entry with
  | content key => exact key.isBelow_entryName
  | module id => exact id.isBelow_entryName
  | record index => exact InvocationRecord.isBelow_entryName index
  | moduleIndex | diagnostics | manifest => decide

/-- Entries with one name lie in one directory. -/
theorem directory?_congr
    {left right : ArchiveEntry}
    (same : left.name = right.name) :
    left.directory? = right.directory? := by
  have lies (entry : ArchiveEntry) :
      entry.directory? = none ∨
        ∃ directory ∈ ["blobs/", "modules/", "records/"],
          entry.directory? = some directory := by
    cases entry <;> simp [directory?]
  rcases lies left with nowhere | ⟨directory, listed, there⟩
  · rcases lies right with nowhereToo | ⟨directory, listed, there⟩
    · rw [nowhere, nowhereToo]
    · have below := right.isBelow_name directory listed
      rw [← same, left.isBelow_name directory listed, there, nowhere] at below
      simp at below
  · have below := left.isBelow_name directory listed
    rw [same, right.isBelow_name directory listed, there, beq_self_eq_true, beq_iff_eq] at below
    rw [there, below]

/-- Different entries have different names. -/
theorem name_injective : Function.Injective name := by
  intro left right same
  have directories := directory?_congr same
  cases left with
  | content key =>
    cases right with
    | content other => exact congrArg content (ContentKey.entryName_injective same)
    | _ => simp [directory?] at directories
  | module id =>
    cases right with
    | module other => exact congrArg module (ModuleId.entryName_injective same)
    | moduleIndex => exact absurd same.symm (ModuleIndex.ne_entryName id)
    | _ => simp [directory?] at directories
  | record index =>
    cases right with
    | record other => exact congrArg record (InvocationRecord.entryName_injective same)
    | _ => simp [directory?] at directories
  | moduleIndex =>
    cases right with
    | module id => exact absurd same (ModuleIndex.ne_entryName id)
    | moduleIndex => rfl
    | _ => simp [directory?] at directories
  | diagnostics =>
    cases right with
    | diagnostics => rfl
    | manifest => exact absurd same (by decide)
    | _ => simp [directory?] at directories
  | manifest =>
    cases right with
    | diagnostics => exact absurd same (by decide)
    | manifest => rfl
    | _ => simp [directory?] at directories

end ArchiveEntry

end BuildCapture
