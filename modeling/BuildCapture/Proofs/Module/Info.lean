import BuildCapture.Module.Info
import BuildCapture.Proofs.Module.Version
import BuildCapture.Proofs.Record.Parts

/-!
# Reading back module descriptions

A module's description is read back from its tree, with everything it depends
on and every marker of the types it exports.
-/

namespace BuildCapture

open Json Json.Tree

/-! ## Dependencies and exports -/

theorem ModuleRef.roundTrips : RoundTrips 1 ModuleRef.toTree ModuleRef.ofTree? := by
  refine roundTrips_fields (by decide) (fun _ => by rfl) ?_ ?_
  · intro reference
    simp only [List.forall_mem_cons]
    exact ⟨roundTrips_text.within _, ModuleVersion.roundTrips.within _, List.forall_mem_nil _⟩
  · intro reference found lookups
    simp only [List.forall_mem_cons] at lookups
    rcases lookups with ⟨name, version, -⟩
    simp only [Fields.required_of_lookup name, Fields.required_of_lookup version,
      roundTrips_text.reads, ModuleVersion.roundTrips.reads]
    rfl

theorem ExtensionKind.roundTrips :
    RoundTrips 0 (fun kind => ofText (ExtensionKind.name kind)) (choice? ExtensionKind.named) :=
  roundTrips_choice fun kind => by cases kind <;> rfl

theorem ExtensionMarker.roundTrips :
    RoundTrips 2 ExtensionMarker.toTree ExtensionMarker.ofTree? := by
  refine roundTrips_fields (by decide) (fun _ => by rfl) ?_ ?_
  · intro marker
    simp only [List.forall_mem_cons]
    exact ⟨ExtensionKind.roundTrips.within _, roundTrips_text.list.within _,
      List.forall_mem_nil _⟩
  · intro marker found lookups
    simp only [List.forall_mem_cons] at lookups
    rcases lookups with ⟨kind, languages, -⟩
    simp only [Fields.required_of_lookup kind, Fields.required_of_lookup languages,
      ExtensionKind.roundTrips.reads, roundTrips_text.list.reads]
    rfl

theorem ExportedType.roundTrips : RoundTrips 4 ExportedType.toTree ExportedType.ofTree? := by
  refine roundTrips_fields (by decide) (fun _ => by rfl) ?_ ?_
  · intro type
    simp only [List.forall_mem_cons]
    exact ⟨roundTrips_text.within _, ExtensionMarker.roundTrips.list.within _,
      List.forall_mem_nil _⟩
  · intro type found lookups
    simp only [List.forall_mem_cons] at lookups
    rcases lookups with ⟨typeName, markers, -⟩
    simp only [Fields.required_of_lookup typeName, Fields.defaulted_of_lookup markers,
      roundTrips_text.reads, ExtensionMarker.roundTrips.list.reads]
    rfl

/-! ## Modules -/

/-- A module's description is read back from its tree. -/
theorem ModuleInfo.roundTrips : RoundTrips 6 ModuleInfo.toTree ModuleInfo.ofTree? := by
  refine roundTrips_fields (by decide) (fun _ => by rfl) ?_ ?_
  · intro info
    simp only [List.forall_mem_cons]
    exact ⟨ModuleId.roundTrips.within _, roundTrips_text.within _,
      ModuleVersion.roundTrips.within _, ModuleRef.roundTrips.list.within _,
      ExportedType.roundTrips.list.within _, List.forall_mem_nil _⟩
  · intro info found lookups
    simp only [List.forall_mem_cons] at lookups
    rcases lookups with ⟨id, name, version, dependencies, exports, -⟩
    simp only [Fields.required_of_lookup id, Fields.required_of_lookup name,
      Fields.required_of_lookup version, Fields.defaulted_of_lookup dependencies,
      Fields.defaulted_of_lookup exports, ModuleId.roundTrips.reads, roundTrips_text.reads,
      ModuleVersion.roundTrips.reads, ModuleRef.roundTrips.list.reads,
      ExportedType.roundTrips.list.reads]
    rfl

end BuildCapture
