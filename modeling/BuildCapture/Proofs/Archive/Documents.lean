import BuildCapture.Archive.Diagnostic
import BuildCapture.Archive.Manifest
import BuildCapture.Module.Index
import BuildCapture.Proofs.Json.Reading
import BuildCapture.Proofs.Module.Info

/-!
# Reading back the documents of an archive

The manifest, the module index and the diagnostics are read back from the
documents that store them.
-/

namespace BuildCapture

open Json Json.Tree

/-! ## Module indexes -/

/-- The index is read back from its document. -/
theorem ModuleIndex.decode_encode
    (modules : List ModuleInfo) :
    ModuleIndex.decode (ModuleIndex.encode modules) = .ok modules := by
  have tidy := ModuleInfo.roundTrips.list.tidy modules 7 (Nat.le_refl 7)
  rw [ModuleIndex.decode, ModuleIndex.encode, tidy.read? tidy.prints, Option.bind_some,
    ModuleInfo.roundTrips.list.reads]

/-! ## Diagnostics -/

theorem DiagnosticKind.roundTrips :
    RoundTrips 0 (fun kind => ofText (DiagnosticKind.name kind))
      (choice? DiagnosticKind.named) :=
  roundTrips_choice fun kind => by cases kind <;> rfl

theorem Diagnostic.roundTrips : RoundTrips 1 Diagnostic.toTree Diagnostic.ofTree? := by
  refine roundTrips_fields (by decide) (fun _ => by rfl) ?_ ?_
  · intro diagnostic
    simp only [List.forall_mem_cons]
    exact ⟨roundTrips_text.within _, DiagnosticKind.roundTrips.within _,
      roundTrips_text.within _, List.forall_mem_nil _⟩
  · intro diagnostic found lookups
    simp only [List.forall_mem_cons] at lookups
    rcases lookups with ⟨projectPath, kind, message, -⟩
    simp only [Fields.required_of_lookup projectPath, Fields.required_of_lookup kind,
      Fields.required_of_lookup message, roundTrips_text.reads, DiagnosticKind.roundTrips.reads]
    rfl

/-- The diagnostics are read back from their document. -/
theorem Diagnostic.decodeAll_encodeAll
    (diagnostics : List Diagnostic) :
    Diagnostic.decodeAll (Diagnostic.encodeAll diagnostics) = .ok diagnostics := by
  have tidy := Diagnostic.roundTrips.list.tidy diagnostics 2 (Nat.le_refl 2)
  rw [Diagnostic.decodeAll, Diagnostic.encodeAll, tidy.read? tidy.prints, Option.bind_some,
    Diagnostic.roundTrips.list.reads]

/-! ## Manifests -/

theorem PathStyle.roundTrips :
    RoundTrips 0 (fun style => ofText (PathStyle.name style)) (choice? PathStyle.named) :=
  roundTrips_choice fun style => by cases style <;> rfl

namespace Manifest

theorem roundTrips : RoundTrips 1 toTree ofTree? := by
  refine roundTrips_fields (by decide) (fun _ => by rfl) ?_ ?_
  · intro manifest
    simp only [List.forall_mem_cons]
    exact ⟨roundTrips_uint32.within _, PathStyle.roundTrips.within _,
      roundTrips_uint64.within _, roundTrips_uint64.within _, roundTrips_uint64.within _,
      roundTrips_text.within _, List.forall_mem_nil _⟩
  · intro manifest found lookups
    simp only [List.forall_mem_cons] at lookups
    rcases lookups with
      ⟨formatVersion, pathStyle, recordCount, blobCount, moduleCount, toolVersion, -⟩
    simp only [Fields.required_of_lookup formatVersion, Fields.required_of_lookup pathStyle,
      Fields.required_of_lookup recordCount, Fields.defaulted_of_lookup blobCount,
      Fields.defaulted_of_lookup moduleCount, Fields.defaulted_of_lookup toolVersion,
      roundTrips_uint32.reads, PathStyle.roundTrips.reads, roundTrips_uint64.reads,
      roundTrips_text.reads]
    rfl

/-- The first member of a manifest tells the version of its format. -/
theorem memberNumber?_toTree
    (manifest : Manifest) :
    manifest.toTree.memberNumber? "format_version" = some manifest.formatVersion.toNat := by
  rw [toTree, ofFields, memberNumber?]
  simp only [List.map_cons, List.lookup_cons_self]
  rfl

/-- A manifest of a format that is known is read back from its document. -/
theorem decode_encode
    {manifest : Manifest}
    (known : manifest.formatVersion.toNat ≤ currentFormat) :
    decode manifest.encode = .ok manifest := by
  have tidy : manifest.toTree.Tidy nestingLimit :=
    roundTrips.tidy manifest nestingLimit (by decide)
  have version := memberNumber?_toTree manifest
  have notNewer : ¬ manifest.formatVersion.toNat > currentFormat := Nat.not_lt.2 known
  rw [decode, encode, tidy.readSettled? (tidy.prints_lines 0)]
  simp only [version, if_neg notNewer, roundTrips.reads]

end Manifest

end BuildCapture
