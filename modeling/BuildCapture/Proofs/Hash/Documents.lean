import BuildCapture.Hash.Invocation
import BuildCapture.Proofs.Json.Distinct
import BuildCapture.Proofs.Record.Options
import BuildCapture.Proofs.Record.Parts

/-!
# Documents of views

The document of a view determines the view: whatever two records differ in, if
their views differ in it, their documents do.  Equal hashes of different views
are therefore collisions of the hash function.
-/

namespace BuildCapture

open Json Json.Tree

/-- Two different documents with one digest. -/
def Collide (left right : Octets) : Prop :=
  left ≠ right ∧ blake3 left = blake3 right

/-- The names of the fields of either view, in order. -/
def IdentityView.fieldNames : List String := [
  "language", "kind", "target_framework", "output_name", "contents", "resources", "references",
  "analyzers", "generated", "options"]

/-! ## Items -/

/-- Digests are written as different texts. -/
theorem tellsApart_digest : TellsApart 0 digestTree where
  injective first second same := by
    have texts := Octets.ofText_injective (Tree.text.inj same)
    have octets := congrArg Octets.ofHex? texts
    simp only [Octets.ofHex?_hex, Option.some.injEq] at octets
    exact Vector.toList_inj.1 octets
  tidy digest _ _ := .text (Octets.hex digest.toList)
  present _ := nofun

theorem tellsApart_resource :
    TellsApart 1 fun resource : ContentKey × String × Bool =>
      .array [resource.1.toTree, .ofText resource.2.1, .bool resource.2.2] := by
  apply tellsApart_array
  · rintro ⟨key, name, isPublic⟩ ⟨otherKey, otherName, otherPublic⟩ same
    simp only [List.cons.injEq, and_true] at same
    rw [ContentKey.roundTrips.tellsApart.injective same.1,
      roundTrips_text.tellsApart.injective same.2.1,
      roundTrips_bool.tellsApart.injective same.2.2]
  · intro resource
    simp only [List.forall_mem_cons]
    exact ⟨ContentKey.roundTrips.within _, roundTrips_text.within _, roundTrips_bool.within _,
      List.forall_mem_nil _⟩

/-- References are told apart if what stands for their modules is. -/
theorem tellsApart_reference
    {α : Type}
    {write : α → Tree}
    (tells : TellsApart 0 write) :
    TellsApart 2 fun reference : α × ReferenceKind × Bool × List String =>
      .array [write reference.1, .ofText reference.2.1.name, .bool reference.2.2.1,
        .ofList .ofText reference.2.2.2] := by
  apply tellsApart_array
  · rintro ⟨module, kind, embeds, aliases⟩ ⟨otherModule, otherKind, otherEmbeds, otherAliases⟩ same
    simp only [List.cons.injEq, and_true] at same
    rw [tells.injective same.1,
      ReferenceKind.roundTrips.tellsApart.injective same.2.1,
      roundTrips_bool.tellsApart.injective same.2.2.1,
      roundTrips_text.tellsApart.list.injective same.2.2.2]
  · intro reference
    simp only [List.forall_mem_cons]
    exact ⟨tells.within _, ReferenceKind.roundTrips.within _,
      roundTrips_bool.within _, roundTrips_text.list.within _, List.forall_mem_nil _⟩

/-! ## Content views -/

namespace ContentView

theorem tellsApart_content :
    TellsApart 1 fun content : ContentKind × ContentKey =>
      .array [.ofText content.1.name, content.2.toTree] := by
  apply tellsApart_array
  · rintro ⟨kind, key⟩ ⟨otherKind, otherKey⟩ same
    simp only [List.cons.injEq, and_true] at same
    rw [ContentKind.roundTrips.tellsApart.injective same.1,
      ContentKey.roundTrips.tellsApart.injective same.2]
  · intro content
    simp only [List.forall_mem_cons]
    exact ⟨ContentKind.roundTrips.within _, ContentKey.roundTrips.within _, List.forall_mem_nil _⟩

/-- Different content views are written as different trees. -/
theorem tellsApart : TellsApart 5 toTree := by
  refine tellsApart_fields IdentityView.fieldNames (by decide) (fun _ => by rfl) ?_ ?_
  · intro left right same
    simp only [List.cons.injEq, Prod.mk.injEq, true_and, and_true] at same
    rcases same with ⟨language, kind, targetFramework, outputName, contents, resources, references,
      analyzers, generated, options⟩
    cases left with
    | mk =>
      cases right with
      | mk =>
        rw [ContentView.mk.injEq]
        exact ⟨Language.roundTrips.tellsApart.injective language,
          InvocationKind.roundTrips.tellsApart.injective kind,
          roundTrips_text.tellsApart.ofOption_injective targetFramework,
          roundTrips_text.tellsApart.ofOption_injective outputName,
          tellsApart_content.list.injective contents,
          tellsApart_resource.list.injective resources,
          (tellsApart_reference tellsApart_digest).list.injective references,
          tellsApart_digest.list.injective analyzers,
          ContentKey.roundTrips.tellsApart.list.ofOption_injective generated,
          OptionsBundle.roundTrips.tellsApart.injective options⟩
  · intro view
    simp only [List.forall_mem_cons]
    exact ⟨Language.roundTrips.within _, InvocationKind.roundTrips.within _,
      roundTrips_text.optionWithin _, roundTrips_text.optionWithin _,
      tellsApart_content.list.within _, tellsApart_resource.list.within _,
      (tellsApart_reference tellsApart_digest).list.within _, tellsApart_digest.list.within _,
      ContentKey.roundTrips.tellsApart.list.optionWithin _, OptionsBundle.roundTrips.within _,
      List.forall_mem_nil _⟩

/-- The document of a content view. -/
def document
    (view : ContentView) :
    Octets :=
  view.toTree.render

/-- Different content views have different documents. -/
theorem document_injective : Function.Injective document :=
  tellsApart.render_injective

end ContentView

/-! ## Identity views -/

namespace IdentityView

theorem tellsApart_content :
    TellsApart 1 fun content : ContentKind × ContentKey × String =>
      .array [.ofText content.1.name, content.2.1.toTree, .ofText content.2.2] := by
  apply tellsApart_array
  · rintro ⟨kind, key, path⟩ ⟨otherKind, otherKey, otherPath⟩ same
    simp only [List.cons.injEq, and_true] at same
    rw [ContentKind.roundTrips.tellsApart.injective same.1,
      ContentKey.roundTrips.tellsApart.injective same.2.1,
      roundTrips_text.tellsApart.injective same.2.2]
  · intro content
    simp only [List.forall_mem_cons]
    exact ⟨ContentKind.roundTrips.within _, ContentKey.roundTrips.within _,
      roundTrips_text.within _, List.forall_mem_nil _⟩

theorem tellsApart_generated :
    TellsApart 1 fun generated : ContentKey × String =>
      .array [generated.1.toTree, .ofText generated.2] := by
  apply tellsApart_array
  · rintro ⟨key, path⟩ ⟨otherKey, otherPath⟩ same
    simp only [List.cons.injEq, and_true] at same
    rw [ContentKey.roundTrips.tellsApart.injective same.1,
      roundTrips_text.tellsApart.injective same.2]
  · intro generated
    simp only [List.forall_mem_cons]
    exact ⟨ContentKey.roundTrips.within _, roundTrips_text.within _, List.forall_mem_nil _⟩

/-- Different identity views are written as different trees. -/
theorem tellsApart : TellsApart 5 toTree := by
  refine tellsApart_fields fieldNames (by decide) (fun _ => by rfl) ?_ ?_
  · intro left right same
    simp only [List.cons.injEq, Prod.mk.injEq, true_and, and_true] at same
    rcases same with ⟨language, kind, targetFramework, outputName, contents, resources, references,
      analyzers, generated, options⟩
    cases left with
    | mk =>
      cases right with
      | mk =>
        rw [IdentityView.mk.injEq]
        exact ⟨Language.roundTrips.tellsApart.injective language,
          InvocationKind.roundTrips.tellsApart.injective kind,
          roundTrips_text.tellsApart.ofOption_injective targetFramework,
          roundTrips_text.tellsApart.ofOption_injective outputName,
          tellsApart_content.list.injective contents,
          tellsApart_resource.list.injective resources,
          (tellsApart_reference ModuleId.roundTrips.tellsApart).list.injective references,
          ModuleId.roundTrips.tellsApart.list.injective analyzers,
          tellsApart_generated.list.ofOption_injective generated,
          OptionsBundle.roundTrips.tellsApart.injective options⟩
  · intro view
    simp only [List.forall_mem_cons]
    exact ⟨Language.roundTrips.within _, InvocationKind.roundTrips.within _,
      roundTrips_text.optionWithin _, roundTrips_text.optionWithin _,
      tellsApart_content.list.within _, tellsApart_resource.list.within _,
      (tellsApart_reference ModuleId.roundTrips.tellsApart).list.within _,
      ModuleId.roundTrips.list.within _,
      tellsApart_generated.list.optionWithin _, OptionsBundle.roundTrips.within _,
      List.forall_mem_nil _⟩

/-- The document of an identity view. -/
def document
    (view : IdentityView) :
    Octets :=
  view.toTree.render

/-- Different identity views have different documents. -/
theorem document_injective : Function.Injective document :=
  tellsApart.render_injective

end IdentityView

/-- Records whose identity views differ have different identity hashes, collisions apart. -/
theorem InvocationRecord.identityHash_ne_or_collide
    {left right : InvocationRecord}
    (different : IdentityView.ofRecord left ≠ IdentityView.ofRecord right) :
    left.identityHash ≠ right.identityHash ∨
      Collide (IdentityView.ofRecord left).document (IdentityView.ofRecord right).document := by
  by_cases same : left.identityHash = right.identityHash
  · exact Or.inr ⟨IdentityView.document_injective.ne different, same⟩
  · exact Or.inl same

end BuildCapture
