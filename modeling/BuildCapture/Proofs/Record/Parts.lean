import BuildCapture.Proofs.Json.Schema
import BuildCapture.Proofs.Octets.Hex
import BuildCapture.Record

/-!
# Reading back the parts of records

Keys, identities, kinds and the entries that records list are read back from
their trees.
-/

namespace BuildCapture

open Json Json.Tree

/-! ## Identities -/

namespace ContentKey

/-- The key that repeats one octet. -/
def repeating
    (octet : UInt8) :
    ContentKey where
  digest := Vector.replicate 32 octet

theorem ofHex?_hex
    (key : ContentKey) :
    ofHex? key.hex = some key := by
  rw [ofHex?, hex, Octets.ofHex?_hex]
  show (Octets.toVector? 32 key.digest.toList).bind _ = _
  rw [Octets.toVector?_toList]
  rfl

/-- A key has 64 digits. -/
theorem hexCoded : Octets.HexCoded 64 hex parse := by
  apply Octets.hexCoded_of_vector mk
  · exact fun key => ⟨key.digest, rfl⟩
  · exact fun digest => rfl
  · intro text key
    have read :
        ofHex? text = ((Octets.ofHex? text).bind (Octets.toVector? 32)).map mk := by
      rw [ofHex?]
      cases Octets.ofHex? text with
      | none => rfl
      | some data =>
        rw [Option.bind_some]
        cases whole : Octets.toVector? 32 data <;> simp [whole]
    rw [← read, parse]
    cases ofHex? text <;> simp

theorem roundTrips : RoundTrips 0 toTree ofTree? where
  reads key := by
    show (Octets.text? (Octets.ofText key.hex)).bind ofHex? = some key
    rw [Octets.text?_ofText, Option.bind_some, ofHex?_hex]
  tidy key _ _ := .text key.hex
  present _ := nofun

end ContentKey

namespace ModuleId

/-- The identity that repeats one octet. -/
def repeating
    (octet : UInt8) :
    ModuleId where
  value := Vector.replicate 16 octet

theorem ofHex?_hex
    (id : ModuleId) :
    ofHex? id.hex = some id := by
  rw [ofHex?, hex, Octets.ofHex?_hex]
  show (Octets.toVector? 16 id.value.toList).map _ = _
  rw [Octets.toVector?_toList]
  rfl

/-- An identity has 32 digits. -/
theorem hexCoded : Octets.HexCoded 32 hex parse := by
  apply Octets.hexCoded_of_vector mk
  · exact fun id => ⟨id.value, rfl⟩
  · exact fun value => rfl
  · intro text id
    have read :
        ofHex? text = ((Octets.ofHex? text).bind (Octets.toVector? 16)).map mk := by
      rw [ofHex?]
      cases Octets.ofHex? text <;> rfl
    rw [← read, parse]
    cases ofHex? text <;> simp

theorem roundTrips : RoundTrips 0 toTree ofTree? where
  reads id := by
    show (Octets.text? (Octets.ofText id.hex)).bind ofHex? = some id
    rw [Octets.text?_ofText, Option.bind_some, ofHex?_hex]
  tidy id _ _ := .text id.hex
  present _ := nofun

end ModuleId

/-! ## Kinds -/

theorem Language.roundTrips :
    RoundTrips 0 (fun language => ofText (Language.name language)) (choice? Language.named) :=
  roundTrips_choice fun language => by cases language <;> rfl

theorem InvocationKind.roundTrips :
    RoundTrips 0 (fun kind => ofText (InvocationKind.name kind)) (choice? InvocationKind.named) :=
  roundTrips_choice fun kind => by cases kind <;> rfl

theorem ContentKind.roundTrips :
    RoundTrips 0 (fun kind => ofText (ContentKind.name kind)) ContentKind.ofTree? :=
  roundTrips_choice fun kind => by cases kind <;> rfl

theorem ReferenceKind.roundTrips :
    RoundTrips 0 (fun kind => ofText (ReferenceKind.name kind)) (choice? ReferenceKind.named) :=
  roundTrips_choice fun kind => by cases kind <;> rfl

/-! ## Entries -/

theorem ContentEntry.roundTrips : RoundTrips 1 ContentEntry.toTree ContentEntry.ofTree? := by
  refine roundTrips_fields (by decide) (fun _ => by rfl) ?_ ?_
  · intro entry
    simp only [List.forall_mem_cons]
    exact ⟨ContentKind.roundTrips.within _, ContentKey.roundTrips.within _,
      roundTrips_text.within _, List.forall_mem_nil _⟩
  · intro entry found lookups
    simp only [List.forall_mem_cons] at lookups
    rcases lookups with ⟨kind, key, path, -⟩
    simp only [Fields.required_of_lookup kind, Fields.required_of_lookup key,
      Fields.required_of_lookup path, ContentKind.roundTrips.reads, ContentKey.roundTrips.reads,
      roundTrips_text.reads]
    rfl

theorem AnalyzerEntry.roundTrips : RoundTrips 1 AnalyzerEntry.toTree AnalyzerEntry.ofTree? := by
  refine roundTrips_fields (by decide) (fun _ => by rfl) ?_ ?_
  · intro entry
    simp only [List.forall_mem_cons]
    exact ⟨ModuleId.roundTrips.within _, roundTrips_text.within _, List.forall_mem_nil _⟩
  · intro entry found lookups
    simp only [List.forall_mem_cons] at lookups
    rcases lookups with ⟨module, path, -⟩
    simp only [Fields.required_of_lookup module, Fields.required_of_lookup path,
      ModuleId.roundTrips.reads, roundTrips_text.reads]
    rfl

theorem GeneratedEntry.roundTrips :
    RoundTrips 1 GeneratedEntry.toTree GeneratedEntry.ofTree? := by
  refine roundTrips_fields (by decide) (fun _ => by rfl) ?_ ?_
  · intro entry
    simp only [List.forall_mem_cons]
    exact ⟨ContentKey.roundTrips.within _, roundTrips_text.within _, List.forall_mem_nil _⟩
  · intro entry found lookups
    simp only [List.forall_mem_cons] at lookups
    rcases lookups with ⟨key, path, -⟩
    simp only [Fields.required_of_lookup key, Fields.required_of_lookup path,
      ContentKey.roundTrips.reads, roundTrips_text.reads]
    rfl

namespace ResourceEntry

/-- The fields of a resource; the file name may be left out. -/
def slots
    (entry : ResourceEntry) :
    List (String × Option Tree) := [
  ("key", some entry.key.toTree),
  ("name", some (.ofText entry.name)),
  ("file_name", entry.fileName.map .ofText),
  ("is_public", some (.bool entry.isPublic))]

theorem toTree_eq : toTree = fun entry => .ofFields (Fields.present (slots entry)) := by
  funext entry
  rw [toTree, whenSome_map]
  rfl

theorem roundTrips : RoundTrips 1 toTree ofTree? := by
  rw [toTree_eq]
  refine roundTrips_slots (by decide) (fun _ => by rfl) ?_ ?_
  · intro entry
    simp only [slots, List.forall_mem_cons]
    refine ⟨?_, ?_, ?_, ?_, List.forall_mem_nil _⟩
    · rintro tree ⟨⟩
      exact ContentKey.roundTrips.within _
    · rintro tree ⟨⟩
      exact roundTrips_text.within _
    · intro tree there
      rcases Option.map_eq_some_iff.1 there with ⟨name, -, rfl⟩
      exact roundTrips_text.within _
    · rintro tree ⟨⟩
      exact roundTrips_bool.within _
  · intro entry found lookups
    simp only [slots, List.forall_mem_cons] at lookups
    rcases lookups with ⟨key, name, fileName, isPublic, -⟩
    simp only [Fields.required_of_lookup key, Fields.required_of_lookup name,
      Fields.required_of_lookup isPublic, roundTrips_text.defaulted fileName,
      ContentKey.roundTrips.reads, roundTrips_text.reads, roundTrips_bool.reads]
    rfl

end ResourceEntry

namespace ReferenceEntry

/-- The fields of a reference; the aliases are left out where there are none. -/
def slots
    (entry : ReferenceEntry) :
    List (String × Option Tree) := [
  ("module", some entry.module.toTree),
  ("kind", some (.ofText entry.kind.name)),
  ("embed_interop_types", some (.bool entry.embedInteropTypes)),
  ("aliases", if entry.aliases.isEmpty then none else some (.ofList .ofText entry.aliases)),
  ("path", some (.ofText entry.path))]

theorem toTree_eq : toTree = fun entry => .ofFields (Fields.present (slots entry)) := by
  funext entry
  rw [toTree, slots]
  cases entry.aliases.isEmpty with
  | true => rfl
  | false => rfl

theorem roundTrips : RoundTrips 2 toTree ofTree? := by
  rw [toTree_eq]
  refine roundTrips_slots (by decide) (fun _ => by rfl) ?_ ?_
  · intro entry
    simp only [slots, List.forall_mem_cons]
    refine ⟨?_, ?_, ?_, ?_, ?_, List.forall_mem_nil _⟩
    · rintro tree ⟨⟩
      exact ModuleId.roundTrips.within _
    · rintro tree ⟨⟩
      exact ReferenceKind.roundTrips.within _
    · rintro tree ⟨⟩
      exact roundTrips_bool.within _
    · intro tree there
      split at there
      · cases there
      · cases there
        exact roundTrips_text.list.within _
    · rintro tree ⟨⟩
      exact roundTrips_text.within _
  · intro entry found lookups
    simp only [slots, List.forall_mem_cons] at lookups
    rcases lookups with ⟨module, kind, embeds, aliases, path, -⟩
    have aliasesRead :
        Fields.defaulted found "aliases" (list? text?) [] = some entry.aliases := by
      split at aliases
      · next none =>
        rw [Fields.defaulted, aliases, List.isEmpty_iff.1 none]
      · rw [Fields.defaulted_of_lookup aliases, roundTrips_text.list.reads]
    simp only [Fields.required_of_lookup module, Fields.required_of_lookup kind,
      Fields.defaulted_of_lookup embeds, Fields.required_of_lookup path, aliasesRead,
      ModuleId.roundTrips.reads, ReferenceKind.roundTrips.reads, roundTrips_bool.reads,
      roundTrips_text.reads]
    rfl

end ReferenceEntry

end BuildCapture
