import BuildCapture.Proofs.Json.Reading
import BuildCapture.Proofs.Record.Options
import BuildCapture.Proofs.Record.Parts
import BuildCapture.Record.Codec

/-!
# Reading back stored records

The tree of a record has all its fields but those that are left out for want of
a value, and it is read back from them.  Generator output that was never
captured is left out, and captured output without files is an empty array, so
the two stay apart.  The document of a record is read as its envelope, whose
version is the one that is written.
-/

namespace BuildCapture

open Json Json.Tree

namespace InvocationRecord

/-- The fields of a record, those that may be left out with their value if they have one. -/
def slots
    (record : InvocationRecord) :
    List (String × Option Tree) := [
  ("project_path", some (.ofText record.projectPath)),
  ("language", some (.ofText record.language.name)),
  ("kind", some (.ofText record.kind.name)),
  ("target_framework", record.targetFramework.map .ofText),
  ("working_directory", record.workingDirectory.map .ofText),
  ("output_name", record.outputName.map .ofText),
  ("arguments", some (.ofList .ofText record.arguments)),
  ("contents", some (.ofList ContentEntry.toTree record.contents)),
  ("resources", some (.ofList ResourceEntry.toTree record.resources)),
  ("references", some (.ofList ReferenceEntry.toTree record.references)),
  ("analyzers", some (.ofList AnalyzerEntry.toTree record.analyzers)),
  ("generated", record.generated.map (.ofList GeneratedEntry.toTree)),
  ("options", some record.options.toTree)]

theorem toTree_eq : toTree = fun record => .ofFields (Fields.present (slots record)) := by
  funext record
  rw [toTree, whenSome_map "target_framework" ofText, whenSome_map "working_directory" ofText,
    whenSome_map "output_name" ofText, whenSome_map "generated" (ofList GeneratedEntry.toTree)]
  simp only [slots, Fields.present, List.append_assoc]
  rfl

theorem tidy_slots
    (record : InvocationRecord) :
    ∀ slot ∈ slots record, ∀ tree ∈ slot.2, tree.TidyFrom 4 := by
  have optionalText :
      ∀ value : Option String, ∀ tree ∈ value.map ofText, tree.TidyFrom 4 := by
    intro value tree there
    rcases Option.map_eq_some_iff.1 there with ⟨text, -, rfl⟩
    exact roundTrips_text.within text
  simp only [slots, List.forall_mem_cons]
  refine ⟨?_, ?_, ?_, optionalText _, optionalText _, optionalText _, ?_, ?_, ?_, ?_, ?_, ?_, ?_,
    List.forall_mem_nil _⟩
  · rintro tree ⟨⟩
    exact roundTrips_text.within _
  · rintro tree ⟨⟩
    exact Language.roundTrips.within _
  · rintro tree ⟨⟩
    exact InvocationKind.roundTrips.within _
  · rintro tree ⟨⟩
    exact roundTrips_text.list.within _
  · rintro tree ⟨⟩
    exact ContentEntry.roundTrips.list.within _
  · rintro tree ⟨⟩
    exact ResourceEntry.roundTrips.list.within _
  · rintro tree ⟨⟩
    exact ReferenceEntry.roundTrips.list.within _
  · rintro tree ⟨⟩
    exact AnalyzerEntry.roundTrips.list.within _
  · intro tree there
    rcases Option.map_eq_some_iff.1 there with ⟨entries, -, rfl⟩
    exact GeneratedEntry.roundTrips.list.within entries
  · rintro tree ⟨⟩
    exact OptionsBundle.roundTrips.within _

theorem roundTrips : RoundTrips 5 toTree ofTree? := by
  rw [toTree_eq]
  refine roundTrips_slots (by decide) (fun _ => by rfl) tidy_slots ?_
  intro record found lookups
  simp only [slots, List.forall_mem_cons] at lookups
  obtain ⟨projectPath, language, kind, targetFramework, workingDirectory, outputName, arguments,
    contents, resources, references, analyzers, generated, options, -⟩ := lookups
  simp only [Fields.required_of_lookup projectPath, Fields.required_of_lookup language,
    Fields.required_of_lookup kind, roundTrips_text.defaulted targetFramework,
    roundTrips_text.defaulted workingDirectory, roundTrips_text.defaulted outputName,
    Fields.defaulted_of_lookup arguments, Fields.defaulted_of_lookup contents,
    Fields.defaulted_of_lookup resources, Fields.defaulted_of_lookup references,
    Fields.defaulted_of_lookup analyzers, GeneratedEntry.roundTrips.list.defaulted generated,
    Fields.defaulted_of_lookup options, roundTrips_text.reads, Language.roundTrips.reads,
    InvocationKind.roundTrips.reads, roundTrips_text.list.reads,
    ContentEntry.roundTrips.list.reads, ResourceEntry.roundTrips.list.reads,
    ReferenceEntry.roundTrips.list.reads, AnalyzerEntry.roundTrips.list.reads,
    OptionsBundle.roundTrips.reads]
  rfl

/-! ## Envelopes -/

/-- An envelope is read back as its record. -/
theorem envelope_roundTrips : RoundTrips 6 envelope ofEnvelope? := by
  refine roundTrips_fields (by decide) (fun _ => by rfl) ?_ ?_
  · intro record
    simp only [List.forall_mem_cons]
    exact ⟨fun _ _ => tidy_ofNat (by decide), roundTrips.within _, List.forall_mem_nil _⟩
  · intro record found lookups
    simp only [List.forall_mem_cons] at lookups
    rcases lookups with ⟨version, body, -⟩
    rw [Fields.required_of_lookup version, Fields.required_of_lookup body, roundTrips.reads]
    rfl

/-- The version of an envelope is the newest. -/
theorem memberNumber?_envelope
    (record : InvocationRecord) :
    record.envelope.memberNumber? "version" = some layoutVersion := by
  have first :
      List.lookup (Octets.ofText "version")
          [(Octets.ofText "version", .ofNat layoutVersion),
            (Octets.ofText "record", record.toTree)] =
        some (ofNat layoutVersion) :=
    List.lookup_cons_self
  rw [envelope, ofFields, memberNumber?]
  simp only [List.map_cons, List.map_nil, first]
  rfl

/-! ## Documents -/

/-- The document of a record is read as its envelope. -/
theorem readSettled?_encode
    (record : InvocationRecord) :
    readSettled? record.encode = some record.envelope := by
  have tidy : record.envelope.Tidy nestingLimit :=
    envelope_roundTrips.tidy record nestingLimit (by decide)
  exact tidy.readSettled? tidy.prints

/-- The record is read back from its document. -/
theorem decode_encode
    (record : InvocationRecord) :
    decode record.encode = .ok record := by
  have version := memberNumber?_envelope record
  have notNewer : ¬ layoutVersion > layoutVersion := Nat.lt_irrefl _
  rw [decode, readSettled?_encode]
  simp only [version, if_neg notNewer, envelope_roundTrips.reads]

/--
A stored record is read back: its document is read as the envelope, which passes
the version gate and holds the same record.
-/
theorem stored_record_is_read_back
    (record : InvocationRecord) :
    readSettled? record.encode = some record.envelope ∧
      record.envelope.memberNumber? "version" = some layoutVersion ∧
      decode record.encode = .ok record :=
  ⟨readSettled?_encode record, memberNumber?_envelope record, decode_encode record⟩

end InvocationRecord

end BuildCapture
