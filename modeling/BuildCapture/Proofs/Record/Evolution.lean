import BuildCapture.Proofs.Json.Evolution
import BuildCapture.Record.Codec

/-!
# Records that evolve

The document of a record is made of nine kinds of structures, and an envelope
around them.  Members that are no fields may be added to any of them without an
effect on the record.  A member whose field has a default may be taken away;
then the record is the same but for this field, which is at its default.  Both
hold at every place of a document and for any number of changes, so documents
of earlier and of later versions are read.
-/

namespace BuildCapture

open Json Json.Tree

/-! ## Entries -/

namespace ContentEntry

/-- All fields of a content input have to be there. -/
def layout : Layout ContentEntry :=
  .flat ["kind", "key", "path"] ofTree? [] fun _ => id

theorem lawful_layout : layout.Lawful :=
  Layout.lawful_flat (by decide) nofun ⟨_, fun _ => rfl⟩ fun _ _ nothing =>
    absurd nothing List.not_mem_nil

end ContentEntry

namespace ResourceEntry

/-- A resource with one of its fields at its default. -/
def without
    (lost : String)
    (entry : ResourceEntry) :
    ResourceEntry :=
  { entry with fileName := if lost = "file_name" then none else entry.fileName }

/-- The file name of a resource may be missing. -/
def layout : Layout ResourceEntry :=
  .flat ["key", "name", "file_name", "is_public"] ofTree? ["file_name"] without

theorem lawful_layout : layout.Lawful := by
  refine Layout.lawful_flat (by decide) (by decide) ⟨_, fun _ => rfl⟩ ?_
  intro before after fields later name here there removable lost
  cases List.mem_singleton.1 removable
  refine .found here there ?_
  refine (lost.required_other (by decide)).bind fun _ => ?_
  refine (lost.required_other (by decide)).bind fun _ => ?_
  refine lost.defaulted.bind fun _ => ?_
  refine (lost.required_other (by decide)).bind fun _ => ?_
  exact follows_pure rfl

end ResourceEntry

namespace ReferenceEntry

/-- A reference with one of its fields at its default. -/
def without
    (lost : String)
    (entry : ReferenceEntry) :
    ReferenceEntry :=
  { entry with
    embedInteropTypes := if lost = "embed_interop_types" then false else entry.embedInteropTypes
    aliases := if lost = "aliases" then [] else entry.aliases }

/-- What a reference embeds and its aliases may be missing. -/
def layout : Layout ReferenceEntry :=
  .flat ["module", "kind", "embed_interop_types", "aliases", "path"] ofTree?
    ["embed_interop_types", "aliases"] without

theorem lawful_layout : layout.Lawful := by
  refine Layout.lawful_flat (by decide) (by decide) ⟨_, fun _ => rfl⟩ ?_
  intro before after fields later name here there removable lost
  have apart : ∀ name ∈ ["embed_interop_types", "aliases"],
      name ≠ "module" ∧ name ≠ "kind" ∧ name ≠ "path" := by
    decide
  rcases apart name removable with ⟨noModule, noKind, noPath⟩
  refine .found here there ?_
  refine (lost.required_other noModule).bind fun _ => ?_
  refine (lost.required_other noKind).bind fun _ => ?_
  iterate 2 refine lost.defaulted.bind fun _ => ?_
  refine (lost.required_other noPath).bind fun _ => ?_
  exact follows_pure rfl

end ReferenceEntry

namespace AnalyzerEntry

/-- All fields of an analyzer module have to be there. -/
def layout : Layout AnalyzerEntry :=
  .flat ["module", "path"] ofTree? [] fun _ => id

theorem lawful_layout : layout.Lawful :=
  Layout.lawful_flat (by decide) nofun ⟨_, fun _ => rfl⟩ fun _ _ nothing =>
    absurd nothing List.not_mem_nil

end AnalyzerEntry

namespace GeneratedEntry

/-- All fields of a generated text have to be there. -/
def layout : Layout GeneratedEntry :=
  .flat ["key", "path"] ofTree? [] fun _ => id

theorem lawful_layout : layout.Lawful :=
  Layout.lawful_flat (by decide) nofun ⟨_, fun _ => rfl⟩ fun _ _ nothing =>
    absurd nothing List.not_mem_nil

end GeneratedEntry

/-! ## Options -/

namespace CompilationOptions

/-- The options with one of them at its default. -/
def without
    (lost : String)
    (options : CompilationOptions) :
    CompilationOptions where
  outputKind := if lost = "output_kind" then 0 else options.outputKind
  optimizationLevel := if lost = "optimization_level" then 0 else options.optimizationLevel
  platform := if lost = "platform" then 0 else options.platform
  moduleName := if lost = "module_name" then none else options.moduleName
  mainTypeName := if lost = "main_type_name" then none else options.mainTypeName
  scriptClassName := if lost = "script_class_name" then none else options.scriptClassName
  allowUnsafe := if lost = "allow_unsafe" then false else options.allowUnsafe
  checkOverflow := if lost = "check_overflow" then false else options.checkOverflow
  concurrentBuild := if lost = "concurrent_build" then false else options.concurrentBuild
  deterministic := if lost = "deterministic" then false else options.deterministic
  nullableContext := if lost = "nullable_context" then 0 else options.nullableContext
  warningLevel := if lost = "warning_level" then 0 else options.warningLevel
  generalDiagnosticOption :=
    if lost = "general_diagnostic_option" then 0 else options.generalDiagnosticOption
  specificDiagnosticOptions :=
    if lost = "specific_diagnostic_options" then .empty else options.specificDiagnosticOptions
  cryptoKeyContainer := if lost = "crypto_key_container" then none else options.cryptoKeyContainer
  cryptoKeyFile := if lost = "crypto_key_file" then none else options.cryptoKeyFile
  delaySign := if lost = "delay_sign" then none else options.delaySign
  publicSign := if lost = "public_sign" then false else options.publicSign
  usings := if lost = "usings" then [] else options.usings

/-- Any of the options may be missing. -/
def layout : Layout CompilationOptions :=
  .flat fieldNames ofTree? fieldNames without

theorem lawful_layout : layout.Lawful := by
  refine Layout.lawful_flat (by decide) (fun _ => id) ⟨_, fun _ => rfl⟩ ?_
  intro before after fields later name here there _ lost
  refine .found here there ?_
  iterate 19 refine lost.defaulted.bind fun _ => ?_
  exact follows_pure rfl

end CompilationOptions

namespace ParseOptions

/-- The options with one of them at its default. -/
def without
    (lost : String)
    (options : ParseOptions) :
    ParseOptions where
  languageVersion := if lost = "language_version" then 0 else options.languageVersion
  documentationMode := if lost = "documentation_mode" then 0 else options.documentationMode
  sourceKind := if lost = "source_kind" then 0 else options.sourceKind
  preprocessorSymbols := if lost = "preprocessor_symbols" then [] else options.preprocessorSymbols
  features := if lost = "features" then .empty else options.features

/-- Any of the options may be missing. -/
def layout : Layout ParseOptions :=
  .flat fieldNames ofTree? fieldNames without

theorem lawful_layout : layout.Lawful := by
  refine Layout.lawful_flat (by decide) (fun _ => id) ⟨_, fun _ => rfl⟩ ?_
  intro before after fields later name here there _ lost
  refine .found here there ?_
  iterate 5 refine lost.defaulted.bind fun _ => ?_
  exact follows_pure rfl

end ParseOptions

namespace EmitOptions

/-- The options with one of them at its default. -/
def without
    (lost : String)
    (options : EmitOptions) :
    EmitOptions where
  debugInformationFormat :=
    if lost = "debug_information_format" then 0 else options.debugInformationFormat
  checksumAlgorithm := if lost = "checksum_algorithm" then 0 else options.checksumAlgorithm
  emitMetadataOnly := if lost = "emit_metadata_only" then false else options.emitMetadataOnly
  includePrivateMembers :=
    if lost = "include_private_members" then false else options.includePrivateMembers
  highEntropyVirtualAddressSpace :=
    if lost = "high_entropy_virtual_address_space" then false
    else options.highEntropyVirtualAddressSpace
  fileAlignment := if lost = "file_alignment" then 0 else options.fileAlignment
  baseAddress := if lost = "base_address" then 0 else options.baseAddress
  pdbFilePath := if lost = "pdb_file_path" then none else options.pdbFilePath
  outputNameOverride := if lost = "output_name_override" then none else options.outputNameOverride
  subsystemVersion := if lost = "subsystem_version" then none else options.subsystemVersion
  runtimeMetadataVersion :=
    if lost = "runtime_metadata_version" then none else options.runtimeMetadataVersion
  defaultSourceFileEncoding :=
    if lost = "default_source_file_encoding" then none else options.defaultSourceFileEncoding
  instrumentationKinds :=
    if lost = "instrumentation_kinds" then [] else options.instrumentationKinds

/-- Any of the options may be missing. -/
def layout : Layout EmitOptions :=
  .flat fieldNames ofTree? fieldNames without

theorem lawful_layout : layout.Lawful := by
  refine Layout.lawful_flat (by decide) (fun _ => id) ⟨_, fun _ => rfl⟩ ?_
  intro before after fields later name here there _ lost
  refine .found here there ?_
  iterate 13 refine lost.defaulted.bind fun _ => ?_
  exact follows_pure rfl

end EmitOptions

namespace OptionsBundle

/-- The bundle with one of its parts at its default. -/
def without
    (lost : String)
    (options : OptionsBundle) :
    OptionsBundle where
  compilation := if lost = "compilation" then {} else options.compilation
  parse := if lost = "parse" then {} else options.parse
  emit := if lost = "emit" then {} else options.emit

/-- A part of the bundle changes. -/
inductive Inside : Alteration → String → Tree → Tree → (OptionsBundle → OptionsBundle) → Prop
  | compilation {kind : Alteration} {before after : Tree}
      {change : CompilationOptions → CompilationOptions}
      (within : CompilationOptions.layout.Evolves kind before after change) :
      Inside kind "compilation" before after fun options =>
        { options with compilation := change options.compilation }
  | parse {kind : Alteration} {before after : Tree} {change : ParseOptions → ParseOptions}
      (within : ParseOptions.layout.Evolves kind before after change) :
      Inside kind "parse" before after fun options =>
        { options with parse := change options.parse }
  | emit {kind : Alteration} {before after : Tree} {change : EmitOptions → EmitOptions}
      (within : EmitOptions.layout.Evolves kind before after change) :
      Inside kind "emit" before after fun options =>
        { options with emit := change options.emit }

/-- Any part of the bundle may be missing, and each is a structure. -/
def layout : Layout OptionsBundle where
  names := fieldNames
  ofTree? := ofTree?
  removable := fieldNames
  without := without
  inside := Inside

theorem lawful_layout : layout.Lawful where
  distinct := by decide
  listed _ := id
  reads := ⟨_, fun _ => rfl⟩
  lost := by
    intro before after fields later name here there _ lost
    refine .found here there ?_
    iterate 3 refine lost.defaulted.bind fun _ => ?_
    exact follows_pure rfl
  replaced := by
    intro before after fields later kind name old new change here there within replaced
    refine .found here there ?_
    cases within with
    | compilation within =>
      refine (replaced.defaulted (CompilationOptions.lawful_layout.follows within)).bind fun _ => ?_
      iterate 2 refine (replaced.defaulted_other (by decide)).bind fun _ => ?_
      exact follows_pure rfl
    | parse within =>
      refine (replaced.defaulted_other (by decide)).bind fun _ => ?_
      refine (replaced.defaulted (ParseOptions.lawful_layout.follows within)).bind fun _ => ?_
      refine (replaced.defaulted_other (by decide)).bind fun _ => ?_
      exact follows_pure rfl
    | emit within =>
      iterate 2 refine (replaced.defaulted_other (by decide)).bind fun _ => ?_
      refine (replaced.defaulted (EmitOptions.lawful_layout.follows within)).bind fun _ => ?_
      exact follows_pure rfl
  quiet := by
    intro name old new change within options
    cases within with
    | compilation within => simp only [CompilationOptions.lawful_layout.eq_of_addition within]
    | parse within => simp only [ParseOptions.lawful_layout.eq_of_addition within]
    | emit within => simp only [EmitOptions.lawful_layout.eq_of_addition within]

end OptionsBundle

/-! ## Records -/

namespace InvocationRecord

/-- The record with one of its fields at its default. -/
def without
    (lost : String)
    (record : InvocationRecord) :
    InvocationRecord :=
  { record with
    targetFramework := if lost = "target_framework" then none else record.targetFramework
    workingDirectory := if lost = "working_directory" then none else record.workingDirectory
    outputName := if lost = "output_name" then none else record.outputName
    arguments := if lost = "arguments" then [] else record.arguments
    contents := if lost = "contents" then [] else record.contents
    resources := if lost = "resources" then [] else record.resources
    references := if lost = "references" then [] else record.references
    analyzers := if lost = "analyzers" then [] else record.analyzers
    generated := if lost = "generated" then none else record.generated
    options := if lost = "options" then {} else record.options }

/-- The fields of a record that may be missing: all but project, language and kind. -/
def removable : List String :=
  fieldNames.drop 3

/-- An entry or the options of a record change. -/
inductive Inside : Alteration → String → Tree → Tree → (InvocationRecord → InvocationRecord) → Prop
  | contents {kind : Alteration} {before after : Tree}
      {change : List ContentEntry → List ContentEntry}
      (within : ItemEvolves ContentEntry.layout.Evolves kind before after change) :
      Inside kind "contents" before after fun record =>
        { record with contents := change record.contents }
  | resources {kind : Alteration} {before after : Tree}
      {change : List ResourceEntry → List ResourceEntry}
      (within : ItemEvolves ResourceEntry.layout.Evolves kind before after change) :
      Inside kind "resources" before after fun record =>
        { record with resources := change record.resources }
  | references {kind : Alteration} {before after : Tree}
      {change : List ReferenceEntry → List ReferenceEntry}
      (within : ItemEvolves ReferenceEntry.layout.Evolves kind before after change) :
      Inside kind "references" before after fun record =>
        { record with references := change record.references }
  | analyzers {kind : Alteration} {before after : Tree}
      {change : List AnalyzerEntry → List AnalyzerEntry}
      (within : ItemEvolves AnalyzerEntry.layout.Evolves kind before after change) :
      Inside kind "analyzers" before after fun record =>
        { record with analyzers := change record.analyzers }
  | generated {kind : Alteration} {before after : Tree}
      {change : List GeneratedEntry → List GeneratedEntry}
      (within : ItemEvolves GeneratedEntry.layout.Evolves kind before after change) :
      Inside kind "generated" before after fun record =>
        { record with generated := record.generated.map change }
  | options {kind : Alteration} {before after : Tree} {change : OptionsBundle → OptionsBundle}
      (within : OptionsBundle.layout.Evolves kind before after change) :
      Inside kind "options" before after fun record =>
        { record with options := change record.options }

/-- Records have entries in lists, and options. -/
def layout : Layout InvocationRecord where
  names := fieldNames
  ofTree? := ofTree?
  removable := removable
  without := without
  inside := Inside

theorem lawful_layout : layout.Lawful where
  distinct := by decide
  listed _ := List.mem_of_mem_drop
  reads := ⟨_, fun _ => rfl⟩
  lost := by
    intro before after fields later name here there listed lost
    have apart : ∀ name ∈ removable,
        name ≠ "project_path" ∧ name ≠ "language" ∧ name ≠ "kind" := by
      decide
    rcases apart name listed with ⟨noPath, noLanguage, noKind⟩
    refine .found here there ?_
    refine (lost.required_other noPath).bind fun _ => ?_
    refine (lost.required_other noLanguage).bind fun _ => ?_
    refine (lost.required_other noKind).bind fun _ => ?_
    iterate 10 refine lost.defaulted.bind fun _ => ?_
    exact follows_pure rfl
  replaced := by
    intro before after fields later kind name old new change here there within replaced
    refine .found here there ?_
    cases within with
    | contents within =>
      iterate 3 refine (replaced.required_other (by decide)).bind fun _ => ?_
      iterate 4 refine (replaced.defaulted_other (by decide)).bind fun _ => ?_
      refine (replaced.defaulted (within.follows ContentEntry.lawful_layout.follows)).bind
        fun _ => ?_
      iterate 5 refine (replaced.defaulted_other (by decide)).bind fun _ => ?_
      exact follows_pure rfl
    | resources within =>
      iterate 3 refine (replaced.required_other (by decide)).bind fun _ => ?_
      iterate 5 refine (replaced.defaulted_other (by decide)).bind fun _ => ?_
      refine (replaced.defaulted (within.follows ResourceEntry.lawful_layout.follows)).bind
        fun _ => ?_
      iterate 4 refine (replaced.defaulted_other (by decide)).bind fun _ => ?_
      exact follows_pure rfl
    | references within =>
      iterate 3 refine (replaced.required_other (by decide)).bind fun _ => ?_
      iterate 6 refine (replaced.defaulted_other (by decide)).bind fun _ => ?_
      refine (replaced.defaulted (within.follows ReferenceEntry.lawful_layout.follows)).bind
        fun _ => ?_
      iterate 3 refine (replaced.defaulted_other (by decide)).bind fun _ => ?_
      exact follows_pure rfl
    | analyzers within =>
      iterate 3 refine (replaced.required_other (by decide)).bind fun _ => ?_
      iterate 7 refine (replaced.defaulted_other (by decide)).bind fun _ => ?_
      refine (replaced.defaulted (within.follows AnalyzerEntry.lawful_layout.follows)).bind
        fun _ => ?_
      iterate 2 refine (replaced.defaulted_other (by decide)).bind fun _ => ?_
      exact follows_pure rfl
    | generated within =>
      iterate 3 refine (replaced.required_other (by decide)).bind fun _ => ?_
      iterate 8 refine (replaced.defaulted_other (by decide)).bind fun _ => ?_
      refine (replaced.defaulted (within.option GeneratedEntry.lawful_layout.follows)).bind
        fun _ => ?_
      refine (replaced.defaulted_other (by decide)).bind fun _ => ?_
      exact follows_pure rfl
    | options within =>
      iterate 3 refine (replaced.required_other (by decide)).bind fun _ => ?_
      iterate 9 refine (replaced.defaulted_other (by decide)).bind fun _ => ?_
      refine (replaced.defaulted (OptionsBundle.lawful_layout.follows within)).bind fun _ => ?_
      exact follows_pure rfl
  quiet := by
    intro name old new change within record
    cases within with
    | contents within =>
      simp only [within.eq_of_addition ContentEntry.lawful_layout.eq_of_addition]
    | resources within =>
      simp only [within.eq_of_addition ResourceEntry.lawful_layout.eq_of_addition]
    | references within =>
      simp only [within.eq_of_addition ReferenceEntry.lawful_layout.eq_of_addition]
    | analyzers within =>
      simp only [within.eq_of_addition AnalyzerEntry.lawful_layout.eq_of_addition]
    | @generated _ _ change within =>
      have nothing : change = id :=
        funext (within.eq_of_addition GeneratedEntry.lawful_layout.eq_of_addition)
      simp only [nothing, Option.map_id, id]
    | options within => simp only [OptionsBundle.lawful_layout.eq_of_addition within]

/-! ## Envelopes -/

/-- The record in an envelope changes. -/
inductive InEnvelope :
    Alteration → String → Tree → Tree → (InvocationRecord → InvocationRecord) → Prop
  | record {kind : Alteration} {before after : Tree} {change : InvocationRecord → InvocationRecord}
      (within : layout.Evolves kind before after change) :
      InEnvelope kind "record" before after change

/-- The version of an envelope and its record have to be there. -/
def envelopeLayout : Layout InvocationRecord where
  names := ["version", "record"]
  ofTree? := ofEnvelope?
  removable := []
  without _ := id
  inside := InEnvelope

theorem lawful_envelopeLayout : envelopeLayout.Lawful where
  distinct := by decide
  listed := nofun
  reads := ⟨_, fun _ => rfl⟩
  lost _ _ nothing := absurd nothing List.not_mem_nil
  replaced := by
    intro before after fields later kind name old new change here there within replaced
    cases within with
    | record within =>
      refine .found here there ?_
      refine (replaced.required_other (by decide)).bind fun _ => ?_
      exact replaced.required (lawful_layout.follows within)
  quiet := by
    intro name old new change within
    cases within with
    | record within => exact lawful_layout.eq_of_addition within

/-- The record that the tree of a document holds, if its version is known. -/
def ofValue
    (tree : Tree) :
    Except Failure InvocationRecord :=
  match tree.memberNumber? "version" with
  | none => .error (.corrupt .unversionedRecord)
  | some version =>
    if version > layoutVersion then
      .error (.invalidFormat (.newerRecord version))
    else
      match ofEnvelope? tree with
      | none => .error (.corrupt (.malformed .record))
      | some record => .ok record

/-- A document that has a tree holds the record of the tree. -/
theorem decode_of_readSettled?
    {document : Octets}
    {tree : Tree}
    (reading : Tree.readSettled? document = some tree) :
    decode document = ofValue tree := by
  rw [decode, reading]
  rfl

theorem ofValue_eq_ok_iff
    {tree : Tree}
    {record : InvocationRecord} :
    ofValue tree = .ok record ↔
      (∃ version, tree.memberNumber? "version" = some version ∧ version ≤ layoutVersion) ∧
        ofEnvelope? tree = some record := by
  rw [ofValue]
  cases tree.memberNumber? "version" with
  | none => simp
  | some version =>
    by_cases newer : version > layoutVersion
    · simp [newer]
    · cases ofEnvelope? tree <;> simp [newer, Nat.le_of_not_lt newer]

/-- A member with another key does not matter to a lookup. -/
theorem lookup_skip
    {key other : String}
    (different : key ≠ other)
    {front back : List (Octets × Tree)}
    (value : Tree) :
    List.lookup (Octets.ofText other) (front ++ (Octets.ofText key, value) :: back) =
      List.lookup (Octets.ofText other) (front ++ back) := by
  have skipped : (Octets.ofText other == Octets.ofText key) = false :=
    beq_false_of_ne fun same => different (Octets.ofText_injective same).symm
  rw [List.lookup_append, List.lookup_append, List.lookup_cons, skipped]

/-- No change of an envelope changes its version. -/
theorem version_of_evolves
    {kind : Alteration}
    {before after : Tree}
    {change : InvocationRecord → InvocationRecord}
    (evolves : envelopeLayout.Evolves kind before after change) :
    after.memberNumber? "version" = before.memberNumber? "version" := by
  cases evolves with
  | insert unknown value =>
    have different := List.ne_of_not_mem_cons unknown
    rw [Tree.memberNumber?, Tree.memberNumber?, lookup_skip different]
  | remove nothing => cases nothing
  | member known within =>
    cases within with
    | record within =>
      have different : "record" ≠ "version" := by decide
      rw [Tree.memberNumber?, Tree.memberNumber?, lookup_skip different, lookup_skip different]
  | item place within => rfl

/-- What a change does to an envelope, it does to the record that is decoded. -/
theorem ofValue_of_evolves
    {kind : Alteration}
    {before after : Tree}
    {change : InvocationRecord → InvocationRecord}
    (evolves : envelopeLayout.Evolves kind before after change)
    {record : InvocationRecord}
    (decoding : ofValue before = .ok record) :
    ofValue after = .ok (change record) := by
  rcases ofValue_eq_ok_iff.1 decoding with ⟨known, holds⟩
  refine ofValue_eq_ok_iff.2 ⟨?_, lawful_envelopeLayout.follows evolves record holds⟩
  rw [version_of_evolves evolves]
  exact known

/-- What any number of changes do to an envelope, they do to the record that is decoded. -/
theorem ofValue_of_run
    {kinds : List Alteration}
    {before after : Tree}
    {change : InvocationRecord → InvocationRecord}
    (run : envelopeLayout.Run kinds before after change)
    {record : InvocationRecord}
    (decoding : ofValue before = .ok record) :
    ofValue after = .ok (change record) := by
  induction run with
  | start tree => exact decoding
  | step run evolves ih => exact ofValue_of_evolves evolves (ih decoding)

/--
A document is decoded by its tree, and the decoder follows every course of
changes of the tree, at any number of places.  Members that are no fields do
not change the record; a member that is taken away leaves its field at the
default and everything else as it is.
-/
theorem evolved_record_is_decoded :
    (∀ {document : Octets} {tree : Tree},
      Tree.readSettled? document = some tree → decode document = ofValue tree) ∧
      ∀ {kinds : List Alteration} {before after : Tree}
        {change : InvocationRecord → InvocationRecord} {record : InvocationRecord},
        envelopeLayout.Run kinds before after change → ofValue before = .ok record →
          ofValue after = .ok (change record) ∧
            ((∀ kind ∈ kinds, kind = .addition) → ofValue after = .ok record) := by
  refine ⟨decode_of_readSettled?, ?_⟩
  intro kinds before after change record run decoding
  have decoded := ofValue_of_run run decoding
  refine ⟨decoded, fun additions => ?_⟩
  rw [decoded, lawful_envelopeLayout.eq_of_additions run additions]

end InvocationRecord

/-! ## A document of another version -/

namespace OtherVersion

/-- The members that a record has to have. -/
def needed : List (Octets × Tree) := [
  (Octets.ofText "project_path", .ofText "p"),
  (Octets.ofText "language", .ofText "csharp"),
  (Octets.ofText "kind", .ofText "satellite")]

/-- A document whose record has these members and some more. -/
def document
    (more : List (Octets × Tree)) :
    Tree :=
  .object ([(Octets.ofText "version", .ofNat 1)] ++
    (Octets.ofText "record", .object (needed ++ more)) :: [])

/-- An earlier document, with arguments. -/
def earlier : Tree :=
  document ((Octets.ofText "arguments", .ofList .ofText ["x"]) :: [])

/-- A later document, without arguments and with a member that is no field. -/
def later : Tree :=
  document ((Octets.ofText "future_field", .object []) :: [])

/-- The record of the earlier document. -/
def record : InvocationRecord where
  projectPath := "p"
  language := .csharp
  kind := .satellite
  arguments := ["x"]

/-- The later document is decoded as the record without its arguments. -/
theorem later_document_is_decoded :
    InvocationRecord.ofValue earlier = .ok record ∧
      InvocationRecord.ofValue later = .ok { record with arguments := [] } := by
  have decoded : InvocationRecord.ofValue earlier = .ok record := by rfl
  have removal : InvocationRecord.envelopeLayout.Evolves .removal earlier (document [])
      (InvocationRecord.layout.without "arguments") :=
    .member (by decide) (.record (.remove (by decide)))
  have addition : InvocationRecord.envelopeLayout.Evolves .addition (document []) later id :=
    .member (by decide) (.record (.insert (by decide) _))
  have run := ((Layout.Run.start earlier).step removal).step addition
  exact ⟨decoded, (InvocationRecord.evolved_record_is_decoded.2 run decoded).1⟩

end OtherVersion

end BuildCapture
