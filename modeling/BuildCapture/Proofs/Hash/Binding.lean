import BuildCapture.Proofs.Hash.Documents

/-!
# What hashes bind

An invocation hash is the digest of a document from which everything that went
into it can be read.  Records with one content hash therefore have the same
literal inputs, and records with one identity hash have the same identity view,
unless their documents are a collision of the hash function.  The content hash
sees nothing else: not the paths of a record, nor its working directory, its
arguments or the file names of its resources.
-/

namespace BuildCapture

/-! ## Digests of modules -/

section Digests

variable
  {digest otherDigest : ModuleId → Except Failure Digest}

/-- The digests of modules are found exactly if each of them is. -/
theorem moduleDigests_eq_ok_iff
    {ids : List ModuleId}
    {digests : List Digest} :
    moduleDigests digest ids = .ok digests ↔ ids.map digest = digests.map .ok := by
  induction ids generalizing digests with
  | nil => cases digests <;> simp [moduleDigests]
  | cons id rest ih =>
    rw [moduleDigests, List.map_cons]
    cases found : digest id with
    | error failure => cases digests <;> simp
    | ok first =>
      cases others : moduleDigests digest rest with
      | error failure =>
        have missing : ∀ more : List Digest, rest.map digest ≠ more.map .ok := by
          intro more same
          rw [← ih, others] at same
          cases same
        cases digests with
        | nil => simp
        | cons head more => simp [missing more]
      | ok rest' =>
        cases digests with
        | nil => simp
        | cons head more => simp [← ih, others]

/-- Modules whose digests are the same have the same digests together. -/
theorem moduleDigests_congr
    {ids others : List ModuleId}
    (same : ids.map digest = others.map otherDigest) :
    moduleDigests digest ids = moduleDigests otherDigest others := by
  induction ids generalizing others with
  | nil =>
    cases others with
    | nil => rfl
    | cons other more => simp at same
  | cons id rest ih =>
    cases others with
    | nil => simp at same
    | cons other more =>
      rw [List.map_cons, List.map_cons, List.cons.injEq] at same
      rw [moduleDigests, moduleDigests, same.1, ih same.2]

end Digests

namespace InvocationRecord

/-! ## The document of the content hash -/

/-- The document whose digest is the content hash; every module has to have a digest. -/
def contentDocument
    (record : InvocationRecord)
    (digest : ModuleId → Except Failure Digest) :
    Except Failure Octets :=
  match moduleDigests digest (record.references.map ReferenceEntry.module) with
  | .error failure => .error failure
  | .ok references =>
    match moduleDigests digest (record.analyzers.map AnalyzerEntry.module) with
    | .error failure => .error failure
    | .ok analyzers => .ok (ContentView.ofRecord record references analyzers).document

/-- The content hash is the digest of its document. -/
theorem contentHash_eq
    (record : InvocationRecord)
    (digest : ModuleId → Except Failure Digest) :
    record.contentHash digest = (record.contentDocument digest).map blake3 := by
  rw [contentHash, contentDocument]
  cases moduleDigests digest (record.references.map ReferenceEntry.module) with
  | error failure => rfl
  | ok references =>
    simp only
    cases moduleDigests digest (record.analyzers.map AnalyzerEntry.module) <;> rfl

/-- The document is that of a view with the digests of all modules. -/
theorem contentDocument_eq_ok
    {record : InvocationRecord}
    {digest : ModuleId → Except Failure Digest}
    {document : Octets}
    (written : record.contentDocument digest = .ok document) :
    ∃ references analyzers,
      record.references.map (fun entry => digest entry.module) = references.map .ok ∧
        record.analyzers.map (fun entry => digest entry.module) = analyzers.map .ok ∧
        document = (ContentView.ofRecord record references analyzers).document := by
  rw [contentDocument] at written
  split at written
  · cases written
  next references foundReferences =>
  split at written
  · cases written
  next analyzers foundAnalyzers =>
  cases written
  have referenceDigests := moduleDigests_eq_ok_iff.1 foundReferences
  have analyzerDigests := moduleDigests_eq_ok_iff.1 foundAnalyzers
  rw [List.map_map] at referenceDigests analyzerDigests
  exact ⟨references, analyzers, referenceDigests, analyzerDigests, rfl⟩

/-! ## Literal inputs -/

/-- Two records, each with a way to look up the digests of its modules, have the same inputs. -/
structure SameInputs
    (digest otherDigest : ModuleId → Except Failure Digest)
    (record other : InvocationRecord) : Prop where
  language : record.language = other.language
  kind : record.kind = other.kind
  targetFramework : record.targetFramework = other.targetFramework
  outputName : record.outputName = other.outputName
  contents :
    record.contents.map (fun entry => (entry.kind, entry.key)) =
      other.contents.map fun entry => (entry.kind, entry.key)
  resources :
    record.resources.map (fun entry => (entry.key, entry.name, entry.isPublic)) =
      other.resources.map fun entry => (entry.key, entry.name, entry.isPublic)
  references :
    record.references.map (fun entry =>
        (digest entry.module, entry.kind, entry.embedInteropTypes, entry.aliases)) =
      other.references.map fun entry =>
        (otherDigest entry.module, entry.kind, entry.embedInteropTypes, entry.aliases)
  analyzers :
    record.analyzers.map (fun entry => digest entry.module) =
      other.analyzers.map fun entry => otherDigest entry.module
  generated :
    record.generated.map (List.map GeneratedEntry.key) =
      other.generated.map (List.map GeneratedEntry.key)
  options : record.options = other.options

/-- What the view holds of references, with the digests as they are looked up. -/
theorem looked_up_references
    {digest : ModuleId → Except Failure Digest}
    {entries : List ReferenceEntry}
    {digests : List Digest}
    (found : entries.map (fun entry => digest entry.module) = digests.map .ok) :
    entries.map (fun entry =>
        (digest entry.module, entry.kind, entry.embedInteropTypes, entry.aliases)) =
      ((entries.zip digests).map fun (entry, digest) =>
        (digest, entry.kind, entry.embedInteropTypes, entry.aliases)).map fun reference =>
          (.ok reference.1, reference.2) := by
  induction entries generalizing digests with
  | nil => simp
  | cons entry rest ih =>
    cases digests with
    | nil => simp at found
    | cons first others =>
      simp only [List.map_cons, List.cons.injEq] at found
      simp only [List.map_cons, List.zip_cons_cons, found.1, ih found.2]

/-- Records with one document have the same inputs. -/
theorem sameInputs_of_document
    {record other : InvocationRecord}
    {digest otherDigest : ModuleId → Except Failure Digest}
    {document : Octets}
    (written : record.contentDocument digest = .ok document)
    (otherWritten : other.contentDocument otherDigest = .ok document) :
    SameInputs digest otherDigest record other := by
  rcases contentDocument_eq_ok written with ⟨references, analyzers, refer, analyze, here⟩
  rcases contentDocument_eq_ok otherWritten with
    ⟨otherReferences, otherAnalyzers, otherRefer, otherAnalyze, there⟩
  have view :
      ContentView.ofRecord record references analyzers =
        ContentView.ofRecord other otherReferences otherAnalyzers :=
    ContentView.document_injective (here.symm.trans there)
  rw [ContentView.ofRecord, ContentView.ofRecord, ContentView.mk.injEq] at view
  rcases view with ⟨language, kind, targetFramework, outputName, contents, resources,
    viewedReferences, viewedAnalyzers, generated, options⟩
  exact {
    language, kind, targetFramework, outputName, contents, resources, generated, options
    references := by
      rw [looked_up_references refer, looked_up_references otherRefer, viewedReferences]
    analyzers := by
      rw [analyze, otherAnalyze, viewedAnalyzers] }

/-- Records with the same inputs have one document, or none for the same reason. -/
theorem SameInputs.contentDocument_eq
    {record other : InvocationRecord}
    {digest otherDigest : ModuleId → Except Failure Digest}
    (same : SameInputs digest otherDigest record other) :
    record.contentDocument digest = other.contentDocument otherDigest := by
  have referenced := congrArg (List.map Prod.fst) same.references
  have analyzed := same.analyzers
  have referenceDigests :
      moduleDigests digest (record.references.map ReferenceEntry.module) =
        moduleDigests otherDigest (other.references.map ReferenceEntry.module) := by
    apply moduleDigests_congr
    simpa only [List.map_map, Function.comp_def] using referenced
  have analyzerDigests :
      moduleDigests digest (record.analyzers.map AnalyzerEntry.module) =
        moduleDigests otherDigest (other.analyzers.map AnalyzerEntry.module) := by
    apply moduleDigests_congr
    simpa only [List.map_map, Function.comp_def] using analyzed
  -- What the view holds of a reference apart from its digest does not depend on the lookup.
  have zipped :
      ∀ digests : List Digest,
        (record.references.zip digests).map (fun (entry, digest) =>
            (digest, entry.kind, entry.embedInteropTypes, entry.aliases)) =
          (other.references.zip digests).map fun (entry, digest) =>
            (digest, entry.kind, entry.embedInteropTypes, entry.aliases) := by
    intro digests
    have rest := congrArg (fun references => (references.map Prod.snd).zip digests) same.references
    have swapped := congrArg (List.map fun pair => (pair.2, pair.1)) rest
    simpa only [List.map_map, List.zip_map_left, Function.comp_def, Prod.map, id] using swapped
  have generated :
      (record.generated.map fun entries => entries.map GeneratedEntry.key) =
        other.generated.map fun entries => entries.map GeneratedEntry.key :=
    same.generated
  unfold contentDocument
  rw [referenceDigests, analyzerDigests]
  simp only [ContentView.ofRecord, same.language, same.kind, same.targetFramework,
    same.outputName, same.contents, same.resources, same.options, generated, zipped]

/-! ## Places -/

/-- The record without what says where things were and how the compiler was called. -/
def withoutPlaces
    (record : InvocationRecord) :
    InvocationRecord :=
  { record with
    projectPath := ""
    workingDirectory := none
    arguments := []
    contents := record.contents.map fun entry => { entry with path := "" }
    resources := record.resources.map fun entry => { entry with fileName := none }
    references := record.references.map fun entry => { entry with path := "" }
    analyzers := record.analyzers.map fun entry => { entry with path := "" }
    generated := record.generated.map (List.map fun entry => { entry with path := "" }) }

/-- A record has the same inputs wherever they are. -/
theorem sameInputs_withoutPlaces
    (record : InvocationRecord)
    (digest : ModuleId → Except Failure Digest) :
    SameInputs digest digest record record.withoutPlaces where
  language := rfl
  kind := rfl
  targetFramework := rfl
  outputName := rfl
  contents := by simp [withoutPlaces, Function.comp_def]
  resources := by simp [withoutPlaces, Function.comp_def]
  references := by simp [withoutPlaces, Function.comp_def]
  analyzers := by simp [withoutPlaces, Function.comp_def]
  generated := by
    rw [withoutPlaces, Option.map_map]
    congr 1
    funext entries
    simp [Function.comp_def]
  options := rfl

/-! ## Hashes -/

/--
Hashes say what they were made of.  One content hash means the same literal
inputs and one identity hash means the same identity view, unless the documents
behind the hashes are a collision of the hash function; and the content hash of
a record is the same for all records with its inputs, in particular for those
that differ from it only in places.
-/
theorem hashes_bind_their_inputs :
    (∀ record other digest otherDigest hash,
      contentHash record digest = .ok hash → contentHash other otherDigest = .ok hash →
        SameInputs digest otherDigest record other ∨
          ∃ document otherDocument,
            record.contentDocument digest = .ok document ∧
              other.contentDocument otherDigest = .ok otherDocument ∧
              Collide document otherDocument) ∧
      (∀ record other : InvocationRecord, record.identityHash = other.identityHash →
        IdentityView.ofRecord record = IdentityView.ofRecord other ∨
          Collide (IdentityView.ofRecord record).document
            (IdentityView.ofRecord other).document) ∧
      (∀ record other digest otherDigest, SameInputs digest otherDigest record other →
        contentHash record digest = contentHash other otherDigest) ∧
      ∀ record other digest, record.withoutPlaces = other.withoutPlaces →
        contentHash record digest = contentHash other digest := by
  have determined :
      ∀ record other digest otherDigest, SameInputs digest otherDigest record other →
        contentHash record digest = contentHash other otherDigest := by
    intro record other digest otherDigest same
    rw [contentHash_eq, contentHash_eq, same.contentDocument_eq]
  refine ⟨?_, ?_, determined, ?_⟩
  · intro record other digest otherDigest hash here there
    rw [contentHash_eq] at here there
    cases written : record.contentDocument digest with
    | error failure =>
      rw [written] at here
      cases here
    | ok document =>
      cases otherWritten : other.contentDocument otherDigest with
      | error failure =>
        rw [otherWritten] at there
        cases there
      | ok otherDocument =>
        rw [written] at here
        rw [otherWritten, ← here] at there
        by_cases same : document = otherDocument
        · subst same
          exact Or.inl (sameInputs_of_document written otherWritten)
        · exact Or.inr ⟨document, otherDocument, rfl, rfl, same, (Except.ok.inj there).symm⟩
  · intro record other same
    by_cases view : IdentityView.ofRecord record = IdentityView.ofRecord other
    · exact Or.inl view
    · exact Or.inr ((identityHash_ne_or_collide view).resolve_left (not_not_intro same))
  · intro record other digest same
    calc
      contentHash record digest = contentHash record.withoutPlaces digest :=
        determined _ _ _ _ (record.sameInputs_withoutPlaces digest)
      _ = contentHash other.withoutPlaces digest := by rw [same]
      _ = contentHash other digest :=
        (determined _ _ _ _ (other.sameInputs_withoutPlaces digest)).symm

end InvocationRecord

/-! ## A build in two places -/

namespace TwoPlaces

open InvocationRecord

/-- A key that both builds use. -/
def key : ContentKey := .repeating 1

/-- The module that both builds reference. -/
def moduleId : ModuleId := .repeating 7

/-- Every module has the same digest. -/
def digest : ModuleId → Except Failure Digest :=
  fun _ => .ok (Vector.replicate 32 2)

/-- A build whose generators ran and produced nothing. -/
def here : InvocationRecord where
  projectPath := "/p/a.csproj"
  language := .csharp
  kind := .regular
  contents := [⟨.source, key, "/p/a.cs"⟩]
  resources := [⟨key, "r", some "r.bin", true⟩]
  references := [⟨moduleId, .assembly, false, ["x"], "/sdk/core.dll"⟩]
  generated := some []

/-- The same build elsewhere, called with arguments. -/
def there : InvocationRecord :=
  { here with
    projectPath := "q\\a.csproj"
    workingDirectory := some "q"
    arguments := ["/nologo"]
    contents := [⟨.source, key, "q\\a.cs"⟩]
    resources := [⟨key, "r", none, true⟩]
    references := [⟨moduleId, .assembly, false, ["x"], "core.dll"⟩] }

/-- The build with generators that did not run. -/
def silent : InvocationRecord :=
  { here with generated := none }

/--
The content hash does not tell the places apart and means the same inputs there;
it tells a build without generators from one whose generators produced nothing.
-/
theorem hashes_of_two_places :
    contentHash here digest = contentHash there digest ∧
      (∃ hash, contentHash here digest = .ok hash ∧ contentHash there digest = .ok hash) ∧
      (SameInputs digest digest here there ∨
        ∃ document otherDocument,
          here.contentDocument digest = .ok document ∧
            there.contentDocument digest = .ok otherDocument ∧
            Collide document otherDocument) ∧
      (here.identityHash = silent.identityHash →
        Collide (IdentityView.ofRecord here).document (IdentityView.ofRecord silent).document) := by
  rcases InvocationRecord.hashes_bind_their_inputs with ⟨bind, views, -, places⟩
  have same : contentHash here digest = contentHash there digest := places here there digest rfl
  obtain ⟨hash, hashed⟩ : ∃ hash, contentHash here digest = .ok hash := ⟨_, rfl⟩
  have hashedToo : contentHash there digest = .ok hash := same ▸ hashed
  refine ⟨same, ⟨hash, hashed, hashedToo⟩, bind _ _ _ _ hash hashed hashedToo, ?_⟩
  intro equal
  apply (views here silent equal).resolve_left
  intro view
  cases congrArg IdentityView.generated view

end TwoPlaces

end BuildCapture
