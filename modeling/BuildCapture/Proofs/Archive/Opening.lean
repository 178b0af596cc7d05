import BuildCapture.Archive
import BuildCapture.Proofs.Archive.Documents
import BuildCapture.Proofs.Archive.Names
import BuildCapture.Proofs.Container.Opening
import Mathlib.Data.List.Perm.Subperm

/-!
# Opening archives

A container opens as an archive exactly if it serves a manifest, the records
that the manifest counts, an index of stored modules and the diagnostics.  The
archive then describes each module as the index does.

The records are looked for one by one, but never more of them than the
container has entries: their names are different, so with one more some record
would be missing anyhow.
-/

namespace BuildCapture

namespace Archive

/-! ## Modules -/

theorem mem_insertModule
    {info other : ModuleInfo}
    {known : List ModuleInfo}
    (member : other ∈ insertModule info known) :
    other = info ∨ other ∈ known := by
  induction known with
  | nil => exact Or.inl (List.mem_singleton.1 member)
  | cons first rest ih =>
    rw [insertModule] at member
    split at member
    · rcases List.mem_cons.1 member with here | later
      · exact Or.inl here
      · exact Or.inr (List.mem_cons_of_mem _ later)
    · split at member
      · exact List.mem_cons.1 member
      · rcases List.mem_cons.1 member with here | later
        · rw [here]
          exact Or.inr List.mem_cons_self
        · rcases ih later with new | old
          · exact Or.inl new
          · exact Or.inr (List.mem_cons_of_mem _ old)

/-- The module with an identity after one more was put among others. -/
theorem find?_insertModule
    (info : ModuleInfo)
    (known : List ModuleInfo)
    (id : ModuleId) :
    (insertModule info known).find? (fun other => other.id == id) =
      if info.id = id then some info else known.find? fun other => other.id == id := by
  induction known with
  | nil =>
    rw [insertModule, List.find?_singleton]
    by_cases same : info.id = id
    · simp [same]
    · simp [same]
  | cons first rest ih =>
    rw [insertModule]
    by_cases same : info.id = id
    · rw [if_pos same]
      split
      · simp [same]
      · next different =>
        split
        · simp [same]
        · have other : ¬ first.id = id := by
            intro here
            exact different (same.trans here.symm)
          rw [if_pos same] at ih
          simp [other, ih]
    · rw [if_neg same] at ih ⊢
      split
      · next taken =>
        have other : ¬ first.id = id := fun here => same (taken.trans here)
        simp [same, other]
      · split
        · simp [same]
        · simp only [List.find?_cons, ih]

/-- The modules that an index lists are stored. -/
theorem contains_of_addModules
    {container : Container}
    {known infos modules : List ModuleInfo}
    (adding : addModules container known infos = .ok modules)
    {info : ModuleInfo}
    (member : info ∈ modules) :
    info ∈ known ∨ container.contains info.id.entryName = true := by
  induction infos generalizing known with
  | nil =>
    cases adding
    exact Or.inl member
  | cons first rest ih =>
    rw [addModules] at adding
    split at adding
    · next stored =>
      rcases ih adding with inserted | later
      · rcases mem_insertModule inserted with rfl | earlier
        · exact Or.inr stored
        · exact Or.inl earlier
      · exact Or.inr later
    · cases adding

/-- Modules that are all stored can be added to those already known. -/
theorem addModules_isOk
    {container : Container}
    {infos : List ModuleInfo}
    (stored : ∀ info ∈ infos, container.contains info.id.entryName = true)
    (known : List ModuleInfo) :
    ∃ modules, addModules container known infos = .ok modules := by
  induction infos generalizing known with
  | nil => exact ⟨known, rfl⟩
  | cons info rest ih =>
    rcases
        ih (fun other later => stored other (List.mem_cons_of_mem _ later))
          (insertModule info known) with
      ⟨modules, adding⟩
    refine ⟨modules, ?_⟩
    rw [addModules, if_pos (stored info List.mem_cons_self)]
    exact adding

/-- The module of an identity that only one of the listed modules has is that module. -/
theorem find?_addModules
    {container : Container}
    {infos known modules : List ModuleInfo}
    (adding : addModules container known infos = .ok modules)
    {info : ModuleInfo}
    (only : ∀ other ∈ infos, other.id = info.id → other = info)
    (there : info ∈ infos ∨ known.find? (fun other => other.id == info.id) = some info) :
    modules.find? (fun other => other.id == info.id) = some info := by
  induction infos generalizing known with
  | nil =>
    cases adding
    rcases there with inside | found
    · exact absurd inside List.not_mem_nil
    · exact found
  | cons first rest ih =>
    rw [addModules] at adding
    split at adding
    · apply ih adding
      · exact fun other later => only other (List.mem_cons_of_mem _ later)
      · rw [find?_insertModule]
        by_cases same : first.id = info.id
        · rw [if_pos same, only first List.mem_cons_self same]
          exact Or.inr rfl
        · rw [if_neg same]
          rcases there with inside | found
          · rcases List.mem_cons.1 inside with rfl | later
            · exact absurd rfl same
            · exact Or.inl later
          · exact Or.inr found
    · cases adding

/-- An archive describes only modules that it indexes. -/
theorem mem_modules_of_moduleInfo
    {archive : Archive}
    {id : ModuleId}
    {info : ModuleInfo}
    (found : archive.moduleInfo id = .ok info) :
    info ∈ archive.modules := by
  rw [moduleInfo] at found
  split at found
  · cases found
  · next other there =>
    cases found
    exact List.mem_of_find?_eq_some there

/-! ## Missing records -/

/-- The first record below a count that is missing, if one is. -/
inductive FirstMissing (container : Container) (count : Nat) : Option Nat → Prop
  | none
      (stored : ∀ index < count,
        container.contains (InvocationRecord.entryName index) = true) :
      FirstMissing container count none
  | some {index : Nat}
      (counted : index < count)
      (missing : container.contains (InvocationRecord.entryName index) = false)
      (stored : ∀ earlier < index,
        container.contains (InvocationRecord.entryName earlier) = true) :
      FirstMissing container count (some index)

/-- A container has no more records than entries. -/
theorem le_length_of_stored
    {container : Container}
    {count : Nat}
    (stored : ∀ index < count, container.contains (InvocationRecord.entryName index) = true) :
    count ≤ container.entries.length := by
  have distinct : ((List.range count).map InvocationRecord.entryName).Nodup :=
    List.nodup_range.map InvocationRecord.entryName_injective
  have listed : (List.range count).map InvocationRecord.entryName ⊆
      container.entries.map DirectoryEntry.name := by
    intro name member
    rcases List.mem_map.1 member with ⟨index, counted, rfl⟩
    exact Container.mem_names_of_contains (stored index (List.mem_range.1 counted))
  have fewer := (distinct.subperm listed).length_le
  rw [List.length_map, List.length_map, List.length_range] at fewer
  exact fewer

/-- The search with a bound finds what a search through all records finds. -/
theorem firstMissing_missingRecord?
    (container : Container)
    (count : Nat) :
    FirstMissing container count (missingRecord? container count) := by
  cases searching : missingRecord? container count with
  | none =>
    rw [missingRecord?, List.find?_range_eq_none] at searching
    have stored : ∀ index < min count (container.entries.length + 1),
        container.contains (InvocationRecord.entryName index) = true := by
      intro index inside
      simpa using searching index inside
    have few := le_length_of_stored stored
    have bound : min count (container.entries.length + 1) = count := by omega
    rw [bound] at stored
    exact .none stored
  | some index =>
    rw [missingRecord?, List.find?_range_eq_some] at searching
    rcases searching with ⟨missing, inside, stored⟩
    have counted := List.mem_range.1 inside
    refine .some (by omega) (by simpa using missing) ?_
    intro earlier before
    simpa using stored earlier before

/-- No record is missing exactly if all are stored. -/
theorem missingRecord?_eq_none_iff
    {container : Container}
    {count : Nat} :
    missingRecord? container count = none ↔
      ∀ index < count, container.contains (InvocationRecord.entryName index) = true := by
  have first := firstMissing_missingRecord? container count
  constructor
  · intro nothing
    rw [nothing] at first
    cases first with
    | none stored => exact stored
  · intro stored
    cases searching : missingRecord? container count with
    | none => rfl
    | some index =>
      rw [searching] at first
      cases first with
      | some counted missing _ =>
        rw [stored index counted] at missing
        cases missing

/-! ## Archives -/

/-- What a container opens as: its documents, all that they speak of being stored. -/
structure Describes
    (container : Container)
    (manifest : Manifest)
    (infos : List ModuleInfo)
    (diagnostics : List Diagnostic) : Prop where
  manifestRead : ∃ document, container.read Manifest.entryName = .ok document ∧
    Manifest.decode document = .ok manifest
  recordsStored : ∀ index < manifest.recordCount.toNat,
    container.contains (InvocationRecord.entryName index) = true
  indexRead : ∃ document, container.read ModuleIndex.entryName = .ok document ∧
    ModuleIndex.decode document = .ok infos
  modulesStored : ∀ info ∈ infos, container.contains info.id.entryName = true
  diagnosticsRead : if container.contains Diagnostic.entryName then
      ∃ document, container.read Diagnostic.entryName = .ok document ∧
        Diagnostic.decodeAll document = .ok diagnostics
    else diagnostics = []

theorem required_eq_ok_iff
    {container : Container}
    {name : String}
    {document : Octets} :
    required container name = .ok document ↔ container.read name = .ok document := by
  unfold required
  constructor
  · intro read
    split at read
    · cases read
    · exact read
  · intro read
    rw [read]

theorem readManifest_eq_ok_iff
    {container : Container}
    {manifest : Manifest} :
    readManifest container = .ok manifest ↔
      (∃ document, container.read Manifest.entryName = .ok document ∧
        Manifest.decode document = .ok manifest) ∧
      ∀ index < manifest.recordCount.toNat,
        container.contains (InvocationRecord.entryName index) = true := by
  rw [readManifest, ← missingRecord?_eq_none_iff]
  constructor
  · intro read
    split at read
    · cases read
    next document found =>
    split at read
    · cases read
    next other decoded =>
    split at read
    · cases read
    next noneMissing =>
    cases read
    exact ⟨⟨document, required_eq_ok_iff.1 found, decoded⟩, noneMissing⟩
  · rintro ⟨⟨document, found, decoded⟩, noneMissing⟩
    simp only [required_eq_ok_iff.2 found, decoded, noneMissing]

theorem addModules_isOk_iff
    {container : Container}
    {infos : List ModuleInfo}
    (known : List ModuleInfo) :
    (∃ modules, addModules container known infos = .ok modules) ↔
      ∀ info ∈ infos, container.contains info.id.entryName = true := by
  refine ⟨?_, fun stored => addModules_isOk stored known⟩
  rintro ⟨modules, adding⟩
  induction infos generalizing known with
  | nil => exact List.forall_mem_nil _
  | cons first rest ih =>
    rw [addModules] at adding
    split at adding
    · next stored => exact List.forall_mem_cons.2 ⟨stored, ih _ adding⟩
    · cases adding

theorem readModules_eq_ok_iff
    {container : Container}
    {modules : List ModuleInfo} :
    readModules container = .ok modules ↔
      ∃ document infos, container.read ModuleIndex.entryName = .ok document ∧
        ModuleIndex.decode document = .ok infos ∧ addModules container [] infos = .ok modules := by
  rw [readModules]
  constructor
  · intro read
    split at read
    · cases read
    next document found =>
    split at read
    · cases read
    next infos decoded => exact ⟨document, infos, required_eq_ok_iff.1 found, decoded, read⟩
  · rintro ⟨document, infos, found, decoded, adding⟩
    simp only [required_eq_ok_iff.2 found, decoded, adding]

theorem readDiagnostics_eq_ok_iff
    {container : Container}
    {diagnostics : List Diagnostic} :
    readDiagnostics container = .ok diagnostics ↔
      if container.contains Diagnostic.entryName then
        ∃ document, container.read Diagnostic.entryName = .ok document ∧
          Diagnostic.decodeAll document = .ok diagnostics
      else diagnostics = [] := by
  rw [readDiagnostics]
  split
  · cases container.read Diagnostic.entryName <;> simp
  · simp [eq_comm]

/-- A container opens as an archive exactly if it describes the archive. -/
theorem ofContainer_eq_ok_iff
    {container : Container}
    {archive : Archive} :
    ofContainer container = .ok archive ↔
      archive.container = container ∧
        ∃ infos, Describes container archive.manifest infos archive.diagnostics ∧
          addModules container [] infos = .ok archive.modules := by
  rw [ofContainer]
  constructor
  · intro opening
    split at opening
    · cases opening
    next manifest manifestRead =>
    split at opening
    · cases opening
    next modules modulesRead =>
    split at opening
    · cases opening
    next diagnostics diagnosticsRead =>
    cases opening
    rcases readManifest_eq_ok_iff.1 manifestRead with ⟨document, records⟩
    rcases readModules_eq_ok_iff.1 modulesRead with ⟨_, infos, found, decoded, adding⟩
    refine ⟨rfl, infos, ?_, adding⟩
    exact {
      manifestRead := document
      recordsStored := records
      indexRead := ⟨_, found, decoded⟩
      modulesStored := (addModules_isOk_iff []).1 ⟨modules, adding⟩
      diagnosticsRead := readDiagnostics_eq_ok_iff.1 diagnosticsRead }
  · rintro ⟨rfl, infos, describes, adding⟩
    rcases describes.indexRead with ⟨document, found, decoded⟩
    have manifestRead :=
      readManifest_eq_ok_iff.2 ⟨describes.manifestRead, describes.recordsStored⟩
    have modulesRead := readModules_eq_ok_iff.2 ⟨document, infos, found, decoded, adding⟩
    have diagnosticsRead := readDiagnostics_eq_ok_iff.2 describes.diagnosticsRead
    simp only [manifestRead, modulesRead, diagnosticsRead]

theorem openFile_eq_ok_iff
    {files : FileSystem}
    {path : String}
    {config : ReaderConfig}
    {archive : Archive} :
    openFile files path config = .ok archive ↔
      ∃ container, Container.openFile files path config.verifyChecksums = .ok container ∧
        ofContainer container = .ok archive := by
  rw [openFile]
  cases Container.openFile files path config.verifyChecksums with
  | error failure => simp
  | ok container => simp

/-- An archive has the container that it was opened from, which stores all its modules. -/
theorem contains_of_ofContainer
    {container : Container}
    {archive : Archive}
    (opening : ofContainer container = .ok archive) :
    archive.container = container ∧
      ∀ info ∈ archive.modules, container.contains info.id.entryName = true := by
  rcases ofContainer_eq_ok_iff.1 opening with ⟨same, infos, -, adding⟩
  refine ⟨same, ?_⟩
  intro info member
  exact (contains_of_addModules adding member).resolve_left List.not_mem_nil

/-- A container with all documents opens as the archive that they describe. -/
theorem ofContainer_isOk
    {container : Container}
    {manifest : Manifest}
    (manifestRead : container.read Manifest.entryName = .ok manifest.encode)
    (known : manifest.formatVersion.toNat ≤ Manifest.currentFormat)
    (records : ∀ index, index < manifest.recordCount.toNat →
      container.contains (InvocationRecord.entryName index) = true)
    {infos : List ModuleInfo}
    (indexRead : container.read ModuleIndex.entryName = .ok (ModuleIndex.encode infos))
    (stored : ∀ info ∈ infos, container.contains info.id.entryName = true)
    {diagnostics : List Diagnostic}
    (diagnosticsRead :
      container.read Diagnostic.entryName = .ok (Diagnostic.encodeAll diagnostics)) :
    ∃ modules, addModules container [] infos = .ok modules ∧
      ofContainer container = .ok { container, manifest, modules, diagnostics } := by
  rcases addModules_isOk stored [] with ⟨modules, adding⟩
  refine ⟨modules, adding, ofContainer_eq_ok_iff.2 ⟨rfl, infos, ?_, adding⟩⟩
  constructor
  case manifestRead => exact ⟨_, manifestRead, Manifest.decode_encode known⟩
  case recordsStored => exact records
  case indexRead => exact ⟨_, indexRead, ModuleIndex.decode_encode infos⟩
  case modulesStored => exact stored
  case diagnosticsRead =>
    rw [if_pos (Container.contains_of_read diagnosticsRead)]
    exact ⟨_, diagnosticsRead, Diagnostic.decodeAll_encodeAll diagnostics⟩

end Archive

end BuildCapture
