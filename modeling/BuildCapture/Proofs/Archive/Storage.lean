import BuildCapture.Proofs.Archive.Fidelity
import BuildCapture.Proofs.Archive.Inventory
import BuildCapture.Proofs.Archive.Requests

/-!
# What a finished archive stores

The directory of a published archive has one entry for each distinct content
and one for each distinct module that was ever added successfully, whatever
became of their invocations, and the manifest counts them.  The stored octets
of all entries fill the container between its header and its directory, also
where duplicates were streamed and discarded, and where a file could only be read in
part and what had been written of it was cut off.
-/

namespace BuildCapture

open Container

/-! ## Directories -/

/-- The names in a directory of a container. -/
def Container.namesBelow
    (directory : String)
    (entries : List DirectoryEntry) :
    List String :=
  (entries.map DirectoryEntry.name).filter (isBelow directory)

/-- Entries store every input of a run exactly once, and a manifest counts them. -/
structure Manifest.StoresOnce
    (manifest : Manifest)
    (entries : List DirectoryEntry)
    (journal : Journal) : Prop where
  distinct : (entries.map DirectoryEntry.name).Nodup
  /-- There is one entry for each key among the contents that were added. -/
  blobs : (namesBelow "blobs/" entries).Perm
    ((journal.contents.map ContentKey.of).dedup.map ContentKey.entryName)
  /-- Apart from the index there is one entry for each identity of an added module. -/
  modules : (namesBelow "modules/" entries).Perm
    (ModuleIndex.entryName :: (journal.images.map Prod.fst).dedup.map ModuleId.entryName)
  records : (namesBelow "records/" entries).Perm
    ((List.range journal.committed.length).map InvocationRecord.entryName)
  blobCount : manifest.blobCount.toNat = (namesBelow "blobs/" entries).length
  moduleCount : manifest.moduleCount.toNat + 1 = (namesBelow "modules/" entries).length
  recordCount : manifest.recordCount.toNat = (namesBelow "records/" entries).length
  /-- Each content has its key as digest, and its length. -/
  described : ∀ entry ∈ entries, ∀ key : ContentKey, entry.name = key.entryName →
    entry.Describes journal.contents key

/-! ## Names of a recorder -/

namespace Recorder

variable (recorder : Recorder)

/-- The names of all entries of an archive, its documents among them. -/
def allNames :
    List String :=
  recorder.entryNames ++ recorder.documents.map Prod.fst

theorem documents_names :
    recorder.documents.map Prod.fst =
      [ModuleIndex.entryName, Diagnostic.entryName, Manifest.entryName] :=
  rfl

/-- No document has the name of a content. -/
theorem elsewhere_documents :
    ∀ item ∈ recorder.documents, isBelow "blobs/" item.1 = false := by
  intro item member
  have name : item.1 ∈ recorder.documents.map Prod.fst := List.mem_map_of_mem member
  have every :
      ∀ name ∈ [ModuleIndex.entryName, Diagnostic.entryName, Manifest.entryName],
        isBelow "blobs/" name = false := by
    decide
  exact every item.1 name

theorem filter_blobs :
    recorder.allNames.filter (isBelow "blobs/") =
      (recorder.blobs.known.map Prod.fst).map ContentKey.entryName := by
  have documents : (recorder.documents.map Prod.fst).filter (isBelow "blobs/") = [] := by
    rw [documents_names]
    decide
  rw [allNames, List.filter_append, documents, List.append_nil, entryNames]
  simp [List.filter_map, Function.comp_def, ContentKey.isBelow_entryName,
    ModuleId.isBelow_entryName, InvocationRecord.isBelow_entryName]

theorem filter_modules :
    recorder.allNames.filter (isBelow "modules/") =
      (recorder.modules.known.map Prod.fst).map ModuleId.entryName ++ [ModuleIndex.entryName] := by
  have documents :
      (recorder.documents.map Prod.fst).filter (isBelow "modules/") =
        [ModuleIndex.entryName] := by
    rw [documents_names]
    decide
  rw [allNames, List.filter_append, documents, entryNames]
  simp [List.filter_map, Function.comp_def, ContentKey.isBelow_entryName,
    ModuleId.isBelow_entryName, InvocationRecord.isBelow_entryName]

theorem filter_records :
    recorder.allNames.filter (isBelow "records/") =
      (List.range recorder.recordCount).map InvocationRecord.entryName := by
  have documents : (recorder.documents.map Prod.fst).filter (isBelow "records/") = [] := by
    rw [documents_names]
    decide
  rw [allNames, List.filter_append, documents, List.append_nil, entryNames]
  simp [List.filter_map, Function.comp_def, ContentKey.isBelow_entryName,
    ModuleId.isBelow_entryName, InvocationRecord.isBelow_entryName]

end Recorder

/-! ## Keys and identities -/

namespace Recording.Keeps

variable
  {recording : Recording}
  {path : String}
  {journal : Journal}
  {writer : Writer}
  {accepted : List (String × Octets)}

/-- The keys of the pool are those of the contents that were added, without repetition. -/
theorem perm_keys
    (keeps : recording.Keeps path journal writer accepted)
    (distinct : (recording.recorder.blobs.known.map Prod.fst).Nodup) :
    (recording.recorder.blobs.known.map Prod.fst).Perm
      (journal.contents.map ContentKey.of).dedup := by
  rw [List.perm_ext_iff_of_nodup distinct (List.nodup_dedup _)]
  intro key
  have known :
      key ∈ recording.recorder.blobs.known.map Prod.fst ↔
        recording.recorder.blobs.contains key = true := by
    simp [BlobPool.contains]
  rw [known, List.mem_dedup, List.mem_map]
  constructor
  · intro contained
    rcases keeps.blobs.stored contained with ⟨data, inside, keyed, -⟩
    exact ⟨data, inside, keyed⟩
  · rintro ⟨data, inside, rfl⟩
    exact keeps.blobs.added inside

/-- The identities of the pool are those of the modules that were added, without repetition. -/
theorem perm_ids
    (keeps : recording.Keeps path journal writer accepted)
    (distinct : (recording.recorder.modules.known.map Prod.fst).Nodup) :
    (recording.recorder.modules.known.map Prod.fst).Perm
      (journal.images.map Prod.fst).dedup := by
  rw [List.perm_ext_iff_of_nodup distinct (List.nodup_dedup _)]
  intro id
  have listed :
      ∀ {α : Type} (entries : List (ModuleId × α)),
        id ∈ entries.map Prod.fst ↔ List.lookup id entries ≠ none := by
    intro α entries
    rw [Ne, List.lookup_eq_none_iff]
    simp
  rw [listed, List.mem_dedup, listed]
  exact keeps.modules.get?_eq_none_iff.not

end Recording.Keeps

/-! ## Completing -/

section Completing

variable [Zstd.Encoder]

/-- Documents that were added have their entries. -/
theorem Recording.stocked_addDocuments
    {bench filled : Workbench}
    {documents : List (String × Octets)}
    {names : List String}
    {contents : List Octets}
    (stocked : bench.writer.draft.Stocked names contents)
    (elsewhere : ∀ item ∈ documents, isBelow "blobs/" item.1 = false)
    (adding : addDocuments bench documents = .ok filled) :
    filled.writer.draft.Stocked (names ++ documents.map Prod.fst) contents := by
  induction documents generalizing bench names with
  | nil =>
    cases adding
    rw [List.map_nil, List.append_nil]
    exact stocked
  | cons document rest ih =>
    rcases document with ⟨name, data⟩
    rcases addDocuments_cons_eq_ok adding with ⟨written, writing, addingRest⟩
    rcases Workbench.draft_of_bench_write writing with ⟨form, grown⟩
    have noBlob := ContentKey.ne_entryName (elsewhere (name, data) List.mem_cons_self)
    have more : written.writer.draft.Stocked (names ++ [name]) contents := by
      rw [grown]
      exact stocked.gained form fun key named => absurd named (noBlob key)
    have all := ih more (fun item later => elsewhere item (List.mem_cons_of_mem _ later)) addingRest
    rw [List.append_assoc] at all
    exact all

namespace Recording.Keeps

variable
  {recording : Recording}
  {path : String}
  {journal : Journal}
  {writer : Writer}
  {accepted : List (String × Octets)}

omit [Zstd.Encoder] in
/-- A directory with all names of a recorder stores the inputs of its run once. -/
theorem storesOnce
    (keeps : recording.Keeps path journal writer accepted)
    {draft : Draft}
    (stocked : draft.Stocked recording.recorder.allNames journal.contents)
    (distinct : (draft.entries.map DirectoryEntry.name).Nodup)
    (few : draft.entries.length ≤ FileSystem.maximalFile) :
    recording.recorder.manifest.StoresOnce draft.entries journal := by
  have small : FileSystem.maximalFile < 2 ^ 64 := by
    decide
  have below :
      ∀ directory, (namesBelow directory draft.entries).Perm
        (recording.recorder.allNames.filter (isBelow directory)) :=
    fun directory => stocked.names.filter (isBelow directory)
  have fewBelow : ∀ directory, (namesBelow directory draft.entries).length < 2 ^ 64 := by
    intro directory
    have shorter := List.length_filter_le (isBelow directory) (draft.entries.map DirectoryEntry.name)
    rw [List.length_map] at shorter
    exact Nat.lt_of_le_of_lt (Nat.le_trans shorter few) small
  have blobs := below "blobs/"
  have modules := below "modules/"
  have records := below "records/"
  have distinctBelow :
      ∀ directory, (recording.recorder.allNames.filter (isBelow directory)).Nodup :=
    fun directory => (below directory).nodup_iff.1 (distinct.filter _)
  have distinctKeys := distinctBelow "blobs/"
  have distinctIds := distinctBelow "modules/"
  rw [Recorder.filter_blobs] at blobs distinctKeys
  rw [Recorder.filter_modules] at modules distinctIds
  rw [Recorder.filter_records] at records
  have keys := keeps.perm_keys (List.Nodup.of_map _ distinctKeys)
  have ids := keeps.perm_ids (List.Nodup.of_map _ (List.nodup_append.1 distinctIds).1)
  constructor
  case distinct => exact distinct
  case blobs => exact blobs.trans (keys.map _)
  case modules =>
    exact modules.trans ((List.perm_append_singleton _ _).trans ((ids.map _).cons _))
  case records =>
    rw [keeps.counted] at records
    exact records
  case blobCount =>
    have length := blobs.length_eq
    have room := fewBelow "blobs/"
    rw [length, List.length_map, List.length_map] at room ⊢
    exact UInt64.toNat_ofNat_of_lt' room
  case moduleCount =>
    have length := modules.length_eq
    have room := fewBelow "modules/"
    rw [length, List.length_append, List.length_map, List.length_map] at room ⊢
    have counted : recording.recorder.manifest.moduleCount.toNat =
        recording.recorder.modules.known.length :=
      UInt64.toNat_ofNat_of_lt' (Nat.lt_of_le_of_lt (Nat.le_add_right _ _) room)
    rw [counted]
    rfl
  case recordCount =>
    have length := records.length_eq
    have room := fewBelow "records/"
    rw [length, List.length_map, List.length_range] at room ⊢
    exact UInt64.toNat_ofNat_of_lt' room
  case described => exact stocked.blobs

end Recording.Keeps

/-- A storeroom has written what a container holds before its directory, and nothing else. -/
structure Storeroom.HasWritten
    (room : Storeroom)
    (image : Octets)
    (trailer : Trailer)
    (entries : List DirectoryEntry) : Prop where
  content : room.scribe.fileContent? = some (image.take trailer.directoryOffset)
  offset : room.scribe.offset = trailer.directoryOffset
  entries : room.scribe.entries = entries

omit [Zstd.Encoder] in
/-- A storeroom with the container of a workbench has written what that will be sealed with. -/
theorem Storeroom.Attends.hasWritten
    {room : Storeroom}
    {bench : Workbench}
    (attends : room.Attends bench) :
    room.HasWritten bench.writer.draft.sealedImage bench.writer.draft.closing
      bench.writer.draft.entries where
  content := by
    have payload :
        bench.writer.draft.sealedImage.take bench.writer.draft.image.length =
          bench.writer.draft.image := by
      rw [Draft.sealedImage_eq, List.take_left]
    rw [attends.fileContent?_eq]
    exact congrArg some payload.symm
  offset := attends.offset
  entries := attends.entries

/--
A sealed archive stores everything exactly once and has no dead octets: its
directory has one entry for each distinct content and each distinct module
that was added successfully, the manifest counts them, and the stored octets of
the entries fill the container from its header to its directory.  That is also
what a storeroom has written that carries the run out: it streams what is read piece
by piece and cuts its file wherever a reader fails or hands out a duplicate.
-/
theorem sealed_archive_stores_everything_once
    {path : String}
    {config : WriterConfig}
    {recording after : Recording}
    {journal : Journal}
    (reached : Reaches path config (.idle recording journal))
    {summary : SealedArchive}
    (finishing : recording.finish = (after, .ok summary)) :
    ∃ image trailer entries, after.files.read path = .ok image ∧
      Lists image trailer entries ∧ Fills headerLength trailer.directoryOffset entries ∧
        (∀ reading, ∃ archive, Archive.openFile after.files path reading = .ok archive ∧
          archive.container.entries.Perm entries ∧
          archive.manifest.StoresOnce entries journal) ∧
        ∃ log files started writer,
          Conducts path config (FileSystem.ChangesAround path) (.idle recording journal) [] log ∧
            Writer.create files path config = (started, .ok writer) ∧
            ∀ [Zstd.Packer], Zstd.Packer.Agrees → ∀ made : List Storeroom.Request,
              made.map Storeroom.Request.uncut =
                  loggedRequests log [] ++ recording.recorder.documentRequests →
                ((Storeroom.start started writer).run made).HasWritten image trailer entries := by
  rcases reached.holds with ⟨faithful, sound⟩
  rcases Recording.finish_ok finishing with
    ⟨bench, filled, done, records, adding, closing, rfl, -⟩
  rcases faithful.keeps_of_bench records with ⟨writer, accepted, keeps, rfl⟩
  rcases Recording.settled_addDocuments keeps.settled adding with ⟨settled, continues⟩
  rcases Workbench.read_of_finish settled.sound.backed closing with ⟨found, fits⟩
  have stocked :
      filled.writer.draft.Stocked recording.recorder.allNames journal.contents :=
    Recording.stocked_addDocuments (reached.stocked writer keeps.records).stocked
      recording.recorder.elsewhere_documents adding
  have few : filled.writer.draft.entries.length ≤ FileSystem.maximalFile := by
    have kept := settled.sound.draft.keeps.length_eq
    rw [kept]
    exact settled.length_le closing
  have sizes :=
    settled.sound.draft.sizes (keeps.short (keeps.opens adding closing true).1) fits
  rw [continues.path, keeps.path] at found
  refine ⟨_, _, _, found, Draft.lists_sealedImage settled.sound.draft.starts sizes,
    stocked.tiles.fills, fun reading => ?_, ?_⟩
  case refine_2 =>
    rcases reached.isCarriedOut records adding with
      ⟨log, files, started, writer, conducts, starting, carriedOut⟩
    refine ⟨log, files, started, writer, conducts, starting, ?_⟩
    intro packer agrees made asked
    exact (carriedOut agrees made asked).hasWritten
  rcases keeps.opens adding closing reading.verifyChecksums with
    ⟨fewCommitted, container, opening, served⟩
  rcases keeps.opens_as_archive fewCommitted served with ⟨modules, -, opened⟩
  have openedFile := Archive.openFile_eq_ok_iff.2 ⟨container, opening, opened⟩
  rw [openFile_of_read found] at opening
  have sameEntries := (Draft.entries_of_ofImage_sealedImage sizes opening).2.2
  exact ⟨_, openedFile, sameEntries,
    keeps.storesOnce stocked settled.sound.draft.distinct few⟩

end Completing

/-! ## A dropped invocation, a file that breaks off and duplicates -/

namespace Duplicates

open RewrittenFile (settings heading begunOver adding)

/-- A file system with a file that can be read and one that breaks off after two octets. -/
def files : FileSystem where
  workingDirectory := []
  nodes := [
    (["a"], .file 1 1 [97]),
    (["b"], .file 2 2 [98, 99, 100] (some ⟨2, .source "broken"⟩))]
  clock := 3

/-- An invocation that adds a file and a text with equal octets and fails at the other file. -/
def failed : Transcript :=
  (((begunOver files).call adding).call (.generatedText "t" [97])).call (.content "b" .source)

/-- The next invocation, after the first was dropped. -/
def next : Transcript where
  invocation := { recording := failed.invocation.recording, record := heading.record }
  heading := heading
  journal := failed.journal

/-- The run: the next invocation adds the file again and another text, and is committed. -/
def ended : Recording × Journal :=
  ((next.call adding).call (.generatedText "u" [98])).commit

/-- A storeroom that carries a run out lists this many contents. -/
def listedContents
    [Zstd.Encoder]
    (log : List Attempt)
    (started : FileSystem)
    (writer : Writer) :
    Nat :=
  let requests := loggedRequests log [] ++ ended.1.recorder.documentRequests
  (namesBelow "blobs/" ((Storeroom.start started writer).run requests).scribe.entries).length

set_option maxRecDepth 100000 in
/-- Of four contents that were added, two are stored, and what was read in part is not. -/
theorem duplicates_are_stored_once :
    Reaches "out" settings (.idle ended.1 ended.2) ∧
      ended.2.contents = [[97], [97], [97], [98]] ∧
      failed.invocation.failure = some (.inputUnreadable "b" (.source "broken")) ∧
      (∀ reading, ∃ archive,
        Archive.openFile ended.1.finish.1.files "out" reading = .ok archive ∧
          archive.manifest.blobCount.toNat = 2 ∧ archive.manifest.moduleCount.toNat = 0 ∧
          archive.manifest.recordCount.toNat = 1) ∧
      ∃ log started writer,
        Conducts "out" settings (FileSystem.ChangesAround "out") (.idle ended.1 ended.2) [] log ∧
          listedContents log started writer = 2 := by
  have sane : files.Sane := by
    apply FileSystem.sane_of_nodes <;> decide
  have created : (Recorder.create files "out" settings).2.isOk = true := by
    decide +kernel
  have reachedFailed : Reaches "out" settings (.lent failed) :=
    (((Reaches.start sane created heading).call adding).call _).call _
  have beginning :
      failed.invocation.recording.begin heading.projectPath heading.language heading.kind =
        .ok next.invocation := by
    decide +kernel
  have reached : Reaches "out" settings (.idle ended.1 ended.2) :=
    (((reachedFailed.drop.begin heading beginning).call adding).call _).commit
  have facts :
      ended.2.contents = [[97], [97], [97], [98]] ∧
        failed.invocation.failure = some (.inputUnreadable "b" (.source "broken")) ∧
        ended.2.images = [] ∧ ended.2.committed.length = 1 ∧ ContentKey.of [97] ≠ .of [98] ∧
        ended.1.finish.2.isOk = true := by
    decide +kernel
  rcases facts with ⟨contents, broken, images, committed, different, completes⟩
  rcases Recording.finish_of_isOk completes with ⟨summary, finishing⟩
  rcases sealed_archive_stores_everything_once reached finishing with
    ⟨image, trailer, entries, -, -, -, opens, log, _, started, writer, conducts, -, written⟩
  have counted : (namesBelow "blobs/" entries).length = 2 := by
    rcases opens {} with ⟨archive, -, -, stores⟩
    rw [stores.blobs.length_eq, contents]
    simp [different]
  refine ⟨reached, contents, broken, fun reading => ?_, log, started, writer, conducts, ?_⟩
  · rcases opens reading with ⟨archive, opening, -, stores⟩
    have modules := stores.modules.length_eq
    have records := stores.records.length_eq
    rw [← stores.moduleCount, images] at modules
    rw [← stores.recordCount, committed] at records
    exact ⟨archive, opening, stores.blobCount.trans counted, by simpa using modules, records⟩
  · have uncut :
        (loggedRequests log [] ++ ended.1.recorder.documentRequests).map
            Storeroom.Request.uncut =
          loggedRequests log [] ++ ended.1.recorder.documentRequests := by
      rw [List.map_append, map_uncut_loggedRequests]
      rfl
    rw [listedContents, (written Zstd.Packer.agrees_deferred _ uncut).entries]
    exact counted

end Duplicates

end BuildCapture
