import BuildCapture.Proofs.Archive.Opening
import BuildCapture.Proofs.Archive.Runs
import BuildCapture.Proofs.Record.Codec

/-!
# Fidelity of archives

An archive that was published after any run opens, and it reproduces the run:
every committed record as it was when it was committed, every content with the
octets that were taken for it when it was added, and every module with the image
that was stored first under its identity.  What is taken for a text or a file is
what it had at that moment; only a file that has the fingerprint of an earlier
reading of its path is taken to have what was read then.
-/

namespace BuildCapture

open Container

/-! ## What records point at -/

/-- A call adds the key of its content to those a record points at, and no other. -/
theorem mem_contentKeys_note
    (record : InvocationRecord)
    (deed : Deed)
    (key : ContentKey) :
    key ∈ (Deed.note record deed).contentKeys ↔
      key ∈ record.contentKeys ∨
        deed.call.pool? = some .blobs ∧ ContentKey.of deed.data = key := by
  rw [Deed.note]
  generalize deed.data = data
  generalize deed.call = call
  cases call <;>
    simp [Call.note, InvocationRecord.contentKeys, Call.pool?, or_assoc, or_comm, or_left_comm,
      eq_comm]

/-- A call adds the identity of its module to those a record points at, and no other. -/
theorem mem_moduleIds_note
    (record : InvocationRecord)
    (deed : Deed)
    (id : ModuleId) :
    id ∈ (Deed.note record deed).moduleIds ↔
      id ∈ record.moduleIds ∨ deed.call.pool? = some .modules ∧ deed.moduleId? = some id := by
  rw [Deed.note, Deed.moduleId?]
  generalize deed.data = data
  generalize deed.call = call
  cases call with
  | reference path kind embedInteropTypes aliases =>
    simp only [Call.note, InvocationRecord.moduleIds, Call.pool?]
    cases ModuleId.ofImage? data <;> simp [or_assoc, or_comm, eq_comm]
  | analyzer path =>
    simp only [Call.note, InvocationRecord.moduleIds, Call.pool?]
    cases ModuleId.ofImage? data <;> simp [or_assoc, or_comm, eq_comm]
  | _ => simp [Call.note, InvocationRecord.moduleIds, Call.pool?]

/-- A record points at the contents that were added, and at those it pointed at before. -/
theorem mem_contentKeys_foldl
    (deeds : List Deed)
    (record : InvocationRecord)
    (key : ContentKey) :
    key ∈ (deeds.foldl Deed.note record).contentKeys ↔
      key ∈ record.contentKeys ∨
        ∃ deed ∈ deeds, deed.call.pool? = some .blobs ∧ ContentKey.of deed.data = key := by
  induction deeds generalizing record with
  | nil => simp
  | cons deed rest ih =>
    rw [List.foldl_cons, ih, mem_contentKeys_note, List.exists_mem_cons_iff, or_assoc]

/-- A record points at the modules that were added, and at those it pointed at before. -/
theorem mem_moduleIds_foldl
    (deeds : List Deed)
    (record : InvocationRecord)
    (id : ModuleId) :
    id ∈ (deeds.foldl Deed.note record).moduleIds ↔
      id ∈ record.moduleIds ∨
        ∃ deed ∈ deeds, deed.call.pool? = some .modules ∧ deed.moduleId? = some id := by
  induction deeds generalizing record with
  | nil => simp
  | cons deed rest ih =>
    rw [List.foldl_cons, ih, mem_moduleIds_note, List.exists_mem_cons_iff, or_assoc]

/-! ## Reproduction -/

/-- Another content of the run has the same digest. -/
def Journal.Collides
    (journal : Journal)
    (data : Octets) :
    Prop :=
  ∃ other ∈ journal.contents, other ≠ data ∧ ContentKey.of other = ContentKey.of data

/-- An archive reproduces what the journal of a run says. -/
structure Archive.Reproduces
    (archive : Archive)
    (journal : Journal) : Prop where
  count : archive.count = journal.committed.length
  /-- Each record is the one that was committed. -/
  records : ∀ {index committed}, journal.committed[index]? = some committed →
    archive.record index = .ok committed.record
  /-- The committed record is what the calls noted, in order. -/
  asCalled : ∀ committed ∈ journal.committed,
    committed.record = committed.deeds.foldl Deed.note committed.heading.record
  /-- The record points at the contents that were added. -/
  keys : ∀ committed ∈ journal.committed, ∀ key,
    key ∈ committed.record.contentKeys ↔
      ∃ deed ∈ committed.deeds,
        deed.call.pool? = some .blobs ∧ ContentKey.of deed.data = key
  /--
  What is taken for an input is what it had when it was added, unless its path had the
  fingerprint of an earlier reading: then it is what was read there.
  -/
  origins : ∀ committed ∈ journal.committed, ∀ deed ∈ committed.deeds,
    deed.TakesPresent ∨
      ∃ path reading, (path, reading) ∈ journal.readings ∧ deed.Recalls path reading
  /-- Contents were read to their end. -/
  whole : ∀ path reading, (path, reading) ∈ journal.readings → reading.pool = .blobs →
    reading.sight.source.fault = none
  /-- Each content has the octets that were taken for it. -/
  contents : ∀ committed ∈ journal.committed, ∀ deed ∈ committed.deeds,
    deed.call.pool? = some .blobs →
      archive.blob (.of deed.data) = .ok deed.data ∨ journal.Collides deed.data
  /-- The record points at the modules that were added. -/
  ids : ∀ committed ∈ journal.committed, ∀ id,
    id ∈ committed.record.moduleIds ↔
      ∃ deed ∈ committed.deeds, deed.call.pool? = some .modules ∧ deed.moduleId? = some id
  /-- Each module has the image that was added first under its identity, and its description. -/
  images : ∀ committed ∈ journal.committed, ∀ id ∈ committed.record.moduleIds,
    ∃ image info, List.lookup id journal.images = some image ∧
      archive.module id = .ok image ∧ ModuleInfo.ofOctets image = .ok info ∧
      archive.moduleInfo id = .ok info
  /-- That image is a file that was read to its end. -/
  files : ∀ id image, List.lookup id journal.images = some image →
    ∃ path reading, (path, reading) ∈ journal.readings ∧ reading.pool = .modules ∧
      reading.sight.source = .ofOctets image

namespace Journal.Sound

variable
  {journal : Journal}
  {committed : Committed}

theorem mem_contentKeys_iff
    (sound : journal.Sound)
    (member : committed ∈ journal.committed)
    (key : ContentKey) :
    key ∈ committed.record.contentKeys ↔
      ∃ deed ∈ committed.deeds,
        deed.call.pool? = some .blobs ∧ ContentKey.of deed.data = key := by
  have nothing : key ∉ committed.heading.record.contentKeys := List.not_mem_nil
  rw [sound.asCalled committed member, mem_contentKeys_foldl]
  exact or_iff_right nothing

theorem mem_moduleIds_iff
    (sound : journal.Sound)
    (member : committed ∈ journal.committed)
    (id : ModuleId) :
    id ∈ committed.record.moduleIds ↔
      ∃ deed ∈ committed.deeds, deed.call.pool? = some .modules ∧ deed.moduleId? = some id := by
  have nothing : id ∉ committed.heading.record.moduleIds := List.not_mem_nil
  rw [sound.asCalled committed member, mem_moduleIds_foldl]
  exact or_iff_right nothing

/-- The contents of committed invocations are among those of the run. -/
theorem mem_contents
    (sound : journal.Sound)
    (member : committed ∈ journal.committed)
    {deed : Deed}
    (inside : deed ∈ committed.deeds)
    (pool : deed.call.pool? = some .blobs) :
    deed.data ∈ journal.contents := by
  have input := (sound.covers committed member deed inside).input
  rw [pool] at input
  exact input

/-- The modules that committed invocations point at are among those of the run. -/
theorem lookup_images
    (sound : journal.Sound)
    (member : committed ∈ journal.committed)
    {id : ModuleId}
    (pointed : id ∈ committed.record.moduleIds) :
    List.lookup id journal.images ≠ none := by
  rcases (sound.mem_moduleIds_iff member id).1 pointed with ⟨deed, inside, pool, identified⟩
  have input := (sound.covers committed member deed inside).input
  rw [pool] at input
  rcases input with ⟨info, described, image⟩
  have same : info.id = id := by
    rw [Deed.moduleId?, ModuleId.ofImage?_of_described described] at identified
    exact Option.some.inj identified
  intro absent
  have different := List.lookup_eq_none_iff.1 absent _ image
  simp [same] at different

end Journal.Sound

/-! ## Completing -/

/-- A container serves these items under their names. -/
def Container.Serves
    (container : Container)
    (items : List (String × Octets)) :
    Prop :=
  ∀ item ∈ items, container.read item.1 = .ok item.2

/-- The documents of a recorder have short names. -/
theorem Recorder.short_documents
    (recorder : Recorder) :
    ∀ item ∈ recorder.documents, (Octets.ofText item.1).length < Octets.bound 2 := by
  intro item member
  have name : item.1 ∈ [ModuleIndex.entryName, Diagnostic.entryName, Manifest.entryName] :=
    List.mem_map_of_mem member
  have every :
      ∀ name ∈ [ModuleIndex.entryName, Diagnostic.entryName, Manifest.entryName],
        (Octets.ofText name).length < Octets.bound 2 := by
    decide
  exact every item.1 name

namespace Recording

variable [Zstd.Encoder]

/-- Documents that were added are accepted under their names. -/
theorem settled_addDocuments
    {bench filled : Workbench}
    {accepted documents : List (String × Octets)}
    (settled : bench.Settled accepted)
    (adding : addDocuments bench documents = .ok filled) :
    filled.Settled (accepted ++ documents) ∧ bench.Continues filled := by
  induction documents generalizing bench accepted with
  | nil =>
    cases adding
    rw [List.append_nil]
    exact ⟨settled, rfl, .refl _⟩
  | cons document rest ih =>
    rcases document with ⟨name, data⟩
    rcases addDocuments_cons_eq_ok adding with ⟨written, writing, addingRest⟩
    rcases ih (settled.write writing) addingRest with ⟨all, continues⟩
    rw [List.append_assoc] at all
    exact ⟨all, (Workbench.continues_write writing).trans continues⟩

variable
  {recording : Recording}
  {path : String}
  {journal : Journal}
  {writer : Writer}
  {accepted : List (String × Octets)}

omit [Zstd.Encoder] in
/-- All names of an archive are short. -/
theorem Keeps.short
    (keeps : recording.Keeps path journal writer accepted)
    (few : journal.committed.length ≤ FileSystem.maximalFile) :
    ∀ item ∈ accepted ++ recording.recorder.documents,
      (Octets.ofText item.1).length < Octets.bound 2 := by
  intro item member
  rcases List.mem_append.1 member with earlier | document
  · exact (keeps.named item earlier).short few
  · exact recording.recorder.short_documents item document

/-- The published container opens and serves all that was accepted and the documents. -/
theorem Keeps.opens
    (keeps : recording.Keeps path journal writer accepted)
    {filled done : Workbench}
    (adding :
      addDocuments ⟨recording.files, writer⟩ recording.recorder.documents = .ok filled)
    (closing : filled.finish = (done, .ok ()))
    (verify : Bool) :
    journal.committed.length ≤ FileSystem.maximalFile ∧
      ∃ container, openFile done.files path verify = .ok container ∧
        container.Serves (accepted ++ recording.recorder.documents) := by
  rcases settled_addDocuments keeps.settled adding with ⟨settled, continues⟩
  have few : journal.committed.length ≤ FileSystem.maximalFile := by
    have room := settled.length_le closing
    have fewer := keeps.fewer
    rw [List.length_append] at room
    omega
  rcases settled.opens (keeps.short few) closing verify with ⟨container, opening, -, served⟩
  rw [continues.path] at opening
  rw [← keeps.path]
  exact ⟨few, container, opening, served⟩

end Recording

namespace Recording.Keeps

variable
  {recording : Recording}
  {path : String}
  {journal : Journal}
  {writer : Writer}
  {accepted : List (String × Octets)}

/-- The manifest counts the committed invocations. -/
theorem manifest_recordCount
    (keeps : recording.Keeps path journal writer accepted)
    (few : journal.committed.length ≤ FileSystem.maximalFile) :
    recording.recorder.manifest.recordCount.toNat = journal.committed.length := by
  have small : FileSystem.maximalFile < 2 ^ 64 := by
    decide
  show (UInt64.ofNat recording.recorder.recordCount).toNat = _
  rw [keeps.counted, UInt64.toNat_ofNat']
  exact Nat.mod_eq_of_lt (Nat.lt_of_le_of_lt few small)

/-- The index lists what the pool knows, each description under its identity. -/
theorem mem_infos_iff
    (keeps : recording.Keeps path journal writer accepted)
    {info : ModuleInfo} :
    info ∈ recording.recorder.modules.infos ↔
      recording.recorder.modules.get? info.id = some info := by
  constructor
  · intro member
    rcases List.mem_filterMap.1 member with ⟨id, -, known⟩
    rw [(keeps.modules.stored known).1]
    exact known
  · intro known
    exact List.mem_filterMap.2 ⟨info.id, (keeps.modules.stored known).2.1, known⟩

variable
  {container : Container}
  {archive : Archive}

/-- A container that serves what a recorder accepted opens as the archive of its documents. -/
theorem opens_as_archive
    (keeps : recording.Keeps path journal writer accepted)
    (few : journal.committed.length ≤ FileSystem.maximalFile)
    (serves : container.Serves (accepted ++ recording.recorder.documents)) :
    ∃ modules,
      Archive.addModules container [] recording.recorder.modules.infos = .ok modules ∧
        Archive.ofContainer container =
          .ok { container, manifest := recording.recorder.manifest, modules,
                diagnostics := recording.recorder.diagnostics } := by
  have document :
      ∀ {name data}, (name, data) ∈ recording.recorder.documents →
        container.read name = .ok data :=
    fun member => serves _ (List.mem_append_right _ member)
  have recordsStored :
      ∀ index, index < recording.recorder.manifest.recordCount.toNat →
        container.contains (InvocationRecord.entryName index) = true := by
    intro index inside
    rw [keeps.manifest_recordCount few] at inside
    have stored := keeps.stored (List.getElem?_eq_getElem inside)
    exact Container.contains_of_read (serves _ (List.mem_append_left _ stored))
  have modulesStored :
      ∀ info ∈ recording.recorder.modules.infos,
        container.contains info.id.entryName = true := by
    intro info member
    rcases keeps.modules.stored (keeps.mem_infos_iff.1 member) with ⟨-, -, image, -, -, stored⟩
    exact Container.contains_of_read (serves _ (List.mem_append_left _ stored))
  exact Archive.ofContainer_isOk
    (document (List.mem_cons_of_mem _ (List.mem_cons_of_mem _ List.mem_cons_self)))
    (Nat.le_refl 1) recordsStored
    (document List.mem_cons_self) modulesStored
    (document (List.mem_cons_of_mem _ List.mem_cons_self))

/-- Each record is served as it was committed. -/
theorem record_served
    (keeps : recording.Keeps path journal writer accepted)
    (serves : archive.container.Serves accepted)
    (counted : archive.count = journal.committed.length)
    {index : Nat}
    {committed : Committed}
    (there : journal.committed[index]? = some committed) :
    archive.record index = .ok committed.record := by
  have inside : ¬ index ≥ archive.count := by
    rw [counted]
    exact Nat.not_le.2 (List.getElem?_eq_some_iff.1 there).1
  have stored :
      archive.container.read (InvocationRecord.entryName index) =
        .ok committed.record.encode :=
    serves _ (keeps.stored there)
  rw [Archive.record, if_neg inside]
  simp only [stored, InvocationRecord.decode_encode]

/-- Each content is served as it was added, unless another one has its digest. -/
theorem blob_served
    (keeps : recording.Keeps path journal writer accepted)
    (serves : archive.container.Serves accepted)
    {data : Octets}
    (added : data ∈ journal.contents) :
    archive.blob (.of data) = .ok data ∨ journal.Collides data := by
  rcases keeps.blobs.stored (keeps.blobs.added added) with ⟨first, remembered, keyed, stored⟩
  by_cases same : first = data
  · rw [same] at stored
    exact Or.inl (serves _ stored)
  · exact Or.inr ⟨first, remembered, same, keyed⟩

/-- Each module is served as it was first added, with its description. -/
theorem module_served
    (keeps : recording.Keeps path journal writer accepted)
    (serves : archive.container.Serves accepted)
    (adding :
      Archive.addModules archive.container [] recording.recorder.modules.infos =
        .ok archive.modules)
    {id : ModuleId}
    (added : List.lookup id journal.images ≠ none) :
    ∃ image info, List.lookup id journal.images = some image ∧
      archive.module id = .ok image ∧ ModuleInfo.ofOctets image = .ok info ∧
      archive.moduleInfo id = .ok info := by
  cases known : recording.recorder.modules.get? id with
  | none => exact absurd (keeps.modules.absent known) added
  | some info =>
    rcases keeps.modules.stored known with ⟨rfl, -, image, first, described, stored⟩
    refine ⟨image, info, first, serves _ stored, described, ?_⟩
    have unique :
        ∀ other ∈ recording.recorder.modules.infos, other.id = info.id → other = info := by
      intro other listed identified
      have knownOther := keeps.mem_infos_iff.1 listed
      rw [identified, known] at knownOther
      exact (Option.some.inj knownOther).symm
    have found :=
      Archive.find?_addModules adding unique (Or.inl (keeps.mem_infos_iff.2 known))
    rw [Archive.moduleInfo]
    simp only [found]

/-- A container that serves what a recorder accepted is an archive that reproduces its run. -/
theorem reproduces
    (keeps : recording.Keeps path journal writer accepted)
    (sound : journal.Sound)
    (few : journal.committed.length ≤ FileSystem.maximalFile)
    (serves : container.Serves (accepted ++ recording.recorder.documents)) :
    ∃ archive, Archive.ofContainer container = .ok archive ∧ archive.Reproduces journal ∧
      archive.diagnostics = recording.recorder.diagnostics := by
  have acceptedServed : container.Serves accepted :=
    fun item member => serves item (List.mem_append_left _ member)
  rcases keeps.opens_as_archive few serves with ⟨modules, adding, opening⟩
  refine ⟨_, opening, ?_, rfl⟩
  constructor
  case count => exact keeps.manifest_recordCount few
  case records =>
    intro index committed there
    refine keeps.record_served acceptedServed ?_ there
    exact keeps.manifest_recordCount few
  case asCalled => exact sound.asCalled
  case keys => exact fun committed member key => sound.mem_contentKeys_iff member key
  case origins =>
    exact fun committed member deed inside => (sound.covers committed member deed inside).origin
  case whole => exact sound.contents
  case contents =>
    intro committed member deed inside pool
    exact keeps.blob_served acceptedServed (sound.mem_contents member inside pool)
  case ids => exact fun committed member id => sound.mem_moduleIds_iff member id
  case images =>
    intro committed member id pointed
    exact keeps.module_served acceptedServed adding (sound.lookup_images member pointed)
  case files => exact sound.images

end Recording.Keeps

/-- An archive that a faithful recorder has completed opens and reproduces the journal. -/
theorem Recording.Faithful.reproduces
    [Zstd.Encoder]
    {path : String}
    {recording after : Recording}
    {journal : Journal}
    (faithful : recording.Faithful path journal)
    (sound : journal.Sound)
    {summary : SealedArchive}
    (finishing : recording.finish = (after, .ok summary))
    (reading : ReaderConfig) :
    ∃ archive, Archive.openFile after.files path reading = .ok archive ∧
      archive.Reproduces journal ∧
      archive.diagnostics = recording.recorder.diagnostics := by
  rcases Recording.finish_ok finishing with ⟨bench, filled, done, records, adding, closing, rfl, -⟩
  rcases faithful.keeps_of_bench records with ⟨writer, accepted, keeps, rfl⟩
  rcases keeps.opens adding closing reading.verifyChecksums with ⟨few, container, opening, served⟩
  rcases keeps.reproduces sound few served with ⟨archive, holding, reproduces, same⟩
  exact ⟨archive, Archive.openFile_eq_ok_iff.2 ⟨container, opening, holding⟩, reproduces, same⟩

namespace RewrittenFile

/-- A file system with one file. -/
def files : FileSystem where
  workingDirectory := []
  nodes := [(["a"], .file 1 1 [97])]
  clock := 2

theorem sane_files : files.Sane := by
  apply FileSystem.sane_of_nodes <;> decide

/-- Settings with which everything is stored as it is. -/
def settings : WriterConfig where
  compression := { enabled := false }

/-- The recorder of a new archive in a file system. -/
def recorderOver
    (files : FileSystem) :
    Recording :=
  .start files "out" settings

/-- The heading of the only invocation. -/
def heading : Heading where
  projectPath := "p"
  language := .csharp
  kind := .regular

/-- The first invocation of a new recorder, before the first call. -/
def begunOver
    (files : FileSystem) :
    Transcript :=
  .start (recorderOver files) heading

set_option maxRecDepth 100000 in
theorem created : (Recorder.create files "out" settings).2.isOk = true :=
  rfl

/-- The invocation before the first call. -/
def begun : Transcript := begunOver files

theorem reaches_begun : Reaches "out" settings (.lent begun) :=
  .start sane_files created heading

/-- The call that adds the file. -/
def adding : Call := .content "a" .source

/-- An invocation after its file system has changed. -/
def changing
    (change : FileSystem → FileSystem)
    (transcript : Transcript) :
    Transcript :=
  let recording := transcript.invocation.recording
  { transcript with
    invocation := { transcript.invocation with
      recording := { recording with files := change recording.files } } }

/-- The run: the file is added, changed, added again, and the invocation is committed. -/
def ended
    (change : FileSystem → FileSystem) :
    Recording × Journal :=
  ((changing change (begun.call adding)).call adding).commit

/-- The file gets another content, and with it another fingerprint. -/
def rewrite
    (files : FileSystem) :
    FileSystem :=
  files.placeFile ["a"] [98]

/-- The file gets another content, and nothing else tells. -/
def swap
    (files : FileSystem) :
    FileSystem :=
  files.put ["a"] (.file 1 1 [98])

/-- A run in which the temporary file is replaced, after which it is added as an input. -/
def replaced : Recording × Journal :=
  let adding : Call := .content "out.tmp" .source
  ((changing (·.placeFile ["out.tmp"] [97, 97, 97, 97]) begun).call adding).commit

end RewrittenFile

end BuildCapture
