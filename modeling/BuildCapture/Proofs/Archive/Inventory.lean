import BuildCapture.Proofs.Archive.Names
import BuildCapture.Proofs.Archive.Runs
import BuildCapture.Proofs.Container.Tiling
import BuildCapture.Proofs.Record.Parts

/-!
# What an archive in the making has

While a recorder records, its container has one entry for each key of its blob
pool, one for each identity of its module pool and one for each record, and
nothing else.  The entries tile the container, so nothing of what was taken
back, broken off or found to be known is left between them.
-/

namespace BuildCapture

open Container

/-! ## Drafts -/

/-- An entry says of a content what it has to: the digest is the key, and the length is right. -/
def DirectoryEntry.Describes
    (entry : DirectoryEntry)
    (contents : List Octets)
    (key : ContentKey) :
    Prop :=
  entry.digest = key.digest ∧
    ∃ data, contents.find? (fun content => ContentKey.of content == key) = some data ∧
      entry.rawLength = data.length

/-- A draft has entries with these names, without gaps, and describes these contents. -/
structure Container.Draft.Stocked
    (draft : Draft)
    (names : List String)
    (contents : List Octets) : Prop where
  tiles : Tiles headerLength draft.image.length draft.entries
  names : (draft.entries.map DirectoryEntry.name).Perm names
  blobs : ∀ entry ∈ draft.entries, ∀ key : ContentKey, entry.name = key.entryName →
    entry.Describes contents key

namespace Container.Draft.Stocked

variable
  {draft : Draft}
  {names : List String}
  {contents : List Octets}

theorem new
    (config : WriterConfig) :
    (Draft.new config).Stocked [] [] where
  tiles := (length_header config.pathStyle.flag).symm
  names := List.Perm.nil
  blobs := by simp [Draft.new]

theorem perm
    (stocked : draft.Stocked names contents)
    {reordered : List String}
    (same : names.Perm reordered) :
    draft.Stocked reordered contents where
  tiles := stocked.tiles
  names := stocked.names.trans same
  blobs := stocked.blobs

/-- The first content with a key stays the first when more contents are added. -/
theorem more
    (stocked : draft.Stocked names contents)
    (added : List Octets) :
    draft.Stocked names (contents ++ added) where
  tiles := stocked.tiles
  names := stocked.names
  blobs := by
    intro entry member key named
    rcases stocked.blobs entry member key named with ⟨digest, data, first, rawLength⟩
    refine ⟨digest, data, ?_, rawLength⟩
    rw [List.find?_append, first, Option.some_or]

/-- One more entry fills the draft up, and it may be that of a content. -/
theorem gained
    (stocked : draft.Stocked names contents)
    {name : String}
    {data : Octets}
    (form : Octets × UInt16)
    (right : ∀ key : ContentKey, name = key.entryName →
      ContentKey.of data = key ∧
        contents.find? (fun content => ContentKey.of content == key) = some data) :
    (draft.gained name data form).Stocked (names ++ [name]) contents where
  tiles := by
    have added :=
      @Tiles.append_singleton _ _ _ stocked.tiles
        ((Pending.ofStored draft.image.length data form.1 form.2).named name) rfl
    show Tiles headerLength (draft.image ++ form.1).length _
    rw [List.length_append]
    exact added
  names := by
    show ((draft.entries ++ [_]).map DirectoryEntry.name).Perm _
    rw [List.map_append]
    exact stocked.names.append_right [name]
  blobs := by
    intro entry member key named
    rcases List.mem_append.1 member with earlier | last
    · exact stocked.blobs entry earlier key named
    · cases List.mem_singleton.1 last
      rcases right key named with ⟨keyed, first⟩
      exact ⟨congrArg ContentKey.digest keyed, data, first, rfl⟩

end Container.Draft.Stocked

/-! ## Recorders -/

namespace Recorder

/-- The names of all entries of an archive in the making: contents, modules and records. -/
def entryNames
    (recorder : Recorder) :
    List String :=
  recorder.blobs.known.map (fun entry => entry.1.entryName) ++
    recorder.modules.known.map (fun entry => entry.1.entryName) ++
    (List.range recorder.recordCount).map InvocationRecord.entryName

/-- The draft of a recorder takes more octets, and it has what the recorder knows of. -/
structure Inventory
    (recorder : Recorder)
    (draft : Draft)
    (contents : List Octets) : Prop where
  unsealed : draft.isSealed = false
  stocked : draft.Stocked recorder.entryNames contents

namespace Inventory

variable
  {recorder after : Recorder}
  {draft left : Draft}
  {contents : List Octets}

/-- A content that was added has its entry. -/
theorem content
    (inventory : recorder.Inventory draft contents)
    (kept : ∀ data ∈ contents, recorder.blobs.contains (.of data) = true)
    {data : Octets}
    {pool : BlobPool}
    (takes : BlobPool.Takes data recorder.blobs draft pool left)
    (blobs : after.blobs = pool)
    (modules : after.modules = recorder.modules)
    (count : after.recordCount = recorder.recordCount) :
    after.Inventory left (contents ++ [data]) := by
  cases takes with
  | again known =>
    refine ⟨inventory.unsealed, ?_⟩
    rw [entryNames, blobs, modules, count]
    exact inventory.stocked.more [data]
  | fresh unknown form =>
    refine ⟨inventory.unsealed, ?_⟩
    have before :
        contents.find? (fun content => ContentKey.of content == .of data) = none := by
      rw [List.find?_eq_none]
      intro other inside same
      have known := kept other inside
      rw [eq_of_beq same, unknown] at known
      cases known
    have stocked :
        (draft.gained (ContentKey.of data).entryName data form).Stocked
          (recorder.entryNames ++ [(ContentKey.of data).entryName])
          (contents ++ [data]) := by
      apply (inventory.stocked.more [data]).gained form
      intro key named
      rw [← ContentKey.entryName_injective named, List.find?_append, before, Option.none_or,
        List.find?_singleton, beq_self_eq_true, if_pos rfl]
      exact ⟨rfl, rfl⟩
    apply stocked.perm
    simp only [entryNames, blobs, modules, count, BlobPool.remember, List.map_append,
      List.map_cons, List.map_nil]
    grind

/-- A module that was added has its entry. -/
theorem module
    (inventory : recorder.Inventory draft contents)
    {info : ModuleInfo}
    {pool : ModulePool}
    (takes : ModulePool.Takes info recorder.modules draft pool left)
    (blobs : after.blobs = recorder.blobs)
    (modules : after.modules = pool)
    (count : after.recordCount = recorder.recordCount) :
    after.Inventory left contents := by
  cases takes with
  | again known =>
    refine ⟨inventory.unsealed, ?_⟩
    rw [entryNames, blobs, modules, count]
    exact inventory.stocked
  | fresh unknown image form =>
    refine ⟨inventory.unsealed, ?_⟩
    have noBlob := ContentKey.ne_entryName info.id.isBelow_entryName.1
    have stocked :
        (draft.gained info.id.entryName image form).Stocked
          (recorder.entryNames ++ [info.id.entryName]) contents :=
      inventory.stocked.gained form fun key named => absurd named (noBlob key)
    apply stocked.perm
    simp only [entryNames, blobs, modules, count, ModulePool.remember, List.map_append,
      List.map_cons, List.map_nil]
    grind

/-- A record that was written has its entry. -/
theorem record
    (inventory : recorder.Inventory draft contents)
    {data : Octets}
    {form : Octets × UInt16}
    (grown : left = draft.gained (InvocationRecord.entryName recorder.recordCount) data form)
    (blobs : after.blobs = recorder.blobs)
    (modules : after.modules = recorder.modules)
    (count : after.recordCount = recorder.recordCount + 1) :
    after.Inventory left contents := by
  subst grown
  have noBlob :=
    ContentKey.ne_entryName (InvocationRecord.isBelow_entryName recorder.recordCount).1
  refine ⟨inventory.unsealed, ?_⟩
  rw [entryNames, blobs, modules, count, List.range_succ, List.map_append, ← List.append_assoc]
  exact inventory.stocked.gained form fun key named => absurd named (noBlob key)

end Inventory

end Recorder

/-! ## Storing -/

/-- The draft of a recorder that records has what the recorder knows of. -/
def Recording.Stocked
    (recording : Recording)
    (contents : List Octets) :
    Prop :=
  ∀ writer, recording.recorder.state = .recording writer →
    recording.recorder.Inventory writer.draft contents

namespace Recording

variable
  {recording after : Recording}
  {contents : List Octets}

/-- A recorder that has given up has no draft. -/
theorem Spent.stocked
    (spent : recording.Spent)
    (contents : List Octets) :
    recording.Stocked contents := by
  intro writer records
  rcases spent.bench with ⟨failure, idle⟩
  simp only [Recording.bench, Recorder.writer, records] at idle
  cases idle

/-- A failure leaves the draft alone or makes the recorder give up. -/
theorem Stocked.of_fail
    (stocked : recording.Stocked contents)
    (left : after = recording ∨ after.Spent) :
    after.Stocked contents := by
  rcases left with rfl | spent
  · exact stocked
  · exact spent.stocked contents

/-- What is noted about invocations that are left out does not matter. -/
theorem Stocked.report
    (stocked : recording.Stocked contents)
    (projectPath : String)
    (failure : Failure) :
    (recording.report projectPath failure).Stocked contents :=
  fun writer records => ⟨(stocked writer records).unsealed, (stocked writer records).stocked⟩

variable
  {path : String}
  {journal : Journal}
  {writer : Writer}
  {accepted : List (String × Octets)}

/-- The keys of all contents that were added are known. -/
theorem Keeps.contains
    (keeps : recording.Keeps path journal writer accepted) :
    ∀ data ∈ journal.contents, recording.recorder.blobs.contains (.of data) = true :=
  fun _ inside => keeps.blobs.added inside

variable [Zstd.Encoder]

theorem Stocked.contentKey
    (stocked : recording.Stocked journal.contents)
    (keeps : recording.Keeps path journal writer accepted)
    {call : Call}
    {input : String}
    (named : call.path? = some input)
    (pooled : call.pool? = some .blobs)
    {key : ContentKey}
    (obtaining : recording.contentKey input = (after, .ok key)) :
    after.Stocked (journal.contents ++ [(call.deed recording.files journal).data]) := by
  have inventory := stocked writer keeps.records
  rw [contentKey_eq] at obtaining
  rcases recalling_ok_cases (keeps.inputs.knownContent? input) obtaining with
    ⟨sight, seen, ⟨reading, recalled, ⟨keyed, there⟩, rfl⟩ | ⟨unrecalled, left, stored, rfl⟩⟩
  · rw [(Call.deed_of_recalled named pooled seen recalled).1]
    intro other records
    rw [keeps.records] at records
    cases records
    exact inventory.content keeps.contains (.again (keyed ▸ there)) rfl rfl rfl
  · rw [(Call.deed_of_unrecalled named pooled seen unrecalled).1]
    rcases storing_ok stored with ⟨bench, pool, filled, records, putting, rfl⟩
    cases keeps.bench_eq records
    rcases BlobPool.takes_of_putFile putting with ⟨data, reading, -, takes⟩
    rw [FileSystem.read, FileSystem.openSource_eq, seen] at reading
    rw [Source.data_of_readAll reading]
    intro other recordsAfter
    cases recordsAfter
    exact inventory.content keeps.contains takes rfl rfl rfl

theorem Stocked.storeText
    (stocked : recording.Stocked journal.contents)
    (keeps : recording.Keeps path journal writer accepted)
    {data : Octets}
    {key : ContentKey}
    (storing : recording.storeText data = (after, .ok key)) :
    after.Stocked (journal.contents ++ [data]) := by
  have inventory := stocked writer keeps.records
  rw [storeText_eq] at storing
  rcases storing_ok storing with ⟨bench, pool, filled, records, putting, rfl⟩
  cases keeps.bench_eq records
  intro other recordsAfter
  cases recordsAfter
  exact inventory.content keeps.contains (BlobPool.takes_of_put putting).2 rfl rfl rfl

theorem Stocked.moduleInfo
    (stocked : recording.Stocked contents)
    (keeps : recording.Keeps path journal writer accepted)
    {input : String}
    {info : ModuleInfo}
    (obtaining : recording.moduleInfo input = (after, .ok info)) :
    after.Stocked contents := by
  have inventory := stocked writer keeps.records
  rw [moduleInfo_eq] at obtaining
  rcases recalling_ok obtaining with ⟨fingerprint, found, ⟨known, rfl⟩ | ⟨-, left, stored, rfl⟩⟩
  · intro other records
    rw [keeps.records] at records
    cases records
    exact inventory
  · rcases storing_ok stored with ⟨bench, pool, filled, records, putting, rfl⟩
    cases keeps.bench_eq records
    intro other recordsAfter
    cases recordsAfter
    apply inventory.module (ModulePool.takes_of_putFile putting) <;> rfl

theorem Stocked.storeRecord
    (stocked : recording.Stocked contents)
    (keeping : recording.Faithful path journal)
    {record : InvocationRecord}
    {index : Nat}
    (storing : recording.storeRecord record = (after, .ok index)) :
    after.Stocked contents := by
  rcases storeRecord_eq_ok storing with ⟨bench, written, records, writing, -, rfl⟩
  rcases keeping.keeps_of_bench records with ⟨writer, accepted, keeps, rfl⟩
  rcases Workbench.draft_of_bench_write writing with ⟨form, grown⟩
  intro other recordsAfter
  cases recordsAfter
  apply (stocked writer keeps.records).record grown <;> rfl

theorem Stocked.of_commit_error
    {invocation : Invocation}
    (stocked : invocation.recording.Stocked contents)
    {failure : Failure}
    (committing : invocation.commit = (after, .error failure)) :
    after.Stocked contents := by
  rcases Invocation.commit_cases committing with
    ⟨-, storing⟩ | ⟨cause, -, ⟨-, -, rfl⟩ | ⟨-, failing⟩⟩
  · exact stocked.of_fail (storeRecord_error storing)
  · exact stocked.report _ _
  · exact stocked.of_fail (fail_cases failing).2

end Recording

/-! ## Calls -/

variable [Zstd.Encoder]

/-- The draft of a recorder that is lent has what the recorder knows of. -/
def Transcript.Stocked
    (transcript : Transcript) :
    Prop :=
  transcript.invocation.recording.Stocked transcript.journal.contents

namespace Transcript.Stocked

variable
  {transcript : Transcript}
  {path : String}

/-- A call that adds an input keeps the draft stocked if obtaining the input does. -/
theorem adding
    (stocked : transcript.Stocked)
    {α : Type}
    {call : Call}
    {fetch : Recording → Recording × Except Failure α}
    {note : α → InvocationRecord → InvocationRecord}
    (applies : call.apply transcript.invocation = transcript.invocation.adding fetch note)
    (fails : ∀ {after failure},
      fetch transcript.invocation.recording = (after, .error failure) →
        after = transcript.invocation.recording ∨ after.Spent)
    (succeeds : ∀ {after found},
      fetch transcript.invocation.recording = (after, .ok found) →
        after.Stocked (transcript.journal.observe (transcript.deed call)).contents) :
    (transcript.call call).Stocked := by
  have adds := transcript.adds applies
  generalize transcript.call call = called at adds ⊢
  cases adds with
  | ignored failed => exact stocked
  | failed unfailed fetching => exact Recording.Stocked.of_fail stocked (fails fetching)
  | noted unfailed fetching => exact succeeds fetching

/-- Every call keeps the draft stocked. -/
theorem call
    (stocked : transcript.Stocked)
    (faithful : transcript.invocation.recording.Faithful path transcript.journal)
    (call : Call) :
    (transcript.call call).Stocked := by
  cases call.shape with
  | setting note pool applies notes =>
    rw [transcript.call_setting (applies _) pool]
    exact stocked
  | content input note pool named applies notes =>
    apply stocked.adding (applies _) Recording.contentKey_error
    intro after key obtaining
    rcases faithful with ⟨writer, accepted, keeps⟩ | spent
    · rw [deed, transcript.journal.observe_content (Call.pool?_deed pool _ _)]
      exact Recording.Stocked.contentKey stocked keeps named pool obtaining
    · exact absurd obtaining spent.contentKey
  | text data note pool noFile applies reads notes =>
    apply stocked.adding (applies _) Recording.storeText_error
    intro after key storing
    rcases faithful with ⟨writer, accepted, keeps⟩ | spent
    · rw [deed, transcript.journal.observe_content (Call.pool?_deed pool _ _), reads]
      exact Recording.Stocked.storeText stocked keeps storing
    · exact absurd storing spent.storeText
  | module input note pool named applies notes =>
    apply stocked.adding (applies _) Recording.moduleInfo_error
    intro after info obtaining
    rcases faithful with ⟨writer, accepted, keeps⟩ | spent
    · rw [Journal.observe, deed, Call.call_deed]
      simp only [pool]
      exact Recording.Stocked.moduleInfo stocked keeps obtaining
    · exact absurd obtaining spent.moduleInfo

end Transcript.Stocked

/-- Committing keeps the draft stocked. -/
theorem Transcript.Stocked.commit
    {transcript : Transcript}
    {path : String}
    (stocked : transcript.Stocked)
    (faithful : transcript.invocation.recording.Faithful path transcript.journal) :
    transcript.commit.1.Stocked transcript.commit.2.contents := by
  rw [Transcript.commit]
  split
  · next after failure committing => exact Recording.Stocked.of_commit_error stocked committing
  · next after index committing =>
    exact Recording.Stocked.storeRecord stocked faithful (Invocation.commit_ok committing).2

/-! ## Runs -/

/-- The draft at a stage has what the recorder knows of. -/
def Stage.Stocked : Stage → Prop
  | .idle recording journal => recording.Stocked journal.contents
  | .lent transcript => transcript.Stocked

omit [Zstd.Encoder] in
/-- A recorder that was just created has an empty draft. -/
theorem Recording.stocked_create
    {files after : FileSystem}
    {path : String}
    {config : WriterConfig}
    {recorder : Recorder}
    (creating : Recorder.create files path config = (after, .ok recorder)) :
    (⟨after, recorder⟩ : Recording).Stocked [] := by
  rcases Recorder.create_eq_ok creating with ⟨writer, starting, rfl⟩
  intro other records
  cases records
  have draft := (Workbench.sound_create starting).2.2
  constructor
  · rw [draft]
    rfl
  · rw [draft]
    exact .new config

/-- The draft is stocked at every stage that is reached. -/
theorem Reaches.stocked
    {path : String}
    {config : WriterConfig}
    {stage : Stage}
    (reached : Reaches path config stage) :
    stage.Stocked := by
  refine Reaches.induct ?create ?elapse ?begin ?call ?commit ?drop ?report ?unfinished reached
  case create => exact fun _ creating => Recording.stocked_create creating
  case elapse =>
    intro stage files stocked _ _
    cases stage with
    | idle recording journal => exact stocked
    | lent transcript => exact stocked
  case begin =>
    intro recording journal invocation stocked heading beginning
    rw [Recording.begin_eq_ok beginning]
    exact stocked
  case call =>
    exact fun reached stocked call => Transcript.Stocked.call stocked reached.holds.faithful call
  case commit =>
    exact fun reached stocked => Transcript.Stocked.commit stocked reached.holds.faithful
  case drop => exact fun stocked => stocked
  case report =>
    exact fun stocked projectPath failure => Recording.Stocked.report stocked projectPath failure
  case unfinished =>
    exact fun stocked finishing => stocked.of_fail (Recording.finish_error finishing)

end BuildCapture
