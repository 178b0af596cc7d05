import BuildCapture.Proofs.Archive.Fidelity
import BuildCapture.Proofs.Archive.Inventory
import BuildCapture.Proofs.Archive.Register
import BuildCapture.Proofs.Pool.Exhaustion

/-!
# Why inputs fail

What stops a recorder that records is either the input, and then what the file
of the input shows when it is opened says which failure that is and the recorder
stays as it was, or want of room, and then the recorder gives up.  It never is
anything that the recorder has stored before: every name it asks for is free.
-/

namespace BuildCapture

open Container

/-- A name is taken only by what the recorder knows of. -/
theorem Recorder.Inventory.registers
    {recorder : Recorder}
    {draft : Draft}
    {contents : List Octets}
    (inventory : recorder.Inventory draft contents) :
    recorder.Registers draft where
  unsealed := inventory.unsealed
  has name taken := by
    have listed : name ∈ recorder.entryNames := by
      rw [← inventory.stocked.names.mem_iff]
      by_contra absent
      rw [Draft.contains_eq_false_iff.2 absent] at taken
      cases taken
    simp only [entryNames, List.mem_append, List.mem_map, List.mem_range, or_assoc] at listed
    rcases listed with ⟨entry, member, rfl⟩ | ⟨entry, member, rfl⟩ | ⟨index, fewer, rfl⟩
    · exact ⟨.content entry.1, List.any_eq_true.2 ⟨entry, member, beq_self_eq_true _⟩, rfl⟩
    · refine ⟨.module entry.1, ?_, rfl⟩
      rw [Has, ModulePool.contains, Option.isSome_iff_ne_none]
      intro unknown
      have different := List.lookup_eq_none_iff.1 unknown entry member
      rw [bne_self_eq_false] at different
      cases different
    · exact ⟨.record index, fewer, rfl⟩

/-! ## Faults of inputs -/

/-- Why a pool does not take a file that shows this when it is opened. -/
def InputPool.fault?
    (pool : InputPool)
    (path : String)
    (isKnown : ModuleId → Bool) : Except FileFault Source → Option Failure
  | .error fault => some (.inputUnreadable path fault)
  | .ok source =>
    match pool with
    | .blobs => source.fault.map (.inputUnreadable path)
    | .modules =>
      match ModuleInfo.ofSource source with
      | .error fault => some (.unsupportedModule path fault)
      | .ok (info, _) =>
        if isKnown info.id then none else source.fault.map (.inputUnreadable path)

/-- Why a deed fails by itself; what is recalled is not looked at again. -/
def Deed.fault?
    (deed : Deed) :
    Option Failure :=
  match deed.recalled?, deed.call.path?, deed.call.pool?, deed.sight? with
  | none, some path, some pool, some shown =>
    pool.fault? path (fun _ => deed.isStored) (shown.map Sight.source)
  | _, _, _, _ => none

/-- A fault of an input concerns only its invocation. -/
theorem InputPool.isInvocationScoped_of_fault?
    {pool : InputPool}
    {path : String}
    {isKnown : ModuleId → Bool}
    {shown : Except FileFault Source}
    {failure : Failure}
    (faulty : pool.fault? path isKnown shown = some failure) :
    failure.isInvocationScoped = true := by
  unfold fault? at faulty
  split at faulty
  · cases faulty
    rfl
  split at faulty
  · rcases Option.map_eq_some_iff.1 faulty with ⟨fault, -, rfl⟩
    rfl
  split at faulty
  · cases faulty
    rfl
  split at faulty
  · cases faulty
  · rcases Option.map_eq_some_iff.1 faulty with ⟨fault, -, rfl⟩
    rfl

theorem Deed.isInvocationScoped_of_fault?
    {deed : Deed}
    {failure : Failure}
    (faulty : deed.fault? = some failure) :
    failure.isInvocationScoped = true := by
  unfold fault? at faulty
  split at faulty
  · exact InputPool.isInvocationScoped_of_fault? faulty
  · cases faulty

namespace Call

variable
  {call : Call}
  {path : String}
  {pool : InputPool}
  {files : FileSystem}
  {journal : Journal}

/-- What shows nothing is unreadable. -/
theorem fault?_deed_of_error
    (named : call.path? = some path)
    (pooled : call.pool? = some pool)
    {fault : FileFault}
    (missing : files.look path = .error fault) :
    (call.deed files journal).fault? = some (.inputUnreadable path fault) := by
  rw [deed_of_file named pooled, missing]
  simp only [Deed.fault?, named, pooled]
  rfl

variable
  {sight : Sight}

theorem fault?_deed_of_recalled
    (named : call.path? = some path)
    (pooled : call.pool? = some pool)
    (seen : files.look path = .ok sight)
    {reading : Reading}
    (recalled : journal.recalled? path pool sight.fingerprint = some reading) :
    (call.deed files journal).fault? = none := by
  have recalls := (recalled?_deed named pooled seen journal).trans recalled
  simp only [Deed.fault?, recalls]

theorem isStored_deed
    (named : call.path? = some path)
    (pooled : call.pool? = some pool)
    (seen : files.look path = .ok sight)
    (journal : Journal) :
    (call.deed files journal).isStored =
      (pool == .modules && journal.hasStored sight.source.data) := by
  rw [deed_of_file named pooled, seen]
  rfl

theorem fault?_deed_of_unrecalled
    (named : call.path? = some path)
    (pooled : call.pool? = some pool)
    (seen : files.look path = .ok sight)
    (unrecalled : journal.recalled? path pool sight.fingerprint = none) :
    (call.deed files journal).fault? =
      pool.fault? path (fun _ => pool == .modules && journal.hasStored sight.source.data)
        (.ok sight.source) := by
  have recalls := (recalled?_deed named pooled seen journal).trans unrecalled
  have shows : (call.deed files journal).sight? = some (.ok sight) := by
    rw [deed_of_file named pooled, seen]
  have stored := isStored_deed named pooled seen journal
  rw [Deed.fault?, call_deed]
  simp only [recalls, named, pooled, shows, stored]
  rfl

/-- A call without a file does not fail by itself. -/
theorem fault?_deed_of_none
    (noFile : call.path? = none) :
    (call.deed files journal).fault? = none := by
  rw [deed_of_none noFile]
  simp only [Deed.fault?, noFile]

end Call

/-- A recorder knows exactly the identities of the modules that were stored. -/
theorem Recording.Keeps.contains_iff_hasStored
    {recording : Recording}
    {path : String}
    {journal : Journal}
    {writer : Writer}
    {accepted : List (String × Octets)}
    (keeps : recording.Keeps path journal writer accepted)
    {image : Octets}
    {info : ModuleInfo}
    (described : ModuleInfo.ofOctets image = .ok info) :
    journal.hasStored image = recording.recorder.modules.contains info.id := by
  rw [Journal.hasStored, ModuleId.ofImage?_of_described described, ModulePool.contains,
    Option.any_some, Bool.eq_iff_iff, Option.isSome_iff_ne_none, Option.isSome_iff_ne_none]
  exact keeps.modules.get?_eq_none_iff.symm.not

/-! ## Outcomes -/

namespace Recording

section Ends

variable [Zstd.Encoder]

/--
How an operation that stores data with a writer can end, given what is wrong
with its input: it fails as the input says and leaves the recorder alone, or
nothing is wrong, and it succeeds or there is no room for the data and the
recorder gives up.
-/
inductive Ends
    {α : Type}
    (recording : Recording)
    (writer : Writer)
    (data : Octets)
    (fault? : Option Failure) : Recording × Except Failure α → Prop
  | success {after : Recording} {left : Writer} {found : α}
    (harmless : fault? = none)
    (records : after.recorder.state = .recording left)
    (grows : writer.draft.GrowsBy data left.draft) :
    Ends recording writer data fault? (after, .ok found)
  | fault {failure : Failure}
    (faulty : fault? = some failure) :
    Ends recording writer data fault? (recording, .error failure)
  | exhaustion {after : Recording} {failure : Failure}
    (harmless : fault? = none)
    (lacks : writer.draft.Lacks data failure)
    (aborted : after.recorder.state = .aborted failure.message) :
    Ends recording writer data fault? (after, .error failure)

theorem Ends.eq_of_fault
    {α : Type}
    {recording : Recording}
    {writer : Writer}
    {data : Octets}
    {fault? : Option Failure}
    {result : Recording × Except Failure α}
    (ends : recording.Ends writer data fault? result)
    {failure : Failure}
    (faulty : fault? = some failure) :
    result = (recording, .error failure) := by
  cases ends with
  | success harmless | exhaustion harmless =>
    rw [faulty] at harmless
    cases harmless
  | fault faultyToo =>
    rw [faulty] at faultyToo
    cases faultyToo
    rfl

end Ends

variable
  {recording : Recording}
  {writer : Writer}
  {data : Octets}

theorem bench_of_state
    (records : recording.recorder.state = .recording writer) :
    recording.bench = .ok ⟨recording.files, writer⟩ := by
  simp only [bench, Recorder.writer, records]

/-- Only a recorder that records has a workbench. -/
theorem state_of_bench
    {bench : Workbench}
    (records : recording.bench = .ok bench) :
    ∃ writer, recording.recorder.state = .recording writer ∧
      bench = ⟨recording.files, writer⟩ := by
  rw [Recording.bench, Recorder.writer] at records
  split at records
  · cases records
  next writer state =>
  split at state
  · next recorded recording =>
    cases state
    cases records
    exact ⟨writer, recording, rfl⟩
  · cases state
  · cases state

variable
  [Zstd.Encoder]

/-- Want of room makes a recorder give up. -/
theorem ends_fail_of_lacks
    {α : Type}
    (records : recording.recorder.state = .recording writer)
    {fault? : Option Failure}
    (harmless : fault? = none)
    {failure : Failure}
    (lacks : writer.draft.Lacks data failure) :
    recording.Ends writer data fault? (recording.fail failure : Recording × Except Failure α) := by
  have aborted : (recording.abort failure).recorder.state = .aborted failure.message := by
    rw [abort, bench_of_state records]
  simp only [fail, lacks.ofExhaustion.not_scoped, Bool.false_eq_true, if_false]
  exact .exhaustion harmless lacks aborted

/-- Storing ends as the store on the workbench does. -/
theorem ends_storing
    {α β : Type}
    (records : recording.recorder.state = .recording writer)
    {fault? : Option Failure}
    (confined : ∀ failure, fault? = some failure → failure.isInvocationScoped = true)
    {store : Workbench → Except Failure (α × β × Workbench)}
    (failing : ∀ failure, store ⟨recording.files, writer⟩ = .error failure →
      fault? = none ∧ writer.draft.Lacks data failure ∨ fault? = some failure)
    (storing : ∀ found pool left, store ⟨recording.files, writer⟩ = .ok (found, pool, left) →
      fault? = none ∧ writer.draft.GrowsBy data left.writer.draft)
    {keep : β → Workbench → Recording}
    (keeping : ∀ pool left, (keep pool left).recorder.state = .recording left.writer) :
    recording.Ends writer data fault? (recording.storing store keep) := by
  rw [Recording.storing, bench_of_state records]
  simp only
  cases outcome : store ⟨recording.files, writer⟩ with
  | error failure =>
    rcases failing failure outcome with ⟨harmless, lacks⟩ | faulty
    · exact ends_fail_of_lacks records harmless lacks
    · simp only [fail, confined failure faulty, if_true]
      exact .fault faulty
  | ok stored =>
    rcases stored with ⟨found, pool, left⟩
    rcases storing found pool left outcome with ⟨harmless, grows⟩
    exact .success harmless (keeping pool left) grows

variable
  {path : String}
  {journal : Journal}
  {accepted : List (String × Octets)}

/-- Recalling ends as storing does, unless the input is missing or recalled. -/
theorem ends_recalling
    {α : Type}
    (records : recording.recorder.state = .recording writer)
    {call : Call}
    {input : String}
    {pool : InputPool}
    (named : call.path? = some input)
    (pooled : call.pool? = some pool)
    {known? : Fingerprint → Option α}
    {right : α → Reading → Prop}
    (remembered : ∀ fingerprint,
      Option.Rel right (known? fingerprint) (journal.recalled? input pool fingerprint))
    {stored : Recording × Except Failure α}
    (storing : ∀ sight, recording.files.look input = .ok sight →
      recording.Ends writer sight.source.data
        (pool.fault? input (fun _ => pool == .modules && journal.hasStored sight.source.data)
          (.ok sight.source))
        stored)
    (identity : α → InputIdentity) :
    recording.Ends writer (call.deed recording.files journal).data
      (call.deed recording.files journal).fault?
      (recording.recalling input known? stored identity) := by
  rw [recalling]
  cases seen : recording.files.look input with
  | error fault =>
    rw [FileSystem.stat_eq_error_iff.2 seen]
    exact .fault (Call.fault?_deed_of_error named pooled seen)
  | ok sight =>
    rw [FileSystem.stat_eq_ok_iff.2 ⟨sight, seen, rfl⟩]
    have related := remembered sight.fingerprint
    cases recalled : journal.recalled? input pool sight.fingerprint with
    | some reading =>
      rw [recalled] at related
      simp only
      generalize known? sight.fingerprint = found? at related ⊢
      cases related
      exact .success (Call.fault?_deed_of_recalled named pooled seen recalled) records (.refl _ _)
    | none =>
      rw [recalled] at related
      rw [Call.fault?_deed_of_unrecalled named pooled seen recalled,
        (Call.deed_of_unrecalled named pooled seen recalled).1]
      simp only
      generalize known? sight.fingerprint = found? at related ⊢
      cases related
      cases storing sight seen with
      | success harmless left grows => exact .success harmless left grows
      | fault faulty => exact .fault faulty
      | exhaustion harmless lacks aborted => exact .exhaustion harmless lacks aborted

namespace Keeps

variable
  {call : Call}
  {input : String}

/-- A content is obtained unless its file can not be read or there is no room. -/
theorem ends_contentKey
    (keeps : recording.Keeps path journal writer accepted)
    (stocked : recording.Stocked journal.contents)
    (named : call.path? = some input)
    (pooled : call.pool? = some .blobs) :
    recording.Ends writer (call.deed recording.files journal).data
      (call.deed recording.files journal).fault? (recording.contentKey input) := by
  have room : recording.recorder.blobs.HasRoom ⟨recording.files, writer⟩ :=
    (stocked writer keeps.records).registers.roomForBlobs
  rw [contentKey_eq]
  apply ends_recalling keeps.records named pooled (keeps.inputs.knownContent? input)
  intro sight seen
  have read : (⟨recording.files, writer⟩ : Workbench).files.read input = sight.source.readAll := by
    rw [FileSystem.read, FileSystem.openSource_eq, seen]
    rfl
  apply ends_storing keeps.records
  case confined => exact fun failure => InputPool.isInvocationScoped_of_fault?
  case failing =>
    intro failure putting
    rcases BlobPool.error_of_putFile room putting with
      ⟨data, reading, lacks⟩ | ⟨fault, unreadable, rfl⟩
    · rw [read] at reading
      rw [Source.data_of_readAll reading]
      exact Or.inl ⟨congrArg (Option.map _) (Source.fault_of_readAll reading), lacks⟩
    · rw [read, Source.readAll_eq_error_iff] at unreadable
      exact Or.inr (congrArg (Option.map _) unreadable)
  case storing =>
    intro key pool left putting
    rcases BlobPool.growsBy_of_putFile putting with ⟨data, reading, grows⟩
    rw [read] at reading
    rw [Source.data_of_readAll reading]
    exact ⟨congrArg (Option.map _) (Source.fault_of_readAll reading), grows⟩
  case keeping => exact fun pool left => rfl

/-- A text is stored unless there is no room. -/
theorem ends_storeText
    (keeps : recording.Keeps path journal writer accepted)
    (stocked : recording.Stocked journal.contents)
    (data : Octets) :
    recording.Ends writer data none (recording.storeText data) := by
  have room : recording.recorder.blobs.HasRoom ⟨recording.files, writer⟩ :=
    (stocked writer keeps.records).registers.roomForBlobs
  rw [storeText_eq]
  apply ends_storing keeps.records
  case confined => exact fun failure => nofun
  case failing => exact fun failure putting => Or.inl ⟨rfl, BlobPool.lacks_of_put room putting⟩
  case storing => exact fun _ _ _ putting => ⟨rfl, BlobPool.growsBy_of_put putting⟩
  case keeping => exact fun pool left => rfl

/-- A module is obtained unless its file is no module, breaks off, or there is no room. -/
theorem ends_moduleInfo
    (keeps : recording.Keeps path journal writer accepted)
    (stocked : recording.Stocked journal.contents)
    (named : call.path? = some input)
    (pooled : call.pool? = some .modules) :
    recording.Ends writer (call.deed recording.files journal).data
      (call.deed recording.files journal).fault? (recording.moduleInfo input) := by
  have room : recording.recorder.modules.HasRoom ⟨recording.files, writer⟩ :=
    (stocked writer keeps.records).registers.roomForModules
  rw [moduleInfo_eq]
  apply ends_recalling keeps.records named pooled (keeps.inputs.knownModule? input)
  intro sight seen
  have shown :
      (⟨recording.files, writer⟩ : Workbench).files.openSource input = .ok sight.source := by
    rw [FileSystem.openSource_eq, seen]
    rfl
  apply ends_storing keeps.records
  case confined => exact fun failure => InputPool.isInvocationScoped_of_fault?
  case failing =>
    intro failure putting
    rcases ModulePool.error_of_putFile room putting with
      ⟨fault, unreadable, -⟩ | ⟨source, opened, outcome⟩
    · rw [shown] at unreadable
      cases unreadable
    rw [shown] at opened
    cases opened
    rcases outcome with
      ⟨fault, noModule, rfl⟩ | ⟨info, body, described, unknown, ⟨whole, lacks⟩ | ⟨fault, broken, rfl⟩⟩
    · right
      simp only [InputPool.fault?, noModule]
    · left
      refine ⟨?_, lacks⟩
      simp only [InputPool.fault?, described, whole, Option.map_none, ite_self]
    · right
      have new : journal.hasStored sight.source.data = false := by
        rw [keeps.contains_iff_hasStored (ModuleInfo.ofOctets_of_ofSource described),
          ModulePool.contains, unknown]
        rfl
      simp [InputPool.fault?, described, new, broken]
  case storing =>
    intro info pool left putting
    rcases ModulePool.stored_of_putFile keeps.modules keeps.settled putting with
      ⟨source, added, opened, whole, stored⟩
    rcases ModulePool.growsBy_of_putFile putting with ⟨sourceToo, openedToo, grows⟩
    rw [shown] at opened openedToo
    cases opened
    cases openedToo
    rcases stored.described with ⟨found, described, same⟩
    rcases ModuleInfo.ofSource_of_ofOctets described with ⟨body, reading⟩
    refine ⟨?_, grows⟩
    simp only [InputPool.fault?, reading]
    split
    · rfl
    · next unstored =>
      rw [keeps.contains_iff_hasStored described, same] at unstored
      have unknown : recording.recorder.modules.get? info.id = none := by
        simpa [ModulePool.contains] using unstored
      rw [whole unknown]
      rfl
  case keeping => exact fun pool left => rfl

/-- A record is stored unless there is no room. -/
theorem ends_storeRecord
    (keeps : recording.Keeps path journal writer accepted)
    (stocked : recording.Stocked journal.contents)
    (record : InvocationRecord) :
    recording.Ends writer record.encode none (recording.storeRecord record) := by
  have inventory := stocked writer keeps.records
  have free :
      (⟨recording.files, writer⟩ : Workbench).contains
          (InvocationRecord.entryName recording.recorder.recordCount) = false :=
    inventory.registers.free_record
  simp only [Recording.storeRecord, keeps.bench]
  split
  · next failure writing =>
    apply ends_fail_of_lacks keeps.records rfl
    exact Workbench.lacks_of_write inventory.unsealed free writing
  · next written writing => exact .success rfl rfl (Workbench.growsBy_of_write writing)

end Keeps

/-! ## Completing -/

/-- Adding documents rewrites nothing but the temporary file. -/
theorem rewrites_addDocuments
    {bench filled : Workbench}
    {documents : List (String × Octets)}
    (adding : addDocuments bench documents = .ok filled) :
    bench.Rewrites filled := by
  induction documents generalizing bench with
  | nil =>
    cases adding
    exact .refl _
  | cons document rest ih =>
    rcases addDocuments_cons_eq_ok adding with ⟨written, writing, addingRest⟩
    exact (Workbench.rewrites_write writing).trans (ih addingRest)

/-- After one document was added, the names of the others are still free. -/
theorem documents_left
    {bench written : Workbench}
    {name : String}
    {data : Octets}
    {others : List String}
    (writing : bench.write name data = .ok written)
    (unsealed : bench.writer.draft.isSealed = false)
    (different : name ∉ others)
    (free : ∀ other ∈ others, bench.contains other = false) :
    written.writer.draft.isSealed = false ∧
      ∀ other ∈ others, written.contains other = false := by
  rcases Workbench.draft_of_bench_write writing with ⟨form, grown⟩
  constructor
  · rw [grown]
    exact unsealed
  · intro other member
    have before : bench.writer.draft.contains other = false := free other member
    have apart : name ≠ other := fun same => different (same ▸ member)
    rw [Workbench.contains, grown, Draft.contains_gained, before, Bool.false_or,
      beq_eq_false_iff_ne]
    exact apart

/-- Documents with names of their own that are free can only lack room. -/
theorem exhaustion_of_addDocuments
    {bench : Workbench}
    {documents : List (String × Octets)}
    (unsealed : bench.writer.draft.isSealed = false)
    (distinct : (documents.map Prod.fst).Nodup)
    (free : ∀ name ∈ documents.map Prod.fst, bench.contains name = false)
    {failure : Failure}
    (adding : addDocuments bench documents = .error failure) :
    failure.OfExhaustion := by
  induction documents generalizing bench with
  | nil => cases adding
  | cons document rest ih =>
    rcases document with ⟨name, data⟩
    rw [List.map_cons, List.nodup_cons] at distinct
    rw [List.map_cons, List.forall_mem_cons] at free
    rcases addDocuments_cons_eq_error adding with writing | ⟨written, writing, addingRest⟩
    · exact (Workbench.lacks_of_write unsealed free.1 writing).ofExhaustion
    · rcases documents_left writing unsealed distinct.1 free.2 with ⟨still, others⟩
      exact ih still distinct.2 others addingRest

/-- Documents with free names can be added if there is room for them. -/
theorem addDocuments_of_room
    {bench : Workbench}
    {documents : List (String × Octets)}
    (unsealed : bench.writer.draft.isSealed = false)
    (distinct : (documents.map Prod.fst).Nodup)
    (free : ∀ name ∈ documents.map Prod.fst, bench.contains name = false)
    (room : bench.writer.draft.HasRoomFor (documents.map Prod.snd)) :
    ∃ filled, addDocuments bench documents = .ok filled := by
  induction documents generalizing bench with
  | nil => exact ⟨bench, rfl⟩
  | cons document rest ih =>
    rcases document with ⟨name, data⟩
    rw [List.map_cons, List.nodup_cons] at distinct
    unfold addDocuments
    cases writing : bench.write name data with
    | error failure =>
      exact absurd (Workbench.lacks_of_write unsealed (free name List.mem_cons_self) writing)
        room.not_lacks
    | ok written =>
      rcases documents_left writing unsealed distinct.1
        (fun other later => free other (List.mem_cons_of_mem _ later)) with ⟨still, others⟩
      exact ih still distinct.2 others (room.grown (Workbench.growsBy_of_write writing))

/-- There is room for the documents that complete an archive, and for its directory. -/
def HasRoomToFinish
    (recording : Recording) :
    Prop :=
  ∀ bench, recording.bench = .ok bench →
    bench.writer.draft.HasRoomFor (recording.recorder.documents.map Prod.snd) ∧
      ∀ filled, addDocuments bench recording.recorder.documents = .ok filled →
        filled.writer.draft.sealedImage.length ≤ FileSystem.maximalFile

namespace Keeps

/-- An archive is completed where a file could stand if there is room. -/
theorem finish_of_room
    (keeps : recording.Keeps path journal writer accepted)
    (stocked : recording.Stocked journal.contents)
    (admits : recording.files.Admits (.ofPath path))
    (room : recording.HasRoomToFinish) :
    ∃ summary, recording.finish.2 = .ok summary := by
  have inventory := stocked writer keeps.records
  have names : recording.recorder.documents.map Prod.fst =
      [ModuleIndex.entryName, Diagnostic.entryName, Manifest.entryName] := rfl
  rcases room _ keeps.bench with ⟨roomForDocuments, short⟩
  have added : ∃ filled,
      addDocuments ⟨recording.files, writer⟩ recording.recorder.documents = .ok filled := by
    apply addDocuments_of_room inventory.unsealed _ _ roomForDocuments
    · rw [names]
      decide
    · exact fun name => inventory.registers.free_document
  rcases added with ⟨filled, adding⟩
  rcases settled_addDocuments keeps.settled adding with ⟨settled, continues⟩
  have rewrites := rewrites_addDocuments adding
  have unsealed : filled.writer.draft.isSealed = false :=
    (congrArg Prod.snd rewrites.settings).trans inventory.unsealed
  have admitsToo : filled.files.Admits (.ofPath filled.writer.path) := by
    rw [continues.path, keeps.path]
    exact admits.congr rewrites.files.sameShape
  simp only [finish, keeps.bench, adding]
  rcases closing : filled.finish with ⟨done, failure | ⟨⟩⟩
  · rcases Workbench.error_of_finish settled.sound.backed unsealed admitsToo closing with ⟨-, long⟩
    exact absurd (short filled adding) (Nat.not_le.2 long)
  · exact ⟨_, rfl⟩

/-- An archive that was completed stands where a file could stand before. -/
theorem admits_of_finish
    (keeps : recording.Keeps path journal writer accepted)
    {after : Recording}
    {summary : SealedArchive}
    (finishing : recording.finish = (after, .ok summary)) :
    recording.files.Admits (.ofPath path) := by
  rcases finish_ok finishing with ⟨bench, filled, done, records, adding, closing, -⟩
  cases keeps.bench_eq records
  have rewrites := rewrites_addDocuments adding
  have admits := Workbench.admits_of_finish closing
  rw [rewrites.path, keeps.path] at admits
  exact admits.congr rewrites.files.sameShape.symm

end Keeps

end Recording

end BuildCapture
