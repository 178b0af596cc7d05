import BuildCapture.Proofs.Archive.Lifecycle
import BuildCapture.Proofs.Archive.Register

/-!
# Names that never collide

A recorder asks its container only for names that are free: those of contents
and modules that its pools do not know, that of the next record, and at the end
those of the documents.  So a recorder fails because of an input, because of a
file or because it has ended, but never because a name is taken, whatever is
asked of it and however the files change.
-/

namespace BuildCapture

open Container

/-! ## Failures -/

/-- A failure that is down to an input, to a file or to how the recorder ended, not to a name. -/
inductive Failure.OfRecording : Failure → Prop
  | confined {failure : Failure} (confined : failure.isInvocationScoped = true) :
    OfRecording failure
  | file (fault : FileFault) : OfRecording (.file fault)
  | alreadySealed : OfRecording .alreadySealed
  | aborted {cause : Failure} (blameless : OfRecording cause) :
    OfRecording (.aborted cause.message)

namespace Failure

theorem OfExhaustion.ofRecording
    {failure : Failure}
    (exhaustion : failure.OfExhaustion) :
    failure.OfRecording := by
  cases exhaustion with
  | tooLarge => exact .file .tooLarge
  | uncompressed => exact .file .uncompressed

/-- What is reported starts like a refusal only if it is one. -/
theorem isPrefixOf_message
    {failure : Failure}
    (other : ∀ refusal, failure ≠ .unsupported refusal) :
    "unsupported: ".toList.isPrefixOf failure.message.toList = false := by
  cases failure with
  | unsupported refusal => exact absurd rfl (other refusal)
  | alreadySealed | notSealed | codec => rfl
  | _ =>
    unfold message
    simp only [String.toList_append, List.append_assoc]
    rfl

namespace OfRecording

variable {failure : Failure}

theorem ne_unsupported
    (blameless : failure.OfRecording)
    (refusal : Refusal) :
    failure ≠ .unsupported refusal := by
  rintro rfl
  cases blameless with
  | confined confined => cases confined

/-- A recorder that has given up does not report that a name was taken either. -/
theorem ne_aborted
    (blameless : failure.OfRecording) :
    failure ≠ .aborted (Failure.unsupported .duplicateEntry).message := by
  have starts :
      "unsupported: ".toList.isPrefixOf
        (Failure.unsupported .duplicateEntry).message.toList = true := by
    decide
  rintro same
  cases blameless with
  | confined confined =>
    rw [same] at confined
    cases confined
  | file fault => cases same
  | alreadySealed => cases same
  | aborted blameless =>
    rw [← aborted.inj same, isPrefixOf_message blameless.ne_unsupported] at starts
    cases starts

end OfRecording

end Failure

/-! ## Recorders -/

/-- The recorder registers all names in its container, or it has ended and no name was why. -/
inductive Recorder.IsOrderly (recorder : Recorder) : Prop
  | recording {writer : Writer}
    (records : recorder.state = .recording writer)
    (registers : recorder.Registers writer.draft)
  | published {path : String}
    (published : recorder.state = .published path)
  | aborted {cause : Failure}
    (blameless : cause.OfRecording)
    (aborted : recorder.state = .aborted cause.message)

/-- The recorder is orderly after something that has failed like this, if at all. -/
structure Recording.IsOrderly
    (recording : Recording)
    (failure? : Option Failure) : Prop where
  recorder : recording.recorder.IsOrderly
  blameless : ∀ failure, failure? = some failure → failure.OfRecording

/-- An operation leaves the recorder orderly, and no name is why it fails. -/
def Recording.EndsOrderly
    {α : Type}
    (result : Recording × Except Failure α) :
    Prop :=
  result.1.IsOrderly (Failure.of? result.2)

namespace Recorder.IsOrderly

variable
  {recorder : Recorder}
  {recording : Recording}

/-- A recorder that was just created has an empty container. -/
theorem create
    {files after : FileSystem}
    {path : String}
    {config : WriterConfig}
    (creating : Recorder.create files path config = (after, .ok recorder)) :
    recorder.IsOrderly := by
  rcases Recorder.create_eq_ok creating with ⟨writer, starting, rfl⟩
  have draft := (Workbench.sound_create starting).2.2
  refine .recording rfl ⟨?_, ?_⟩
  · rw [draft]
    rfl
  · intro name taken
    rw [draft] at taken
    cases taken

/-- What is noted about inputs and invocations does not matter. -/
theorem congr
    (orderly : recorder.IsOrderly)
    {after : Recorder}
    (state : after.state = recorder.state)
    (has : ∀ entry, recorder.Has entry → after.Has entry) :
    after.IsOrderly := by
  cases orderly with
  | recording records registers => exact .recording (state.trans records) (registers.mono has)
  | published published => exact .published (state.trans published)
  | aborted blameless aborted => exact .aborted blameless (state.trans aborted)

theorem report
    (orderly : recording.recorder.IsOrderly)
    (projectPath : String)
    (failure : Failure) :
    (recording.report projectPath failure).recorder.IsOrderly :=
  orderly.congr rfl fun _ has => has

theorem remember
    (orderly : recording.recorder.IsOrderly)
    (path : String)
    (fingerprint : Fingerprint)
    (identity : InputIdentity) :
    (recording.remember path fingerprint identity).recorder.IsOrderly :=
  orderly.congr rfl fun _ has => has

theorem registers
    (orderly : recording.recorder.IsOrderly)
    {bench : Workbench}
    (records : recording.bench = .ok bench) :
    recording.recorder.Registers bench.writer.draft := by
  cases orderly with
  | recording state registers =>
    rw [Recording.bench_of_state state] at records
    cases records
    exact registers
  | published published =>
    simp only [Recording.bench, Recorder.writer, published] at records
    cases records
  | aborted _ aborted =>
    simp only [Recording.bench, Recorder.writer, aborted] at records
    cases records

theorem blameless_of_bench
    (orderly : recording.recorder.IsOrderly)
    {failure : Failure}
    (idle : recording.bench = .error failure) :
    failure.OfRecording := by
  cases orderly with
  | recording state _ =>
    rw [Recording.bench_of_state state] at idle
    cases idle
  | published published =>
    simp only [Recording.bench, Recorder.writer, published] at idle
    cases idle
    exact .alreadySealed
  | aborted blameless aborted =>
    simp only [Recording.bench, Recorder.writer, aborted] at idle
    cases idle
    exact .aborted blameless

/-! ## Failing -/

theorem succeeds
    {α : Type}
    (orderly : recording.recorder.IsOrderly)
    (found : α) :
    Recording.EndsOrderly (recording, (.ok found : Except Failure α)) :=
  ⟨orderly, nofun⟩

theorem fails
    {α : Type}
    (orderly : recording.recorder.IsOrderly)
    {failure : Failure}
    (blameless : failure.OfRecording) :
    Recording.EndsOrderly (recording, (.error failure : Except Failure α)) := by
  refine ⟨orderly, ?_⟩
  rintro other ⟨⟩
  exact blameless

theorem abort
    (orderly : recording.recorder.IsOrderly)
    {failure : Failure}
    (blameless : failure.OfRecording) :
    (recording.abort failure).recorder.IsOrderly := by
  rw [Recording.abort]
  split
  · exact orderly
  · exact .aborted blameless rfl

theorem fail
    {α : Type}
    (orderly : recording.recorder.IsOrderly)
    {failure : Failure}
    (blameless : failure.OfRecording) :
    Recording.EndsOrderly (recording.fail failure : Recording × Except Failure α) := by
  rw [Recording.fail]
  split
  · exact orderly.fails blameless
  · exact (orderly.abort blameless).fails blameless

/-! ## Storing inputs -/

section Storing

variable
  {α β : Type}

/-- Storing is orderly if it is on every workbench whose names are registered. -/
theorem storing
    (orderly : recording.recorder.IsOrderly)
    {store : Workbench → Except Failure (α × β × Workbench)}
    (blameless : ∀ {bench failure}, recording.recorder.Registers bench.writer.draft →
      store bench = .error failure → failure.OfRecording)
    {keep : β → Workbench → Recording}
    (state : ∀ pool left, (keep pool left).recorder.state = .recording left.writer)
    (registered : ∀ {bench found pool left}, recording.recorder.Registers bench.writer.draft →
      store bench = .ok (found, pool, left) →
        (keep pool left).recorder.Registers left.writer.draft) :
    Recording.EndsOrderly (recording.storing store keep) := by
  rw [Recording.storing]
  split
  · next idle => exact orderly.fail (orderly.blameless_of_bench idle)
  next bench records =>
  have registers := orderly.registers records
  split
  · next failing => exact orderly.fail (blameless registers failing)
  · next found pool left stored =>
    exact succeeds (.recording (state pool left) (registered registers stored)) found

theorem recalling
    (orderly : recording.recorder.IsOrderly)
    (input : String)
    (known? : Fingerprint → Option α)
    {stored : Recording × Except Failure α}
    (ends : Recording.EndsOrderly stored)
    (identity : α → InputIdentity) :
    Recording.EndsOrderly (recording.recalling input known? stored identity) := by
  rw [Recording.recalling]
  split
  · exact orderly.fails (.confined rfl)
  split
  · exact orderly.succeeds _
  split
  · exact ends
  · exact (ends.recorder.remember input _ _).succeeds _

end Storing

variable [Zstd.Encoder]

theorem contentKey
    (orderly : recording.recorder.IsOrderly)
    (input : String) :
    Recording.EndsOrderly (recording.contentKey input) := by
  rw [Recording.contentKey_eq]
  apply orderly.recalling
  apply orderly.storing
  case blameless =>
    intro bench failure registers putting
    rcases BlobPool.error_of_putFile registers.roomForBlobs putting with
      ⟨_, -, lacks⟩ | ⟨fault, -, rfl⟩
    · exact lacks.ofExhaustion.ofRecording
    · exact .confined rfl
  case state => exact fun _ _ => rfl
  case registered =>
    intro bench key pool left registers putting
    rcases BlobPool.takes_of_putFile putting with ⟨data, -, -, takes⟩
    exact registers.content takes rfl rfl rfl

theorem storeText
    (orderly : recording.recorder.IsOrderly)
    (data : Octets) :
    Recording.EndsOrderly (recording.storeText data) := by
  rw [Recording.storeText_eq]
  apply orderly.storing
  case blameless =>
    intro bench failure registers putting
    exact (BlobPool.lacks_of_put registers.roomForBlobs putting).ofExhaustion.ofRecording
  case state => exact fun _ _ => rfl
  case registered =>
    intro bench key pool left registers putting
    exact registers.content (BlobPool.takes_of_put putting).2 rfl rfl rfl

theorem moduleInfo
    (orderly : recording.recorder.IsOrderly)
    (input : String) :
    Recording.EndsOrderly (recording.moduleInfo input) := by
  rw [Recording.moduleInfo_eq]
  apply orderly.recalling
  apply orderly.storing
  case blameless =>
    intro bench failure registers putting
    rcases ModulePool.error_of_putFile registers.roomForModules putting with
      ⟨fault, -, rfl⟩ |
        ⟨source, -, ⟨fault, -, rfl⟩ | ⟨_, _, -, -, ⟨-, lacks⟩ | ⟨fault, -, rfl⟩⟩⟩
    · exact .confined rfl
    · exact .confined rfl
    · exact lacks.ofExhaustion.ofRecording
    · exact .confined rfl
  case state => exact fun _ _ => rfl
  case registered =>
    intro bench info pool left registers putting
    exact registers.module (ModulePool.takes_of_putFile putting) rfl rfl rfl

/-- The next record has a name of its own. -/
theorem storeRecord
    (orderly : recording.recorder.IsOrderly)
    (record : InvocationRecord) :
    Recording.EndsOrderly (recording.storeRecord record) := by
  simp only [Recording.storeRecord]
  split
  · next idle => exact orderly.fail (orderly.blameless_of_bench idle)
  next bench records =>
  have registers := orderly.registers records
  split
  · next writing =>
    have lacks := Workbench.lacks_of_write registers.unsealed registers.free_record writing
    exact orderly.fail lacks.ofExhaustion.ofRecording
  · next written writing =>
    rcases Workbench.draft_of_bench_write writing with ⟨form, grown⟩
    refine succeeds (.recording rfl ?_) _
    rw [grown]
    exact registers.record rfl rfl rfl

end Recorder.IsOrderly

/-! ## Invocations -/

namespace Invocation

variable {invocation : Invocation}

/-- The recorder that an invocation is recorded with is orderly, whatever has failed. -/
def IsOrderly
    (invocation : Invocation) :
    Prop :=
  invocation.recording.IsOrderly invocation.failure

theorem IsOrderly.adding
    (orderly : invocation.IsOrderly)
    {α : Type}
    {obtain : Recording → Recording × Except Failure α}
    (ends : ∀ {recording : Recording}, recording.recorder.IsOrderly →
      Recording.EndsOrderly (obtain recording))
    (note : α → InvocationRecord → InvocationRecord) :
    (invocation.adding obtain note).IsOrderly := by
  have next := ends orderly.recorder
  rw [Invocation.adding]
  split
  · exact orderly
  rcases outcome : obtain invocation.recording with ⟨after, failure | found⟩
  · rw [outcome] at next
    exact next
  · rw [outcome] at next
    exact ⟨next.recorder, orderly.blameless⟩

variable [Zstd.Encoder]

theorem IsOrderly.apply
    (orderly : invocation.IsOrderly)
    (call : Call) :
    (call.apply invocation).IsOrderly := by
  cases call.shape with
  | setting note _ applies _ =>
    rw [applies]
    exact orderly
  | content input note _ _ applies _ =>
    rw [applies]
    exact orderly.adding (fun recorder => recorder.contentKey input) note
  | text data note _ _ applies _ _ =>
    rw [applies]
    exact orderly.adding (fun recorder => recorder.storeText data) note
  | module input note _ _ applies _ =>
    rw [applies]
    exact orderly.adding (fun recorder => recorder.moduleInfo input) note

theorem IsOrderly.calls
    (orderly : invocation.IsOrderly)
    (calls : List Call) :
    (calls.foldl Call.apply invocation).IsOrderly := by
  induction calls generalizing invocation with
  | nil => exact orderly
  | cons call rest ih => exact ih (orderly.apply call)

theorem IsOrderly.commit
    (orderly : invocation.IsOrderly) :
    Recording.EndsOrderly invocation.commit := by
  rw [Invocation.commit]
  split
  · next failure failed =>
    have blameless := orderly.blameless failure failed
    rw [Invocation.drop]
    split
    · exact (orderly.recorder.report _ _).fails blameless
    · exact orderly.recorder.fail blameless
  · exact orderly.recorder.storeRecord invocation.record

end Invocation

/-! ## Requests -/

namespace Recorder.IsOrderly

variable {recording : Recording}

theorem begin
    (orderly : recording.recorder.IsOrderly)
    {projectPath : String}
    {language : Language}
    {kind : InvocationKind}
    {invocation : Invocation}
    (beginning : recording.begin projectPath language kind = .ok invocation) :
    invocation.IsOrderly := by
  rw [Recording.begin_eq_ok beginning]
  exact ⟨orderly, nofun⟩

theorem blameless_of_begin
    (orderly : recording.recorder.IsOrderly)
    {projectPath : String}
    {language : Language}
    {kind : InvocationKind}
    {failure : Failure}
    (beginning : recording.begin projectPath language kind = .error failure) :
    failure.OfRecording := by
  rw [Recording.begin] at beginning
  split at beginning
  · next idle =>
    cases beginning
    exact orderly.blameless_of_bench idle
  · cases beginning

variable [Zstd.Encoder]

theorem capture
    (orderly : recording.recorder.IsOrderly)
    (raw : RawInvocation)
    (resolve : InvocationResolver) :
    Recording.EndsOrderly (recording.capture raw resolve) := by
  rw [Recording.capture]
  split
  · next beginning => exact orderly.fails (orderly.blameless_of_begin beginning)
  next invocation beginning =>
  split
  · exact (orderly.report _ _).fails (.confined rfl)
  · rw [addInputs_setUp]
    exact ((orderly.begin beginning).calls _).commit

/-- Completing the archive asks for the names of the documents, which are free. -/
theorem finish
    (orderly : recording.recorder.IsOrderly) :
    Recording.EndsOrderly recording.finish := by
  rw [Recording.finish]
  split
  · next idle => exact orderly.fails (orderly.blameless_of_bench idle)
  next bench records =>
  have registers := orderly.registers records
  split
  · next adding =>
    have distinct : (recording.recorder.documents.map Prod.fst).Nodup := by
      show [ModuleIndex.entryName, Diagnostic.entryName, Manifest.entryName].Nodup
      decide
    have exhaustion :=
      Recording.exhaustion_of_addDocuments registers.unsealed distinct
        (fun name => registers.free_document) adding
    exact (orderly.abort exhaustion.ofRecording).fails exhaustion.ofRecording
  next filled adding =>
  have unsealed : filled.writer.draft.isSealed = false :=
    (congrArg Prod.snd (Recording.rewrites_addDocuments adding).settings).trans registers.unsealed
  split
  · next left failure closing =>
    rcases Workbench.finish_cases unsealed closing with ⟨_, -, ⟨same, -⟩ | ⟨fault, same, -⟩⟩
    · cases same
    · cases same
      exact fails (.aborted (.file fault) rfl) (.file fault)
  · exact succeeds (.published rfl) _

end Recorder.IsOrderly

/-! ## Runs -/

section Runs

variable [Zstd.Encoder]

/--
The turns that a recorder can have taken before a stage.  Between two turns any
file may change, and the temporary file too.
-/
inductive Undergoes
    (path : String)
    (config : WriterConfig) :
    List Turn → Stage → Prop
  | create {files after : FileSystem} {recorder : Recorder}
    (creating : Recorder.create files path config = (after, .ok recorder)) :
    Undergoes path config [] (.idle ⟨after, recorder⟩ {})
  | elapse {turns : List Turn} {stage : Stage}
    (undergoes : Undergoes path config turns stage)
    (files : FileSystem) :
    Undergoes path config turns (stage.withFiles files)
  | turn {turns : List Turn} {stage after : Stage} {failure? : Option Failure}
    (undergoes : Undergoes path config turns stage)
    (operation : Operation)
    (taken : stage.Takes operation after failure?) :
    Undergoes path config (turns ++ [⟨stage, operation, after, failure?⟩]) after

omit [Zstd.Encoder] in
/-- The recorder at a stage is orderly, and no name is why an invocation has failed. -/
def Stage.IsOrderly : Stage → Prop
  | .idle recording _ => recording.recorder.IsOrderly
  | .lent transcript => transcript.invocation.IsOrderly

omit [Zstd.Encoder] in
theorem Stage.IsOrderly.recorder
    {stage : Stage}
    (orderly : stage.IsOrderly) :
    stage.recording.recorder.IsOrderly := by
  cases stage with
  | idle _ _ => exact orderly
  | lent _ => exact Recording.IsOrderly.recorder orderly

/-- Whatever is asked of an orderly recorder, it stays orderly, and no name is why it fails. -/
theorem Stage.IsOrderly.step
    {stage after : Stage}
    (orderly : stage.IsOrderly)
    {operation : Operation}
    {failure? : Option Failure}
    (taken : stage.Takes operation after failure?) :
    after.IsOrderly ∧ ∀ failure, failure? = some failure → failure.OfRecording := by
  cases taken with
  | begin heading beginning => exact ⟨Recorder.IsOrderly.begin orderly beginning, nofun⟩
  | refuse heading beginning =>
    refine ⟨orderly, ?_⟩
    rintro failure ⟨⟩
    exact Recorder.IsOrderly.blameless_of_begin orderly beginning
  | call transcript call =>
    have next := Invocation.IsOrderly.apply orderly call
    exact ⟨next, next.blameless⟩
  | commit transcript =>
    have next := Invocation.IsOrderly.commit orderly
    refine ⟨?_, next.blameless⟩
    show transcript.commit.1.recorder.IsOrderly
    rw [Transcript.commit_fst]
    exact next.recorder
  | drop transcript => exact ⟨orderly.recorder, nofun⟩
  | capture recording journal raw resolve =>
    have next := Recorder.IsOrderly.capture orderly raw resolve
    exact ⟨next.recorder, next.blameless⟩
  | finish recording journal =>
    have next := Recorder.IsOrderly.finish orderly
    exact ⟨next.recorder, next.blameless⟩

variable
  {path : String}
  {config : WriterConfig}
  {turns : List Turn}
  {stage : Stage}

/-- A recorder is orderly at every stage, and no name is why any of its turns has failed. -/
theorem Undergoes.orderly
    (undergoes : Undergoes path config turns stage) :
    stage.IsOrderly ∧
      ∀ turn ∈ turns, ∀ failure, turn.failure? = some failure → failure.OfRecording := by
  induction undergoes with
  | create creating => exact ⟨.create creating, List.forall_mem_nil _⟩
  | @elapse turns stage undergoes files ih =>
    refine ⟨?_, ih.2⟩
    cases stage with
    | idle recording journal => exact ih.1
    | lent transcript => exact ⟨ih.1.recorder, ih.1.blameless⟩
  | @turn turns stage after failure? undergoes operation taken ih =>
    rcases ih.1.step taken with ⟨orderly, blameless⟩
    exact ⟨orderly, List.forall_mem_append.2 ⟨ih.2, List.forall_mem_singleton.2 blameless⟩⟩

/--
The names of entries never collide.  Contents, modules and records have
different names for different keys, identities and indices, and none has the
name of another kind or of a document.  Keys and identities are what their
hexadecimal digits say, in either case, and are written in lower case.
Therefore a name in the container of a recorder is always taken by something
that the recorder has stored, and nothing that is asked of it, neither a commit
nor the completion of the archive, ever fails because of a name that is taken;
it never gives up because of one either.
-/
theorem entries_never_collide :
    Function.Injective ArchiveEntry.name ∧
      Octets.HexCoded 64 ContentKey.hex ContentKey.parse ∧
      Octets.HexCoded 32 ModuleId.hex ModuleId.parse ∧
      ∀ {path : String} {config : WriterConfig} {turns : List Turn} {stage : Stage},
        Undergoes path config turns stage →
          (∀ bench, stage.recording.bench = .ok bench →
            ∀ name, bench.contains name = true →
              ∃ entry, stage.recording.recorder.Has entry ∧ entry.name = name) ∧
          ∀ turn ∈ turns, ∀ failure, turn.failure? = some failure →
            failure ≠ .unsupported .duplicateEntry ∧
              failure ≠ .aborted (Failure.unsupported .duplicateEntry).message := by
  refine ⟨ArchiveEntry.name_injective, ContentKey.hexCoded, ModuleId.hexCoded, ?_⟩
  intro path config turns stage undergoes
  rcases undergoes.orderly with ⟨orderly, blameless⟩
  constructor
  · intro bench records
    exact (orderly.recorder.registers records).has
  · intro turn member failure failed
    have recorded := blameless turn member failure failed
    exact ⟨recorded.ne_unsupported .duplicateEntry, recorded.ne_aborted⟩

end Runs

namespace UnreplaceablePath

open RewrittenFile (settings heading)

theorem undergoes_call : Undergoes "out" settings (turns.take 2) (.lent (begun.call adding)) :=
  ((Undergoes.create (Recording.create_start created)).turn
    (.begin heading) (.begin heading (Recording.begin_start created ..))).turn
    (.call adding) (.call begun adding)

theorem undergoes_turns : Undergoes "out" settings turns (.idle failed.finish.1 committed.2) :=
  ((undergoes_call.turn
    .commit (.commit (begun.call adding))).turn
    .finish (.finish committed.1 committed.2)).turn
    .finish (.finish failed committed.2)

set_option maxRecDepth 100000 in
/--
A recorder that can not replace a directory has stored one content before, which
is all that has a name then.  It fails twice, and both times no name is why.
-/
theorem unreplaceable_path_is_no_collision :
    (∃ bench, (begun.call adding).invocation.recording.bench = .ok bench ∧
        bench.contains (ContentKey.of [97]).entryName = true ∧
        ∀ name, bench.contains name = true →
          ∃ entry, (begun.call adding).invocation.recording.recorder.Has entry ∧
            entry.name = name) ∧
      turns.filterMap Turn.failure? =
        [.file .isDirectory, .aborted "io error: Is a directory (os error 21)"] ∧
      ∀ turn ∈ turns, ∀ failure, turn.failure? = some failure →
        failure ≠ .unsupported .duplicateEntry ∧
          failure ≠ .aborted (Failure.unsupported .duplicateEntry).message := by
  have stored :
      (match (begun.call adding).invocation.recording.bench with
        | .ok bench => bench.contains (ContentKey.of [97]).entryName
        | .error _ => false) = true := by
    decide +kernel
  have registered := (entries_never_collide.2.2.2 undergoes_call).1
  refine ⟨?_, ?_, (entries_never_collide.2.2.2 undergoes_turns).2⟩
  · split at stored
    · next bench records => exact ⟨bench, records, stored, registered bench records⟩
    · cases stored
  · decide +kernel

end UnreplaceablePath

end BuildCapture
