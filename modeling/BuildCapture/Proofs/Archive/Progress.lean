import BuildCapture.Proofs.Archive.Tallies
import BuildCapture.Proofs.Container.Temporary
import BuildCapture.Proofs.Pool.Twins

/-!
# How a recorder gets on

An operation of a recorder that records either leaves it recording, whatever
became of its input, or makes it give up because of a failure that concerns the
whole archive.  Only completing the archive publishes it.  Before that nothing
is ever seen at the final path, and a recorder that gives up takes its temporary
file away.
-/

namespace BuildCapture

open Container

/-- The failure that an operation answers with, if it fails. -/
def Failure.of?
    {α : Type} : Except Failure α → Option Failure
  | .ok _ => none
  | .error failure => some failure

namespace Recording

/-! ## Recording -/

/-- The recorder records, with its draft in a temporary file of its own. -/
def Drafts
    (recording : Recording)
    (path : String) :
    Prop :=
  ∃ writer, recording.recorder.state = .recording writer ∧
    (⟨recording.files, writer⟩ : Workbench).Drafts path

/--
How a recorder comes out of an operation, given the failure of that operation:
it still records if the failure concerns only an input, and otherwise it has
given up because of the failure.  The final path leads to what it led to before.
-/
inductive Proceeds
    (path : String)
    (before after : Recording)
    (failure? : Option Failure) : Prop
  | stays
    (drafts : after.Drafts path)
    (kept : after.files.find (.ofPath path) = before.files.find (.ofPath path))
    (confined : ∀ failure, failure? = some failure → failure.isInvocationScoped = true)
  | aborts {failure : Failure}
    (failed : failure? = some failure)
    (broad : failure.isInvocationScoped = false)
    (aborted : after.recorder.state = .aborted failure.message)
    (retracts : Writer.Retracts path before.files after.files)

/-- The recorder comes out of an operation as the outcome of that operation says. -/
def Yields
    {α : Type}
    (recording : Recording)
    (path : String)
    (result : Recording × Except Failure α) :
    Prop :=
  recording.Proceeds path result.1 (Failure.of? result.2)

variable
  {path : String}
  {start recording : Recording}

/-- A recorder starts with a draft in a temporary file of its own. -/
theorem drafts_create
    {files after : FileSystem}
    {config : WriterConfig}
    {recorder : Recorder}
    (sane : files.Sane)
    (creating : Recorder.create files path config = (after, .ok recorder)) :
    (⟨after, recorder⟩ : Recording).Drafts path ∧ Writer.Starts path files after := by
  rcases Recorder.create_eq_ok creating with ⟨writer, making, rfl⟩
  rcases Writer.drafts_create sane making with ⟨drafts, starts⟩
  exact ⟨⟨writer, rfl, drafts⟩, starts⟩

namespace Proceeds

variable
  {after : Recording}
  {failure? : Option Failure}

/-- Nothing was seen at the final path before, so it is as it was at the start. -/
theorem since
    (proceeds : recording.Proceeds path after failure?)
    (kept : recording.files.find (.ofPath path) = start.files.find (.ofPath path)) :
    start.Proceeds path after failure? := by
  cases proceeds with
  | stays drafts same confined => exact .stays drafts (same.trans kept) confined
  | aborts failed broad aborted retracts =>
    exact .aborts failed broad aborted ⟨retracts.gone, retracts.kept.trans kept⟩

/-- An operation that has not failed leaves the recorder recording. -/
theorem drafts_of_none
    (proceeds : start.Proceeds path after none) :
    after.Drafts path ∧
      after.files.find (.ofPath path) = start.files.find (.ofPath path) := by
  cases proceeds with
  | stays drafts kept _ => exact ⟨drafts, kept⟩
  | aborts failed _ _ _ => cases failed

end Proceeds

namespace Drafts

/-- Noting something about inputs or invocations does not matter. -/
theorem congr
    (drafts : recording.Drafts path)
    {after : Recording}
    (files : after.files = recording.files)
    (state : after.recorder.state = recording.recorder.state) :
    after.Drafts path := by
  rcases drafts with ⟨writer, records, drafts⟩
  rw [← state] at records
  rw [← files] at drafts
  exact ⟨writer, records, drafts⟩

/-- Everything but the temporary file may change. -/
theorem elapse
    (drafts : recording.Drafts path)
    {files : FileSystem}
    (sane : files.Sane)
    (spares : FileSystem.Spares (Writer.temporaryRoute path) recording.files files) :
    ({ recording with files } : Recording).Drafts path := by
  rcases drafts with ⟨writer, records, drafts⟩
  exact ⟨writer, records, drafts.elsewhere sane spares⟩

/-- A recorder that records has a container being written. -/
theorem bench
    (drafts : recording.Drafts path) :
    ∃ bench, recording.bench = .ok bench ∧ bench.files = recording.files ∧ bench.Drafts path := by
  rcases drafts with ⟨writer, records, drafts⟩
  exact ⟨_, bench_of_state records, rfl, drafts⟩

/-- An operation that has not failed went well if the recorder still records. -/
theorem proceeds
    {after : Recording}
    (drafts : after.Drafts path)
    (kept : after.files.find (.ofPath path) = recording.files.find (.ofPath path)) :
    recording.Proceeds path after none := by
  refine .stays drafts kept ?_
  rintro failure ⟨⟩

/-- An operation that does nothing leaves the recorder recording. -/
theorem unchanged
    (drafts : recording.Drafts path)
    {failure? : Option Failure}
    (confined : ∀ failure, failure? = some failure → failure.isInvocationScoped = true) :
    recording.Proceeds path recording failure? :=
  .stays drafts rfl confined

/-- The recorder goes on with a container whose temporary file was rewritten. -/
theorem rewritten
    (drafts : recording.Drafts path)
    {bench left : Workbench}
    (records : recording.bench = .ok bench)
    (rewrites : bench.Rewrites left)
    {after : Recording}
    (files : after.files = left.files)
    (state : after.recorder.state = .recording left.writer) :
    recording.Proceeds path after none := by
  rcases drafts.bench with ⟨same, recordsSame, sameFiles, drafting⟩
  rw [records] at recordsSame
  cases recordsSame
  have kept := drafting.find_of_rewrites rewrites.files
  rw [← files, sameFiles] at kept
  have still := drafting.rewrites rewrites
  refine proceeds ⟨left.writer, state, ?_⟩ kept
  rw [files]
  exact still

/-! ## Failing -/

/-- A recorder that gives up takes its temporary file away. -/
theorem aborted
    (drafts : recording.Drafts path)
    {failure : Failure}
    (broad : failure.isInvocationScoped = false) :
    recording.Proceeds path (recording.abort failure) (some failure) := by
  rcases drafts.bench with ⟨bench, records, files, drafting⟩
  have retracts := drafting.retracts_abandon
  rw [files] at retracts
  rw [abort, records]
  exact .aborts rfl broad rfl retracts

theorem failed
    (drafts : recording.Drafts path)
    {α : Type}
    (failure : Failure) :
    recording.Yields path (recording.fail failure : Recording × Except Failure α) := by
  rw [fail]
  split
  · next confined =>
    apply drafts.unchanged
    rintro other ⟨⟩
    exact confined
  · next broad => exact drafts.aborted (Bool.not_eq_true _ ▸ broad)

/-! ## Storing inputs -/

section Storing

variable
  {α β : Type}

theorem storing
    (drafts : recording.Drafts path)
    {store : Workbench → Except Failure (α × β × Workbench)}
    (rewrites : ∀ {bench found pool left}, store bench = .ok (found, pool, left) →
      bench.Rewrites left)
    {keep : β → Workbench → Recording}
    (files : ∀ pool left, (keep pool left).files = left.files)
    (state : ∀ pool left, (keep pool left).recorder.state = .recording left.writer) :
    recording.Yields path (recording.storing store keep) := by
  rcases drafts.bench with ⟨bench, records, -, -⟩
  rw [Recording.storing, records]
  simp only
  split
  · next failure outcome => exact drafts.failed failure
  · next found pool left outcome =>
    exact drafts.rewritten records (rewrites outcome) (files pool left) (state pool left)

theorem recalling
    (drafts : recording.Drafts path)
    (input : String)
    (known? : Fingerprint → Option α)
    {stored : Recording × Except Failure α}
    (yields : recording.Yields path stored)
    (identity : α → InputIdentity) :
    recording.Yields path (recording.recalling input known? stored identity) := by
  rw [Recording.recalling]
  split
  · apply drafts.unchanged
    rintro other ⟨⟩
    rfl
  split
  · exact drafts.proceeds rfl
  rcases stored with ⟨left, failure | found⟩
  · exact yields
  · rcases Proceeds.drafts_of_none yields with ⟨still, kept⟩
    refine proceeds ?_ kept
    exact still.congr rfl rfl

end Storing

variable [Zstd.Encoder]

theorem contentKey
    (drafts : recording.Drafts path)
    (input : String) :
    recording.Yields path (recording.contentKey input) := by
  rw [contentKey_eq]
  apply drafts.recalling
  exact drafts.storing BlobPool.rewrites_putFile (fun _ _ => rfl) fun _ _ => rfl

theorem moduleInfo
    (drafts : recording.Drafts path)
    (input : String) :
    recording.Yields path (recording.moduleInfo input) := by
  rw [moduleInfo_eq]
  apply drafts.recalling
  exact drafts.storing (fun putting => (ModulePool.rewrites_putFile putting).1) (fun _ _ => rfl)
    fun _ _ => rfl

theorem storeText
    (drafts : recording.Drafts path)
    (data : Octets) :
    recording.Yields path (recording.storeText data) := by
  rw [storeText_eq]
  exact drafts.storing BlobPool.rewrites_put (fun _ _ => rfl) fun _ _ => rfl

theorem storeRecord
    (drafts : recording.Drafts path)
    (record : InvocationRecord) :
    recording.Yields path (recording.storeRecord record) := by
  rcases drafts.bench with ⟨bench, records, -, -⟩
  simp only [Recording.storeRecord, records]
  split
  · next failure writing => exact drafts.failed failure
  · next written writing =>
    exact drafts.rewritten records (Workbench.rewrites_write writing) rfl rfl

end Drafts

end Recording

/-! ## Invocations -/

namespace Invocation

variable
  {path : String}
  {start : Recording}
  {invocation : Invocation}

/-- An input is only looked at while the recorder still records. -/
theorem proceeds_adding
    (proceeds : start.Proceeds path invocation.recording invocation.failure)
    {α : Type}
    {obtain : Recording → Recording × Except Failure α}
    (yields : ∀ {recording : Recording}, recording.Drafts path →
      recording.Yields path (obtain recording))
    (note : α → InvocationRecord → InvocationRecord) :
    start.Proceeds path (invocation.adding obtain note).recording
      (invocation.adding obtain note).failure := by
  rw [adding]
  split
  · exact proceeds
  next unfailed =>
  have before : invocation.failure = none := Option.not_isSome_iff_eq_none.1 unfailed
  rw [before] at proceeds
  rcases proceeds.drafts_of_none with ⟨drafts, kept⟩
  have next := (yields drafts).since kept
  rcases outcome : obtain invocation.recording with ⟨after, failure | found⟩
  · rw [outcome] at next
    exact next
  · rw [outcome] at next
    rw [before]
    exact next

variable [Zstd.Encoder]

theorem proceeds_apply
    (proceeds : start.Proceeds path invocation.recording invocation.failure)
    (call : Call) :
    start.Proceeds path (call.apply invocation).recording (call.apply invocation).failure := by
  cases call.shape with
  | setting note _ applies _ =>
    rw [applies]
    exact proceeds
  | content input note _ _ applies _ =>
    rw [applies]
    exact proceeds_adding proceeds (fun drafts => drafts.contentKey input) note
  | text data note _ _ applies _ _ =>
    rw [applies]
    exact proceeds_adding proceeds (fun drafts => drafts.storeText data) note
  | module input note _ _ applies _ =>
    rw [applies]
    exact proceeds_adding proceeds (fun drafts => drafts.moduleInfo input) note

theorem proceeds_calls
    (proceeds : start.Proceeds path invocation.recording invocation.failure)
    (calls : List Call) :
    start.Proceeds path (calls.foldl Call.apply invocation).recording
      (calls.foldl Call.apply invocation).failure := by
  induction calls generalizing invocation with
  | nil => exact proceeds
  | cons call rest ih => exact ih (proceeds_apply proceeds call)

/-- Committing answers with the failure of an input, which has made the recorder give up or not. -/
theorem yields_commit
    (proceeds : start.Proceeds path invocation.recording invocation.failure) :
    start.Yields path invocation.commit := by
  rw [commit]
  split
  · next failure failed =>
    rw [failed] at proceeds
    rw [drop]
    cases proceeds with
    | stays drafts kept confined =>
      rw [if_pos (confined failure rfl)]
      exact .stays (drafts.congr rfl rfl) kept confined
    | aborts same broad aborted retracts =>
      cases same
      rw [if_neg (Bool.not_eq_true _ ▸ broad)]
      have idle : invocation.recording.bench = .error (.aborted failure.message) := by
        simp only [Recording.bench, Recorder.writer, aborted]
      rw [Recording.fail_of_idle idle]
      exact .aborts rfl broad aborted retracts
  · next unfailed =>
    rw [unfailed] at proceeds
    rcases proceeds.drafts_of_none with ⟨drafts, kept⟩
    exact (drafts.storeRecord invocation.record).since kept

end Invocation

namespace Recording.Drafts

variable
  [Zstd.Encoder]
  {path : String}
  {recording : Recording}

theorem capture
    (drafts : recording.Drafts path)
    (raw : RawInvocation)
    (resolve : InvocationResolver) :
    recording.Yields path (recording.capture raw resolve) := by
  rcases drafts.bench with ⟨bench, records, -, -⟩
  simp only [Recording.capture, Recording.begin, records]
  split
  · refine .stays (drafts.congr rfl rfl) rfl ?_
    rintro failure ⟨⟩
    rfl
  · next inputs resolving =>
    rw [addInputs_setUp]
    have begun : recording.Proceeds path recording none := drafts.proceeds rfl
    exact Invocation.yields_commit (Invocation.proceeds_calls begun _)

/-! ## Completing -/

theorem not_scoped_of_addDocuments
    {bench : Workbench}
    {documents : List (String × Octets)}
    {failure : Failure}
    (adding : addDocuments bench documents = .error failure) :
    failure.isInvocationScoped = false := by
  induction documents generalizing bench with
  | nil => cases adding
  | cons document rest ih =>
    rcases addDocuments_cons_eq_error adding with writing | ⟨written, -, addingRest⟩
    · exact Workbench.not_scoped_of_write writing
    · exact ih addingRest

/-- A recorder that can not complete its archive gives up. -/
theorem finish_error
    (drafts : recording.Drafts path)
    {after : Recording}
    {failure : Failure}
    (finishing : recording.finish = (after, .error failure)) :
    failure.isInvocationScoped = false ∧ after.recorder.state = .aborted failure.message ∧
      Writer.Retracts path recording.files after.files := by
  rcases drafts.bench with ⟨bench, records, files, drafting⟩
  rcases finish_eq_error finishing with
    ⟨idle, -⟩ | ⟨other, recordsToo, ⟨adding, rfl⟩ | ⟨filled, left, adding, closing, rfl⟩⟩
  · rw [records] at idle
    cases idle
  · cases Except.ok.inj (records.symm.trans recordsToo)
    have broad := not_scoped_of_addDocuments adding
    have retracts := drafting.retracts_abandon
    rw [files] at retracts
    rw [abort, records]
    exact ⟨broad, rfl, retracts⟩
  · cases Except.ok.inj (records.symm.trans recordsToo)
    have rewrites := rewrites_addDocuments adding
    rcases (drafting.rewrites rewrites).retracts_finish closing with ⟨broad, retracts⟩
    have kept := retracts.kept.trans (drafting.find_of_rewrites rewrites.files)
    rw [files] at kept
    have ended : left.abandon = left.files := by
      rw [Workbench.abandon, (Workbench.sealed_finish closing).2]
      rfl
    have still : (recording.withBench left).bench = .ok left := rfl
    rw [abort, still]
    simp only [ended]
    exact ⟨broad, trivial, retracts.gone, kept⟩

/-- A recorder that completes its archive has published it, and its temporary file is gone. -/
theorem finish_ok
    (drafts : recording.Drafts path)
    {after : Recording}
    {summary : SealedArchive}
    (finishing : recording.finish = (after, .ok summary)) :
    after.recorder.state = .published path ∧
      after.files.find (Writer.temporaryRoute path) = .error .notFound := by
  rcases Recording.finish_ok finishing with ⟨bench, filled, done, records, adding, closing, rfl, -⟩
  rcases drafts.bench with ⟨same, recordsSame, -, drafting⟩
  rw [records] at recordsSame
  cases recordsSame
  have filling := drafting.rewrites (rewrites_addDocuments adding)
  have published : done.writer.path = path :=
    (Workbench.sealed_finish closing).1.trans filling.path_eq
  refine ⟨?_, filling.gone_of_finish closing⟩
  rw [← published]
  rfl

end Recording.Drafts

end BuildCapture
