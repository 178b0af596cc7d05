import BuildCapture.Proofs.Archive.Transcripts

/-!
# What runs keep

Every stage that a recorder reaches is faithful to the journal of its run: the
recorder keeps what the journal says or has given up for good.
-/

namespace BuildCapture

open Container

namespace Recording

variable
  {recording after : Recording}
  {path : String}
  {journal : Journal}
  {writer : Writer}
  {accepted : List (String × Octets)}

/-! ## Starting -/

/-- A recorder starts with nothing to keep. -/
theorem faithful_create
    {files after : FileSystem}
    {path : String}
    {config : WriterConfig}
    {recorder : Recorder}
    (sane : files.Sane)
    (creating : Recorder.create files path config = (after, .ok recorder)) :
    (⟨after, recorder⟩ : Recording).Faithful path {} := by
  rcases Recorder.create_eq_ok creating with ⟨writer, starting, rfl⟩
  rcases Workbench.settled_create starting with ⟨settled, samePath, evolves⟩
  refine Or.inl ⟨writer, [], ?_⟩
  constructor
  case records => rfl
  case sane => exact (evolves sane).1
  case path => exact samePath
  case settled => exact settled
  case named => exact fun item member => absurd member List.not_mem_nil
  case counted => rfl
  case fewer => exact Nat.le_refl 0
  case stored => exact fun there => nomatch there
  case blobs => exact .empty
  case modules => exact .empty
  case inputs => exact fun input => .none

/-! ## Changes from outside -/

/-- Files other than the temporary one may change at any time. -/
theorem Faithful.elapse
    (faithful : recording.Faithful path journal)
    {files : FileSystem}
    (sane : files.Sane)
    (leaves : FileSystem.Leaves (Writer.temporaryRoute path) recording.files files) :
    ({ recording with files } : Recording).Faithful path journal := by
  rcases faithful with ⟨writer, accepted, keeps⟩ | spent
  · exact Or.inl ⟨writer, accepted, keeps.elapse sane leaves⟩
  · right
    rcases spent.bench with ⟨failure, idle⟩
    refine ⟨⟨failure, ?_⟩, spent.inputs⟩
    unfold bench at idle ⊢
    split at idle
    · next cause stopped =>
      simp only [stopped]
      exact idle
    · cases idle

/-- Noting why an invocation is left out changes nothing else. -/
theorem Faithful.report
    (faithful : recording.Faithful path journal)
    (projectPath : String)
    (failure : Failure) :
    (recording.report projectPath failure).Faithful path journal := by
  rcases faithful with ⟨writer, accepted, keeps⟩ | spent
  · exact Or.inl ⟨writer, accepted, keeps.report projectPath failure⟩
  · exact Or.inr ⟨spent.bench, spent.inputs⟩

/-! ## Records -/

namespace Keeps

/-- One more record under the next name leaves every committed record stored. -/
theorem stored_append
    (keeps : recording.Keeps path journal writer accepted)
    (committed : Committed)
    {index : Nat}
    {other : Committed}
    (there : (journal.committed ++ [committed])[index]? = some other) :
    (InvocationRecord.entryName index, other.record.encode) ∈
      accepted ++
        [(InvocationRecord.entryName recording.recorder.recordCount, committed.record.encode)] := by
  rw [List.getElem?_append] at there
  split at there
  · exact List.mem_append_left _ (keeps.stored there)
  next behind =>
  rw [List.getElem?_singleton] at there
  split at there
  · next first =>
    cases there
    have here : index = journal.committed.length := by omega
    rw [here, ← keeps.counted]
    exact List.mem_append_right _ List.mem_cons_self
  · cases there

/-- The next record of the archive has a name of its own. -/
theorem named_append
    (keeps : recording.Keeps path journal writer accepted)
    (committed : Committed) :
    ∀ item ∈ accepted ++
        [(InvocationRecord.entryName recording.recorder.recordCount, committed.record.encode)],
      EntryName (journal.committed.length + 1) item.1 := by
  intro item member
  rcases List.mem_append.1 member with earlier | last
  · exact (keeps.named item earlier).mono (Nat.le_succ _)
  · rw [List.mem_singleton.1 last, keeps.counted]
    exact .record (Nat.lt_succ_self _)

end Keeps

variable [Zstd.Encoder]

theorem storeRecord_error
    {record : InvocationRecord}
    {failure : Failure}
    (storing : recording.storeRecord record = (after, .error failure)) :
    after = recording ∨ after.Spent :=
  (fail_cases (storeRecord_eq_error storing).1).2

/-- A record that was written is kept as the next of the archive. -/
theorem Keeps.commit
    (keeps : recording.Keeps path journal writer accepted)
    (committed : Committed)
    {written : Workbench}
    (writing :
      (⟨recording.files, writer⟩ : Workbench).write
          (InvocationRecord.entryName recording.recorder.recordCount) committed.record.encode =
        .ok written) :
    (⟨written.files, { recording.recorder with
        state := .recording written.writer
        recordCount := recording.recorder.recordCount + 1 }⟩ : Recording).Keeps
      path { journal with committed := journal.committed ++ [committed] } written.writer
      (accepted ++
        [(InvocationRecord.entryName recording.recorder.recordCount,
          committed.record.encode)]) := by
  have continues := Workbench.continues_write writing
  have more : (journal.committed ++ [committed]).length = journal.committed.length + 1 :=
    List.length_append
  constructor
  case records => rfl
  case sane => exact (continues.files keeps.sane).1
  case path => exact continues.path.trans keeps.path
  case settled => exact keeps.settled.write writing
  case named =>
    intro item member
    show EntryName (journal.committed ++ [committed]).length item.1
    rw [more]
    exact keeps.named_append committed item member
  case counted =>
    show recording.recorder.recordCount + 1 = (journal.committed ++ [committed]).length
    rw [more, keeps.counted]
  case fewer =>
    show (journal.committed ++ [committed]).length ≤ _
    rw [more, List.length_append]
    exact Nat.succ_le_succ keeps.fewer
  case stored => exact keeps.stored_append committed
  case blobs => exact keeps.blobs.append _
  case modules => exact keeps.modules.append _
  case inputs => exact keeps.inputs.grows rfl rfl id id

/-- A record that was stored is the next of the archive. -/
theorem Faithful.storeRecord
    (faithful : recording.Faithful path journal)
    (committed : Committed)
    {index : Nat}
    (storing : recording.storeRecord committed.record = (after, .ok index)) :
    after.Faithful path { journal with committed := journal.committed ++ [committed] } := by
  rcases storeRecord_eq_ok storing with ⟨bench, written, records, writing, -, rfl⟩
  rcases faithful.keeps_of_bench records with ⟨writer, accepted, keeps, rfl⟩
  exact Or.inl ⟨written.writer, _, keeps.commit committed writing⟩

/-! ## Completing -/

/-- Completing an archive that fails leaves a recorder alone or makes it give up. -/
theorem finish_error
    {failure : Failure}
    (finishing : recording.finish = (after, .error failure)) :
    after = recording ∨ after.Spent := by
  rcases finish_eq_error finishing with
    ⟨-, rfl⟩ | ⟨bench, records, ⟨-, rfl⟩ | ⟨filled, left, -, -, rfl⟩⟩
  · exact Or.inl rfl
  · exact Or.inr (abort_spent records failure)
  · have still : (recording.withBench left).bench = .ok ⟨left.files, left.writer⟩ := rfl
    exact Or.inr (abort_spent still failure)

end Recording

/-! ## Commits -/

/-- A stage is faithful to its journal. -/
def Stage.Holds
    (path : String) : Stage → Prop
  | .idle recording journal => recording.Faithful path journal ∧ journal.Sound
  | .lent transcript => transcript.Holds path

/-- An invocation that was just begun has nothing to answer for. -/
theorem Transcript.holds_begin
    {recording : Recording}
    {path : String}
    {journal : Journal}
    (holds : Stage.Holds path (.idle recording journal))
    {heading : Heading}
    {invocation : Invocation}
    (beginning :
      recording.begin heading.projectPath heading.language heading.kind = .ok invocation) :
    ({ invocation, heading, journal } : Transcript).Holds path := by
  rcases holds with ⟨faithful, sound⟩
  rw [Recording.begin_eq_ok beginning]
  exact ⟨faithful, sound, fun _ => rfl, fun _ deed member => absurd member List.not_mem_nil⟩

variable [Zstd.Encoder]

/-- What an invocation leaves behind that is not written. -/
theorem Invocation.commit_error
    {invocation : Invocation}
    {path : String}
    {journal : Journal}
    (faithful : invocation.recording.Faithful path journal)
    {after : Recording}
    {failure : Failure}
    (committing : invocation.commit = (after, .error failure)) :
    after.Faithful path journal := by
  rcases commit_cases committing with ⟨-, storing⟩ | ⟨cause, -, ⟨-, -, rfl⟩ | ⟨-, failing⟩⟩
  · exact faithful.of_fail (Recording.storeRecord_error storing)
  · exact faithful.report _ _
  · exact faithful.of_fail (Recording.fail_cases failing).2

/-- Only an invocation that has not failed is written. -/
theorem Invocation.commit_ok
    {invocation : Invocation}
    {after : Recording}
    {index : Nat}
    (committing : invocation.commit = (after, .ok index)) :
    invocation.failure = none ∧
      invocation.recording.storeRecord invocation.record = (after, .ok index) := by
  rcases commit_cases committing with stored | ⟨cause, -, ⟨-, same, -⟩ | ⟨-, failing⟩⟩
  · exact stored
  · cases same
  · cases (Recording.fail_cases failing).1

/-- Committing keeps the journal sound and the recorder faithful to it. -/
theorem Transcript.Holds.commit
    {transcript : Transcript}
    {path : String}
    (holds : transcript.Holds path) :
    Stage.Holds path (.idle transcript.commit.1 transcript.commit.2) := by
  rw [Transcript.commit]
  split
  · next after failure committing =>
    exact ⟨Invocation.commit_error holds.faithful committing, holds.sound⟩
  · next after index committing =>
    rcases Invocation.commit_ok committing with ⟨unfailed, storing⟩
    exact ⟨holds.faithful.storeRecord _ storing,
      holds.sound.commit _ (holds.asCalled unfailed) (holds.covers unfailed)⟩

/-! ## Runs -/

/-- A run starts with an archive that can be created. -/
theorem Reaches.start
    {files : FileSystem}
    {path : String}
    {config : WriterConfig}
    (sane : files.Sane)
    (created : (Recorder.create files path config).2.isOk = true)
    (heading : Heading) :
    Reaches path config (.lent (.start (.start files path config) heading)) :=
  .begin (.create sane (Recording.create_start created)) heading
    (Recording.begin_start created _ _ _)

/-- Any number of calls can be made on an invocation. -/
theorem Reaches.calls
    {path : String}
    {config : WriterConfig}
    {transcript : Transcript}
    (reached : Reaches path config (.lent transcript))
    (calls : List Call) :
    Reaches path config (.lent (calls.foldl Transcript.call transcript)) := by
  induction calls generalizing transcript with
  | nil => exact reached
  | cons call rest ih => exact ih (reached.call call)

/--
What every operation keeps holds at every stage that is reached.  Capturing is
nothing new: it leaves its invocation out, or it begins one, makes calls and commits.
-/
theorem Reaches.induct
    {path : String}
    {config : WriterConfig}
    {motive : Stage → Prop}
    (create : ∀ {files after recorder}, files.Sane →
      Recorder.create files path config = (after, .ok recorder) →
        motive (.idle ⟨after, recorder⟩ {}))
    (elapse : ∀ {stage files}, motive stage → files.Sane →
      FileSystem.Leaves (Writer.temporaryRoute path) stage.files files →
        motive (stage.withFiles files))
    (begin : ∀ {recording journal invocation}, motive (.idle recording journal) →
      ∀ heading : Heading,
        recording.begin heading.projectPath heading.language heading.kind = .ok invocation →
          motive (.lent { invocation, heading, journal }))
    (call : ∀ {transcript}, Reaches path config (.lent transcript) → motive (.lent transcript) →
      ∀ call, motive (.lent (transcript.call call)))
    (commit : ∀ {transcript}, Reaches path config (.lent transcript) →
      motive (.lent transcript) → motive (.idle transcript.commit.1 transcript.commit.2))
    (drop : ∀ {transcript}, motive (.lent transcript) →
      motive (.idle transcript.invocation.recording transcript.journal))
    (report : ∀ {recording journal}, motive (.idle recording journal) →
      ∀ projectPath failure, motive (.idle (recording.report projectPath failure) journal))
    (unfinished : ∀ {recording after journal failure}, motive (.idle recording journal) →
      recording.finish = (after, .error failure) → motive (.idle after journal))
    {stage : Stage}
    (reached : Reaches path config stage) :
    motive stage := by
  have calls :
      ∀ (calls : List Call) (transcript : Transcript), Reaches path config (.lent transcript) →
        motive (.lent transcript) →
          Reaches path config (.lent (calls.foldl Transcript.call transcript)) ∧
            motive (.lent (calls.foldl Transcript.call transcript)) := by
    intro list
    induction list with
    | nil => exact fun transcript reached holds => ⟨reached, holds⟩
    | cons first rest ih =>
      exact fun transcript reached holds => ih _ (reached.call first) (call reached holds first)
  induction reached with
  | create sane creating => exact create sane creating
  | elapse reached sane leaves ih => exact elapse ih sane leaves
  | begin reached heading beginning ih => exact begin ih heading beginning
  | call reached next ih => exact call reached ih next
  | commit reached ih => exact commit reached ih
  | drop reached ih => exact drop ih
  | @capture recording journal reached raw resolve ih =>
    cases beginning : recording.begin raw.projectPath raw.language raw.kind with
    | error failure =>
      rw [Recording.capture, Journal.capture]
      simp only [beginning]
      exact ih
    | ok invocation =>
      cases resolving : resolve raw with
      | error reasons =>
        rw [Recording.capture, Journal.capture]
        simp only [beginning, resolving]
        exact report ih _ _
      | ok inputs =>
        rcases capture_eq_commit beginning resolving journal with ⟨recorded, noted⟩
        rcases
            calls (raw.calls inputs) _ (reached.begin raw.heading beginning)
              (begin ih raw.heading beginning) with
          ⟨reachedCalls, holds⟩
        rw [recorded, noted]
        exact commit reachedCalls holds
  | unfinished reached finishing ih => exact unfinished ih finishing

/-- Every stage that is reached is faithful to its journal. -/
theorem Reaches.holds
    {path : String}
    {config : WriterConfig}
    {stage : Stage}
    (reached : Reaches path config stage) :
    stage.Holds path := by
  refine Reaches.induct ?create ?elapse ?begin ?call ?commit ?drop ?report ?unfinished reached
  case create =>
    intro files after recorder sane creating
    exact ⟨Recording.faithful_create sane creating, Journal.sound_empty⟩
  case elapse =>
    intro stage files holds sane leaves
    cases stage with
    | idle recording journal => exact ⟨holds.1.elapse sane leaves, holds.2⟩
    | lent transcript =>
      exact ⟨holds.faithful.elapse sane leaves, holds.sound, holds.asCalled, holds.covers⟩
  case begin => exact fun holds heading beginning => Transcript.holds_begin holds beginning
  case call => exact fun _ holds call => Transcript.Holds.call holds call
  case commit => exact fun _ holds => Transcript.Holds.commit holds
  case drop => exact fun holds => ⟨holds.faithful, holds.sound⟩
  case report =>
    exact fun holds projectPath failure => ⟨holds.1.report projectPath failure, holds.2⟩
  case unfinished =>
    exact fun holds finishing => ⟨holds.1.of_fail (Recording.finish_error finishing), holds.2⟩

end BuildCapture
