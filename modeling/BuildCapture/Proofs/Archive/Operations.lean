import BuildCapture.Archive.Invocation

/-!
# What operations of a recorder do

A recorder starts with the writer of a container.  A commit writes the record
of an invocation that has not failed, and reports a failure that concerns only
its inputs.  Completing an archive adds its documents and publishes the
container; whatever fails on the way is why the archive is given up.
-/

namespace BuildCapture

open Container

theorem Recorder.create_eq_ok
    {files after : FileSystem}
    {path : String}
    {config : WriterConfig}
    {recorder : Recorder}
    (creating : Recorder.create files path config = (after, .ok recorder)) :
    ∃ writer, Writer.create files path config = (after, .ok writer) ∧
      recorder = { state := .recording writer, config } := by
  rw [create] at creating
  split at creating
  · cases creating
  next writer starting =>
  cases creating
  exact ⟨writer, starting, rfl⟩

namespace Recording

/-- The recorder of a new archive, or one that has given up where none could be created. -/
def start
    (files : FileSystem)
    (path : String)
    (config : WriterConfig) :
    Recording :=
  match Recorder.create files path config with
  | (files, .ok recorder) => ⟨files, recorder⟩
  | (files, .error failure) => ⟨files, { state := .aborted failure.message, config }⟩

section Start

variable
  {files : FileSystem}
  {path : String}
  {config : WriterConfig}

theorem create_start
    (created : (Recorder.create files path config).2.isOk = true) :
    Recorder.create files path config =
      ((start files path config).files, .ok (start files path config).recorder) := by
  rw [start]
  rcases creating : Recorder.create files path config with ⟨after, failure | recorder⟩
  · rw [creating] at created
    cases created
  · rfl

/-- A recorder that was just created can begin. -/
theorem begin_start
    (created : (Recorder.create files path config).2.isOk = true)
    (projectPath : String)
    (language : Language)
    (kind : InvocationKind) :
    (start files path config).begin projectPath language kind =
      .ok { recording := start files path config, record := { projectPath, language, kind } } := by
  rcases Recorder.create_eq_ok (create_start created) with ⟨writer, -, records⟩
  simp only [Recording.begin, bench, Recorder.writer, records]

end Start

variable
  {recording after : Recording}
  {failure : Failure}

/-- An invocation that was begun has the record of its heading. -/
theorem begin_eq_ok
    {projectPath : String}
    {language : Language}
    {kind : InvocationKind}
    {invocation : Invocation}
    (beginning : recording.begin projectPath language kind = .ok invocation) :
    invocation = { recording, record := { projectPath, language, kind } } := by
  rw [Recording.begin] at beginning
  split at beginning
  · cases beginning
  · exact (Except.ok.inj beginning).symm

variable [Zstd.Encoder]

/-! ## Records -/

theorem storeRecord_eq_ok
    {record : InvocationRecord}
    {index : Nat}
    (storing : recording.storeRecord record = (after, .ok index)) :
    ∃ bench written, recording.bench = .ok bench ∧
      bench.write (InvocationRecord.entryName recording.recorder.recordCount) record.encode =
        .ok written ∧
      index = recording.recorder.recordCount ∧
      after = ⟨written.files, { recording.recorder with
        state := .recording written.writer
        recordCount := recording.recorder.recordCount + 1 }⟩ := by
  rw [storeRecord] at storing
  simp only [fail] at storing
  split at storing
  · split at storing <;> cases storing
  next bench records =>
  split at storing
  · split at storing <;> cases storing
  next written writing =>
  cases storing
  exact ⟨bench, written, records, writing, rfl, rfl⟩

/-- A record is not stored if the recorder has ended or the container does not take it. -/
theorem storeRecord_eq_error
    {record : InvocationRecord}
    (storing : recording.storeRecord record = (after, .error failure)) :
    recording.fail failure = (after, (.error failure : Except Failure Nat)) ∧
      (recording.bench = .error failure ∨
        ∃ bench, recording.bench = .ok bench ∧
          bench.write (InvocationRecord.entryName recording.recorder.recordCount) record.encode =
            .error failure) := by
  have same :
      ∀ {cause}, recording.fail cause = (after, (.error failure : Except Failure Nat)) →
        cause = failure := by
    intro cause failing
    rw [fail] at failing
    split at failing <;> cases failing <;> rfl
  rw [storeRecord] at storing
  simp only at storing
  split at storing
  · next cause idle =>
    cases same storing
    exact ⟨storing, Or.inl idle⟩
  next bench records =>
  split at storing
  · next cause writing =>
    cases same storing
    exact ⟨storing, Or.inr ⟨bench, records, writing⟩⟩
  · cases storing

/-! ## Completing -/

section Documents

variable
  {bench filled : Workbench}
  {name : String}
  {document : Octets}
  {rest : List (String × Octets)}

theorem addDocuments_cons_eq_ok
    (adding : addDocuments bench ((name, document) :: rest) = .ok filled) :
    ∃ written, bench.write name document = .ok written ∧
      addDocuments written rest = .ok filled := by
  rw [addDocuments] at adding
  split at adding
  · cases adding
  next written writing => exact ⟨written, writing, adding⟩

theorem addDocuments_cons_eq_error
    (adding : addDocuments bench ((name, document) :: rest) = .error failure) :
    bench.write name document = .error failure ∨
      ∃ written, bench.write name document = .ok written ∧
        addDocuments written rest = .error failure := by
  rw [addDocuments] at adding
  split at adding
  · next writing =>
    cases adding
    exact Or.inl writing
  · next written writing => exact Or.inr ⟨written, writing, adding⟩

end Documents

/-- Completing an archive adds its documents and publishes the container. -/
theorem finish_ok
    {archive : SealedArchive}
    (finishing : recording.finish = (after, .ok archive)) :
    ∃ bench filled done, recording.bench = .ok bench ∧
      addDocuments bench recording.recorder.documents = .ok filled ∧
      filled.finish = (done, .ok ()) ∧ after = recording.settle done ∧
      archive.diagnostics = recording.recorder.diagnostics := by
  unfold finish at finishing
  split at finishing
  · cases finishing
  next bench records =>
  split at finishing
  · cases finishing
  next filled adding =>
  split at finishing
  · cases finishing
  next done closing =>
  cases finishing
  exact ⟨bench, filled, done, records, adding, closing, rfl, rfl⟩

theorem finish_of_isOk
    (completes : recording.finish.2.isOk = true) :
    ∃ summary, recording.finish = (recording.finish.1, .ok summary) := by
  rcases finishing : recording.finish with ⟨after, failure | summary⟩
  · rw [finishing] at completes
    cases completes
  · exact ⟨summary, rfl⟩

/--
An archive is not completed if the recorder has ended before, if a document is
not taken or if the container is not published.
-/
theorem finish_eq_error
    (finishing : recording.finish = (after, .error failure)) :
    recording.bench = .error failure ∧ after = recording ∨
      ∃ bench, recording.bench = .ok bench ∧
        (addDocuments bench recording.recorder.documents = .error failure ∧
            after = recording.abort failure ∨
          ∃ filled left, addDocuments bench recording.recorder.documents = .ok filled ∧
            filled.finish = (left, .error failure) ∧
            after = (recording.withBench left).abort failure) := by
  rw [finish] at finishing
  split at finishing
  · next idle =>
    cases finishing
    exact Or.inl ⟨idle, rfl⟩
  next bench records =>
  refine Or.inr ⟨bench, records, ?_⟩
  split at finishing
  · next adding =>
    cases finishing
    exact Or.inl ⟨adding, rfl⟩
  next filled adding =>
  split at finishing
  · next left cause closing =>
    cases finishing
    exact Or.inr ⟨filled, left, adding, closing, rfl⟩
  · cases finishing

end Recording

/-! ## Commits -/

/--
A commit stores the record of an invocation that has not failed; a failure is
reported if it concerns only the invocation, and the recorder fails otherwise.
-/
theorem Invocation.commit_cases
    [Zstd.Encoder]
    {invocation : Invocation}
    {after : Recording}
    {outcome : Except Failure Nat}
    (committing : invocation.commit = (after, outcome)) :
    invocation.failure = none ∧
        invocation.recording.storeRecord invocation.record = (after, outcome) ∨
      ∃ failure, invocation.failure = some failure ∧
        (failure.isInvocationScoped = true ∧ outcome = .error failure ∧
            after = invocation.recording.report invocation.record.projectPath failure ∨
          failure.isInvocationScoped = false ∧
            invocation.recording.fail failure = (after, outcome)) := by
  rw [commit] at committing
  split at committing
  · next failure failed =>
    refine Or.inr ⟨failure, failed, ?_⟩
    rw [drop] at committing
    split at committing
    · next confined =>
      cases committing
      exact Or.inl ⟨confined, rfl, rfl⟩
    · next broad => exact Or.inr ⟨Bool.not_eq_true _ ▸ broad, committing⟩
  · next unfailed => exact Or.inl ⟨unfailed, committing⟩

end BuildCapture
