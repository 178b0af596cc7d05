import BuildCapture.Proofs.Archive.Attempts

/-!
# What a log accounts for

The recorder counts the attempts that were committed and reports those that an
input made fail.  Neither count nor reports depend on anything but the log of
the run, however files change meanwhile.
-/

namespace BuildCapture

open Container

/-! ## Counting and reporting -/

/-- What a recorder counts and reports. -/
def Recorder.tally
    (recorder : Recorder) :
    Nat × List Diagnostic :=
  (recorder.recordCount, recorder.diagnostics)

namespace Recording

section Tally

variable
  {α β : Type}
  {recording : Recording}

/-- Giving up neither counts nor reports anything. -/
theorem tally_fail
    (recording : Recording)
    (failure : Failure) :
    (recording.fail failure : Recording × Except Failure α).1.recorder.tally =
      recording.recorder.tally := by
  rw [fail, abort]
  split
  · rfl
  · split <;> rfl

theorem tally_of_fail
    {after : Recording}
    {cause : Failure}
    {outcome : Except Failure α}
    (failing : recording.fail cause = (after, outcome)) :
    outcome = .error cause ∧ after.recorder.tally = recording.recorder.tally := by
  have same : (recording.fail cause : Recording × Except Failure α).1.recorder.tally = _ :=
    recording.tally_fail cause
  rw [failing] at same
  exact ⟨(fail_cases failing).1, same⟩

theorem tally_storing
    {store : Workbench → Except Failure (α × β × Workbench)}
    {keep : β → Workbench → Recording}
    (keeping : ∀ pool left, (keep pool left).recorder.tally = recording.recorder.tally) :
    (recording.storing store keep).1.recorder.tally = recording.recorder.tally := by
  rw [storing]
  split
  · exact recording.tally_fail _
  split
  · exact recording.tally_fail _
  · exact keeping _ _

theorem tally_recalling
    {input : String}
    {known? : Fingerprint → Option α}
    {stored : Recording × Except Failure α}
    (storing : stored.1.recorder.tally = recording.recorder.tally)
    (identity : α → InputIdentity) :
    (recording.recalling input known? stored identity).1.recorder.tally =
      recording.recorder.tally := by
  rw [recalling]
  split
  · rfl
  split
  · rfl
  rcases stored with ⟨left, failure | found⟩ <;> exact storing

end Tally

variable
  [Zstd.Encoder]
  (recording : Recording)

theorem tally_contentKey
    (input : String) :
    (recording.contentKey input).1.recorder.tally = recording.recorder.tally := by
  rw [contentKey_eq]
  apply tally_recalling
  exact tally_storing fun _ _ => rfl

theorem tally_moduleInfo
    (input : String) :
    (recording.moduleInfo input).1.recorder.tally = recording.recorder.tally := by
  rw [moduleInfo_eq]
  apply tally_recalling
  exact tally_storing fun _ _ => rfl

theorem tally_storeText
    (data : Octets) :
    (recording.storeText data).1.recorder.tally = recording.recorder.tally := by
  rw [storeText_eq]
  exact tally_storing fun _ _ => rfl

end Recording

/-- Obtaining an input counts and reports what obtaining it does. -/
theorem Invocation.tally_adding
    {α : Type}
    (invocation : Invocation)
    {obtain : Recording → Recording × Except Failure α}
    (same : ∀ recording, (obtain recording).1.recorder.tally = recording.recorder.tally)
    (note : α → InvocationRecord → InvocationRecord) :
    (invocation.adding obtain note).recording.recorder.tally =
      invocation.recording.recorder.tally := by
  have obtained := same invocation.recording
  rw [adding]
  generalize obtain invocation.recording = result at obtained ⊢
  split
  · rfl
  · rcases result with ⟨after, failure | found⟩ <;> exact obtained

namespace Call

variable
  [Zstd.Encoder]
  (call : Call)
  (invocation : Invocation)

/-- Calls neither count nor report anything. -/
theorem tally_apply :
    (call.apply invocation).recording.recorder.tally = invocation.recording.recorder.tally := by
  cases call.shape with
  | setting note _ applies _ =>
    rw [applies]
    rfl
  | content input note _ _ applies _ =>
    rw [applies]
    exact invocation.tally_adding (fun recording => recording.tally_contentKey input) note
  | text data note _ _ applies _ _ =>
    rw [applies]
    exact invocation.tally_adding (fun recording => recording.tally_storeText data) note
  | module input note _ _ applies _ =>
    rw [applies]
    exact invocation.tally_adding (fun recording => recording.tally_moduleInfo input) note

/-- An invocation that has failed is left alone: its input is not even looked at. -/
theorem apply_of_failed
    (failed : invocation.hasFailed = true) :
    (call.apply invocation).recording = invocation.recording ∧
      (call.apply invocation).failure = invocation.failure := by
  cases call.shape with
  | setting note _ applies _ =>
    rw [applies]
    exact ⟨rfl, rfl⟩
  | content _ _ _ _ applies _ | text _ _ _ _ applies _ _ | module _ _ _ _ applies _ =>
    rw [applies, Invocation.adding, if_pos failed]
    exact ⟨rfl, rfl⟩

/-- No call changes what project an invocation is of. -/
theorem projectPath_apply :
    (call.apply invocation).record.projectPath = invocation.record.projectPath := by
  have adding :
      ∀ {α : Type} (obtain : Recording → Recording × Except Failure α)
        (note : α → InvocationRecord → InvocationRecord),
        (∀ found record, (note found record).projectPath = record.projectPath) →
          (invocation.adding obtain note).record.projectPath = invocation.record.projectPath := by
    intro α obtain note same
    rw [Invocation.adding]
    split
    · rfl
    · rcases obtain invocation.recording with ⟨after, failure | found⟩
      · rfl
      · exact same found invocation.record
  cases call <;> first | rfl | exact adding _ _ fun _ _ => rfl

end Call

/-- A log accounts for what a recorder counts and reports. -/
structure Recorder.Tallies
    (recorder : Recorder)
    (log : List Attempt) : Prop where
  indices : log.filterMap Attempt.index? = List.range recorder.recordCount
  diagnostics : recorder.diagnostics = log.filterMap Attempt.diagnostic?

namespace Recorder.Tallies

variable
  {recorder after : Recorder}
  {log : List Attempt}

theorem congr
    (tallies : recorder.Tallies log)
    (same : after.tally = recorder.tally) :
    after.Tallies log := by
  rw [tally, tally, Prod.mk.injEq] at same
  exact ⟨same.1 ▸ tallies.indices, same.2 ▸ tallies.diagnostics⟩

/-- An attempt that neither counts nor is reported makes no difference. -/
theorem silent
    (tallies : recorder.Tallies log)
    {attempt : Attempt}
    (uncounted : attempt.index? = none)
    (unreported : attempt.diagnostic? = none)
    (same : after.tally = recorder.tally) :
    after.Tallies (log ++ [attempt]) := by
  have unchanged : recorder.Tallies (log ++ [attempt]) := by
    constructor
    · simp [uncounted, tallies.indices]
    · simp [unreported, tallies.diagnostics]
  exact unchanged.congr same

/-- An attempt that was committed is the next to be counted. -/
theorem committed
    (tallies : recorder.Tallies log)
    (heading : Heading)
    (moves : List Move)
    (same : after.tally = (recorder.recordCount + 1, recorder.diagnostics)) :
    after.Tallies (log ++ [⟨heading, moves, .committed recorder.recordCount⟩]) := by
  rw [tally, Prod.mk.injEq] at same
  constructor
  · rw [List.filterMap_append, tallies.indices, same.1, List.range_succ]
    rfl
  · rw [List.filterMap_append, ← tallies.diagnostics, same.2]
    exact (List.append_nil _).symm

/-- An attempt that an input made fail is the next to be reported. -/
theorem reported
    (tallies : recorder.Tallies log)
    {attempt : Attempt}
    {failure : Failure}
    (failed : attempt.outcome = .failed failure)
    (confined : failure.isInvocationScoped = true)
    (same : after.tally =
      (recorder.recordCount, recorder.diagnostics ++
        [.ofFailure attempt.heading.projectPath failure])) :
    after.Tallies (log ++ [attempt]) := by
  rw [tally, Prod.mk.injEq] at same
  have uncounted : attempt.index? = none := by
    rw [Attempt.index?, failed]
  have noted : attempt.diagnostic? = some (.ofFailure attempt.heading.projectPath failure) := by
    simp only [Attempt.diagnostic?, failed, confined, if_true]
  constructor
  · simp [uncounted, same.1, tallies.indices]
  · simp [noted, same.2, tallies.diagnostics]

end Recorder.Tallies

section Committing

variable [Zstd.Encoder]

/-- Writing an entry never fails because of an input. -/
theorem Container.Workbench.not_scoped_of_write
    {bench : Workbench}
    {name : String}
    {data : Octets}
    {failure : Failure}
    (writing : bench.write name data = .error failure) :
    failure.isInvocationScoped = false := by
  rcases Draft.write_eq_error (write_eq_error writing) with
    ⟨-, rfl⟩ | ⟨-, rfl⟩ | ⟨-, rfl⟩ | ⟨form, -, -, rfl⟩ <;> rfl

namespace Recording

variable
  {recording after : Recording}
  {record : InvocationRecord}

omit [Zstd.Encoder] in
/-- A recorder that does not record says so, and not because of an input. -/
theorem not_scoped_of_bench
    {failure : Failure}
    (idle : recording.bench = .error failure) :
    failure.isInvocationScoped = false := by
  rw [bench, Recorder.writer] at idle
  cases ended : recording.recorder.state with
  | recording writer =>
    rw [ended] at idle
    cases idle
  | published path =>
    rw [ended] at idle
    cases idle
    rfl
  | aborted reason =>
    rw [ended] at idle
    cases idle
    rfl

/-- A record that is stored gets the next index. -/
theorem tally_storeRecord
    {index : Nat}
    (storing : recording.storeRecord record = (after, .ok index)) :
    index = recording.recorder.recordCount ∧
      after.recorder.tally =
        (recording.recorder.recordCount + 1, recording.recorder.diagnostics) := by
  rcases storeRecord_eq_ok storing with ⟨bench, written, -, -, rfl, rfl⟩
  exact ⟨rfl, rfl⟩

/-- Storing a record never fails because of an input. -/
theorem tally_storeRecord_error
    {failure : Failure}
    (storing : recording.storeRecord record = (after, .error failure)) :
    failure.isInvocationScoped = false ∧ after.recorder.tally = recording.recorder.tally := by
  rcases storeRecord_eq_error storing with ⟨failing, cause⟩
  refine ⟨?_, (tally_of_fail failing).2⟩
  rcases cause with idle | ⟨bench, -, writing⟩
  · exact not_scoped_of_bench idle
  · exact Workbench.not_scoped_of_write writing

end Recording

/-- Committing counts the invocation or reports why it failed. -/
theorem Invocation.tallies_commit
    {invocation : Invocation}
    {log : List Attempt}
    (tallies : invocation.recording.recorder.Tallies log)
    {heading : Heading}
    (project : invocation.record.projectPath = heading.projectPath)
    (moves : List Move) :
    invocation.commit.1.recorder.Tallies
      (log ++ [⟨heading, moves, .of invocation.commit.2⟩]) := by
  rcases committing : invocation.commit with ⟨after, outcome⟩
  rcases commit_cases committing with
    ⟨-, storing⟩ | ⟨failure, -, ⟨confined, rfl, rfl⟩ | ⟨broad, failing⟩⟩
  · cases outcome with
    | error failure =>
      rcases Recording.tally_storeRecord_error storing with ⟨broad, same⟩
      apply tallies.silent rfl _ same
      simp only [Attempt.diagnostic?, Outcome.of, broad, Bool.false_eq_true, if_false]
    | ok index =>
      rcases Recording.tally_storeRecord storing with ⟨rfl, same⟩
      exact tallies.committed heading moves same
  · apply tallies.reported rfl confined
    rw [← project]
    rfl
  · rcases Recording.tally_of_fail failing with ⟨rfl, same⟩
    apply tallies.silent rfl _ same
    simp only [Attempt.diagnostic?, Outcome.of, broad, Bool.false_eq_true, if_false]

end Committing

/-! ## Runs -/

/-- A log accounts for what the recorder at a stage counts and reports. -/
def Stage.Tallies
    (log : List Attempt) : Stage → Prop
  | .idle recording _ => recording.recorder.Tallies log
  | .lent transcript =>
    transcript.invocation.recording.recorder.Tallies log ∧
      transcript.invocation.record.projectPath = transcript.heading.projectPath

/-- The log of a run accounts for what its recorder counts and reports, whatever files do. -/
theorem Conducts.tallies
    [Zstd.Encoder]
    {path : String}
    {config : WriterConfig}
    {changes : FileSystem → FileSystem → Prop}
    {stage : Stage}
    {moves : List Move}
    {log : List Attempt}
    (conducts : Conducts path config changes stage moves log) :
    stage.Tallies log := by
  refine Conducts.induct (motive := fun stage _ log => stage.Tallies log) ?create ?elapse ?begin
    ?call ?commit ?drop ?unresolved conducts
  case create =>
    intro files after recorder _ creating
    rcases Recorder.create_eq_ok creating with ⟨writer, -, rfl⟩
    exact ⟨rfl, rfl⟩
  case elapse =>
    intro stage moves log files tallies _
    cases stage with
    | idle recording journal => exact tallies
    | lent transcript => exact tallies
  case begin =>
    intro recording journal log invocation tallies heading beginning
    rw [Recording.begin_eq_ok beginning]
    exact ⟨tallies, rfl⟩
  case call =>
    intro transcript moves log _ tallies call
    exact ⟨tallies.1.congr (call.tally_apply _), (call.projectPath_apply _).trans tallies.2⟩
  case commit =>
    intro transcript moves log _ tallies
    rw [Transcript.commit_fst]
    exact Invocation.tallies_commit tallies.1 tallies.2 moves
  case drop => exact fun tallies => tallies.1.silent rfl rfl rfl
  case unresolved => exact fun tallies raw reasons => tallies.reported rfl rfl rfl

end BuildCapture
