import BuildCapture.Proofs.Archive.Alongside

/-!
# Operations of recorders with and without memory

Recorders that record alike, one with and one without memory, go through every
operation alike: obtaining inputs, storing records, failing and completing the
archive.  Once they have ended they say so alike.
-/

namespace BuildCapture

open Container

namespace Recording

/-! ## Recorders that have ended -/

section Idle

variable
  {recording : Recording}
  {cause : Failure}

theorem storing_of_idle
    {α β : Type}
    (idle : recording.bench = .error cause)
    (store : Workbench → Except Failure (α × β × Workbench))
    (keep : β → Workbench → Recording) :
    recording.storing store keep = (recording, .error cause) := by
  rw [storing, idle]
  exact fail_of_idle idle cause

/-- A recorder that has ended may still know that an input is missing. -/
theorem recalling_of_idle
    {α β : Type}
    (idle : recording.bench = .error cause)
    (input : String)
    (known? : Fingerprint → Option α)
    (store : Workbench → Except Failure (α × β × Workbench))
    (keep : β → Workbench → Recording)
    (identity : α → InputIdentity) :
    (recording.recalling input known? (recording.storing store keep) identity).1 = recording ∧
      ((∀ fingerprint, known? fingerprint = none) →
        (recording.recalling input known? (recording.storing store keep) identity).2 =
          match recording.files.stat input with
          | .error fault => .error (.inputUnreadable input fault)
          | .ok _ => .error cause) := by
  rw [recalling, storing_of_idle idle]
  cases recording.files.stat input with
  | error fault => exact ⟨rfl, fun _ => rfl⟩
  | ok fingerprint =>
    simp only
    cases known : known? fingerprint with
    | some found => exact ⟨rfl, fun unknown => by simp [unknown] at known⟩
    | none => exact ⟨rfl, fun _ => rfl⟩

variable [Zstd.Encoder]

theorem storeRecord_of_idle
    (idle : recording.bench = .error cause)
    (record : InvocationRecord) :
    recording.storeRecord record = (recording, .error cause) := by
  simp only [storeRecord, idle]
  exact fail_of_idle idle cause

theorem finish_of_idle
    (idle : recording.bench = .error cause) :
    recording.finish = (recording, .error cause) := by
  simp only [finish, idle]

end Idle

/-- Whether a recorder has ended does not depend on the files. -/
theorem idle_of_recorder
    {left right : Recording}
    (same : right.recorder = left.recorder)
    {cause : Failure}
    (idle : left.bench = .error cause) :
    right.bench = .error cause := by
  rw [bench] at idle ⊢
  rw [same]
  cases records : left.recorder.writer with
  | error failure =>
    rw [records] at idle
    exact idle
  | ok writer =>
    rw [records] at idle
    cases idle

theorem idle_of_outgrown
    {recording : Recording}
    (outgrown : recording.Outgrown) :
    recording.bench = .error (.aborted (Failure.file .tooLarge).message) := by
  unfold bench Recorder.writer
  rw [outgrown]

section Alongside

variable
  [Zstd.Encoder]
  {path : String}
  {config : WriterConfig}
  {own : Nat}
  {past : List FileSystem}
  {left right : Recording}

/-- A recorder that was just created is abreast of itself. -/
theorem abreast_create
    {files after : FileSystem}
    {recorder : Recorder}
    {writer : Writer}
    (sane : files.Sane)
    (creating : Recorder.create files path config = (after, .ok recorder))
    (records : recorder.state = .recording writer)
    (identity : writer.identity = own) :
    (⟨after, recorder⟩ : Recording).Abreast path config own past ⟨after, recorder⟩ writer
      writer := by
  rcases Recorder.create_eq_ok creating with ⟨started, starting, rfl⟩
  cases records
  rcases Workbench.settled_create starting with ⟨settled, samePath, evolves⟩
  rcases Workbench.sound_create starting with ⟨-, -, draft⟩
  have saneAfter := (evolves sane).1
  exact {
    records := rfl
    same := rfl
    twins := .refl (settled.sound.backed.alone saneAfter)
    path := samePath
    identity := identity
    settings := congrArg Draft.settings draft
    sane := saneAfter
    lasts := fun input member => absurd member List.not_mem_nil }

/-- A recorder that has no memory has nothing to forget. -/
theorem Alongside.forget
    (alongside : left.Alongside path config own past right) :
    right.forget = right := by
  have nothing : right.recorder.inputs = [] := by
    rcases alongside with ⟨writer, other, abreast⟩ | ended
    · rw [abreast.same]
    · rw [ended.same]
      exact ended.spent.inputs
  rw [Recording.forget, ← nothing]

theorem Concur.forget
    {α : Type}
    {left right : Recording × α}
    (concur : Concur path config own past left right) :
    Concur path config own past left (right.1.forget, right.2) := by
  rcases concur with outgrown | ⟨same, alongside⟩
  · exact Or.inl outgrown
  · right
    simp only
    rw [alongside.forget]
    exact ⟨same, alongside⟩

/-! ## Operations -/

/-- Recorders that have ended obtain nothing, and say so alike. -/
theorem Ended.recalling
    {α β γ : Type}
    (ended : left.Ended own right)
    (input : String)
    {known? knownToo? : Fingerprint → Option α}
    (unknown : ∀ fingerprint, known? fingerprint = none)
    (unknownToo : ∀ fingerprint, knownToo? fingerprint = none)
    (store : Workbench → Except Failure (α × β × Workbench))
    (keep : β → Workbench → Recording)
    (storeToo : Workbench → Except Failure (α × γ × Workbench))
    (keepToo : γ → Workbench → Recording)
    (identity : α → InputIdentity) :
    Concur path config own past
      (left.recalling input known? (left.storing store keep) identity)
      (right.recalling input knownToo? (right.storing storeToo keepToo) identity) := by
  rcases ended.spent.bench with ⟨cause, idle⟩
  rcases recalling_of_idle idle input known? store keep identity with ⟨here, outcome⟩
  rcases
      recalling_of_idle (idle_of_recorder ended.same idle) input knownToo? storeToo keepToo
        identity with
    ⟨there, outcomeToo⟩
  have stats := ended.files.stat input
  right
  rw [here, there, outcome unknown, outcomeToo unknownToo]
  refine ⟨?_, Or.inr ended⟩
  generalize left.files.stat input = first at stats ⊢
  generalize right.files.stat input = second at stats ⊢
  cases stats <;> rfl

theorem Alongside.contentKey
    (alongside : left.Alongside path config own past right)
    (now : left.files ∈ past)
    (input : String) :
    Concur path config own past (left.contentKey input)
      ((right.contentKey input).1.forget, (right.contentKey input).2) := by
  rcases alongside with ⟨writer, other, abreast⟩ | ended
  · rw [forget_contentKey abreast.benchToo (by rw [abreast.same])]
    exact abreast.contentKey now input
  · apply Concur.forget
    have nothing := ended.spent.inputs
    rw [contentKey_eq, contentKey_eq, ended.same]
    apply ended.recalling
    all_goals
      intro fingerprint
      rw [Recorder.knownContent?, Recorder.known?_of_nil nothing]

theorem Alongside.moduleInfo
    (alongside : left.Alongside path config own past right)
    (now : left.files ∈ past)
    (input : String) :
    Concur path config own past (left.moduleInfo input)
      ((right.moduleInfo input).1.forget, (right.moduleInfo input).2) := by
  rcases alongside with ⟨writer, other, abreast⟩ | ended
  · rw [forget_moduleInfo abreast.benchToo (by rw [abreast.same])]
    exact abreast.moduleInfo now input
  · apply Concur.forget
    have nothing := ended.spent.inputs
    rw [moduleInfo_eq, moduleInfo_eq, ended.same]
    apply ended.recalling
    all_goals
      intro fingerprint
      rw [Recorder.knownModule?, Recorder.known?_of_nil nothing]

theorem Alongside.storeText
    (alongside : left.Alongside path config own past right)
    (data : Octets) :
    Concur path config own past (left.storeText data) (right.storeText data) := by
  rcases alongside with ⟨writer, other, abreast⟩ | ended
  · exact abreast.storeText data
  · rcases ended.spent.bench with ⟨cause, idle⟩
    rw [storeText_eq, storeText_eq, storing_of_idle idle,
      storing_of_idle (idle_of_recorder ended.same idle)]
    exact Or.inr ⟨rfl, Or.inr ended⟩

theorem Alongside.storeRecord
    (alongside : left.Alongside path config own past right)
    (record : InvocationRecord) :
    Concur path config own past (left.storeRecord record) (right.storeRecord record) := by
  rcases alongside with ⟨writer, other, abreast⟩ | ended
  · exact abreast.storeRecord record
  · rcases ended.spent.bench with ⟨cause, idle⟩
    rw [storeRecord_of_idle idle, storeRecord_of_idle (idle_of_recorder ended.same idle)]
    exact Or.inr ⟨rfl, Or.inr ended⟩

theorem Alongside.fail
    {α : Type}
    (alongside : left.Alongside path config own past right)
    (failure : Failure) :
    Concur path config own past (left.fail failure : Recording × Except Failure α)
      (right.fail failure) := by
  rcases alongside with ⟨writer, other, abreast⟩ | ended
  · exact abreast.fail failure
  · rcases ended.spent.bench with ⟨cause, idle⟩
    rw [fail_of_idle idle, fail_of_idle (idle_of_recorder ended.same idle)]
    exact Or.inr ⟨rfl, Or.inr ended⟩

/-- Noting why an invocation is left out changes nothing else. -/
theorem Alongside.report
    (alongside : left.Alongside path config own past right)
    (projectPath : String)
    (failure : Failure) :
    (left.report projectPath failure).Alongside path config own past
      (right.report projectPath failure) := by
  rcases alongside with ⟨writer, other, abreast⟩ | ended
  · left
    refine ⟨writer, other, { abreast with same := ?_ }⟩
    rw [Recording.report, abreast.same]
    rfl
  · right
    refine ⟨⟨ended.spent.bench, ended.spent.inputs⟩, ?_, ended.files⟩
    rw [Recording.report, ended.same]
    rfl

theorem Alongside.files
    (alongside : left.Alongside path config own past right) :
    left.files.Twins own right.files := by
  rcases alongside with ⟨writer, other, abreast⟩ | ended
  · have files := abreast.twins.files
    simp only [abreast.identity] at files
    exact files
  · exact ended.files

/-- The past may be remembered for longer. -/
theorem Alongside.mono
    (alongside : left.Alongside path config own past right)
    (earlier : FileSystem) :
    left.Alongside path config own (earlier :: past) right := by
  rcases alongside with ⟨writer, other, abreast⟩ | ended
  · left
    refine ⟨writer, other, { abreast with lasts := ?_ }⟩
    intro input member
    rcases abreast.lasts input member with ⟨source, lasts, answers⟩
    exact ⟨source, lasts.mono earlier, answers⟩
  · exact Or.inr ended

/-- Any other file may change in both file systems, if fingerprints tell. -/
theorem Alongside.elapse
    (alongside : left.Alongside path config own past right)
    {files otherFiles : FileSystem}
    (sane : files.Sane)
    (otherSane : otherFiles.Sane)
    (clock : left.files.clock ≤ files.clock)
    (tells : ∀ before ∈ past, before.TellsApart files)
    (leaves : FileSystem.Leaves (Writer.temporaryRoute path) left.files files)
    (otherLeaves : FileSystem.Leaves (Writer.temporaryRoute path) right.files otherFiles)
    (twins : files.Twins own otherFiles) :
    ({ left with files } : Recording).Alongside path config own past
      { right with files := otherFiles } := by
  rcases alongside with ⟨writer, other, abreast⟩ | ended
  · have samePath := abreast.twins.path.trans abreast.path
    rw [← abreast.path] at leaves
    rw [← samePath] at otherLeaves
    refine Or.inl ⟨writer, other, { abreast with
      twins := { abreast.twins with
        files := ?_
        left := (abreast.twins.left.backed.elsewhere leaves).alone sane
        right := (abreast.twins.right.backed.elsewhere otherLeaves).alone otherSane }
      sane := sane
      lasts := ?_ }⟩
    · rw [abreast.identity]
      exact twins
    · intro input member
      rcases abreast.lasts input member with ⟨source, lasts, answers⟩
      exact ⟨source, lasts.elapse clock tells, answers⟩
  · rcases ended.spent.bench with ⟨cause, idle⟩
    have same : ({ left with files } : Recording).recorder = left.recorder := rfl
    exact Or.inr ⟨⟨⟨cause, idle_of_recorder same idle⟩, ended.spent.inputs⟩, ended.same, twins⟩

/-! ## Completing -/

theorem addDocuments_twins
    {bench other : Workbench}
    (twins : bench.Twins other)
    (documents : List (String × Octets)) :
    Agree (fun here there => bench.Rewrites here ∧ here.Twins there)
      (addDocuments bench documents) (addDocuments other documents) := by
  induction documents generalizing bench other with
  | nil => exact .ok ⟨.refl bench, twins⟩
  | cons document rest ih =>
    rcases document with ⟨name, data⟩
    have written := twins.write name data
    unfold addDocuments
    generalize writing : bench.write name data = here at written ⊢
    generalize other.write name data = there at written ⊢
    cases written with
    | error failure => exact .error failure
    | @ok here there same =>
      have rewrites := Workbench.rewrites_write writing
      have added := ih same
      simp only
      generalize addDocuments here rest = filled at added ⊢
      generalize addDocuments there rest = otherFilled at added ⊢
      cases added with
      | error failure => exact .error failure
      | ok facts => exact .ok ⟨rewrites.trans facts.1, facts.2⟩

/-- Both archives are completed alike, and what is published is the same. -/
theorem Abreast.finish
    {writer other : Writer}
    (abreast : left.Abreast path config own past right writer other) :
    left.finish.2 = right.finish.2 ∧ left.finish.1.Ended own right.finish.1 ∧
      ∀ summary, left.finish.2 = .ok summary →
        ∃ image, left.finish.1.files.read path = .ok image ∧
          right.finish.1.files.read path = .ok image := by
  have documents : right.recorder.documents = left.recorder.documents := by
    rw [abreast.same]
    rfl
  have agree := addDocuments_twins abreast.twins left.recorder.documents
  simp only [Recording.finish, abreast.bench, abreast.benchToo, documents]
  generalize addDocuments ⟨left.files, writer⟩ _ = here at agree ⊢
  generalize addDocuments ⟨right.files, other⟩ _ = there at agree ⊢
  cases agree with
  | error failure => exact ⟨rfl, abreast.abort failure, by rintro summary ⟨⟩⟩
  | @ok filled otherFilled facts =>
    rcases facts with ⟨rewrites, twins⟩
    have finished := twins.finish
    have identity : filled.writer.identity = own := rewrites.identity.trans abreast.identity
    have samePath : filled.writer.path = path := rewrites.path.trans abreast.path
    simp only
    rcases finishing : filled.finish with ⟨done, outcome⟩
    rcases finishingToo : otherFilled.finish with ⟨otherDone, otherOutcome⟩
    rw [finishing, finishingToo, identity] at finished
    rcases finished with ⟨files, rfl⟩
    rcases Workbench.sealed_finish finishing with ⟨donePath, isSealed⟩
    rcases Workbench.sealed_finish finishingToo with ⟨otherDonePath, otherIsSealed⟩
    rw [samePath] at donePath
    rw [twins.path, samePath] at otherDonePath
    cases outcome with
    | error failure =>
      have records : (left.withBench done).bench = .ok ⟨done.files, done.writer⟩ := rfl
      have recordsToo :
          (right.withBench otherDone).bench = .ok ⟨otherDone.files, otherDone.writer⟩ := rfl
      refine ⟨rfl, ⟨abort_spent records failure, ?_, ?_⟩, by rintro summary ⟨⟩⟩
      · simp only [Recording.abort, records, recordsToo]
        simp only [withBench, abreast.same]
      · simp only [Recording.abort, records, recordsToo, Workbench.abandon, isSealed,
          otherIsSealed, if_true]
        exact files
    | ok _ =>
      refine ⟨?_, ⟨⟨⟨.alreadySealed, rfl⟩, rfl⟩, ?_, files⟩, fun summary _ => ?_⟩
      · simp only [donePath, otherDonePath, abreast.same, summary]
      · simp only [settle, donePath, otherDonePath, abreast.same]
      · have found := (Workbench.read_of_finish twins.left.backed finishing).1
        have foundToo := (Workbench.read_of_finish twins.right.backed finishingToo).1
        rw [samePath] at found
        rw [twins.path, samePath, twins.draft] at foundToo
        exact ⟨_, found, foundToo⟩

theorem Alongside.finish
    (alongside : left.Alongside path config own past right) :
    left.finish.2 = right.finish.2 ∧ left.finish.1.Ended own right.finish.1 ∧
      ∀ summary, left.finish.2 = .ok summary →
        ∃ image, left.finish.1.files.read path = .ok image ∧
          right.finish.1.files.read path = .ok image := by
  rcases alongside with ⟨writer, other, abreast⟩ | ended
  · exact abreast.finish
  · rcases ended.spent.bench with ⟨cause, idle⟩
    rw [finish_of_idle idle, finish_of_idle (idle_of_recorder ended.same idle)]
    exact ⟨rfl, ended, by rintro summary ⟨⟩⟩

end Alongside

end Recording

end BuildCapture
