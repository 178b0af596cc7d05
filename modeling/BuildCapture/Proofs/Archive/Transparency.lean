import BuildCapture.Proofs.Archive.Concurrence
import BuildCapture.Proofs.Archive.Fidelity

/-!
# Remembering inputs makes no difference

A recorder that remembers what it read from a path answers every request as one
that stores each input anew, as long as a path that yields something else also
has another fingerprint.  Both write the same archive, octet for octet.  Only the
second one can run out of room, since it writes contents again before it takes
them back.
-/

namespace BuildCapture

open Container

/-! ## Requests -/

/-- A recorder on its own or lent to an invocation. -/
inductive Stand where
  | idle (recording : Recording)
  | lent (invocation : Invocation)

/-- What is asked of a recorder, or of the invocation that it is lent to. -/
inductive Request where
  | begin (heading : Heading)
  | call (call : Call)
  | commit
  | drop
  /-- Leaves out an invocation whose resolver failed. -/
  | report (projectPath : String) (failure : Failure)
  | finish

/-- What a request is answered with. -/
inductive Answer where
  | begun (outcome : Except Failure Unit)
  /-- The record with what a call added, and the first failure. -/
  | called (record : InvocationRecord) (failure : Option Failure)
  | committed (outcome : Except Failure Nat)
  | finished (outcome : Except Failure SealedArchive)
  | nothing

namespace Stand

/-- The recorder, whoever has it. -/
def recording : Stand → Recording
  | .idle recording => recording
  | .lent invocation => invocation.recording

/-- The stand with another file system. -/
def withFiles
    (files : FileSystem) : Stand → Stand
  | .idle recording => .idle { recording with files }
  | .lent invocation =>
    .lent { invocation with recording := { invocation.recording with files } }

variable [Zstd.Encoder]

/-- Carries out a request, given a way to carry out calls; what does not fit is ignored. -/
def carryOut
    (apply : Invocation → Call → Invocation) : Stand → Request → Stand × Answer
  | .idle recording, .begin heading =>
    match recording.begin heading.projectPath heading.language heading.kind with
    | .error failure => (.idle recording, .begun (.error failure))
    | .ok invocation => (.lent invocation, .begun (.ok ()))
  | .lent invocation, .call call =>
    let invocation := apply invocation call
    (.lent invocation, .called invocation.record invocation.failure)
  | .lent invocation, .commit =>
    (.idle invocation.commit.1, .committed invocation.commit.2)
  | .lent invocation, .drop => (.idle invocation.recording, .nothing)
  | .idle recording, .report projectPath failure =>
    (.idle (recording.report projectPath failure), .nothing)
  | .idle recording, .finish => (.idle recording.finish.1, .finished recording.finish.2)
  | stand, _ => (stand, .nothing)

end Stand

section Runs

variable [Zstd.Encoder]

/-- Carries out a call with a recorder that keeps nothing of it in mind. -/
def Call.applyAnew
    (invocation : Invocation)
    (call : Call) :
    Invocation :=
  let invocation := call.apply invocation
  { invocation with recording := invocation.recording.forget }

/-! ## Runs -/

/--
Two runs of the same requests, beginning with the same file system: in the first
the recorder remembers its inputs, in the second it does not.  `past` holds the
file systems in which requests were made of the first.  Between two requests
any file but the temporary one may change, in both file systems alike, if every
path that yields something else than before has another fingerprint.
-/
inductive Tandem (path : String) (config : WriterConfig) (own : Nat) :
    (past : List FileSystem) → (left right : Stand) → Prop
  | create {files after : FileSystem} {recorder : Recorder} {writer : Writer}
      (sane : files.Sane)
      (creating : Recorder.create files path config = (after, .ok recorder))
      (records : recorder.state = .recording writer)
      (identity : writer.identity = own) :
      Tandem path config own [] (.idle ⟨after, recorder⟩) (.idle ⟨after, recorder⟩)
  | elapse {past : List FileSystem} {left right : Stand} {files otherFiles : FileSystem}
      (tandem : Tandem path config own past left right)
      (sane : files.Sane)
      (otherSane : otherFiles.Sane)
      (clock : left.recording.files.clock ≤ files.clock)
      (tells : ∀ before ∈ past, before.TellsApart files)
      (leaves : FileSystem.Leaves (Writer.temporaryRoute path) left.recording.files files)
      (otherLeaves :
        FileSystem.Leaves (Writer.temporaryRoute path) right.recording.files otherFiles)
      (alike : files.Twins own otherFiles) :
      Tandem path config own past (left.withFiles files) (right.withFiles otherFiles)
  | request {past : List FileSystem} {left right : Stand}
      (tandem : Tandem path config own past left right)
      (request : Request) :
      Tandem path config own (left.recording.files :: past)
        (left.carryOut Call.apply request).1 (right.carryOut Call.applyAnew request).1

/-! ## Invocations -/

/-- Two invocations have the same record and the same failure, and their recorders record alike. -/
structure Invocation.Alongside
    (path : String)
    (config : WriterConfig)
    (own : Nat)
    (past : List FileSystem)
    (left right : Invocation) : Prop where
  recording : left.recording.Alongside path config own past right.recording
  record : right.record = left.record
  failure : right.failure = left.failure

section Invocations

variable
  {path : String}
  {config : WriterConfig}
  {own : Nat}
  {past : List FileSystem}
  {left right : Invocation}

/-- An input that both recorders obtain alike is noted alike. -/
theorem Invocation.Alongside.adding
    {α : Type}
    (alongside : left.Alongside path config own past right)
    {fetch : Recording → Recording × Except Failure α}
    (concur : Recording.Concur path config own past (fetch left.recording)
      ((fetch right.recording).1.forget, (fetch right.recording).2))
    (note : α → InvocationRecord → InvocationRecord) :
    (right.adding fetch note).recording.forget.Outgrown ∨
      (left.adding fetch note).Alongside path config own past
        { right.adding fetch note with
          recording := (right.adding fetch note).recording.forget } := by
  rcases alongside with ⟨recording, record, failure⟩
  unfold Invocation.adding Invocation.hasFailed
  rw [failure]
  split
  · right
    refine ⟨?_, record, failure⟩
    rw [recording.forget]
    exact recording
  · generalize fetch left.recording = here at concur ⊢
    generalize fetch right.recording = there at concur ⊢
    rcases here with ⟨leftAfter, outcome⟩
    rcases there with ⟨rightAfter, outcomeToo⟩
    rcases concur with outgrown | ⟨same, alongside⟩
    · left
      cases outcomeToo <;> exact outgrown
    · cases same
      right
      cases outcome with
      | error failure => exact ⟨alongside, record, rfl⟩
      | ok found =>
        refine ⟨alongside, ?_, rfl⟩
        simp only [record]

/-- A call is carried out alike, whether or not the recorder remembers its input. -/
theorem Invocation.Alongside.call
    (alongside : left.Alongside path config own past right)
    (now : left.recording.files ∈ past)
    (call : Call) :
    (call.applyAnew right).recording.Outgrown ∨
      (call.apply left).Alongside path config own past (call.applyAnew right) := by
  unfold Call.applyAnew
  rcases call.shape with
    ⟨note, -, applies, -⟩ | ⟨input, note, -, -, applies, -⟩ |
      ⟨data, note, -, -, applies, -, -⟩ | ⟨input, note, -, -, applies, -⟩
  · right
    rw [applies, applies]
    have forgotten := alongside.recording.forget
    refine ⟨?_, ?_, alongside.failure⟩
    · simp only [noting, forgotten]
      exact alongside.recording
    · simp only [noting, alongside.record]
  · rw [applies, applies]
    exact alongside.adding (alongside.recording.contentKey now input) note
  · rw [applies, applies]
    exact alongside.adding (alongside.recording.storeText data).forget note
  · rw [applies, applies]
    exact alongside.adding (alongside.recording.moduleInfo now input) note

/-- Invocations are begun alike. -/
theorem Recording.Alongside.begin
    {left right : Recording}
    (alongside : left.Alongside path config own past right)
    (heading : Heading) :
    Agree (Invocation.Alongside path config own past)
      (left.begin heading.projectPath heading.language heading.kind)
      (right.begin heading.projectPath heading.language heading.kind) := by
  have recordings := alongside
  unfold Recording.begin
  rcases alongside with ⟨writer, other, abreast⟩ | ended
  · rw [abreast.bench, abreast.benchToo]
    exact .ok ⟨recordings, rfl, rfl⟩
  · rcases ended.spent.bench with ⟨cause, idle⟩
    rw [idle, Recording.idle_of_recorder ended.same idle]
    exact .error cause

/-- An invocation is committed or left out alike. -/
theorem Invocation.Alongside.commit
    (alongside : left.Alongside path config own past right) :
    Recording.Concur path config own past left.commit right.commit := by
  unfold Invocation.commit
  rw [alongside.failure, alongside.record]
  cases left.failure with
  | none => exact alongside.recording.storeRecord left.record
  | some failure =>
    simp only [drop, alongside.record]
    split
    · exact Or.inr ⟨rfl, alongside.recording.report _ failure⟩
    · exact alongside.recording.fail failure

omit [Zstd.Encoder] in
/-- A call on a recorder that has ended leaves it as it is. -/
theorem Invocation.recording_adding_of_idle
    {α : Type}
    {invocation : Invocation}
    {fetch : Recording → Recording × Except Failure α}
    (idle : (fetch invocation.recording).1 = invocation.recording)
    (note : α → InvocationRecord → InvocationRecord) :
    (invocation.adding fetch note).recording = invocation.recording := by
  unfold adding
  split
  · rfl
  · generalize fetch invocation.recording = fetched at idle ⊢
    rcases fetched with ⟨after, failure | found⟩ <;> exact idle

/-- An invocation of a recorder that has ended can only be noted as left out. -/
theorem Invocation.commit_of_idle
    {invocation : Invocation}
    {cause : Failure}
    (idle : invocation.recording.bench = .error cause) :
    invocation.commit.1 =
      match invocation.failure with
      | none => invocation.recording
      | some failure =>
        if failure.isInvocationScoped then
          invocation.recording.report invocation.record.projectPath failure
        else
          invocation.recording := by
  unfold commit
  cases invocation.failure with
  | none => simp only [Recording.storeRecord_of_idle idle]
  | some failure =>
    simp only [drop, Recording.fail_of_idle idle]
    split <;> rfl

theorem Call.recording_of_idle
    {invocation : Invocation}
    {cause : Failure}
    (idle : invocation.recording.bench = .error cause)
    (call : Call) :
    (call.apply invocation).recording = invocation.recording := by
  rcases call.shape with
    ⟨note, -, applies, -⟩ | ⟨input, note, -, -, applies, -⟩ |
      ⟨data, note, -, -, applies, -, -⟩ | ⟨input, note, -, -, applies, -⟩
  · rw [applies]
    rfl
  · rw [applies]
    apply Invocation.recording_adding_of_idle
    rw [Recording.contentKey_eq]
    exact (Recording.recalling_of_idle idle ..).1
  · rw [applies]
    apply Invocation.recording_adding_of_idle
    rw [Recording.storeText_eq, Recording.storing_of_idle idle]
  · rw [applies]
    apply Invocation.recording_adding_of_idle
    rw [Recording.moduleInfo_eq]
    exact (Recording.recalling_of_idle idle ..).1

end Invocations

/-! ## Stands -/

/-- Both recorders are on their own or both are lent, and they record alike. -/
inductive Stand.Alongside
    (path : String)
    (config : WriterConfig)
    (own : Nat)
    (past : List FileSystem) : Stand → Stand → Prop
  | idle {left right : Recording}
    (recordings : left.Alongside path config own past right) :
    Alongside path config own past (.idle left) (.idle right)
  | lent {left right : Invocation}
    (invocations : left.Alongside path config own past right) :
    Alongside path config own past (.lent left) (.lent right)

theorem Stand.Alongside.mono
    {path : String}
    {config : WriterConfig}
    {own : Nat}
    {past : List FileSystem}
    {left right : Stand}
    (alongside : left.Alongside path config own past right)
    (earlier : FileSystem) :
    left.Alongside path config own (earlier :: past) right := by
  cases alongside with
  | idle recordings => exact .idle (recordings.mono earlier)
  | lent invocations =>
    exact .lent ⟨invocations.recording.mono earlier, invocations.record, invocations.failure⟩

/-- The container that a recorder is writing, if it still records. -/
def Recorder.draft?
    (recorder : Recorder) :
    Option Draft :=
  match recorder.state with
  | .recording writer => some writer.draft
  | _ => none

/-- Two recorders have recorded the same: what they have written, and what they know of it. -/
structure Recorder.Matches (left right : Recorder) : Prop where
  draft : right.draft? = left.draft?
  published : right.archivePath = left.archivePath
  blobs : right.blobs = left.blobs
  modules : right.modules = left.modules
  recordCount : right.recordCount = left.recordCount
  diagnostics : right.diagnostics = left.diagnostics

/-- Two recorders have recorded the same, and the invocations that they are lent to as well. -/
inductive Stand.Matches : Stand → Stand → Prop
  | idle {left right : Recording}
    (recorders : left.recorder.Matches right.recorder) :
    Matches (.idle left) (.idle right)
  | lent {left right : Invocation}
    (recorders : left.recording.recorder.Matches right.recording.recorder)
    (record : right.record = left.record)
    (failure : right.failure = left.failure) :
    Matches (.lent left) (.lent right)

theorem Recording.Alongside.matches
    {path : String}
    {config : WriterConfig}
    {own : Nat}
    {past : List FileSystem}
    {left right : Recording}
    (alongside : left.Alongside path config own past right) :
    left.recorder.Matches right.recorder := by
  rcases alongside with ⟨writer, other, abreast⟩ | ended
  · rw [abreast.same]
    have draft : some other.draft = some writer.draft := congrArg some abreast.twins.draft
    constructor
    case draft =>
      simp only [Recorder.draft?, abreast.records]
      exact draft
    case published => simp only [Recorder.archivePath, abreast.records]
    all_goals rfl
  · rw [ended.same]
    exact ⟨rfl, rfl, rfl, rfl, rfl, rfl⟩

theorem Stand.Alongside.matches
    {path : String}
    {config : WriterConfig}
    {own : Nat}
    {past : List FileSystem}
    {left right : Stand}
    (alongside : left.Alongside path config own past right) :
    left.Matches right := by
  cases alongside with
  | idle recordings => exact .idle recordings.matches
  | lent invocations =>
    exact .lent invocations.recording.matches invocations.record invocations.failure

/-- A recorder that has outgrown its file stays so. -/
theorem Stand.outgrown_carryOut
    {stand : Stand}
    (outgrown : stand.recording.Outgrown)
    (request : Request) :
    (stand.carryOut Call.applyAnew request).1.recording.Outgrown := by
  cases stand with
  | idle recording =>
    have idle : recording.bench = _ := Recording.idle_of_outgrown outgrown
    cases request with
    | begin heading =>
      simp only [carryOut, Recording.begin, idle]
      exact outgrown
    | finish =>
      simp only [carryOut, Recording.finish_of_idle idle]
      exact outgrown
    | _ => exact outgrown
  | lent invocation =>
    have idle : invocation.recording.bench = _ := Recording.idle_of_outgrown outgrown
    cases request with
    | call call =>
      have same := call.recording_of_idle idle
      show (call.apply invocation).recording.forget.Outgrown
      rw [same]
      exact outgrown
    | commit =>
      show invocation.commit.1.Outgrown
      rw [invocation.commit_of_idle idle]
      split
      · exact outgrown
      · split <;> exact outgrown
    | _ => exact outgrown

/-- A request is answered alike, and both recorders still record alike afterwards. -/
theorem Stand.Alongside.carryOut
    {path : String}
    {config : WriterConfig}
    {own : Nat}
    {past : List FileSystem}
    {left right : Stand}
    (alongside : left.Alongside path config own past right)
    (now : left.recording.files ∈ past)
    (request : Request) :
    (right.carryOut Call.applyAnew request).1.recording.Outgrown ∨
      (left.carryOut Call.apply request).2 = (right.carryOut Call.applyAnew request).2 ∧
        (left.carryOut Call.apply request).1.Alongside path config own past
          (right.carryOut Call.applyAnew request).1 := by
  cases alongside with
  | @idle left right recordings =>
    cases request with
    | begin heading =>
      right
      have agree := recordings.begin heading
      simp only [Stand.carryOut]
      generalize left.begin _ _ _ = here at agree ⊢
      generalize right.begin _ _ _ = there at agree ⊢
      cases agree with
      | error failure => exact ⟨rfl, .idle recordings⟩
      | ok same => exact ⟨rfl, .lent same⟩
    | report projectPath failure => exact Or.inr ⟨rfl, .idle (recordings.report projectPath failure)⟩
    | finish =>
      right
      have finished := recordings.finish
      exact ⟨congrArg Answer.finished finished.1, .idle (Or.inr finished.2.1)⟩
    | _ => exact Or.inr ⟨rfl, .idle recordings⟩
  | @lent left right invocations =>
    cases request with
    | call call =>
      rcases invocations.call now call with outgrown | same
      · exact Or.inl outgrown
      · right
        refine ⟨?_, .lent same⟩
        simp only [Stand.carryOut, same.record, same.failure]
    | commit =>
      rcases invocations.commit with outgrown | ⟨same, recordings⟩
      · exact Or.inl outgrown
      · exact Or.inr ⟨congrArg Answer.committed same, .idle recordings⟩
    | drop => exact Or.inr ⟨rfl, .idle invocations.recording⟩
    | _ => exact Or.inr ⟨rfl, .lent invocations⟩

/-- Both recorders see the same, apart from their own file. -/
theorem Stand.Alongside.files
    {path : String}
    {config : WriterConfig}
    {own : Nat}
    {past : List FileSystem}
    {left right : Stand}
    (alongside : left.Alongside path config own past right) :
    left.recording.files.Twins own right.recording.files := by
  cases alongside with
  | idle recordings => exact recordings.files
  | lent invocations => exact invocations.recording.files

/-- What both recorders publish is the same. -/
theorem Stand.Alongside.published
    {path : String}
    {config : WriterConfig}
    {own : Nat}
    {past : List FileSystem}
    {left right : Stand}
    (alongside : left.Alongside path config own past right)
    {request : Request}
    {summary : SealedArchive}
    (finished : (left.carryOut Call.apply request).2 = .finished (.ok summary)) :
    ∃ image,
      (left.carryOut Call.apply request).1.recording.files.read path = .ok image ∧
      (right.carryOut Call.applyAnew request).1.recording.files.read path = .ok image := by
  cases alongside with
  | @idle left right recordings =>
    cases request with
    | finish => exact recordings.finish.2.2 summary (Answer.finished.inj finished)
    | begin heading =>
      simp only [Stand.carryOut] at finished
      split at finished <;> cases finished
    | _ => cases finished
  | lent invocations => cases request <;> cases finished

/-- The recorders of a tandem record alike, unless the second one has outgrown its file. -/
theorem Tandem.alongside
    {path : String}
    {config : WriterConfig}
    {own : Nat}
    {past : List FileSystem}
    {left right : Stand}
    (tandem : Tandem path config own past left right) :
    right.recording.Outgrown ∨ left.Alongside path config own past right := by
  induction tandem with
  | create sane creating records identity =>
    exact Or.inr (.idle (Or.inl ⟨_, _, Recording.abreast_create sane creating records identity⟩))
  | @elapse past left right files otherFiles _ sane otherSane clock tells leaves otherLeaves alike ih =>
    rcases ih with outgrown | alongside
    · left
      cases right <;> exact outgrown
    · right
      cases alongside with
      | idle recordings =>
        exact .idle (recordings.elapse sane otherSane clock tells leaves otherLeaves alike)
      | lent invocations =>
        have recordings :=
          invocations.recording.elapse sane otherSane clock tells leaves otherLeaves alike
        exact .lent ⟨recordings, invocations.record, invocations.failure⟩
  | @request past left right _ request ih =>
    rcases ih with outgrown | alongside
    · exact Or.inl (Stand.outgrown_carryOut outgrown request)
    · rcases (alongside.mono left.recording.files).carryOut List.mem_cons_self request with
        outgrown | ⟨-, same⟩
      · exact Or.inl outgrown
      · exact Or.inr same

/-! ## Captures -/

/-- The stand after several requests. -/
def Stand.carryOutAll
    (apply : Invocation → Call → Invocation)
    (stand : Stand)
    (requests : List Request) :
    Stand :=
  requests.foldl (fun stand request => (stand.carryOut apply request).1) stand

theorem Tandem.carryOutAll
    {path : String}
    {config : WriterConfig}
    {own : Nat}
    {past : List FileSystem}
    {left right : Stand}
    (tandem : Tandem path config own past left right)
    (requests : List Request) :
    ∃ past, Tandem path config own past (left.carryOutAll Call.apply requests)
      (right.carryOutAll Call.applyAnew requests) := by
  induction requests generalizing past left right with
  | nil => exact ⟨past, tandem⟩
  | cons request rest ih => exact ih (tandem.request request)

/-- Calls on an invocation are requests. -/
theorem Stand.carryOutAll_calls
    (apply : Invocation → Call → Invocation)
    (invocation : Invocation)
    (calls : List Call) :
    (Stand.lent invocation).carryOutAll apply (calls.map .call) =
      .lent (calls.foldl apply invocation) := by
  induction calls generalizing invocation with
  | nil => rfl
  | cons call rest ih => exact ih (apply invocation call)

/-- Resolves an invocation and records it, given a way to carry out calls. -/
def Recording.captureBy
    (apply : Invocation → Call → Invocation)
    (recording : Recording)
    (raw : RawInvocation)
    (resolve : InvocationResolver) :
    Recording × Except Failure Nat :=
  match recording.begin raw.projectPath raw.language raw.kind with
  | .error failure => (recording, .error failure)
  | .ok invocation =>
    match resolve raw with
    | .error reasons =>
      let failure := raw.undiscovered reasons
      (recording.report raw.projectPath failure, .error failure)
    | .ok inputs => ((raw.calls inputs).foldl apply invocation).commit

theorem Recording.captureBy_apply
    (recording : Recording)
    (raw : RawInvocation)
    (resolve : InvocationResolver) :
    recording.captureBy Call.apply raw resolve = recording.capture raw resolve := by
  unfold captureBy capture
  cases recording.begin raw.projectPath raw.language raw.kind with
  | error failure => rfl
  | ok invocation =>
    cases resolve raw with
    | error reasons => rfl
    | ok inputs => simp only [addInputs_setUp]

/--
Capturing a discovered invocation comes down to requests.  It is answered alike
whether or not the recorder remembers its inputs, and what can be asked of both
afterwards is again asked in tandem.
-/
theorem Tandem.capture
    {path : String}
    {config : WriterConfig}
    {own : Nat}
    {past : List FileSystem}
    {left right : Recording}
    (tandem : Tandem path config own past (.idle left) (.idle right))
    (raw : RawInvocation)
    (resolve : InvocationResolver) :
    (right.captureBy Call.applyAnew raw resolve).1.Outgrown ∨
      (left.capture raw resolve).2 = (right.captureBy Call.applyAnew raw resolve).2 ∧
        ∃ later, Tandem path config own later (.idle (left.capture raw resolve).1)
          (.idle (right.captureBy Call.applyAnew raw resolve).1) := by
  have begun := tandem.request (.begin raw.heading)
  simp only [Stand.carryOut, RawInvocation.heading] at begun
  rw [← left.captureBy_apply]
  unfold Recording.captureBy
  rcases tandem.alongside with outgrown | recordings
  · left
    have idle : right.bench = _ := Recording.idle_of_outgrown outgrown
    simp only [Recording.begin, idle]
    exact outgrown
  cases recordings with
  | idle recordings =>
    have agree := recordings.begin raw.heading
    simp only [RawInvocation.heading] at agree
    generalize left.begin raw.projectPath raw.language raw.kind = here at agree begun ⊢
    generalize right.begin raw.projectPath raw.language raw.kind = there at agree begun ⊢
    cases agree with
    | error failure => exact Or.inr ⟨rfl, past, tandem⟩
    | ok same =>
      cases resolve raw with
      | error reasons =>
        exact Or.inr ⟨rfl, _, tandem.request (.report raw.projectPath (raw.undiscovered reasons))⟩
      | ok inputs =>
        rcases begun.carryOutAll ((raw.calls inputs).map .call) with ⟨later, called⟩
        rw [Stand.carryOutAll_calls, Stand.carryOutAll_calls] at called
        rcases called.alongside with outgrown | invocations
        · exact Or.inl (Stand.outgrown_carryOut outgrown .commit)
        cases invocations with
        | lent invocations =>
          rcases invocations.commit with outgrown | ⟨answered, -⟩
          · exact Or.inl outgrown
          · exact Or.inr ⟨answered, _, called.request .commit⟩

/-! ## Transparency -/

/--
Remembering inputs makes no difference.  After any requests and any changes of
files that fingerprints tell, the recorder that remembers and the one that
stores every input anew have recorded the same, they answer every request alike,
and the archives that they publish are the same octets.  The only exception is
that the second one may have no room in its file for what it stores again.
-/
theorem remembering_inputs_makes_no_difference
    {path : String}
    {config : WriterConfig}
    {own : Nat}
    {past : List FileSystem}
    {left right : Stand}
    (tandem : Tandem path config own past left right) :
    right.recording.Outgrown ∨
      left.Matches right ∧
        ∀ request, (right.carryOut Call.applyAnew request).1.recording.Outgrown ∨
          (left.carryOut Call.apply request).2 = (right.carryOut Call.applyAnew request).2 ∧
            ∀ summary, (left.carryOut Call.apply request).2 = .finished (.ok summary) →
              ∃ image,
                (left.carryOut Call.apply request).1.recording.files.read path = .ok image ∧
                (right.carryOut Call.applyAnew request).1.recording.files.read path =
                  .ok image := by
  rcases tandem.alongside with outgrown | alongside
  · exact Or.inl outgrown
  refine Or.inr ⟨alongside.matches, fun request => ?_⟩
  rcases (alongside.mono left.recording.files).carryOut List.mem_cons_self request with
    outgrown | ⟨same, -⟩
  · exact Or.inl outgrown
  · exact Or.inr ⟨same, fun summary finished => alongside.published finished⟩

end Runs

/-! ## A file that is added twice -/

namespace RewrittenFile

/-- The recorder after the file was added twice, in whichever way calls are carried out. -/
def addedTwice
    (apply : Invocation → Call → Invocation) :
    Stand :=
  (Stand.idle (recorderOver files)).carryOutAll apply
    [.begin heading, .call adding, .call adding]

/-- The file gets another content. -/
def renewed
    (stand : Stand) :
    Stand :=
  stand.withFiles (rewrite stand.recording.files)

/-- The file is added once more, and the invocation is committed. -/
def addedAgain
    (apply : Invocation → Call → Invocation) :
    Stand :=
  (renewed (addedTwice apply)).carryOutAll apply [.call adding, .commit]

/-- The file systems in which the first requests are made of the recorder that remembers. -/
def pastOfTwice : List FileSystem :=
  [[.begin heading, .call adding], [.begin heading], []].map fun requests =>
    ((Stand.idle (recorderOver files)).carryOutAll Call.apply requests).recording.files

set_option maxRecDepth 100000 in
theorem tandem_addedTwice :
    Tandem "out" settings 2 pastOfTwice (addedTwice Call.apply) (addedTwice Call.applyAnew) := by
  have records : (recorderOver files).recorder.state = .recording _ := rfl
  have start := Tandem.create sane_files (Recording.create_start created) records rfl
  exact ((start.request (.begin heading)).request (.call adding)).request (.call adding)

set_option maxRecDepth 100000 in
/-- Between the calls the file may be replaced. -/
theorem tandem_renewed :
    Tandem "out" settings 2 pastOfTwice (renewed (addedTwice Call.apply))
      (renewed (addedTwice Call.applyAnew)) := by
  have facts :
      ∀ stand ∈ [addedTwice Call.apply, addedTwice Call.applyAnew],
        (0 < stand.recording.files.clock ∧
          ∀ entry ∈ stand.recording.files.nodes, ∀ other ∈ stand.recording.files.nodes,
            FileSystem.isSaneBeside stand.recording.files.clock entry.2 other.2 = true) ∧
        stand.recording.files.node? ["a"] ≠ some .directory ∧
        stand.recording.files.locate (Writer.temporaryRoute "out") ≠ .ok ["a"] ∧
        stand.recording.files.clock ≠ 2 := by
    decide +kernel
  have older :
      ∀ before ∈ pastOfTwice,
        (0 < before.clock ∧
          ∀ entry ∈ before.nodes, ∀ other ∈ before.nodes,
            FileSystem.isSaneBeside before.clock entry.2 other.2 = true) ∧
        before.clock ≤ (addedTwice Call.apply).recording.files.clock ∧
        ∀ entry ∈ (addedTwice Call.apply).recording.files.nodes,
          FileSystem.isSettledSince before entry = true := by
    decide +kernel
  have notOutgrown : ¬ (addedTwice Call.applyAnew).recording.Outgrown := by
    unfold Recording.Outgrown
    decide +kernel
  rcases facts _ List.mem_cons_self with ⟨⟨started, nodes⟩, noDirectory, elsewhere, foreign⟩
  rcases facts _ (List.mem_cons_of_mem _ List.mem_cons_self) with
    ⟨⟨startedToo, nodesToo⟩, noDirectoryToo, elsewhereToo, foreignToo⟩
  have below : (["a"] : Location) ≠ [] := List.cons_ne_nil "a" []
  have sane := FileSystem.sane_of_nodes started nodes
  rcases FileSystem.evolves_placeFile below [98] sane with ⟨saneAfter, ages⟩
  rcases FileSystem.evolves_placeFile below [98] (FileSystem.sane_of_nodes startedToo nodesToo) with
    ⟨saneAfterToo, -⟩
  have twins := (tandem_addedTwice.alongside.resolve_left notOutgrown).files
  have tells :
      ∀ before ∈ pastOfTwice,
        before.TellsApart (rewrite (addedTwice Call.apply).recording.files) := by
    intro before member
    rcases older before member with ⟨⟨startedBefore, nodesBefore⟩, clock, settled⟩
    exact FileSystem.tellsApart_of_ages (FileSystem.sane_of_nodes startedBefore nodesBefore)
      saneAfter ((FileSystem.ages_of_nodes clock settled).trans ages)
  exact tandem_addedTwice.elapse saneAfter saneAfterToo ages.clock tells
    (FileSystem.leaves_put noDirectory elsewhere _ _)
    (FileSystem.leaves_put noDirectoryToo elsewhereToo _ _)
    (twins.placeFile below foreign foreignToo [98])

set_option maxRecDepth 100000 in
/-- Whether or not the first content of the file is stored once more, the archive is the same. -/
theorem rewritten_file_is_recorded_alike :
    (addedAgain Call.apply).Matches (addedAgain Call.applyAnew) ∧
      ∃ image,
        ((addedAgain Call.apply).carryOut Call.apply .finish).1.recording.files.read "out" =
          .ok image ∧
        ((addedAgain Call.applyAnew).carryOut Call.applyAnew .finish).1.recording.files.read
          "out" = .ok image := by
  have tandem := (tandem_renewed.request (.call adding)).request .commit
  have facts :
      ¬ (addedAgain Call.applyAnew).recording.Outgrown ∧
        ¬ ((addedAgain Call.applyAnew).carryOut Call.applyAnew .finish).1.recording.Outgrown ∧
        (addedAgain Call.apply).recording.finish.2.isOk = true := by
    unfold Recording.Outgrown
    decide +kernel
  rcases facts with ⟨room, roomToFinish, completes⟩
  rcases Recording.finish_of_isOk completes with ⟨summary, finishing⟩
  have answer :
      ((addedAgain Call.apply).carryOut Call.apply .finish).2 =
        .finished (addedAgain Call.apply).recording.finish.2 := rfl
  rw [finishing] at answer
  rcases (remembering_inputs_makes_no_difference tandem).resolve_left room with ⟨alike, answers⟩
  exact ⟨alike, ((answers .finish).resolve_left roomToFinish).2 summary answer⟩

end RewrittenFile

end BuildCapture
