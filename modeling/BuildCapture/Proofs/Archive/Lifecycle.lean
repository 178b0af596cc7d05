import BuildCapture.Proofs.Archive.Progress

/-!
# The life of a recorder

A recorder records until one operation ends it: either it publishes its archive,
or it gives up because of a failure that concerns the archive as a whole.
Before that the final path is left alone and the temporary file is there;
afterwards the temporary file is gone, nothing that is asked of the recorder
changes anything, and every answer says how it ended.

`Lives` says which turns a recorder can take after each other.  Between two turns
the file system may change; as long as the recorder records, its temporary file
is left alone.
-/

namespace BuildCapture

open Container

/-! ## Turns -/

/-- What can be asked of a recorder, or of the invocation that it is lent to. -/
inductive Operation where
  | begin (heading : Heading)
  | call (call : Call)
  | commit
  /-- The invocation is given up without committing. -/
  | drop
  | capture (raw : RawInvocation) (resolve : InvocationResolver)
  | finish

/-- Whether an operation is asked of the recorder itself. -/
def Operation.isRequest : Operation → Bool
  | .begin _ | .capture _ _ | .finish => true
  | .call _ | .commit | .drop => false

namespace Stage

variable [Zstd.Encoder]

/--
What an operation makes of a stage, and the failure that it answers with, if
any; a call shows the failure that the invocation has afterwards.  A recorder
that is lent to an invocation can only be asked through it.
-/
inductive Takes : Stage → Operation → Stage → Option Failure → Prop
  | begin {recording : Recording} {journal : Journal} {invocation : Invocation}
    (heading : Heading)
    (beginning :
      recording.begin heading.projectPath heading.language heading.kind = .ok invocation) :
    Takes (.idle recording journal) (.begin heading) (.lent { invocation, heading, journal }) none
  | refuse {recording : Recording} {journal : Journal} {failure : Failure}
    (heading : Heading)
    (beginning :
      recording.begin heading.projectPath heading.language heading.kind = .error failure) :
    Takes (.idle recording journal) (.begin heading) (.idle recording journal) (some failure)
  | call (transcript : Transcript) (call : Call) :
    Takes (.lent transcript) (.call call) (.lent (transcript.call call))
      (transcript.call call).invocation.failure
  | commit (transcript : Transcript) :
    Takes (.lent transcript) .commit (.idle transcript.commit.1 transcript.commit.2)
      (Failure.of? transcript.invocation.commit.2)
  | drop (transcript : Transcript) :
    Takes (.lent transcript) .drop (.idle transcript.invocation.recording transcript.journal) none
  | capture (recording : Recording) (journal : Journal) (raw : RawInvocation)
      (resolve : InvocationResolver) :
    Takes (.idle recording journal) (.capture raw resolve)
      (.idle (recording.capture raw resolve).1 (journal.capture recording raw resolve))
      (Failure.of? (recording.capture raw resolve).2)
  | finish (recording : Recording) (journal : Journal) :
    Takes (.idle recording journal) .finish (.idle recording.finish.1 journal)
      (Failure.of? recording.finish.2)

end Stage

/-- An operation, with the stages before and after it and the failure that it answered with. -/
structure Turn where
  before : Stage
  operation : Operation
  after : Stage
  failure? : Option Failure

section Lives

variable [Zstd.Encoder]

/-- The turns that a recorder of the archive at a path has taken from its start to a stage. -/
inductive Lives
    (path : String)
    (start : Recording) :
    List Turn → Stage → Prop
  | start : Lives path start [] (.idle start {})
  /-- Files change as time goes on; the temporary file is left alone while it is in use. -/
  | elapse {turns : List Turn} {stage : Stage} {files : FileSystem}
    (lives : Lives path start turns stage)
    (sane : files.Sane)
    (spares : ∀ {bench}, stage.recording.bench = .ok bench →
      FileSystem.Spares (Writer.temporaryRoute path) stage.files files) :
    Lives path start turns (stage.withFiles files)
  | turn {turns : List Turn} {stage after : Stage} {failure? : Option Failure}
    (lives : Lives path start turns stage)
    (operation : Operation)
    (taken : stage.Takes operation after failure?) :
    Lives path start (turns ++ [⟨stage, operation, after, failure?⟩]) after

end Lives

/-! ## What a turn does -/

/-- A recorder that records has no path yet, and its temporary file is there. -/
structure Recording.IsOpen
    (recording : Recording)
    (path : String) : Prop where
  archivePath : recording.recorder.archivePath = .error .notSealed
  temporary : ∃ location identity stamp content,
    recording.files.find (Writer.temporaryRoute path) =
      .ok (location, .file identity stamp content)

namespace Turn

/-- The recorder records before and after, and nothing is seen of it at the final path. -/
structure Continues
    (turn : Turn)
    (path : String) : Prop where
  unfinished : turn.operation ≠ .finish
  before : turn.before.recording.IsOpen path
  after : turn.after.recording.IsOpen path
  kept : turn.after.files.find (.ofPath path) = turn.before.files.find (.ofPath path)
  /-- Whatever failed concerns only an invocation. -/
  confined : ∀ failure, turn.failure? = some failure → failure.isInvocationScoped = true

/-- The archive is completed: it opens at the final path and reproduces all that was recorded. -/
structure Publishes
    (turn : Turn)
    (path : String) : Prop where
  operation : turn.operation = .finish
  before : turn.before.recording.IsOpen path
  succeeded : turn.failure? = none
  archivePath : turn.after.recording.recorder.archivePath = .ok path
  gone : turn.after.files.find (Writer.temporaryRoute path) = .error .notFound
  complete : ∀ reading, ∃ archive, Archive.openFile turn.after.files path reading = .ok archive ∧
    archive.Reproduces turn.before.journal ∧
    archive.diagnostics = turn.before.recording.recorder.diagnostics

/-- The archive is given up because of a failure: the final path is left as it was. -/
structure Aborts
    (turn : Turn)
    (path : String)
    (failure : Failure) : Prop where
  before : turn.before.recording.IsOpen path
  failed : turn.failure? = some failure
  broad : failure.isInvocationScoped = false
  archivePath : turn.after.recording.recorder.archivePath = .error (.aborted failure.message)
  retracts : Writer.Retracts path turn.before.files turn.after.files

/-- The recorder ends, and this is what it answers from then on. -/
inductive Ends (turn : Turn) (path : String) : Failure → Prop
  | published (publishes : turn.Publishes path) : Ends turn path .alreadySealed
  | aborted {failure : Failure} (aborts : turn.Aborts path failure) :
    Ends turn path (.aborted failure.message)

/-- A recorder that has ended says so, and neither it nor any file changes. -/
structure IsRefused
    (turn : Turn)
    (ended : Recorder)
    (answer : Failure) : Prop where
  before : turn.before.recording.recorder = ended
  after : turn.after.recording = turn.before.recording
  answered : turn.operation.isRequest = true → turn.failure? = some answer

end Turn

/-! ## Recorders that record -/

/-- An invocation that a stage is lent to has failed, if at all, because of an input. -/
def Stage.Confined : Stage → Prop
  | .idle _ _ => True
  | .lent transcript => ∀ failure, transcript.invocation.failure = some failure →
    failure.isInvocationScoped = true

/-- An invocation that a stage is lent to has failed, and not because of an input. -/
def Stage.Broken : Stage → Prop
  | .idle _ _ => True
  | .lent transcript => ∃ failure, transcript.invocation.failure = some failure ∧
    failure.isInvocationScoped = false

/-- An invocation that a stage is lent to has failed like this, if at all. -/
def Stage.Shows
    (failure? : Option Failure) : Stage → Prop
  | .idle _ _ => True
  | .lent transcript => transcript.invocation.failure = failure?

/-- The recorder records, and so does an invocation that it is lent to. -/
structure Stage.Ongoing
    [Zstd.Encoder]
    (stage : Stage)
    (path : String)
    (config : WriterConfig) : Prop where
  reached : Reaches path config stage
  drafts : stage.recording.Drafts path
  confined : stage.Confined

/-- The recorder has ended, and so has an invocation that it is lent to. -/
structure Stage.Ended
    (stage : Stage)
    (ended : Recorder)
    (answer : Failure) : Prop where
  recorder : stage.recording.recorder = ended
  answers : ended.writer = .error answer
  broken : stage.Broken

theorem Stage.files_eq
    (stage : Stage) :
    stage.files = stage.recording.files := by
  cases stage <;> rfl

theorem Recording.Drafts.isOpen
    {recording : Recording}
    {path : String}
    (drafts : recording.Drafts path) :
    recording.IsOpen path := by
  rcases drafts with ⟨writer, records, drafts⟩
  rcases drafts.found with ⟨location, stamp, found, -, -⟩
  constructor
  case archivePath => rw [Recorder.archivePath, records]
  case temporary => exact ⟨location, _, stamp, _, found⟩

section Turns

variable
  [Zstd.Encoder]
  {path : String}
  {config : WriterConfig}

/-- A turn of a recorder that records: it goes on or ends. -/
inductive Turn.Advances
    (path : String)
    (config : WriterConfig)
    (turn : Turn) : Prop
  | continues
    (continues : turn.Continues path)
    (ongoing : turn.after.Ongoing path config)
  | ends {answer : Failure}
    (ends : turn.Ends path answer)
    (ended : turn.after.Ended turn.after.recording.recorder answer)

/-- Every operation but completing the archive goes on or gives up. -/
theorem Turn.advances_of_proceeds
    {before after : Stage}
    {operation : Operation}
    {failure? : Option Failure}
    (drafts : before.recording.Drafts path)
    (unfinished : operation ≠ .finish)
    (reached : Reaches path config after)
    (proceeds : before.recording.Proceeds path after.recording failure?)
    (shows : after.Shows failure?) :
    Turn.Advances path config ⟨before, operation, after, failure?⟩ := by
  cases proceeds with
  | stays still kept confined =>
    rw [← Stage.files_eq, ← Stage.files_eq] at kept
    refine .continues ⟨unfinished, drafts.isOpen, still.isOpen, kept, confined⟩
      ⟨reached, still, ?_⟩
    cases after with
    | idle _ _ => trivial
    | lent transcript =>
      rw [Stage.Shows] at shows
      rw [Stage.Confined, shows]
      exact confined
  | @aborts failure failed broad aborted retracts =>
    rw [← Stage.files_eq, ← Stage.files_eq] at retracts
    refine .ends (.aborted ⟨drafts.isOpen, failed, broad, ?_, retracts⟩) ⟨rfl, ?_, ?_⟩
    · rw [Recorder.archivePath, aborted]
    · rw [Recorder.writer, aborted]
    · cases after with
      | idle _ _ => trivial
      | lent transcript => exact ⟨failure, Eq.trans shows failed, broad⟩

/-- Completing the archive ends the recorder, whatever comes of it. -/
theorem Stage.Ongoing.finish
    {recording : Recording}
    {journal : Journal}
    (ongoing : Stage.Ongoing (.idle recording journal) path config) :
    Turn.Advances path config
      ⟨.idle recording journal, .finish, .idle recording.finish.1 journal,
        Failure.of? recording.finish.2⟩ := by
  have drafts : recording.Drafts path := ongoing.drafts
  rcases finishing : recording.finish with ⟨after, failure | summary⟩
  · rcases drafts.finish_error finishing with ⟨broad, aborted, retracts⟩
    refine .ends (.aborted ⟨drafts.isOpen, rfl, broad, ?_, retracts⟩) ⟨rfl, ?_, trivial⟩
    · show after.recorder.archivePath = _
      rw [Recorder.archivePath, aborted]
    · show after.recorder.writer = _
      rw [Recorder.writer, aborted]
  · rcases drafts.finish_ok finishing with ⟨published, gone⟩
    rcases ongoing.reached.holds with ⟨faithful, sound⟩
    have complete := faithful.reproduces sound finishing
    refine .ends (.published ⟨rfl, drafts.isOpen, rfl, ?_, gone, complete⟩) ⟨rfl, ?_, trivial⟩
    · show after.recorder.archivePath = _
      rw [Recorder.archivePath, published]
    · show after.recorder.writer = _
      rw [Recorder.writer, published]

/-- Whatever is asked of a recorder that records, it goes on or ends. -/
theorem Stage.Ongoing.advances
    {stage after : Stage}
    (ongoing : stage.Ongoing path config)
    {operation : Operation}
    {failure? : Option Failure}
    (taken : stage.Takes operation after failure?) :
    Turn.Advances path config ⟨stage, operation, after, failure?⟩ := by
  rcases ongoing with ⟨reached, drafts, confined⟩
  cases taken with
  | begin heading beginning =>
    have same := Recording.begin_eq_ok beginning
    refine Turn.advances_of_proceeds drafts (by rintro ⟨⟩) (reached.begin heading beginning) ?_ ?_
    · show Recording.Proceeds path _ _ none
      rw [Stage.recording, same]
      exact Recording.Drafts.proceeds drafts rfl
    · rw [Stage.Shows, same]
  | @refuse recording journal failure heading beginning =>
    -- A recorder that records can always be lent.
    rcases Recording.Drafts.bench drafts with ⟨bench, records, -⟩
    rw [Recording.begin, show recording.bench = .ok bench from records] at beginning
    cases beginning
  | call transcript call =>
    refine Turn.advances_of_proceeds drafts (by rintro ⟨⟩) (reached.call call) ?_ rfl
    exact Invocation.proceeds_apply (Recording.Drafts.unchanged drafts confined) call
  | commit transcript =>
    refine Turn.advances_of_proceeds drafts (by rintro ⟨⟩) reached.commit ?_ trivial
    have yields := Invocation.yields_commit (Recording.Drafts.unchanged drafts confined)
    rw [Recording.Yields, ← Transcript.commit_fst] at yields
    exact yields
  | drop transcript =>
    exact Turn.advances_of_proceeds drafts (by rintro ⟨⟩) reached.drop
      (Recording.Drafts.proceeds drafts rfl) trivial
  | capture recording journal raw resolve =>
    exact Turn.advances_of_proceeds drafts (by rintro ⟨⟩) (reached.capture raw resolve)
      (Recording.Drafts.capture drafts raw resolve) trivial
  | finish recording journal => exact Stage.Ongoing.finish ⟨reached, drafts, confined⟩

/-! ## Recorders that have ended -/

/-- Whatever is asked of a recorder that has ended is refused. -/
theorem Stage.Ended.refuses
    {stage after : Stage}
    {recorder : Recorder}
    {answer : Failure}
    (ended : stage.Ended recorder answer)
    {operation : Operation}
    {failure? : Option Failure}
    (taken : stage.Takes operation after failure?) :
    Turn.IsRefused ⟨stage, operation, after, failure?⟩ recorder answer ∧
      after.Ended recorder answer := by
  rcases ended with ⟨same, answers, broken⟩
  have idle : stage.recording.bench = .error answer := by
    rw [Recording.bench, same, answers]
  cases taken with
  | @begin recording journal invocation heading beginning =>
    rw [Recording.begin, show recording.bench = .error answer from idle] at beginning
    cases beginning
  | @refuse recording journal failure heading beginning =>
    rw [Recording.begin, show recording.bench = .error answer from idle] at beginning
    cases beginning
    exact ⟨⟨same, rfl, fun _ => rfl⟩, same, answers, trivial⟩
  | call transcript call =>
    rcases broken with ⟨failure, failed, broad⟩
    have hasFailed : transcript.invocation.hasFailed = true := by
      rw [Invocation.hasFailed, failed]
      rfl
    rcases call.apply_of_failed _ hasFailed with ⟨unchanged, sameFailure⟩
    refine ⟨⟨same, unchanged, by rintro ⟨⟩⟩, ?_, answers, failure, sameFailure.trans failed, broad⟩
    exact (congrArg Recording.recorder unchanged).trans same
  | commit transcript =>
    rcases broken with ⟨failure, failed, broad⟩
    have unchanged : transcript.commit.1 = transcript.invocation.recording := by
      rw [Transcript.commit_fst]
      simp only [Invocation.commit, failed, Invocation.drop, broad, Bool.false_eq_true, if_false]
      rw [Recording.fail_of_idle (show transcript.invocation.recording.bench = _ from idle)]
    refine ⟨⟨same, unchanged, by rintro ⟨⟩⟩, ?_, answers, trivial⟩
    exact (congrArg Recording.recorder unchanged).trans same
  | drop transcript => exact ⟨⟨same, rfl, by rintro ⟨⟩⟩, same, answers, trivial⟩
  | capture recording journal raw resolve =>
    have refused : recording.capture raw resolve = (recording, .error answer) := by
      simp only [Recording.capture, Recording.begin, show recording.bench = .error answer from idle]
    rw [refused]
    exact ⟨⟨same, rfl, fun _ => rfl⟩, same, answers, trivial⟩
  | finish recording journal =>
    have refused : recording.finish = (recording, .error answer) := by
      simp only [Recording.finish, show recording.bench = .error answer from idle]
    rw [refused]
    exact ⟨⟨same, rfl, fun _ => rfl⟩, same, answers, trivial⟩

end Turns

/-! ## Lives -/

/--
The course of a life: the recorder still records, and can be given up without a
trace, or one turn has ended it, everything after that was refused, and there is
nothing left to give up.
-/
inductive Course
    (path : String)
    (turns : List Turn)
    (stage : Stage) : Prop
  | records
    (continues : ∀ turn ∈ turns, turn.Continues path)
    (isOpen : stage.recording.IsOpen path)
    (abandons : Writer.Retracts path stage.files stage.recording.abandon)
  | ended {earlier later : List Turn} {last : Turn} {answer : Failure}
    (order : turns = earlier ++ last :: later)
    (continues : ∀ turn ∈ earlier, turn.Continues path)
    (ends : last.Ends path answer)
    (refused : ∀ turn ∈ later, turn.IsRefused last.after.recording.recorder answer)
    (recorder : stage.recording.recorder = last.after.recording.recorder)
    (abandons : stage.recording.abandon = stage.files)

theorem Stage.recording_withFiles
    (stage : Stage)
    (files : FileSystem) :
    (stage.withFiles files).recording = { stage.recording with files } := by
  cases stage <;> rfl

/-- Time that passes does not make a recorder stop. -/
theorem Stage.Ongoing.elapse
    [Zstd.Encoder]
    {stage : Stage}
    {path : String}
    {config : WriterConfig}
    (ongoing : stage.Ongoing path config)
    {files : FileSystem}
    (sane : files.Sane)
    (spares : FileSystem.Spares (Writer.temporaryRoute path) stage.files files) :
    (stage.withFiles files).Ongoing path config := by
  constructor
  case reached => exact ongoing.reached.elapse sane spares.leaves
  case drafts =>
    rw [Stage.files_eq] at spares
    rw [Stage.recording_withFiles]
    exact ongoing.drafts.elapse sane spares
  case confined =>
    have confined := ongoing.confined
    cases stage with
    | idle _ _ => trivial
    | lent transcript => exact confined

theorem Stage.Ended.elapse
    {stage : Stage}
    {recorder : Recorder}
    {answer : Failure}
    (ended : stage.Ended recorder answer)
    (files : FileSystem) :
    (stage.withFiles files).Ended recorder answer := by
  constructor
  case recorder =>
    rw [Stage.recording_withFiles]
    exact ended.recorder
  case answers => exact ended.answers
  case broken =>
    have broken := ended.broken
    cases stage with
    | idle _ _ => trivial
    | lent transcript => exact broken

/-- A recorder that is given up while it records leaves nothing behind. -/
theorem Stage.Ongoing.abandons
    [Zstd.Encoder]
    {stage : Stage}
    {path : String}
    {config : WriterConfig}
    (ongoing : stage.Ongoing path config) :
    Writer.Retracts path stage.files stage.recording.abandon := by
  rcases ongoing.drafts.bench with ⟨bench, records, files, drafts⟩
  have retracts := drafts.retracts_abandon
  rw [Stage.files_eq, ← files, Recording.abandon, records]
  exact retracts

theorem Stage.Ended.abandons
    {stage : Stage}
    {recorder : Recorder}
    {answer : Failure}
    (ended : stage.Ended recorder answer) :
    stage.recording.abandon = stage.files := by
  have idle : stage.recording.bench = .error answer := by
    rw [Recording.bench, ended.recorder, ended.answers]
  rw [Stage.files_eq, Recording.abandon, idle]

section Runs

variable
  [Zstd.Encoder]
  {path : String}
  {config : WriterConfig}
  {start : Recording}

/-- Every turn so far has gone on, or one has ended the recorder and all later ones were refused. -/
theorem Lives.ongoing_or_ended
    {files : FileSystem}
    (sane : files.Sane)
    (creating : Recorder.create files path config = (start.files, .ok start.recorder))
    (drafts : start.Drafts path)
    {turns : List Turn}
    {stage : Stage}
    (lives : Lives path start turns stage) :
    ((∀ turn ∈ turns, turn.Continues path) ∧ stage.Ongoing path config) ∨
      ∃ earlier last later answer, turns = earlier ++ last :: later ∧
        (∀ turn ∈ earlier, turn.Continues path) ∧ last.Ends path answer ∧
        (∀ turn ∈ later, turn.IsRefused last.after.recording.recorder answer) ∧
        stage.Ended last.after.recording.recorder answer := by
  induction lives with
  | start =>
    exact Or.inl ⟨List.forall_mem_nil _, .create sane creating, drafts, trivial⟩
  | @elapse turns stage files lives sane spares ih =>
    rcases ih with ⟨continues, ongoing⟩ | ⟨earlier, last, later, answer, order, continues, ends,
      refused, ended⟩
    · rcases ongoing.drafts.bench with ⟨bench, records, -⟩
      exact Or.inl ⟨continues, ongoing.elapse sane (spares records)⟩
    · exact Or.inr ⟨earlier, last, later, answer, order, continues, ends, refused,
        ended.elapse files⟩
  | @turn turns stage after failure? lives operation taken ih =>
    rcases ih with ⟨continues, ongoing⟩ | ⟨earlier, last, later, answer, rfl, continues, ends,
      refused, ended⟩
    · cases ongoing.advances taken with
      | continues next ongoing =>
        have all := List.forall_mem_append.2 ⟨continues, List.forall_mem_singleton.2 next⟩
        exact Or.inl ⟨all, ongoing⟩
      | @ends answer ends ended =>
        exact Or.inr ⟨turns, _, [], answer, rfl, continues, ends, List.forall_mem_nil _, ended⟩
    · rcases ended.refuses taken with ⟨next, ended⟩
      have all := List.forall_mem_append.2 ⟨refused, List.forall_mem_singleton.2 next⟩
      exact Or.inr ⟨earlier, last, later ++ [_], answer, by simp, continues, ends, all, ended⟩

/--
A recorder ends once.  It starts recording, with its temporary file in place and
nothing new at the final path.  Whatever is then asked of it, and however other
files change, it goes on recording until one turn publishes a complete archive,
or gives it up and leaves the final path as it was.  Either way no temporary
file is left, and afterwards everything is refused with the same answer and
changes nothing.
-/
theorem recorder_ends_once
    {files : FileSystem}
    (sane : files.Sane)
    (creating : Recorder.create files path config = (start.files, .ok start.recorder))
    {turns : List Turn}
    {stage : Stage}
    (lives : Lives path start turns stage) :
    start.IsOpen path ∧ Writer.Starts path files start.files ∧ Course path turns stage := by
  rcases Recording.drafts_create sane creating with ⟨drafts, starts⟩
  refine ⟨drafts.isOpen, starts, ?_⟩
  rcases lives.ongoing_or_ended sane creating drafts with
    ⟨continues, ongoing⟩ | ⟨earlier, last, later, answer, order, continues, ends, refused, ended⟩
  · exact .records continues ongoing.drafts.isOpen ongoing.abandons
  · exact .ended order continues ends refused ended.recorder ended.abandons

end Runs

/-! ## A path that can not be replaced -/

namespace UnreplaceablePath

open RewrittenFile (settings heading recorderOver begunOver)

/-- A file system with a directory where the archive should go. -/
def files : FileSystem where
  workingDirectory := []
  nodes := [(["out"], .directory)]
  clock := 1

theorem sane_files : files.Sane := by
  apply FileSystem.sane_of_nodes <;> decide

/-- The only invocation, before its only call. -/
def begun : Transcript := begunOver files

/-- The only call. -/
def adding : Call := .generatedText "t" [97]

/-- The recorder after the invocation was committed. -/
def committed : Recording × Journal := (begun.call adding).commit

/-- The recorder after it could not replace the directory. -/
def failed : Recording := committed.1.finish.1

/-- One invocation is recorded; completing the archive fails, and is tried again. -/
def turns : List Turn := [
  ⟨.idle (recorderOver files) {}, .begin heading, .lent begun, none⟩,
  ⟨.lent begun, .call adding, .lent (begun.call adding),
    (begun.call adding).invocation.failure⟩,
  ⟨.lent (begun.call adding), .commit, .idle committed.1 committed.2,
    Failure.of? (begun.call adding).invocation.commit.2⟩,
  ⟨.idle committed.1 committed.2, .finish, .idle failed committed.2,
    Failure.of? committed.1.finish.2⟩,
  ⟨.idle failed committed.2, .finish, .idle failed.finish.1 committed.2,
    Failure.of? failed.finish.2⟩]

set_option maxRecDepth 100000 in
theorem created : (Recorder.create files "out" settings).2.isOk = true := by
  decide +kernel

theorem lives_turns :
    Lives "out" (recorderOver files) turns (.idle failed.finish.1 committed.2) :=
  ((((Lives.start.turn (.begin heading) (.begin heading (Recording.begin_start created ..))).turn
    (.call adding) (.call begun adding)).turn
    .commit (.commit (begun.call adding))).turn
    .finish (.finish committed.1 committed.2)).turn
    .finish (.finish failed committed.2)

set_option maxRecDepth 100000 in
/-- A directory at the final path makes the recorder give up, and it says so from then on. -/
theorem unreplaceable_path_is_left_alone :
    turns.map Turn.failure? =
        [none, none, none, some (.file .isDirectory),
          some (.aborted "io error: Is a directory (os error 21)")] ∧
      failed.files.find (.ofPath "out") = .ok (["out"], .directory) ∧
      (recorderOver files).IsOpen "out" ∧ Writer.Starts "out" files (recorderOver files).files ∧
      Course "out" turns (.idle failed.finish.1 committed.2) := by
  have facts :
      turns.map Turn.failure? =
          [none, none, none, some (.file .isDirectory),
            some (.aborted "io error: Is a directory (os error 21)")] ∧
        failed.files.find (.ofPath "out") = .ok (["out"], .directory) := by
    decide +kernel
  exact ⟨facts.1, facts.2, recorder_ends_once sane_files (Recording.create_start created) lives_turns⟩

end UnreplaceablePath

end BuildCapture
