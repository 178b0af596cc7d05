import BuildCapture.Proofs.Archive.Causes

/-!
# Attempts to record

A run is a sequence of attempts to record an invocation.  The log of a run says
of each attempt what was called, what there was to go by at that moment, and what
became of it.  The recorder counts the attempts that were committed and notes why
others were left out, and neither depends on anything but the log.
-/

namespace BuildCapture

/-! ## Logs -/

/-- A step towards a record, as it is seen from outside. -/
inductive Move where
  /-- A call, and what there was to go by. -/
  | call (deed : Deed)
  /-- A resolver that gave reasons instead of inputs. -/
  | unresolved (raw : RawInvocation) (reasons : List String)
deriving DecidableEq, Repr

namespace Move

/-- Why a step fails by itself. -/
def fault? : Move → Option Failure
  | .call deed => deed.fault?
  | .unresolved raw reasons => some (raw.undiscovered reasons)

/-- What was called. -/
def deed? : Move → Option Deed
  | .call deed => some deed
  | .unresolved _ _ => none

/-- The octets that a step asks to be stored. -/
def data? : Move → Option Octets
  | .call deed => deed.call.pool?.map fun _ => deed.data
  | .unresolved _ _ => none

end Move

/-- What became of an attempt. -/
inductive Outcome where
  | committed (index : Nat)
  | failed (failure : Failure)
  /-- The attempt was given up without committing. -/
  | dropped
deriving DecidableEq, Repr

/-- What committing or capturing returned, as an outcome. -/
def Outcome.of : Except Failure Nat → Outcome
  | .ok index => .committed index
  | .error failure => .failed failure

/-- An attempt to record an invocation. -/
structure Attempt where
  heading : Heading
  moves : List Move
  outcome : Outcome
deriving DecidableEq, Repr

namespace Attempt

/-- The index of the record that an attempt wrote. -/
def index?
    (attempt : Attempt) :
    Option Nat :=
  match attempt.outcome with
  | .committed index => some index
  | _ => none

/-- Whether an attempt wrote a record. -/
def isCommitted
    (attempt : Attempt) :
    Bool :=
  attempt.index?.isSome

/-- What is noted of an attempt that an input made fail. -/
def diagnostic?
    (attempt : Attempt) :
    Option Diagnostic :=
  match attempt.outcome with
  | .failed failure =>
    if failure.isInvocationScoped then
      some (.ofFailure attempt.heading.projectPath failure)
    else
      none
  | _ => none

end Attempt

/-! ## Runs -/

section Runs

variable [Zstd.Encoder]

namespace Transcript

/-- A call as it is seen from outside. -/
def move
    (transcript : Transcript)
    (call : Call) :
    Move :=
  .call (transcript.deed call)

/-- Several calls as they are seen from outside. -/
def moves
    (transcript : Transcript) : List Call → List Move
  | [] => []
  | call :: rest => transcript.move call :: (transcript.call call).moves rest

end Transcript

/-- What capturing a discovered invocation adds to a log: nothing if the recorder has ended. -/
def Recording.attempts
    (recording : Recording)
    (journal : Journal)
    (raw : RawInvocation)
    (resolve : InvocationResolver) :
    List Attempt :=
  match recording.begin raw.projectPath raw.language raw.kind with
  | .error _ => []
  | .ok invocation =>
    let transcript : Transcript := { invocation, heading := raw.heading, journal }
    [{ heading := raw.heading
       moves :=
        match resolve raw with
        | .error reasons => [.unresolved raw reasons]
        | .ok inputs => transcript.moves (raw.calls inputs)
       outcome := .of (recording.capture raw resolve).2 }]

/-- Completing an archive ends a run, whatever comes of it: nothing can be begun afterwards. -/
theorem Recording.begin_of_finish
    (recording : Recording)
    (heading : Heading) :
    ∃ failure, recording.finish.1.begin heading.projectPath heading.language heading.kind =
      .error failure := by
  have ended : ∃ failure, recording.finish.1.bench = .error failure := by
    rw [finish]
    split
    · next failure idle => exact ⟨failure, idle⟩
    next bench records =>
    split
    · next failure adding => exact (abort_spent records failure).bench
    split
    · next filled _ done failure closing =>
      have still : (recording.withBench done).bench = .ok ⟨done.files, done.writer⟩ := rfl
      exact (abort_spent still failure).bench
    · exact ⟨.alreadySealed, rfl⟩
  rcases ended with ⟨failure, idle⟩
  exact ⟨failure, by simp only [begin, idle]⟩

/--
A recorder of the archive at a path gets to a stage after the attempts of a
log, with some steps taken towards the next record; between two operations the
file system may change in certain ways.  Completing the archive ends the run.
-/
inductive Conducts
    (path : String)
    (config : WriterConfig)
    (changes : FileSystem → FileSystem → Prop) :
    Stage → List Move → List Attempt → Prop
  | create {files after : FileSystem} {recorder : Recorder}
    (sane : files.Sane)
    (creating : Recorder.create files path config = (after, .ok recorder)) :
    Conducts path config changes (.idle ⟨after, recorder⟩ {}) [] []
  | elapse {stage : Stage} {moves : List Move} {log : List Attempt} {files : FileSystem}
    (conducts : Conducts path config changes stage moves log)
    (changed : changes stage.files files) :
    Conducts path config changes (stage.withFiles files) moves log
  | begin {recording : Recording} {journal : Journal} {log : List Attempt}
      {invocation : Invocation}
    (conducts : Conducts path config changes (.idle recording journal) [] log)
    (heading : Heading)
    (beginning :
      recording.begin heading.projectPath heading.language heading.kind = .ok invocation) :
    Conducts path config changes (.lent { invocation, heading, journal }) [] log
  | call {transcript : Transcript} {moves : List Move} {log : List Attempt}
    (conducts : Conducts path config changes (.lent transcript) moves log)
    (call : Call) :
    Conducts path config changes (.lent (transcript.call call))
      (moves ++ [transcript.move call]) log
  | commit {transcript : Transcript} {moves : List Move} {log : List Attempt}
    (conducts : Conducts path config changes (.lent transcript) moves log) :
    Conducts path config changes (.idle transcript.commit.1 transcript.commit.2) []
      (log ++ [⟨transcript.heading, moves, .of transcript.invocation.commit.2⟩])
  | drop {transcript : Transcript} {moves : List Move} {log : List Attempt}
    (conducts : Conducts path config changes (.lent transcript) moves log) :
    Conducts path config changes (.idle transcript.invocation.recording transcript.journal) []
      (log ++ [⟨transcript.heading, moves, .dropped⟩])
  | capture {recording : Recording} {journal : Journal} {log : List Attempt}
    (conducts : Conducts path config changes (.idle recording journal) [] log)
    (raw : RawInvocation)
    (resolve : InvocationResolver) :
    Conducts path config changes
      (.idle (recording.capture raw resolve).1 (journal.capture recording raw resolve)) []
      (log ++ recording.attempts journal raw resolve)

/-- Capturing what a resolver found is making its calls and committing. -/
theorem Recording.attempts_eq
    {recording : Recording}
    {raw : RawInvocation}
    {resolve : InvocationResolver}
    {invocation : Invocation}
    {inputs : ResolvedInputs}
    (beginning : recording.begin raw.projectPath raw.language raw.kind = .ok invocation)
    (resolving : resolve raw = .ok inputs)
    (journal : Journal) :
    let transcript : Transcript := { invocation, heading := raw.heading, journal }
    let called := (raw.calls inputs).foldl Transcript.call transcript
    recording.attempts journal raw resolve =
      [⟨raw.heading, transcript.moves (raw.calls inputs), .of called.invocation.commit.2⟩] := by
  rw [attempts, capture]
  simp only [beginning, resolving, Transcript.invocation_foldl_call, addInputs_setUp]

theorem Transcript.heading_foldl_call
    (calls : List Call)
    (transcript : Transcript) :
    (calls.foldl Transcript.call transcript).heading = transcript.heading := by
  induction calls generalizing transcript with
  | nil => rfl
  | cons call rest ih => exact ih (transcript.call call)

/--
What every operation keeps holds at every stage that is conducted.  Capturing
is nothing new: it notes why there is nothing to record, or it begins an
invocation, makes calls and commits.
-/
theorem Conducts.induct
    {path : String}
    {config : WriterConfig}
    {changes : FileSystem → FileSystem → Prop}
    {motive : Stage → List Move → List Attempt → Prop}
    (create : ∀ {files after recorder}, files.Sane →
      Recorder.create files path config = (after, .ok recorder) →
        motive (.idle ⟨after, recorder⟩ {}) [] [])
    (elapse : ∀ {stage moves log files}, motive stage moves log →
      changes stage.files files → motive (stage.withFiles files) moves log)
    (begin : ∀ {recording journal log invocation}, motive (.idle recording journal) [] log →
      ∀ heading : Heading,
        recording.begin heading.projectPath heading.language heading.kind = .ok invocation →
          motive (.lent { invocation, heading, journal }) [] log)
    (call : ∀ {transcript moves log},
      Conducts path config changes (.lent transcript) moves log →
        motive (.lent transcript) moves log →
          ∀ call, motive (.lent (transcript.call call)) (moves ++ [transcript.move call]) log)
    (commit : ∀ {transcript moves log},
      Conducts path config changes (.lent transcript) moves log →
        motive (.lent transcript) moves log →
          motive (.idle transcript.commit.1 transcript.commit.2) []
            (log ++ [⟨transcript.heading, moves, .of transcript.invocation.commit.2⟩]))
    (drop : ∀ {transcript moves log}, motive (.lent transcript) moves log →
      motive (.idle transcript.invocation.recording transcript.journal) []
        (log ++ [⟨transcript.heading, moves, .dropped⟩]))
    (unresolved : ∀ {recording journal log}, motive (.idle recording journal) [] log →
      ∀ (raw : RawInvocation) (reasons : List String),
        motive (.idle (recording.report raw.projectPath (raw.undiscovered reasons)) journal) []
          (log ++ [⟨raw.heading, [.unresolved raw reasons],
            .failed (raw.undiscovered reasons)⟩]))
    {stage : Stage}
    {moves : List Move}
    {log : List Attempt}
    (conducts : Conducts path config changes stage moves log) :
    motive stage moves log := by
  have calls :
      ∀ (calls : List Call) (transcript : Transcript) (moves : List Move)
        (log : List Attempt), Conducts path config changes (.lent transcript) moves log →
          motive (.lent transcript) moves log →
            Conducts path config changes (.lent (calls.foldl Transcript.call transcript))
                (moves ++ transcript.moves calls) log ∧
              motive (.lent (calls.foldl Transcript.call transcript))
                (moves ++ transcript.moves calls) log := by
    intro list
    induction list with
    | nil =>
      intro transcript moves log conducts holds
      rw [Transcript.moves, List.append_nil]
      exact ⟨conducts, holds⟩
    | cons first rest ih =>
      intro transcript moves log conducts holds
      rw [Transcript.moves, List.append_cons]
      exact ih _ _ log (conducts.call first) (call conducts holds first)
  induction conducts with
  | create sane creating => exact create sane creating
  | elapse conducts changed ih => exact elapse ih changed
  | begin conducts heading beginning ih => exact begin ih heading beginning
  | call conducts next ih => exact call conducts ih next
  | commit conducts ih => exact commit conducts ih
  | drop conducts ih => exact drop ih
  | @capture recording journal log conducts raw resolve ih =>
    cases beginning : recording.begin raw.projectPath raw.language raw.kind with
    | error failure =>
      rw [Recording.capture, Journal.capture, Recording.attempts]
      simp only [beginning, List.append_nil]
      exact ih
    | ok invocation =>
      cases resolving : resolve raw with
      | error reasons =>
        rw [Recording.attempts, Recording.capture, Journal.capture]
        simp only [beginning, resolving]
        exact unresolved ih raw reasons
      | ok inputs =>
        rcases capture_eq_commit beginning resolving journal with ⟨recorded, noted⟩
        rcases
            calls (raw.calls inputs) _ [] log (conducts.begin raw.heading beginning)
              (begin ih raw.heading beginning) with
          ⟨called, holds⟩
        rw [recorded, noted, Recording.attempts_eq beginning resolving journal]
        have committed := commit called holds
        rw [Transcript.heading_foldl_call] at committed
        exact committed

end Runs

/-! ## Records -/

/-- What was called on the invocation of an attempt. -/
def Attempt.deeds
    (attempt : Attempt) :
    List Deed :=
  attempt.moves.filterMap Move.deed?

/-- The record that the calls of an attempt amount to. -/
def Attempt.record
    (attempt : Attempt) :
    InvocationRecord :=
  attempt.deeds.foldl Deed.note attempt.heading.record

/-- The records of the attempts that were committed, in order. -/
def committedRecords
    (log : List Attempt) :
    List InvocationRecord :=
  (log.filter Attempt.isCommitted).map Attempt.record

/-- A journal lists the attempts that a log says were committed. -/
def Journal.Follows
    (journal : Journal)
    (log : List Attempt) :
    Prop :=
  journal.committed.map (fun committed => (committed.heading, committed.deeds)) =
    (log.filter Attempt.isCommitted).map fun attempt =>
      (attempt.heading, attempt.deeds)

namespace Journal.Follows

variable
  {journal : Journal}
  {log : List Attempt}

/-- An attempt that was not committed is not listed. -/
theorem skip
    (follows : journal.Follows log)
    {attempt : Attempt}
    (uncommitted : attempt.isCommitted = false) :
    journal.Follows (log ++ [attempt]) := by
  simpa [Follows, uncommitted] using follows

/-- An attempt that was committed is listed with what was called. -/
theorem commit
    (follows : journal.Follows log)
    (heading : Heading)
    (moves : List Move)
    (record : InvocationRecord)
    (index : Nat) :
    ({ journal with committed := journal.committed ++
        [⟨heading, moves.filterMap Move.deed?, record⟩] } : Journal).Follows
      (log ++ [⟨heading, moves, .committed index⟩]) := by
  have last : (⟨heading, moves, .committed index⟩ : Attempt).isCommitted = true := rfl
  rw [Follows] at follows
  simp [Follows, follows, last, Attempt.deeds]

/-- The records of a sound journal are those of the log. -/
theorem records
    (follows : journal.Follows log)
    (sound : journal.Sound) :
    journal.committed.map Committed.record = committedRecords log := by
  let written : Heading × List Deed → InvocationRecord :=
    fun plan => plan.2.foldl Deed.note plan.1.record
  calc journal.committed.map Committed.record
    _ = journal.committed.map fun committed => written (committed.heading, committed.deeds) :=
      List.map_congr_left sound.asCalled
    _ = (journal.committed.map fun committed =>
          (committed.heading, committed.deeds)).map written := by
      rw [List.map_map]
      rfl
    _ = committedRecords log := by
      rw [follows, List.map_map]
      rfl

end Journal.Follows

/-- The journal at a stage lists what a log and the steps since say. -/
def Stage.Follows
    (moves : List Move)
    (log : List Attempt) : Stage → Prop
  | .idle _ journal => journal.Follows log
  | .lent transcript =>
    transcript.journal.Follows log ∧ transcript.deeds = moves.filterMap Move.deed?

/-- The journal of a run lists what its log says. -/
theorem Conducts.follows
    [Zstd.Encoder]
    {path : String}
    {config : WriterConfig}
    {changes : FileSystem → FileSystem → Prop}
    {stage : Stage}
    {moves : List Move}
    {log : List Attempt}
    (conducts : Conducts path config changes stage moves log) :
    stage.Follows moves log := by
  refine Conducts.induct (motive := fun stage moves log => stage.Follows moves log) ?create
    ?elapse ?begin ?call ?commit ?drop ?unresolved conducts
  case create => exact fun _ _ => rfl
  case elapse =>
    intro stage moves log files follows _
    cases stage with
    | idle recording journal => exact follows
    | lent transcript => exact follows
  case begin => exact fun follows heading beginning => ⟨follows, rfl⟩
  case call =>
    intro transcript moves log _ follows call
    refine ⟨?_, ?_⟩
    · show (if _ then _ else _ : Journal).Follows log
      rw [Journal.Follows]
      split
      · exact follows.1
      · rw [Journal.committed_observe]
        exact follows.1
    · show transcript.deeds ++ [_] = _
      rw [List.filterMap_append, ← follows.2]
      rfl
  case commit =>
    intro transcript moves log _ follows
    rw [Transcript.commit]
    split
    · next committing =>
      rw [committing]
      exact follows.1.skip rfl
    · next committing =>
      rw [committing, follows.2]
      exact follows.1.commit _ moves _ _
  case drop => exact fun follows => follows.1.skip rfl
  case unresolved => exact fun follows raw reasons => follows.skip rfl

end BuildCapture
