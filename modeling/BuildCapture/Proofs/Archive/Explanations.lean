import BuildCapture.Proofs.Archive.Tallies

/-!
# Why attempts fail

As long as nobody else touches the temporary file, the failure of an attempt is
that of the first of its steps with which something is wrong by itself, whatever
else earlier attempts have stored or reported.  The only other failure is want of
room, and then the recorder gives up for good.
-/

namespace BuildCapture

open Container

/-! ## Changes of others -/

/-- Changes that leave a temporary file alone. -/
structure AreForeign
    (path : String)
    (changes : FileSystem → FileSystem → Prop) : Prop where
  sane : ∀ {before after}, changes before after → after.Sane
  leaves : ∀ {before after}, changes before after →
    FileSystem.Leaves (Writer.temporaryRoute path) before after

/-- What is conducted while nobody else touches the temporary file is reached. -/
theorem Conducts.reaches
    [Zstd.Encoder]
    {path : String}
    {config : WriterConfig}
    {changes : FileSystem → FileSystem → Prop}
    {stage : Stage}
    {moves : List Move}
    {log : List Attempt}
    (foreign : AreForeign path changes)
    (conducts : Conducts path config changes stage moves log) :
    Reaches path config stage := by
  induction conducts with
  | create sane creating => exact .create sane creating
  | elapse _ changed ih =>
    exact .elapse ih (foreign.sane changed) (foreign.leaves changed)
  | begin _ heading beginning ih => exact .begin ih heading beginning
  | call _ next ih => exact .call ih next
  | commit _ ih => exact .commit ih
  | drop _ ih => exact .drop ih
  | capture _ raw resolve ih => exact .capture ih raw resolve

/-! ## Explanations -/

/-- A recorder has given up for want of room. -/
def Recorder.HasRunOut
    (recorder : Recorder) :
    Prop :=
  ∃ failure : Failure, failure.OfExhaustion ∧ recorder.state = .aborted failure.message

/--
Why an attempt ended as it did: nothing was wrong with any of its steps, the
first step with which something was wrong made it fail, or there was no room
and the recorder gave up.
-/
inductive Attempt.Explained (recorder : Recorder) : Attempt → Prop
  | committed {heading : Heading} {moves : List Move} {index : Nat}
    (harmless : moves.findSome? Move.fault? = none) :
    Explained recorder ⟨heading, moves, .committed index⟩
  | faulty {heading : Heading} {moves : List Move} {failure : Failure}
    (first : moves.findSome? Move.fault? = some failure) :
    Explained recorder ⟨heading, moves, .failed failure⟩
  | exhausted {heading : Heading} {moves : List Move} {failure : Failure}
    (exhausted : failure.OfExhaustion)
    (aborted : recorder.state = .aborted failure.message) :
    Explained recorder ⟨heading, moves, .failed failure⟩
  | dropped {heading : Heading} {moves : List Move} :
    Explained recorder ⟨heading, moves, .dropped⟩

/-- Reporting another failure explains earlier attempts as before. -/
theorem Attempt.Explained.report
    {recording : Recording}
    {attempt : Attempt}
    (explained : attempt.Explained recording.recorder)
    (projectPath : String)
    (failure : Failure) :
    attempt.Explained (recording.report projectPath failure).recorder := by
  cases explained with
  | committed harmless => exact .committed harmless
  | faulty first => exact .faulty first
  | exhausted exhausted aborted => exact .exhausted exhausted aborted
  | dropped => exact .dropped

/-- As long as a recorder records, no attempt was ended by want of room. -/
theorem Attempt.Explained.later
    {recorder : Recorder}
    {writer : Writer}
    (records : recorder.state = .recording writer)
    {attempt : Attempt}
    (explained : attempt.Explained recorder)
    (after : Recorder) :
    attempt.Explained after := by
  cases explained with
  | committed harmless => exact .committed harmless
  | faulty first => exact .faulty first
  | exhausted _ aborted =>
    rw [records] at aborted
    cases aborted
  | dropped => exact .dropped

/-- A step that fails by itself concerns only its invocation. -/
theorem Move.isInvocationScoped_of_fault?
    {move : Move}
    {failure : Failure}
    (faulty : move.fault? = some failure) :
    failure.isInvocationScoped = true := by
  cases move with
  | call deed => exact Deed.isInvocationScoped_of_fault? faulty
  | unresolved raw reasons =>
    cases faulty
    rfl

/--
How an invocation stands after some steps: nothing has gone wrong, a step has
failed by itself, or the recorder has given up for want of room.
-/
inductive Transcript.Stands
    (transcript : Transcript)
    (moves : List Move) : Prop
  | unharmed {writer : Writer}
    (unfailed : transcript.invocation.failure = none)
    (records : transcript.invocation.recording.recorder.state = .recording writer)
    (harmless : moves.findSome? Move.fault? = none)
  | faulty {writer : Writer} {failure : Failure}
    (failed : transcript.invocation.failure = some failure)
    (records : transcript.invocation.recording.recorder.state = .recording writer)
    (first : moves.findSome? Move.fault? = some failure)
  | exhausted {failure : Failure}
    (failed : transcript.invocation.failure = some failure)
    (exhausted : failure.OfExhaustion)
    (aborted : transcript.invocation.recording.recorder.state = .aborted failure.message)

/-- An invocation is begun exactly if the recorder records. -/
theorem Recording.begin_isOk_iff
    {recording : Recording}
    {projectPath : String}
    {language : Language}
    {kind : InvocationKind} :
    (∃ invocation, recording.begin projectPath language kind = .ok invocation) ↔
      ∃ writer, recording.recorder.state = .recording writer := by
  unfold begin bench Recorder.writer
  cases recording.recorder.state with
  | recording writer => simp
  | published path => simp
  | aborted reason => simp

/-- A recorder that records is not spent. -/
theorem Recording.Faithful.keeps
    {recording : Recording}
    {path : String}
    {journal : Journal}
    {writer : Writer}
    (faithful : recording.Faithful path journal)
    (records : recording.recorder.state = .recording writer) :
    ∃ accepted, recording.Keeps path journal writer accepted := by
  rcases faithful.keeps_of_bench (bench_of_state records) with ⟨other, accepted, keeps, same⟩
  cases same
  exact ⟨accepted, keeps⟩

/-! ## Steps -/

namespace Transcript

variable
  {transcript : Transcript}
  {moves : List Move}

/-- A call with an input asks for what is taken for the input. -/
theorem data?_move
    {call : Call}
    {pool : InputPool}
    (pooled : call.pool? = some pool) :
    (transcript.move call).data? = some (transcript.deed call).data := by
  simp [move, Move.data?, deed, pooled]

/-- A step that leaves the recorder alone and is harmless, or comes too late, changes nothing. -/
theorem Stands.unchanged
    (stands : transcript.Stands moves)
    {after : Transcript}
    (recording : after.invocation.recording = transcript.invocation.recording)
    (failure : after.invocation.failure = transcript.invocation.failure)
    {move : Move}
    (harmless : transcript.invocation.failure = none → move.fault? = none) :
    after.Stands (moves ++ [move]) := by
  cases stands with
  | unharmed unfailed records harmlessBefore =>
    refine .unharmed (failure.trans unfailed) (recording ▸ records) ?_
    rw [List.findSome?_append, harmlessBefore, Option.none_or, List.findSome?_singleton]
    exact harmless unfailed
  | faulty failed records first =>
    refine .faulty (failure.trans failed) (recording ▸ records) ?_
    rw [List.findSome?_append, first, Option.some_or]
  | exhausted failed exhausted aborted =>
    exact .exhausted (failure.trans failed) exhausted (recording ▸ aborted)

variable
  [Zstd.Encoder]
  {path : String}

/-- Of an invocation that has failed, further calls change nothing that matters. -/
theorem Stands.call_of_failed
    (stands : transcript.Stands moves)
    {failure : Failure}
    (failed : transcript.invocation.failure = some failure)
    (call : Call) :
    (transcript.call call).Stands (moves ++ [transcript.move call]) := by
  have hasFailed : transcript.invocation.hasFailed = true := by
    rw [Invocation.hasFailed, failed]
    rfl
  rcases call.apply_of_failed transcript.invocation hasFailed with ⟨recording, same⟩
  apply stands.unchanged recording same
  intro unfailed
  rw [failed] at unfailed
  cases unfailed

/--
What a call comes to: it only notes something, or it obtains an input, which
ends as the input and the room for it have it.
-/
inductive ComesTo
    (transcript : Transcript)
    (call : Call) : Prop
  | noting
    (recording :
      (transcript.call call).invocation.recording = transcript.invocation.recording)
    (failure : (transcript.call call).invocation.failure = transcript.invocation.failure)
    (harmless : (transcript.move call).fault? = none)
    (light : (transcript.move call).data? = none)
  | obtaining {α : Type} {data : Octets}
    {fetch : Recording → Recording × Except Failure α}
    {note : α → InvocationRecord → InvocationRecord}
    (applies : call.apply transcript.invocation = transcript.invocation.adding fetch note)
    (heavy : (transcript.move call).data? = some data)
    (ends : ∀ {writer}, transcript.invocation.recording.recorder.state = .recording writer →
      transcript.invocation.recording.Ends writer data (transcript.move call).fault?
        (fetch transcript.invocation.recording))

/-- Every call fails because of its own input or for want of room. -/
theorem comesTo
    (faithful : transcript.invocation.recording.Faithful path transcript.journal)
    (stocked : transcript.Stocked)
    (call : Call) :
    transcript.ComesTo call := by
  cases call.shape with
  | setting note pool applies notes =>
    have same := transcript.call_setting (applies _) pool
    refine .noting ?_ ?_ ?_ ?_
    · rw [same]
      rfl
    · rw [same]
      rfl
    · exact Call.fault?_deed_of_none (Call.path?_of_pool? pool)
    · simp [move, Move.data?, deed, pool]
  | content input note pool named applies notes =>
    refine .obtaining (applies _) (data?_move pool) ?_
    intro writer records
    rcases faithful.keeps records with ⟨accepted, keeps⟩
    exact keeps.ends_contentKey stocked named pool
  | text data note pool noFile applies reads notes =>
    refine .obtaining (applies _) (data?_move pool) ?_
    intro writer records
    rcases faithful.keeps records with ⟨accepted, keeps⟩
    rw [move, Move.fault?, deed, Call.fault?_deed_of_none noFile, reads]
    exact keeps.ends_storeText stocked data
  | module input note pool named applies notes =>
    refine .obtaining (applies _) (data?_move pool) ?_
    intro writer records
    rcases faithful.keeps records with ⟨accepted, keeps⟩
    exact keeps.ends_moduleInfo stocked named pool

/-- What a call comes to says how the invocation stands afterwards. -/
theorem Stands.call
    (stands : transcript.Stands moves)
    {call : Call}
    (comes : transcript.ComesTo call) :
    (transcript.call call).Stands (moves ++ [transcript.move call]) := by
  have before := stands
  cases stands with
  | faulty failed => exact before.call_of_failed failed call
  | exhausted failed => exact before.call_of_failed failed call
  | unharmed unfailed records harmless =>
    cases comes with
    | noting recording failure harmlessToo _ =>
      exact before.unchanged recording failure fun _ => harmlessToo
    | obtaining applies _ ends =>
      have ended := ends records
      have adds := transcript.adds applies
      have next :
          (moves ++ [transcript.move call]).findSome? Move.fault? =
            (transcript.move call).fault? := by
        rw [List.findSome?_append, harmless, Option.none_or, List.findSome?_singleton]
      generalize transcript.call call = called at adds ⊢
      cases adds with
      | ignored failed =>
        rw [Invocation.hasFailed, unfailed] at failed
        cases failed
      | failed _ fetching =>
        rw [fetching] at ended
        cases ended with
        | fault faulty => exact .faulty rfl records (next.trans faulty)
        | exhaustion _ lacks aborted => exact .exhausted rfl lacks.ofExhaustion aborted
      | noted _ fetching =>
        rw [fetching] at ended
        cases ended with
        | success harmlessToo left _ => exact .unharmed rfl left (next.trans harmlessToo)

end Transcript

/-! ## Stages -/

/-- Every attempt of a log is explained, and so is how the recorder stands at a stage. -/
def Stage.Explained
    (moves : List Move)
    (log : List Attempt) : Stage → Prop
  | .idle recording _ =>
    ((∃ writer, recording.recorder.state = .recording writer) ∨ recording.recorder.HasRunOut) ∧
      ∀ attempt ∈ log, attempt.Explained recording.recorder
  | .lent transcript =>
    transcript.Stands moves ∧
      ∀ attempt ∈ log, attempt.Explained transcript.invocation.recording.recorder

/-- An attempt that is explained is added to a log of which all others are. -/
theorem Attempt.explained_append
    {recorder : Recorder}
    {log : List Attempt}
    (explained : ∀ attempt ∈ log, attempt.Explained recorder)
    {last : Attempt}
    (explainedToo : last.Explained recorder) :
    ∀ attempt ∈ log ++ [last], attempt.Explained recorder := by
  intro attempt member
  rcases List.mem_append.1 member with earlier | here
  · exact explained attempt earlier
  · rw [List.mem_singleton.1 here]
    exact explainedToo

namespace Transcript.Stands

variable
  {transcript : Transcript}
  {moves : List Move}
  {log : List Attempt}

/-- An invocation that failed for want of room has left its recorder without any. -/
theorem room
    (stands : transcript.Stands moves) :
    (∃ writer, transcript.invocation.recording.recorder.state = .recording writer) ∨
      transcript.invocation.recording.recorder.HasRunOut := by
  cases stands with
  | unharmed _ records => exact Or.inl ⟨_, records⟩
  | faulty _ records => exact Or.inl ⟨_, records⟩
  | exhausted _ exhausted aborted => exact Or.inr ⟨_, exhausted, aborted⟩

variable [Zstd.Encoder]

/-- Whatever a recorder that records turns into, earlier attempts stay explained. -/
theorem explained_call
    (stands : transcript.Stands moves)
    (explained : ∀ attempt ∈ log, attempt.Explained transcript.invocation.recording.recorder)
    (call : Call) :
    ∀ attempt ∈ log,
      attempt.Explained (transcript.call call).invocation.recording.recorder := by
  intro attempt member
  have before := explained attempt member
  cases stands with
  | unharmed _ records => exact before.later records _
  | faulty _ records => exact before.later records _
  | exhausted failed =>
    have hasFailed : transcript.invocation.hasFailed = true := by
      rw [Invocation.hasFailed, failed]
      rfl
    have same :
        (transcript.call call).invocation.recording = transcript.invocation.recording :=
      (call.apply_of_failed transcript.invocation hasFailed).1
    rw [same]
    exact before

/-- Committing writes the record, reports the failure or finds no room. -/
theorem commit
    (stands : transcript.Stands moves)
    {path : String}
    (faithful : transcript.invocation.recording.Faithful path transcript.journal)
    (stocked : transcript.Stocked)
    (explained : ∀ attempt ∈ log, attempt.Explained transcript.invocation.recording.recorder) :
    (Stage.idle transcript.commit.1 transcript.commit.2).Explained []
      (log ++ [⟨transcript.heading, moves, .of transcript.invocation.commit.2⟩]) := by
  rw [Stage.Explained, transcript.commit_fst]
  rcases committing : transcript.invocation.commit with ⟨after, outcome⟩
  rw [Invocation.commit] at committing
  cases stands with
  | unharmed unfailed records harmless =>
    rcases faithful.keeps records with ⟨accepted, keeps⟩
    have ends := keeps.ends_storeRecord stocked transcript.invocation.record
    simp only [unfailed] at committing
    rw [committing] at ends
    have earlier := fun attempt member => (explained attempt member).later records after.recorder
    cases ends with
    | fault faulty => cases faulty
    | success _ left _ =>
      exact ⟨Or.inl ⟨_, left⟩, Attempt.explained_append earlier (.committed harmless)⟩
    | exhaustion _ lacks aborted =>
      exact ⟨Or.inr ⟨_, lacks.ofExhaustion, aborted⟩,
        Attempt.explained_append earlier (.exhausted lacks.ofExhaustion aborted)⟩
  | faulty failed records first =>
    rcases List.exists_of_findSome?_eq_some first with ⟨move, -, faulty⟩
    simp only [failed, Invocation.drop, Move.isInvocationScoped_of_fault? faulty, if_true]
      at committing
    cases committing
    refine ⟨Or.inl ⟨_, records⟩, Attempt.explained_append ?_ (.faulty first)⟩
    exact fun attempt member => (explained attempt member).report _ _
  | @exhausted failure failed exhausted aborted =>
    have idle : transcript.invocation.recording.bench =
        .error (.aborted failure.message) := by
      simp only [Recording.bench, Recorder.writer, aborted]
    simp only [failed, Invocation.drop, exhausted.not_scoped, Bool.false_eq_true, if_false,
      Recording.fail_of_idle idle] at committing
    cases committing
    exact ⟨Or.inr ⟨failure, exhausted, aborted⟩,
      Attempt.explained_append explained (.exhausted exhausted aborted)⟩

end Transcript.Stands

/-! ## Runs -/

variable
  [Zstd.Encoder]
  {path : String}
  {config : WriterConfig}
  {changes : FileSystem → FileSystem → Prop}

/-- Every attempt of a run ends because of its own steps or for want of room. -/
theorem Conducts.explained
    (foreign : AreForeign path changes)
    {stage : Stage}
    {moves : List Move}
    {log : List Attempt}
    (conducts : Conducts path config changes stage moves log) :
    stage.Explained moves log := by
  refine Conducts.induct (motive := fun stage moves log => stage.Explained moves log) ?create
    ?elapse ?begin ?call ?commit ?drop ?unresolved conducts
  case create =>
    intro files after recorder _ creating
    rcases Recorder.create_eq_ok creating with ⟨writer, -, rfl⟩
    exact ⟨Or.inl ⟨_, rfl⟩, List.forall_mem_nil _⟩
  case elapse =>
    intro stage moves log files explained _
    cases stage with
    | idle recording journal => exact explained
    | lent transcript =>
      refine ⟨?_, explained.2⟩
      cases explained.1 with
      | unharmed unfailed records harmless => exact .unharmed unfailed records harmless
      | faulty failed records first => exact .faulty failed records first
      | exhausted failed exhausted aborted => exact .exhausted failed exhausted aborted
  case begin =>
    intro recording journal log invocation explained heading beginning
    rcases Recording.begin_isOk_iff.1 ⟨invocation, beginning⟩ with ⟨writer, records⟩
    rw [Recording.begin_eq_ok beginning]
    exact ⟨.unharmed rfl records rfl, explained.2⟩
  case call =>
    intro transcript moves log conducts explained call
    have reached := conducts.reaches foreign
    exact ⟨explained.1.call (Transcript.comesTo reached.holds.faithful reached.stocked call),
      explained.1.explained_call explained.2 call⟩
  case commit =>
    intro transcript moves log conducts explained
    have reached := conducts.reaches foreign
    exact explained.1.commit reached.holds.faithful reached.stocked explained.2
  case drop =>
    exact fun explained => ⟨explained.1.room, Attempt.explained_append explained.2 .dropped⟩
  case unresolved =>
    intro recording journal log explained raw reasons
    refine ⟨explained.1, Attempt.explained_append ?_ (.faulty rfl)⟩
    exact fun attempt member => (explained.2 attempt member).report _ _

end BuildCapture
