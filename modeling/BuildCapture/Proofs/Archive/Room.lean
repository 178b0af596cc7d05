import BuildCapture.Proofs.Archive.Explanations

/-!
# Room for what is recorded

How much an archive takes is bounded by what its run asks to be stored: the
octets of every input, counted each time it is added, and every record.  If all
of that has room in an empty container, then the recorder never gives up.
-/

namespace BuildCapture

open Container

/-- Everything that an attempt asks to be stored: its inputs and its record. -/
def Attempt.contents
    (attempt : Attempt) :
    List Octets :=
  attempt.moves.filterMap Move.data? ++ [attempt.record.encode]

variable [Zstd.Encoder]

namespace Container.Draft.HasRoomFor

variable
  {draft : Draft}

/-- Where there is room for more, there is room without it. -/
theorem of_append
    {first rest : List Octets}
    (room : draft.HasRoomFor (first ++ rest)) :
    draft.HasRoomFor rest := by
  rcases room with ⟨formed, short⟩
  rw [List.map_append, List.sum_append] at short
  exact ⟨fun data member => formed data (List.mem_append_right _ member), by omega⟩

end Container.Draft.HasRoomFor

/--
A recorder copes with contents that it was asked to store: if an empty
container has room for these and for others, it still records, and its
container has room for the others.
-/
def Recorder.CopesWith
    (recorder : Recorder)
    (config : WriterConfig)
    (contents : List Octets) :
    Prop :=
  ∀ rest, (Draft.new config).HasRoomFor (contents ++ rest) →
    ∃ writer, recorder.state = .recording writer ∧ writer.draft.HasRoomFor rest

namespace Recorder.CopesWith

variable
  {recorder after : Recorder}
  {config : WriterConfig}
  {contents : List Octets}

/-- A recorder whose state stays the same copes with contents that it never stored. -/
theorem unchanged
    (copes : recorder.CopesWith config contents)
    (same : after.state = recorder.state)
    (more : List Octets) :
    after.CopesWith config (contents ++ more) := by
  intro rest room
  rw [List.append_assoc] at room
  rcases copes _ room with ⟨writer, records, left⟩
  exact ⟨writer, same.trans records, left.of_append⟩

/-- A recorder that has given up copes with what would not have fitted anyhow. -/
theorem aborted
    (copes : recorder.CopesWith config contents)
    {reason : String}
    (ended : recorder.state = .aborted reason)
    (more : List Octets) :
    after.CopesWith config (contents ++ more) := by
  intro rest room
  rw [List.append_assoc] at room
  rcases copes _ room with ⟨writer, records, -⟩
  rw [ended] at records
  cases records

/-- However storing data ends, the recorder copes with the data too. -/
theorem ends
    {recording : Recording}
    (copes : recording.recorder.CopesWith config contents)
    {α : Type}
    {data : Octets}
    {fault? : Option Failure}
    {result : Recording × Except Failure α}
    (ends : ∀ {writer}, recording.recorder.state = .recording writer →
      recording.Ends writer data fault? result) :
    result.1.recorder.CopesWith config (contents ++ [data]) := by
  intro rest room
  rw [List.append_assoc] at room
  rcases copes _ room with ⟨writer, records, left⟩
  cases ends records with
  | success _ recordsToo grows => exact ⟨_, recordsToo, left.grown grows⟩
  | fault _ => exact ⟨writer, records, left.of_append⟩
  | exhaustion _ lacks _ => exact absurd lacks left.not_lacks

end Recorder.CopesWith

/-! ## Runs -/

/-- The recorder at a stage copes with what the attempts of a log and the steps since asked for. -/
def Stage.Copes
    (config : WriterConfig)
    (moves : List Move)
    (log : List Attempt) : Stage → Prop
  | .idle recording _ => recording.recorder.CopesWith config (log.flatMap Attempt.contents)
  | .lent transcript =>
    transcript.invocation.recording.recorder.CopesWith config
      (log.flatMap Attempt.contents ++ moves.filterMap Move.data?)

namespace Transcript

variable
  {transcript : Transcript}
  {config : WriterConfig}
  {moves : List Move}
  {log : List Attempt}

/-- A recorder copes with what a call asks for. -/
theorem copes_call
    {contents : List Octets}
    (copes : transcript.invocation.recording.recorder.CopesWith config contents)
    {call : Call}
    (comes : transcript.ComesTo call) :
    (transcript.call call).invocation.recording.recorder.CopesWith config
      (contents ++ [transcript.move call].filterMap Move.data?) := by
  cases comes with
  | noting recording _ _ light => exact copes.unchanged (congrArg (·.recorder.state) recording) _
  | obtaining applies heavy ends =>
    have adds := transcript.adds applies
    have after := copes.ends ends
    rw [List.filterMap_cons_some heavy, List.filterMap_nil]
    generalize transcript.call call = called at adds ⊢
    cases adds with
    | ignored _ => exact copes.unchanged rfl _
    | failed _ fetching =>
      rw [fetching] at after
      exact after
    | noted _ fetching =>
      rw [fetching] at after
      exact after

/-- A recorder copes with the record that is committed. -/
theorem copes_commit
    {contents : List Octets}
    (copes : transcript.invocation.recording.recorder.CopesWith config contents)
    {path : String}
    (holds : transcript.Holds path)
    (stocked : transcript.Stocked)
    (stands : transcript.Stands moves) :
    transcript.invocation.commit.1.recorder.CopesWith config
      (contents ++ [(transcript.deeds.foldl Deed.note transcript.heading.record).encode]) := by
  rw [Invocation.commit]
  cases stands with
  | unharmed unfailed records _ =>
    simp only [unfailed]
    rw [← holds.asCalled unfailed]
    apply copes.ends
    intro writer recordsToo
    rcases holds.faithful.keeps recordsToo with ⟨accepted, keeps⟩
    exact keeps.ends_storeRecord stocked transcript.invocation.record
  | faulty failed records first =>
    rcases List.exists_of_findSome?_eq_some first with ⟨move, -, faulty⟩
    simp only [failed, Invocation.drop, Move.isInvocationScoped_of_fault? faulty, if_true]
    exact copes.unchanged rfl _
  | exhausted failed _ aborted =>
    exact copes.aborted aborted _

end Transcript

/-- The recorder of a run copes with whatever the run asked it to store. -/
theorem Conducts.copes
    {path : String}
    {config : WriterConfig}
    {changes : FileSystem → FileSystem → Prop}
    (foreign : AreForeign path changes)
    {stage : Stage}
    {moves : List Move}
    {log : List Attempt}
    (conducts : Conducts path config changes stage moves log) :
    stage.Copes config moves log := by
  refine Conducts.induct (motive := fun stage moves log => stage.Copes config moves log) ?create
    ?elapse ?begin ?call ?commit ?drop ?unresolved conducts
  case create =>
    intro files after recorder _ creating rest room
    rcases Recorder.create_eq_ok creating with ⟨writer, started, rfl⟩
    rcases Workbench.sound_create started with ⟨-, -, drafted⟩
    exact ⟨writer, rfl, drafted ▸ room⟩
  case elapse =>
    intro stage moves log files copes _
    cases stage with
    | idle recording journal => exact copes
    | lent transcript => exact copes
  case begin =>
    intro recording journal log invocation copes heading beginning
    rw [Recording.begin_eq_ok beginning]
    rw [Stage.Copes, List.filterMap_nil, List.append_nil]
    exact copes
  case call =>
    intro transcript moves log conducts copes call
    have reached := conducts.reaches foreign
    have comes := Transcript.comesTo reached.holds.faithful reached.stocked call
    have after := Transcript.copes_call copes comes
    rw [Stage.Copes, List.filterMap_append, ← List.append_assoc]
    exact after
  case commit =>
    intro transcript moves log conducts copes
    have reached := conducts.reaches foreign
    have after := Transcript.copes_commit copes reached.holds reached.stocked
      (conducts.explained foreign).1
    rw [conducts.follows.2] at after
    rw [Stage.Copes, transcript.commit_fst, List.flatMap_append, List.flatMap_singleton,
      Attempt.contents, ← List.append_assoc]
    exact after
  case drop =>
    intro transcript moves log copes
    rw [Stage.Copes, List.flatMap_append, List.flatMap_singleton, Attempt.contents,
      ← List.append_assoc]
    exact copes.unchanged rfl _
  case unresolved =>
    intro recording journal log copes raw reasons
    rw [Stage.Copes, List.flatMap_append]
    exact copes.unchanged rfl _

end BuildCapture
