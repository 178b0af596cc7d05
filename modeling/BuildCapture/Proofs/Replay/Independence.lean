import BuildCapture.Proofs.Archive.Fidelity
import BuildCapture.Proofs.Extension.Session
import BuildCapture.Proofs.Replay.Crew
import BuildCapture.Replay

/-!
# Replays under every schedule

A replay attempts a prefix of the records, each once, whatever the schedule and
whenever it is cancelled.  Where the result of the front end depends only on its
request, every outcome is the one that replaying the record alone gives.

There is one exception.  Where the directories of sessions can not be made, but
the first attempt makes some of the missing ones above, a later attempt may fail
at another place of the way, and so for another reason.
-/

namespace BuildCapture

variable {σ α : Type}

/-! ## Front ends that depend on their requests -/

/-- What a request shows, whatever the name of its session's directory. -/
structure SeenRequest where
  index : Nat
  record : InvocationRecord
  archive : Archive
  kind : LoaderKind
  content : Option SeenContent

/-- What a front end sees of a request. -/
def ReplayRequest.seen
    (request : ReplayRequest) :
    SeenRequest where
  index := request.index
  record := request.record
  archive := request.archive
  kind := request.session.kind
  content := request.session.content.map (SessionContent.seen request.files)

/-- The result of a front end depends only on what it sees of its request. -/
def FrontEnd.DependsOnRequest (frontEnd : FrontEnd σ α) : Prop :=
  ∀ request other memory otherMemory, request.seen = other.seen →
    (frontEnd request memory).outcome = (frontEnd other otherMemory).outcome

/-! ## File systems between invocations -/

namespace LoaderConfig

/-- Sessions can be given the directories they need. -/
def Serves (config : LoaderConfig) (files : FileSystem) : Prop :=
  config.kind = .onDisk → Session.Ready files config.temporaryRoot

/-- Sessions can not be given their directories, but the attempt leaves some on the way. -/
def LeavesDebris (config : LoaderConfig) (files : FileSystem) : Prop :=
  config.kind = .onDisk ∧
    ∃ after failure, Session.createDirectory files config.temporaryRoot = (after, .error failure) ∧
      after ≠ files

/-- For sessions, a file system is like the one at the start. -/
structure Alike (config : LoaderConfig) (start files : FileSystem) : Prop where
  serves : config.Serves files ↔ config.Serves start
  untouched : ¬ config.Serves start → ¬ config.LeavesDebris start → files = start

theorem Alike.refl
    (config : LoaderConfig)
    (start : FileSystem) :
    config.Alike start start :=
  ⟨Iff.rfl, fun _ _ => rfl⟩

theorem Serves.mono
    {config : LoaderConfig}
    {before after : FileSystem}
    (serves : config.Serves before)
    (fewer : FileSystem.AddsNoFile before after) :
    config.Serves after :=
  fun kind => (serves kind).mono fewer

end LoaderConfig

/-! ## One invocation -/

/-- A session failed for a reason that lies in the file system. -/
def IsFileFailure (outcome : Except ReplayFailure α) : Prop :=
  ∃ fault, outcome = .error (.library (.file fault))

/-- An outcome is the one of the record alone, or debris was in the way of both. -/
def Independent
    (config : LoaderConfig)
    (start : FileSystem)
    (outcome alone : Except ReplayFailure α) : Prop :=
  outcome = alone ∨ config.LeavesDebris start ∧ IsFileFailure outcome ∧ IsFileFailure alone

namespace Archive

variable {archive : Archive} {frontEnd : FrontEnd σ α} {config : LoaderConfig}
  {start : FileSystem × σ} {index : Nat} {record : InvocationRecord}

theorem replayOne_of_failed
    {after : FileSystem}
    {failure : Failure}
    {memory : FileSystem × σ}
    (reading : archive.record index = .ok record)
    (creating : Session.create memory.1 archive record config = (after, .error failure)) :
    archive.replayOne frontEnd config index memory =
      { memory := (after, memory.2), outcome := .error (.library failure) } := by
  simp only [replayOne, reading, creating]

theorem replayOne_of_opened
    {after : FileSystem}
    {session : Session}
    {memory : FileSystem × σ}
    (reading : archive.record index = .ok record)
    (creating : Session.create memory.1 archive record config = (after, .ok session)) :
    archive.replayOne frontEnd config index memory =
      archive.replaySession frontEnd index record session (after, memory.2) := by
  simp only [replayOne, reading, creating]

/-- Where sessions get their directories, they still do after a replay of one record. -/
theorem serves_replayOne
    {memory : FileSystem × σ}
    (serves : config.Serves memory.1) :
    config.Serves (archive.replayOne frontEnd config index memory).memory.1 := by
  cases reading : archive.record index with
  | error failure =>
    rw [replayOne, reading]
    exact serves
  | ok record =>
    rcases creating : Session.create memory.1 archive record config with ⟨after, outcome⟩
    have shows := Session.create_shows serves archive record
    rw [creating] at shows
    generalize Session.seenFor archive record config = expected at shows
    cases shows with
    | failed leaves =>
      rw [replayOne_of_failed reading creating]
      exact serves.mono leaves
    | opened opened =>
      rw [replayOne_of_opened reading creating]
      exact serves.mono opened.leaves

/-- Where sessions get their directories, the outcome does not depend on the memory. -/
theorem outcome_of_serves
    (pure : frontEnd.DependsOnRequest)
    {memory : FileSystem × σ}
    (serves : config.Serves memory.1)
    (served : config.Serves start.1) :
    (archive.replayOne frontEnd config index memory).outcome =
      (archive.replayOne frontEnd config index start).outcome := by
  cases reading : archive.record index with
  | error failure => simp only [replayOne, reading]
  | ok record =>
    rcases creating : Session.create memory.1 archive record config with ⟨after, outcome⟩
    rcases alone : Session.create start.1 archive record config with ⟨afterAlone, outcomeAlone⟩
    have shows := Session.create_shows serves archive record
    have shown := Session.create_shows served archive record
    rw [creating] at shows
    rw [alone] at shown
    generalize Session.seenFor archive record config = expected at shows shown
    cases shows with
    | failed _ =>
      cases shown with
      | failed _ =>
        rw [replayOne_of_failed reading creating, replayOne_of_failed reading alone]
    | opened first =>
      cases shown with
      | opened second =>
        rw [replayOne_of_opened reading creating, replayOne_of_opened reading alone]
        apply congrArg FrontEndEnding.outcome
        apply pure
        simp only [ReplayRequest.seen, first.kind, second.kind, first.content, second.content]

/-- Where sessions are on disk, a record without a plan is not replayed. -/
theorem replayOne_of_unplanned
    {failure : Failure}
    (reading : archive.record index = .ok record)
    (kind : config.kind = .onDisk)
    (unplanned : archive.plan record config.host = .error failure)
    (memory : FileSystem × σ) :
    archive.replayOne frontEnd config index memory =
      { memory, outcome := .error (.library failure) } := by
  apply replayOne_of_failed reading
  simp only [Session.create, kind, Session.onDisk, unplanned]

/-- Where sessions get no directories, no record is replayed. -/
theorem replayOne_of_blocked
    {plan : List PlannedModule}
    (reading : archive.record index = .ok record)
    (planned : archive.plan record config.host = .ok plan)
    {memory : FileSystem × σ}
    (blocked : ¬ config.Serves memory.1) :
    ∃ after fault,
      Session.createDirectory memory.1 config.temporaryRoot = (after, .error (.file fault)) ∧
        archive.replayOne frontEnd config index memory =
          { memory := (after, memory.2), outcome := .error (.library (.file fault)) } := by
  rcases Classical.not_imp.1 blocked with ⟨kind, notReady⟩
  rcases Session.onDisk_of_not_ready planned notReady with ⟨after, fault, failed, failing⟩
  refine ⟨after, fault, failed, replayOne_of_failed reading ?_⟩
  rw [Session.create, kind]
  exact failing

/-- Without debris, a failed attempt to make a directory leaves the file system as it was. -/
theorem eq_of_not_leavesDebris
    {files after : FileSystem}
    {failure : Failure}
    (blocked : ¬ config.Serves files)
    (clean : ¬ config.LeavesDebris files)
    (failed :
      Session.createDirectory files config.temporaryRoot = (after, .error failure)) :
    after = files := by
  by_contra changed
  exact clean ⟨(Classical.not_imp.1 blocked).1, after, failure, failed, changed⟩

/-- The file system stays like the one at the start. -/
theorem alike_replayOne
    {memory : FileSystem × σ}
    (alike : config.Alike start.1 memory.1) :
    config.Alike start.1 (archive.replayOne frontEnd config index memory).memory.1 := by
  by_cases served : config.Serves start.1
  · have serves :
        config.Serves (archive.replayOne frontEnd config index memory).memory.1 :=
      serves_replayOne (alike.serves.2 served)
    exact ⟨iff_of_true serves served, fun blocked => absurd served blocked⟩
  have blocked : ¬ config.Serves memory.1 := mt alike.serves.1 served
  cases reading : archive.record index with
  | error failure =>
    rw [replayOne, reading]
    exact alike
  | ok record =>
    rcases Classical.not_imp.1 blocked with ⟨kind, notReady⟩
    cases planned : archive.plan record config.host with
    | error failure =>
      rw [replayOne_of_unplanned reading kind planned]
      exact alike
    | ok plan =>
      rcases replayOne_of_blocked reading planned blocked with ⟨after, fault, failed, replaying⟩
      rw [replaying]
      rcases Session.createDirectory_of_not_ready notReady with ⟨_, -, -, fewer⟩
      rw [failed] at fewer
      constructor
      case serves => exact iff_of_false (fun serves => blocked (serves.mono fewer)) served
      case untouched =>
        intro _ clean
        have same := alike.untouched served clean
        rw [same] at failed
        exact eq_of_not_leavesDebris served clean failed

/-- The outcome of a record does not depend on what was replayed before, debris apart. -/
theorem independent_replayOne
    (pure : frontEnd.DependsOnRequest)
    {memory : FileSystem × σ}
    (alike : config.Alike start.1 memory.1) :
    Independent config start.1 (archive.replayOne frontEnd config index memory).outcome
      (archive.replayOne frontEnd config index start).outcome := by
  by_cases served : config.Serves start.1
  · exact Or.inl (outcome_of_serves pure (alike.serves.2 served) served)
  have blocked : ¬ config.Serves memory.1 := mt alike.serves.1 served
  cases reading : archive.record index with
  | error failure =>
    left
    simp only [replayOne, reading]
  | ok record =>
    cases planned : archive.plan record config.host with
    | error failure =>
      left
      have kind := (Classical.not_imp.1 served).1
      rw [replayOne_of_unplanned reading kind planned, replayOne_of_unplanned reading kind planned]
    | ok plan =>
      rcases replayOne_of_blocked reading planned blocked with ⟨after, fault, failed, replaying⟩
      rcases replayOne_of_blocked reading planned served with ⟨later, other, failing, alone⟩
      rw [replaying, alone]
      by_cases debris : config.LeavesDebris start.1
      · exact Or.inr ⟨debris, ⟨fault, rfl⟩, ⟨other, rfl⟩⟩
      · left
        rw [alike.untouched served debris, failing] at failed
        cases failed
        rfl

/-! ## The whole replay -/

/--
Whatever the schedule, a replay whose workers have all stopped reports a prefix
of the records in order, all of them unless it was cancelled, and each outcome
is the one that replaying the record alone gives.  Only where sessions can not
be given their directories and the attempt leaves debris, the two may fail for
different reasons that lie in the file system.
-/
theorem replay_is_an_independent_prefix
    (archive : Archive)
    (config : ReplayConfig)
    {frontEnd : FrontEnd σ α}
    (pure : frontEnd.DependsOnRequest)
    (start : FileSystem × σ)
    (isCancelled : Bool)
    (schedule : List CrewEvent)
    (done :
      ((Crew.new (archive.crewSize config) start isCancelled).run archive.count
        (archive.replayOne frontEnd config.loader) schedule).isDone = true) :
    let task := archive.replayOne frontEnd config.loader
    let crew := Crew.new (archive.crewSize config) start isCancelled
    let cancelled := Crew.CancelledDuring archive.count task crew schedule
    let report := archive.report (crew.run archive.count task schedule)
    (∃ length, length ≤ archive.count ∧ report.outcomes.map Prod.fst = List.range length ∧
        (¬ cancelled → length = archive.count) ∧
        (report.isCancelled = true ↔ cancelled ∧ length < archive.count)) ∧
      ∀ item ∈ report.outcomes,
        Independent config.loader start.1 item.2 (task item.1 start).outcome := by
  intro task crew cancelled report
  have regular : (crew.run archive.count task schedule).Regular archive.count
      (archive.crewSize config) :=
    (Crew.Regular.new archive.count _ start isCancelled).run task schedule
  have staffed : 0 < archive.crewSize config := by
    rw [crewSize]
    omega
  rcases regular.finished staffed done with ⟨length, bounded, finished, exhaustive⟩
  have preserved :
      Crew.Preserves task (fun memory => config.loader.Alike start.1 memory.1)
        fun index outcome => Independent config.loader start.1 outcome (task index start).outcome :=
    fun index memory alike => ⟨alike_replayOne alike, independent_replayOne pure alike⟩
  have alike : config.loader.Alike start.1 crew.memory.1 := .refl config.loader start.1
  have outcomes := (preserved.outcomes_run archive.count alike nofun schedule).2
  have attempted : (crew.run archive.count task schedule).outcomes.length = length := by
    rw [← List.length_map, finished.length_eq, List.length_range]
  refine ⟨⟨length, bounded, Crew.map_fst_sortedOutcomes finished, ?_, ?_⟩, ?_⟩
  · intro never
    apply exhaustive
    rw [← Bool.not_eq_true, ← Crew.cancelledDuring_iff]
    exact never
  · show decide _ = true ↔ _
    rw [decide_eq_true_iff, attempted, ← Crew.cancelledDuring_iff]
  · intro item member
    exact outcomes item (Crew.mem_sortedOutcomes.1 member)

end Archive

/-! ## A file in the way -/

/-- An archive that was published opens, and it serves the records that were committed. -/
theorem opens_with_records
    {path : String}
    {config : WriterConfig}
    {recording : Recording}
    {journal : Journal}
    (reached : Reaches path config (.idle recording journal))
    (finished : recording.finish.2.isOk = true) :
    ∃ archive, Archive.openFile recording.finish.1.files path {} = .ok archive ∧
      archive.count = journal.committed.length ∧
      ∀ index committed, journal.committed[index]? = some committed →
        archive.record index = .ok committed.record := by
  rcases Recording.finish_of_isOk finished with ⟨summary, finishing⟩
  rcases reached.holds with ⟨faithful, sound⟩
  rcases faithful.reproduces sound finishing {} with ⟨archive, opening, reproduces, -⟩
  exact ⟨archive, opening, reproduces.count, fun _ _ there => reproduces.records there⟩

namespace FileInTheWay

open RewrittenFile

/-- The second of two equal invocations without inputs. -/
def again : Transcript where
  invocation :=
    match begun.commit.1.begin heading.projectPath heading.language heading.kind with
    | .ok invocation => invocation
    | .error _ => begun.invocation
  heading := heading
  journal := begun.commit.2

/-- The file system after the archive with both records was published. -/
def published : FileSystem :=
  again.commit.1.finish.1.files

set_option maxRecDepth 100000 in
theorem beginning :
    begun.commit.1.begin heading.projectPath heading.language heading.kind =
      .ok again.invocation := by
  have begins :
      (begun.commit.1.begin heading.projectPath heading.language heading.kind).isOk = true := by
    decide +kernel
  rw [again]
  cases outcome : begun.commit.1.begin heading.projectPath heading.language heading.kind with
  | ok invocation => rfl
  | error failure =>
    rw [outcome] at begins
    cases begins

set_option maxRecDepth 100000 in
/-- The archive opens, and it has both records. -/
theorem opens :
    ∃ archive, Archive.openFile published "out" {} = .ok archive ∧ archive.count = 2 ∧
      archive.record 0 = .ok heading.record ∧ archive.record 1 = .ok heading.record := by
  have reached : Reaches "out" settings (.idle again.commit.1 again.commit.2) :=
    (reaches_begun.commit.begin heading beginning).commit
  have facts :
      again.commit.2.committed =
          [⟨heading, [], heading.record⟩, ⟨heading, [], heading.record⟩] ∧
        again.commit.1.finish.2.isOk = true := by
    decide +kernel
  rcases facts with ⟨committed, finished⟩
  rcases opens_with_records reached finished with ⟨archive, opening, count, records⟩
  rw [committed] at count records
  exact ⟨archive, opening, count, records 0 _ rfl, records 1 _ rfl⟩

/-- Sessions are to get directories behind the file and beside a directory that is missing. -/
def config : ReplayConfig where
  loader := { kind := .onDisk, temporaryRoot := some "new/../a/sub" }

/-- A front end that returns the index of its request. -/
def numbering : FrontEnd Unit Nat :=
  fun request memory => { memory, outcome := .returned request.index }

theorem numbering_dependsOnRequest : numbering.DependsOnRequest := by
  intro request other memory otherMemory same
  have sameIndex : request.index = other.index := congrArg SeenRequest.index same
  exact congrArg FrontEndEnding.returned sameIndex

/-- What the first attempt to make a directory leaves. -/
def littered : FileSystem :=
  (Session.createDirectory published config.loader.temporaryRoot).1

set_option maxRecDepth 100000 in
/-- The first attempt fails at the file, the second one behind it. -/
theorem attempts :
    (Session.createDirectory published config.loader.temporaryRoot).2 =
        .error (.file .exists) ∧
      (Session.createDirectory littered config.loader.temporaryRoot).2 =
        .error (.file .notDirectory) := by
  decide +kernel

/-- A record without extensions is replayed no further than to the directory of its session. -/
theorem replayOne_of_attempt
    {archive : Archive}
    {index : Nat}
    (reading : archive.record index = .ok heading.record)
    {files : FileSystem}
    {fault : FileFault}
    (attempt :
      (Session.createDirectory files config.loader.temporaryRoot).2 = .error (.file fault)) :
    archive.replayOne numbering config.loader index (files, ()) =
      { memory := ((Session.createDirectory files config.loader.temporaryRoot).1, ())
        outcome := .error (.library (.file fault)) } := by
  apply Archive.replayOne_of_failed reading
  have creating :
      Session.createDirectory files config.loader.temporaryRoot =
        ((Session.createDirectory files config.loader.temporaryRoot).1, .error (.file fault)) :=
    Prod.ext rfl attempt
  have planned : archive.plan heading.record config.loader.host = .ok [] := rfl
  show Session.onDisk files archive heading.record config.loader = _
  simp only [Session.onDisk, planned]
  rw [creating]

/-- A single worker that takes its turns does two tasks one after the other. -/
theorem outcomes_of_turns
    {σ β : Type}
    {task : Task σ β}
    {memory : σ}
    (goesOn : (task 0 memory).cancels = false)
    (stillGoesOn : (task 1 (task 0 memory).memory).cancels = false) :
    ((Crew.new 1 memory false).run 2 task (Crew.turns 2 1)).outcomes =
      [(1, (task 1 (task 0 memory).memory).outcome), (0, (task 0 memory).outcome)] := by
  have alone : Crew.turns 2 1 = List.replicate 9 (.step 0) := rfl
  simp [alone, List.replicate, Crew.run, Crew.handle, Crew.step, Crew.new, Crew.setWorker,
    Crew.finish, goesOn, stillGoesOn]

/-- The second record fails for another reason after the first than it does alone. -/
theorem debris_changes_a_failure :
    ∃ archive, Archive.openFile published "out" {} = .ok archive ∧
      numbering.DependsOnRequest ∧
      ((Crew.new (archive.crewSize config) (published, ()) false).run archive.count
        (archive.replayOne numbering config.loader)
        (Crew.turns archive.count (archive.crewSize config))).isDone = true ∧
      ∃ item ∈ (archive.replay numbering config false (published, ())).1.outcomes,
        item.2 ≠ (archive.replayOne numbering config.loader item.1 (published, ())).outcome := by
  rcases opens with ⟨archive, opening, count, first, second⟩
  refine ⟨archive, opening, numbering_dependsOnRequest, Crew.isDone_turns _ _ _ _ _, ?_⟩
  have atFirst := replayOne_of_attempt first attempts.1
  have alone := replayOne_of_attempt second attempts.1
  have afterFirst :
      archive.replayOne numbering config.loader 1
          (archive.replayOne numbering config.loader 0 (published, ())).memory =
        { memory := ((Session.createDirectory littered config.loader.temporaryRoot).1, ())
          outcome := .error (.library (.file .notDirectory)) } := by
    rw [atFirst]
    exact replayOne_of_attempt second attempts.2
  have size : archive.crewSize config = 1 := by
    rw [Archive.crewSize, count]
    rfl
  refine ⟨(1, .error (.library (.file .notDirectory))), ?_, ?_⟩
  · apply Crew.mem_sortedOutcomes.2
    rw [size, count, outcomes_of_turns (by rw [atFirst]) (by rw [afterFirst]), afterFirst]
    exact List.mem_cons_self
  · rw [alone]
    exact nofun

/-- Two workers are to replay the records. -/
def twoWorkers : ReplayConfig where
  workers := 2

/-- The first worker has fetched a number when the replay is cancelled. -/
def cancelledEarly : List CrewEvent :=
  [.step 0, .step 0, .cancel, .step 1, .step 0, .step 0]

/-- A replay that is cancelled early has replayed the first of two records, as if alone. -/
theorem cancelled_replay_keeps_a_prefix :
    ∃ archive, Archive.openFile published "out" {} = .ok archive ∧
      let task := archive.replayOne numbering twoWorkers.loader
      let crew := Crew.new (archive.crewSize twoWorkers) (published, ()) false
      let report := archive.report (crew.run archive.count task cancelledEarly)
      (crew.run archive.count task cancelledEarly).isDone = true ∧
        report.outcomes.map Prod.fst = [0] ∧ report.isCancelled = true ∧
        ∀ item ∈ report.outcomes,
          Independent twoWorkers.loader published item.2 (task item.1 (published, ())).outcome := by
  rcases opens with ⟨archive, opening, count, -⟩
  refine ⟨archive, opening, ?_⟩
  have size : archive.crewSize twoWorkers = 2 := by
    rw [Archive.crewSize, count]
    rfl
  have done :
      ((Crew.new (archive.crewSize twoWorkers) (published, ()) false).run archive.count
        (archive.replayOne numbering twoWorkers.loader) cancelledEarly).isDone = true := by
    rw [size, count]
    rfl
  rcases archive.replay_is_an_independent_prefix twoWorkers numbering_dependsOnRequest
    (published, ()) false cancelledEarly done with ⟨⟨length, -, indices, -, cancelled⟩, alone⟩
  have once : length = 1 := by
    have lengths := congrArg List.length indices
    rw [List.length_map, List.length_range, size, count] at lengths
    exact lengths.symm.trans (List.length_mergeSort _)
  have early :
      Crew.CancelledDuring archive.count (archive.replayOne numbering twoWorkers.loader)
        (Crew.new (archive.crewSize twoWorkers) (published, ()) false) cancelledEarly := by
    refine ⟨[.step 0, .step 0, .cancel], [.step 1, .step 0, .step 0], rfl, ?_⟩
    rw [size, count]
    rfl
  refine ⟨done, ?_, cancelled.2 ⟨early, ?_⟩, alone⟩
  · rw [indices, once]
    rfl
  · rw [once, count]
    decide

end FileInTheWay

end BuildCapture
