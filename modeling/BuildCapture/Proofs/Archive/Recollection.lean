import BuildCapture.Proofs.Archive.Explanations

/-!
# What is recalled

Whatever is recalled was read in the same run, and nothing was wrong with it then.
So where no file was seen to change behind its fingerprint, every input is taken
as its file shows it.  Whether it is taken depends on the file alone, but for a
module that breaks off: its image is only read if there is none with its identity.
-/

namespace BuildCapture

open Container

/-! ## What deeds were shown -/

namespace Deed

/-- The path of the input, and what its file showed. -/
def seen?
    (deed : Deed) :
    Option (String × Sight) :=
  match deed.call.path?, deed.sight? with
  | some path, some (.ok sight) => some (path, sight)
  | _, _ => none

/-- A deed apart from what was remembered and stored before. -/
def bare
    (deed : Deed) :
    Deed where
  call := deed.call
  sight? := deed.sight?

/-- What is wrong with the input, even if nothing is recalled and its module is stored. -/
def ownFault?
    (deed : Deed) :
    Option Failure :=
  { deed.bare with isStored := true }.fault?

/-- The file of a module breaks off. -/
def BreaksOff
    (deed : Deed) :
    Prop :=
  deed.call.pool? = some .modules ∧ ∃ seen ∈ deed.seen?, seen.2.source.fault ≠ none

/-- A module has the identity of another one, and its file can be read to its end. -/
def Backs
    (deed other : Deed) :
    Prop :=
  deed.call.pool? = some .modules ∧ (∃ seen ∈ deed.seen?, seen.2.source.fault = none) ∧
    ModuleId.ofImage? deed.present = ModuleId.ofImage? other.present

instance (deed : Deed) : Decidable deed.BreaksOff :=
  inferInstanceAs (Decidable (_ ∧ _))

instance (deed other : Deed) : Decidable (deed.Backs other) :=
  inferInstanceAs (Decidable (_ ∧ _ ∧ _))

theorem mem_seen?_iff
    {deed : Deed}
    {path : String}
    {sight : Sight} :
    (path, sight) ∈ deed.seen? ↔
      deed.call.path? = some path ∧ deed.sight? = some (.ok sight) := by
  rw [Option.mem_def, seen?]
  split
  · next other another named shown => simp [named, shown]
  · next none =>
    constructor
    · intro seen
      cases seen
    · rintro ⟨named, shown⟩
      exact absurd shown (none path sight named)

/-- What a file shows is present. -/
theorem present_of_seen
    {deed : Deed}
    {path : String}
    {sight : Sight}
    (seen : (path, sight) ∈ deed.seen?) :
    deed.present = sight.source.data := by
  rcases deed with ⟨call, sight?, recalled?, isStored⟩
  rcases mem_seen?_iff.1 seen with ⟨named, shown⟩
  cases shown
  cases call <;> first | rfl | cases named

theorem reading?_eq_some_iff
    {deed : Deed}
    {path : String}
    {reading : Reading} :
    deed.reading? = some (path, reading) ↔
      deed.recalled? = none ∧ (path, reading.sight) ∈ deed.seen? ∧
        deed.call.pool? = some reading.pool := by
  rw [mem_seen?_iff, reading?]
  rcases reading with ⟨pool, sight⟩
  split
  · next other another shown unrecalled named pooled seen =>
    simp only [Option.some.injEq, Prod.mk.injEq, Reading.mk.injEq, Except.ok.injEq, unrecalled,
      named, pooled, seen, true_and]
    constructor
    · rintro ⟨path, pool, sight⟩
      exact ⟨⟨path, sight⟩, pool⟩
    · rintro ⟨⟨path, sight⟩, pool⟩
      exact ⟨path, pool, sight⟩
  · next none =>
    constructor
    · intro read
      cases read
    · rintro ⟨unrecalled, ⟨named, seen⟩, pooled⟩
      exact absurd seen (none path pool sight unrecalled named pooled)

end Deed

/-! ## Harmless files -/

/-- A file that a pool takes it takes all the more if the module is stored. -/
theorem InputPool.fault?_of_known
    {pool : InputPool}
    {path : String}
    {isKnown : ModuleId → Bool}
    {shown : Except FileFault Source}
    (harmless : pool.fault? path isKnown shown = none) :
    pool.fault? path (fun _ => true) shown = none := by
  cases shown with
  | error fault => exact harmless
  | ok source =>
    cases pool with
    | blobs => exact harmless
    | modules =>
      rw [fault?] at harmless ⊢
      simp only at harmless ⊢
      split at harmless
      · cases harmless
      · rfl

namespace Deed

/-- What is wrong with the input is wrong with its file, unless it is recalled. -/
theorem ownFault?_of_unrecalled
    {deed : Deed}
    (unrecalled : deed.recalled? = none)
    (harmless : deed.fault? = none) :
    deed.ownFault? = none := by
  rw [fault?, unrecalled] at harmless
  rw [ownFault?, bare, fault?]
  simp only at harmless ⊢
  split
  · next path pool shown _ named pooled seen =>
    rw [named, pooled, seen] at harmless
    exact InputPool.fault?_of_known harmless
  · rfl

/-- Where nothing is wrong with the file, nothing is wrong but that a new module breaks off. -/
theorem fault?_of_ownFault?
    {deed : Deed}
    (harmless : deed.ownFault? = none)
    (stored : deed.BreaksOff → deed.isStored = true) :
    deed.fault? = none := by
  rw [fault?]
  split
  · next path pool shown _ named pooled seen =>
    rw [ownFault?, bare, fault?] at harmless
    simp only [named, pooled, seen] at harmless
    cases shown with
    | error fault => exact harmless
    | ok sight =>
      cases pool with
      | blobs => exact harmless
      | modules =>
        rw [Except.map, InputPool.fault?] at harmless ⊢
        simp only at harmless ⊢
        split at harmless
        · cases harmless
        by_cases whole : sight.source.fault = none
        · simp [whole]
        · rw [stored ⟨pooled, _, mem_seen?_iff.2 ⟨named, seen⟩, whole⟩, if_pos rfl]
  · rfl

/-- A module with whose file nothing is wrong is described by what it shows. -/
theorem described_of_ownFault?
    {deed : Deed}
    (harmless : deed.ownFault? = none)
    (pooled : deed.call.pool? = some .modules)
    {path : String}
    {sight : Sight}
    (seen : (path, sight) ∈ deed.seen?) :
    ∃ info, ModuleInfo.ofOctets sight.source.data = .ok info := by
  rcases mem_seen?_iff.1 seen with ⟨named, shown⟩
  rw [ownFault?, bare, fault?] at harmless
  simp only [named, pooled, shown, Except.map, InputPool.fault?] at harmless
  split at harmless
  · cases harmless
  · next info body reading => exact ⟨info, ModuleInfo.ofOctets_of_ofSource reading⟩

end Deed

/-! ## Fingerprints that tell -/

/-- No file was seen in two states that its fingerprint does not tell from each other. -/
def FingerprintsTell
    (deeds : List Deed) :
    Prop :=
  ∀ deed ∈ deeds, ∀ other ∈ deeds, ∀ seen ∈ deed.seen?, ∀ shown ∈ other.seen?,
    seen.1 = shown.1 → seen.2.fingerprint = shown.2.fingerprint → seen.2 = shown.2

instance (deeds : List Deed) : Decidable (FingerprintsTell deeds) :=
  inferInstanceAs (Decidable (∀ deed ∈ deeds, ∀ other ∈ deeds, ∀ seen ∈ deed.seen?,
    ∀ shown ∈ other.seen?, _ → _ → _))

theorem FingerprintsTell.mono
    {deeds more : List Deed}
    (tell : FingerprintsTell more)
    (inside : ∀ deed ∈ deeds, ∃ other ∈ more, deed.seen? = other.seen?) :
    FingerprintsTell deeds := by
  intro deed member other memberToo
  rcases inside deed member with ⟨first, there, same⟩
  rcases inside other memberToo with ⟨second, thereToo, sameToo⟩
  rw [same, sameToo]
  exact tell first there second thereToo

/-- What is recalled was read by a deed with which nothing was wrong. -/
structure Journal.Attests
    (journal : Journal)
    (deeds : List Deed) : Prop where
  read : ∀ path reading, (path, reading) ∈ journal.readings →
    ∃ deed ∈ deeds, deed.reading? = some (path, reading) ∧ deed.fault? = none
  recalled : ∀ deed ∈ deeds, ∀ reading, deed.recalled? = some reading →
    ∃ path, (path, reading) ∈ journal.readings ∧ deed.Recalls path reading

namespace Journal.Attests

variable
  {journal : Journal}
  {deeds : List Deed}

/-- A deed that recalls was shown what a deed that did not recall was shown. -/
theorem read_of_recalled
    (attests : journal.Attests deeds)
    (tell : FingerprintsTell deeds)
    {deed : Deed}
    (member : deed ∈ deeds)
    {reading : Reading}
    (recalled : deed.recalled? = some reading) :
    ∃ path, deed.Recalls path reading ∧ (path, reading.sight) ∈ deed.seen? ∧
      ∃ other ∈ deeds, other.reading? = some (path, reading) ∧ other.fault? = none := by
  rcases attests.recalled deed member reading recalled with ⟨path, earlier, recalls⟩
  rcases attests.read path reading earlier with ⟨other, memberToo, read, harmless⟩
  rcases recalls.shown with ⟨sight, shown, same⟩
  have seen := Deed.mem_seen?_iff.2 ⟨recalls.path, shown⟩
  have seenToo := (Deed.reading?_eq_some_iff.1 read).2.1
  have alike : sight = reading.sight := tell deed member other memberToo _ seen _ seenToo rfl same
  rw [alike] at seen
  exact ⟨path, recalls, seen, other, memberToo, read, harmless⟩

/-- Where fingerprints tell, what is taken for an input is what it has. -/
theorem data_eq_present
    (attests : journal.Attests deeds)
    (tell : FingerprintsTell deeds)
    {deed : Deed}
    (member : deed ∈ deeds) :
    deed.data = deed.present := by
  cases recalled : deed.recalled? with
  | none => simp only [Deed.data, recalled]
  | some reading =>
    rcases attests.read_of_recalled tell member recalled with ⟨path, recalls, seen, -⟩
    rw [recalls.taken, Deed.present_of_seen seen]

/-- Where fingerprints tell, nothing is wrong with the file of a deed that is harmless. -/
theorem ownFault?_of_harmless
    (attests : journal.Attests deeds)
    (tell : FingerprintsTell deeds)
    {deed : Deed}
    (member : deed ∈ deeds)
    (harmless : deed.fault? = none) :
    deed.ownFault? = none := by
  cases recalled : deed.recalled? with
  | none => exact Deed.ownFault?_of_unrecalled recalled harmless
  | some reading =>
    rcases attests.read_of_recalled tell member recalled with
      ⟨path, recalls, seen, other, -, read, harmlessToo⟩
    rcases Deed.reading?_eq_some_iff.1 read with ⟨unrecalled, seenToo, pooled⟩
    have own := Deed.ownFault?_of_unrecalled unrecalled harmlessToo
    rcases Deed.mem_seen?_iff.1 seen with ⟨named, shown⟩
    rcases Deed.mem_seen?_iff.1 seenToo with ⟨namedToo, shownToo⟩
    rw [Deed.ownFault?, Deed.bare, Deed.fault?] at own ⊢
    simp only [named, shown, recalls.pool] at own ⊢
    simp only [namedToo, shownToo, pooled] at own
    exact own

end Journal.Attests

/-! ## Modules that break off -/

/-- Every module that breaks off comes after one with its identity that does not. -/
def Backed
    (deeds : List Deed) :
    Prop :=
  ∀ first ∈ deeds.inits, ∀ deed ∈ first, deed.BreaksOff → ∃ other ∈ first, other.Backs deed

instance (deeds : List Deed) : Decidable (Backed deeds) :=
  inferInstanceAs (Decidable (∀ first ∈ deeds.inits, ∀ deed ∈ first, _ → ∃ other ∈ first, _))

/-- Deeds that are harmless in any run in which nothing runs out. -/
structure Acceptable (deeds : List Deed) : Prop where
  tell : FingerprintsTell deeds
  harmless : ∀ deed ∈ deeds, deed.ownFault? = none
  backed : Backed deeds

/-- What comes first of acceptable deeds is acceptable. -/
theorem Acceptable.of_append
    {deeds more : List Deed}
    (acceptable : Acceptable (deeds ++ more)) :
    Acceptable deeds where
  tell := acceptable.tell.mono fun deed member => ⟨deed, List.mem_append_left _ member, rfl⟩
  harmless deed member := acceptable.harmless deed (List.mem_append_left _ member)
  backed first member :=
    acceptable.backed first <| (List.mem_inits _ _).2 <|
      ((List.mem_inits _ _).1 member).trans (List.prefix_append deeds more)

/-! ## Runs -/

/-- A step apart from what was remembered and stored before. -/
def Move.bare : Move → Move
  | .call deed => .call deed.bare
  | .unresolved raw reasons => .unresolved raw reasons

/-- What was called in the attempts of a log. -/
def loggedDeeds
    (log : List Attempt) :
    List Deed :=
  log.flatMap Attempt.deeds

theorem loggedDeeds_append
    (log : List Attempt)
    (last : Attempt) :
    loggedDeeds (log ++ [last]) = loggedDeeds log ++ last.deeds := by
  rw [loggedDeeds, List.flatMap_append, List.flatMap_singleton]
  rfl

/-- What was called in the attempts of a log and in the steps since. -/
def deedsOf
    (moves : List Move)
    (log : List Attempt) :
    List Deed :=
  loggedDeeds log ++ moves.filterMap Move.deed?

theorem deedsOf_nil
    (log : List Attempt) :
    deedsOf [] log = loggedDeeds log := by
  rw [deedsOf, List.filterMap_nil, List.append_nil]

theorem deedsOf_nil_append
    (log : List Attempt)
    (heading : Heading)
    (moves : List Move)
    (outcome : Outcome) :
    deedsOf [] (log ++ [⟨heading, moves, outcome⟩]) = deedsOf moves log := by
  rw [deedsOf_nil, loggedDeeds_append]
  rfl

theorem deedsOf_append_call
    (moves : List Move)
    (log : List Attempt)
    (deed : Deed) :
    deedsOf (moves ++ [.call deed]) log = deedsOf moves log ++ [deed] := by
  rw [deedsOf, List.filterMap_append, ← List.append_assoc]
  rfl

/-- What a deed recalls is the latest reading of its path. -/
theorem Call.recalls_of_recalled?
    {call : Call}
    {files : FileSystem}
    {journal : Journal}
    {reading : Reading}
    (recalled : (call.deed files journal).recalled? = some reading) :
    ∃ path, (path, reading) ∈ journal.readings ∧ (call.deed files journal).Recalls path reading := by
  cases named : call.path? with
  | none =>
    rw [deed_of_none named] at recalled
    cases recalled
  | some path =>
    cases pooled : call.pool? with
    | none =>
      rw [path?_of_pool? pooled] at named
      cases named
    | some pool =>
      cases seen : files.look path with
      | error fault =>
        rw [deed_of_file named pooled, seen] at recalled
        cases recalled
      | ok sight =>
        rw [recalled?_deed named pooled seen] at recalled
        exact ⟨path, recalls_deed named pooled seen recalled⟩

namespace Journal.Attests

variable
  {journal : Journal}
  {deeds : List Deed}

theorem empty : ({} : Journal).Attests [] where
  read _ _ member := absurd member List.not_mem_nil
  recalled _ member := absurd member List.not_mem_nil

/-- A deed that is not observed changes nothing. -/
theorem skip
    (attests : journal.Attests deeds)
    {deed : Deed}
    (recalls : ∀ reading, deed.recalled? = some reading →
      ∃ path, (path, reading) ∈ journal.readings ∧ deed.Recalls path reading) :
    journal.Attests (deeds ++ [deed]) where
  read path reading member := by
    rcases attests.read path reading member with ⟨other, inside, facts⟩
    exact ⟨other, List.mem_append_left _ inside, facts⟩
  recalled other member reading recalled := by
    rcases List.mem_append.1 member with earlier | last
    · exact attests.recalled other earlier reading recalled
    · rw [List.mem_singleton.1 last] at recalled ⊢
      exact recalls reading recalled

/-- A deed with which nothing is wrong may be observed. -/
theorem observe
    (attests : journal.Attests deeds)
    {deed : Deed}
    (harmless : deed.fault? = none)
    (recalls : ∀ reading, deed.recalled? = some reading →
      ∃ path, (path, reading) ∈ journal.readings ∧ deed.Recalls path reading) :
    (journal.observe deed).Attests (deeds ++ [deed]) := by
  have skipped := attests.skip recalls
  by_cases noInput : deed.call.pool? = none
  · rw [journal.observe_setting noInput]
    exact skipped
  constructor
  case read =>
    intro path reading member
    rcases (mem_readings_observe noInput).1 member with read | earlier
    · exact ⟨deed, List.mem_append_right _ List.mem_cons_self, read, harmless⟩
    · exact skipped.read path reading earlier
  case recalled =>
    intro other member reading recalled
    rcases skipped.recalled other member reading recalled with ⟨path, earlier, facts⟩
    exact ⟨path, (journal.grows_observe deed).readings earlier, facts⟩

end Journal.Attests

section Runs

variable [Zstd.Encoder]

/-- The readings in a journal do not depend on what is committed. -/
theorem Transcript.readings_commit
    (transcript : Transcript) :
    transcript.commit.2.readings = transcript.journal.readings := by
  rw [commit]
  split <;> rfl

theorem Transcript.images_commit
    (transcript : Transcript) :
    transcript.commit.2.images = transcript.journal.images := by
  rw [commit]
  split <;> rfl

theorem Transcript.journal_call
    (transcript : Transcript)
    (call : Call) :
    (transcript.call call).journal =
      if (transcript.call call).invocation.hasFailed then transcript.journal
      else transcript.journal.observe (transcript.deed call) :=
  rfl

omit [Zstd.Encoder] in
/-- Modules that are stored stay so. -/
theorem Journal.lookup_images_observe_ne_none
    {journal : Journal}
    {id : ModuleId}
    (stored : List.lookup id journal.images ≠ none)
    (deed : Deed) :
    List.lookup id (journal.observe deed).images ≠ none := by
  rw [observe]
  split
  · exact stored
  · exact stored
  · intro absent
    rw [List.lookup_append, Option.or_eq_none_iff] at absent
    exact stored absent.1

omit [Zstd.Encoder] in
/-- A module that is taken as its file shows it is stored once it is observed. -/
theorem Journal.lookup_images_observe_self
    {journal : Journal}
    {deed : Deed}
    (taken : deed.data = deed.present)
    (pooled : deed.call.pool? = some .modules)
    {id : ModuleId}
    (identified : ModuleId.ofImage? deed.present = some id) :
    List.lookup id (journal.observe deed).images ≠ none := by
  rw [← taken] at identified
  rw [journal.observe_module pooled identified, ModulePool.lookup_append_singleton, if_pos rfl]
  exact Option.or_eq_none_iff.not.2 fun absent => Option.some_ne_none _ absent.2

variable
  {path : String}
  {config : WriterConfig}
  {changes : FileSystem → FileSystem → Prop}
  {stage : Stage}
  {moves : List Move}
  {log : List Attempt}

omit [Zstd.Encoder] in
/-- With the steps of an invocation that has not failed nothing is wrong. -/
theorem Transcript.Stands.harmless
    {transcript : Transcript}
    (stands : transcript.Stands moves)
    (unfailed : transcript.invocation.failure = none) :
    ∀ move ∈ moves, move.fault? = none := by
  cases stands with
  | unharmed _ _ harmless => exact List.findSome?_eq_none_iff.1 harmless
  | faulty failed | exhausted failed =>
    rw [failed] at unfailed
    cases unfailed

omit [Zstd.Encoder] in
/-- An invocation with whose steps nothing is wrong has not failed, if the recorder records. -/
theorem Transcript.Stands.unfailed
    {transcript : Transcript}
    (stands : transcript.Stands moves)
    (records : ∃ writer, transcript.invocation.recording.recorder.state = .recording writer)
    (harmless : ∀ move ∈ moves, move.fault? = none) :
    transcript.invocation.failure = none := by
  cases stands with
  | unharmed unfailed => exact unfailed
  | faulty _ _ first =>
    rw [List.findSome?_eq_none_iff.2 harmless] at first
    cases first
  | exhausted _ _ aborted =>
    rcases records with ⟨writer, records⟩
    rw [aborted] at records
    cases records

/-- Whatever is recalled in a run was read in it by a deed with which nothing was wrong. -/
theorem Conducts.attests
    (foreign : AreForeign path changes)
    (conducts : Conducts path config changes stage moves log) :
    stage.journal.Attests (deedsOf moves log) := by
  refine Conducts.induct (motive := fun stage moves log =>
    stage.journal.Attests (deedsOf moves log)) ?create ?elapse ?begin ?call ?commit ?drop
    ?unresolved conducts
  case create => exact fun _ _ => .empty
  case elapse =>
    intro stage moves log files attests _
    cases stage <;> exact attests
  case begin => exact fun attests _ _ => attests
  case call =>
    intro transcript moves log conducts attests call
    have stands := ((conducts.call call).explained foreign).1
    have recalls : ∀ reading, (transcript.deed call).recalled? = some reading → _ :=
      fun reading => Call.recalls_of_recalled?
    rw [Transcript.move, deedsOf_append_call, Stage.journal, transcript.journal_call]
    split
    · exact attests.skip recalls
    · next unfailed =>
      have harmless := stands.harmless (Option.not_isSome_iff_eq_none.1 unfailed) _
        (List.mem_append_right _ List.mem_cons_self)
      exact attests.observe harmless recalls
  case commit =>
    intro transcript moves log _ attests
    rw [deedsOf_nil_append]
    constructor
    · rw [Stage.journal, transcript.readings_commit]
      exact attests.read
    · rw [Stage.journal, transcript.readings_commit]
      exact attests.recalled
  case drop =>
    intro transcript moves log attests
    rw [deedsOf_nil_append]
    exact attests
  case unresolved =>
    intro recording journal log attests raw reasons
    rw [deedsOf_nil_append]
    exact attests

/-- A recorder that has given up does not record after a commit. -/
theorem Invocation.state_commit_of_aborted
    {invocation : Invocation}
    {reason : String}
    (aborted : invocation.recording.recorder.state = .aborted reason) :
    invocation.commit.1.recorder.state = .aborted reason := by
  have idle : invocation.recording.bench = .error (.aborted reason) := by
    simp only [Recording.bench, Recorder.writer, aborted]
  rw [commit]
  split
  · next failure _ =>
    rw [drop]
    split
    · exact aborted
    · rw [Recording.fail_of_idle idle]
      exact aborted
  · simp only [Recording.storeRecord, idle, Recording.fail_of_idle idle, aborted]

/-- The failure of the invocation that a recorder is lent to. -/
def Stage.failure? : Stage → Option Failure
  | .idle _ _ => none
  | .lent transcript => transcript.invocation.failure

/--
How far a run has come whose calls are acceptable: nothing was wrong with any of
them, and every module is stored.
-/
structure Stage.Keeping
    (stage : Stage)
    (moves : List Move)
    (log : List Attempt) : Prop where
  unfailed : stage.failure? = none
  harmless : ∀ deed ∈ deedsOf moves log, deed.fault? = none
  stored : ∀ deed ∈ deedsOf moves log, deed.call.pool? = some .modules →
    ∀ id, ModuleId.ofImage? deed.present = some id → List.lookup id stage.journal.images ≠ none

/-- A recorder that records after a call has recorded before. -/
theorem Transcript.Stands.records_of_call
    {transcript : Transcript}
    (stands : transcript.Stands moves)
    {call : Call}
    (records : ∃ writer,
      (transcript.call call).invocation.recording.recorder.state = .recording writer) :
    ∃ writer, transcript.invocation.recording.recorder.state = .recording writer := by
  cases stands with
  | unharmed _ recordsBefore | faulty _ recordsBefore => exact ⟨_, recordsBefore⟩
  | exhausted failed _ aborted =>
    have same : (transcript.call call).invocation.recording = transcript.invocation.recording :=
      (call.apply_of_failed transcript.invocation (Option.isSome_of_eq_some failed)).1
    rw [same, aborted] at records
    rcases records with ⟨writer, records⟩
    cases records

/-- A recorder that records after a commit has recorded before. -/
theorem Transcript.Stands.records_of_commit
    {transcript : Transcript}
    (stands : transcript.Stands moves)
    (records : ∃ writer, transcript.commit.1.recorder.state = .recording writer) :
    ∃ writer, transcript.invocation.recording.recorder.state = .recording writer := by
  rcases stands.room with recordsBefore | ⟨failure, -, aborted⟩
  · exact recordsBefore
  · rw [transcript.commit_fst, Invocation.state_commit_of_aborted aborted] at records
    rcases records with ⟨writer, records⟩
    cases records

omit [Zstd.Encoder] in
/-- A module that breaks off is stored already if an acceptable run comes to it. -/
theorem Transcript.isStored_of_backed
    {transcript : Transcript}
    {call : Call}
    {deeds : List Deed}
    (acceptable : Acceptable (deeds ++ [transcript.deed call]))
    (stored : ∀ deed ∈ deeds, deed.call.pool? = some .modules →
      ∀ id, ModuleId.ofImage? deed.present = some id →
        List.lookup id transcript.journal.images ≠ none)
    (breaks : (transcript.deed call).BreaksOff) :
    (transcript.deed call).isStored = true := by
  have last : transcript.deed call ∈ deeds ++ [transcript.deed call] :=
    List.mem_append_right _ List.mem_cons_self
  rcases acceptable.backed _ ((List.mem_inits _ _).2 List.prefix_rfl) _ last breaks with
    ⟨other, member, modules, ⟨seenToo, shownToo, whole⟩, alike⟩
  rcases breaks with ⟨pooled, ⟨input, sight⟩, seen, broken⟩
  have earlier : other ∈ deeds := by
    rcases List.mem_append.1 member with earlier | here
    · exact earlier
    · rw [List.mem_singleton.1 here] at shownToo
      cases Option.mem_unique seen shownToo
      exact absurd whole broken
  rcases Deed.described_of_ownFault? (acceptable.harmless _ last) pooled seen with
    ⟨info, described⟩
  have identified := ModuleId.ofImage?_of_described described
  have present := Deed.present_of_seen seen
  rw [present, identified] at alike
  have there := stored other earlier modules info.id alike
  rcases Deed.mem_seen?_iff.1 seen with ⟨named, shown⟩
  rw [deed, Call.call_deed] at pooled named
  have looked : transcript.invocation.recording.files.look input = .ok sight := by
    rw [deed, Call.deed_of_file named pooled] at shown
    exact Option.some.inj shown
  rw [deed, Call.isStored_deed named pooled looked, Journal.hasStored, identified]
  simpa [Option.isSome_iff_ne_none] using there

omit [Zstd.Encoder] in
/-- An attempt comes to its end without a change to what is stored. -/
theorem Stage.Keeping.conclude
    (keeping : stage.Keeping moves log)
    {recording : Recording}
    {journal : Journal}
    (heading : Heading)
    (outcome : Outcome)
    (images : journal.images = stage.journal.images) :
    (Stage.idle recording journal).Keeping [] (log ++ [⟨heading, moves, outcome⟩]) where
  unfailed := rfl
  harmless := by
    rw [deedsOf_nil_append]
    exact keeping.harmless
  stored := by
    rw [deedsOf_nil_append, Stage.journal, images]
    exact keeping.stored

/-- The next call of an acceptable run does not fail either. -/
theorem Conducts.keeping_call
    (foreign : AreForeign path changes)
    {transcript : Transcript}
    (conducts : Conducts path config changes (.lent transcript) moves log)
    (call : Call)
    (records : ∃ writer,
      (transcript.call call).invocation.recording.recorder.state = .recording writer)
    (acceptable : Acceptable (deedsOf (moves ++ [transcript.move call]) log))
    (keeping : (∃ writer, transcript.invocation.recording.recorder.state = .recording writer) →
      Acceptable (deedsOf moves log) → (Stage.lent transcript).Keeping moves log) :
    (Stage.lent (transcript.call call)).Keeping (moves ++ [transcript.move call]) log := by
  have before := (conducts.explained foreign).1
  have after := ((conducts.call call).explained foreign).1
  have attests := (conducts.call call).attests foreign
  rw [Transcript.move, deedsOf_append_call] at acceptable attests
  rcases keeping (before.records_of_call records) acceptable.of_append with
    ⟨unfailedBefore, harmlessBefore, storedBefore⟩
  have last : transcript.deed call ∈ deedsOf moves log ++ [transcript.deed call] :=
    List.mem_append_right _ List.mem_cons_self
  have harmless : (transcript.deed call).fault? = none :=
    Deed.fault?_of_ownFault? (acceptable.harmless _ last)
      (Transcript.isStored_of_backed acceptable storedBefore)
  have unfailed : (transcript.call call).invocation.failure = none :=
    after.unfailed records <| List.forall_mem_append.2
      ⟨before.harmless unfailedBefore, List.forall_mem_singleton.2 harmless⟩
  have observed : (transcript.call call).journal =
      transcript.journal.observe (transcript.deed call) := by
    have notFailed : ¬ (transcript.call call).invocation.hasFailed = true :=
      Option.not_isSome_iff_eq_none.2 unfailed
    rw [transcript.journal_call, if_neg notFailed]
  constructor
  case unfailed => exact unfailed
  case harmless =>
    rw [Transcript.move, deedsOf_append_call]
    exact List.forall_mem_append.2 ⟨harmlessBefore, List.forall_mem_singleton.2 harmless⟩
  case stored =>
    rw [Transcript.move, deedsOf_append_call, Stage.journal, observed]
    refine List.forall_mem_append.2 ⟨?_, List.forall_mem_singleton.2 ?_⟩
    · intro deed earlier pooled id identified
      exact Journal.lookup_images_observe_ne_none (storedBefore deed earlier pooled id identified) _
    · intro pooled id identified
      have taken := attests.data_eq_present acceptable.tell last
      exact Journal.lookup_images_observe_self taken pooled identified

/-- A run whose calls are acceptable fails at none of them, as long as it records. -/
theorem Conducts.keeping
    (foreign : AreForeign path changes)
    (conducts : Conducts path config changes stage moves log)
    (records : ∃ writer, stage.recording.recorder.state = .recording writer)
    (acceptable : Acceptable (deedsOf moves log)) :
    stage.Keeping moves log := by
  revert records acceptable
  refine Conducts.induct (motive := fun stage moves log =>
    (∃ writer, stage.recording.recorder.state = .recording writer) →
      Acceptable (deedsOf moves log) → stage.Keeping moves log) ?create ?elapse ?begin ?call
    ?commit ?drop ?unresolved conducts
  case create =>
    exact fun _ _ _ _ => ⟨rfl, List.forall_mem_nil _, List.forall_mem_nil _⟩
  case elapse =>
    intro stage moves log files keeping _ records acceptable
    cases stage with
    | idle recording journal | lent transcript =>
      rcases keeping records acceptable with ⟨unfailed, harmless, stored⟩
      exact ⟨unfailed, harmless, stored⟩
  case begin =>
    intro recording journal log invocation keeping heading beginning records acceptable
    rw [Recording.begin_eq_ok beginning] at records ⊢
    rcases keeping records acceptable with ⟨-, harmless, stored⟩
    exact ⟨rfl, harmless, stored⟩
  case call =>
    exact fun conducts keeping call records acceptable =>
      conducts.keeping_call foreign call records acceptable keeping
  case commit =>
    intro transcript moves log conducts keeping records acceptable
    have before := (conducts.explained foreign).1
    rw [deedsOf_nil_append] at acceptable
    exact (keeping (before.records_of_commit records) acceptable).conclude _ _
      transcript.images_commit
  case drop =>
    intro transcript moves log keeping records acceptable
    rw [deedsOf_nil_append] at acceptable
    exact (keeping records acceptable).conclude _ _ rfl
  case unresolved =>
    intro recording journal log keeping raw reasons records acceptable
    rw [deedsOf_nil_append] at acceptable
    have before : (Stage.idle recording journal).Keeping [.unresolved raw reasons] log :=
      ⟨rfl, (keeping records acceptable).harmless, (keeping records acceptable).stored⟩
    exact before.conclude _ _ rfl

end Runs

end BuildCapture
