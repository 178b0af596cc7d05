import BuildCapture.Proofs.Archive.Explanations
import BuildCapture.Proofs.Archive.Fidelity
import BuildCapture.Proofs.Pool.Verdicts

/-!
# How inputs fail

A call whose input is at fault makes the invocation fail as the input says, and
nothing but that is reported when the invocation is committed.  An input that can
not be found, opened or read is unreadable, with one exception: where reading
breaks off while a module is described, the module is unsupported.
-/

namespace BuildCapture

open Container

/-! ## Faults of files -/

/-- Why a pool does not take a file that shows this when it is opened. -/
def InputPool.Fails
    (pool : InputPool)
    (place : String)
    (isKnown : ModuleId → Bool)
    (shown : Except FileFault Source)
    (failure : Failure) :
    Prop :=
  match pool with
  | .blobs => FailsAsContent place shown failure
  | .modules => FailsAsModule place isKnown shown failure

namespace InputPool

variable
  {pool : InputPool}
  {place : String}
  {isKnown : ModuleId → Bool}
  {source : Source}

/-- What is wrong with a file is what is found to be. -/
theorem fault?_eq_some_iff
    {shown : Except FileFault Source}
    {failure : Failure} :
    pool.fault? place isKnown shown = some failure ↔ pool.Fails place isKnown shown failure := by
  cases shown with
  | error fault =>
    constructor
    · intro faulty
      cases faulty
      cases pool with
      | blobs => exact .closed
      | modules => exact .closed
    · intro fails
      cases pool <;> cases fails <;> rfl
  | ok source =>
    cases pool with
    | blobs =>
      constructor
      · intro faulty
        rcases Option.map_eq_some_iff.1 faulty with ⟨fault, breaks, rfl⟩
        exact .broken breaks
      · intro fails
        cases fails with
        | broken breaks => exact Option.map_eq_some_iff.2 ⟨_, breaks, rfl⟩
    | modules =>
      rw [Fails, failsAsModule_iff, fault?]
      cases describing : ModuleInfo.ofSource source with
      | error reason =>
        constructor
        · intro faulty
          cases faulty
          exact Or.inl ⟨reason, rfl, rfl⟩
        · rintro (⟨_, ⟨⟩, rfl⟩ | ⟨_, _, ⟨⟩, -⟩)
          rfl
      | ok found =>
        simp only
        constructor
        · intro faulty
          split at faulty
          · cases faulty
          next new =>
          rcases Option.map_eq_some_iff.1 faulty with ⟨fault, breaks, rfl⟩
          exact Or.inr ⟨found.1, found.2, rfl, Bool.not_eq_true _ ▸ new, fault, breaks, rfl⟩
        · rintro (⟨_, ⟨⟩, -⟩ | ⟨_, _, ⟨⟩, new, fault, breaks, rfl⟩)
          rw [new, breaks]
          rfl

/-- Only whether the module that is described is known makes a difference. -/
theorem fault?_congr
    {isKnownToo : ModuleId → Bool}
    (same : pool = .modules → ∀ info, ModuleInfo.ofOctets source.data = .ok info →
      isKnown info.id = isKnownToo info.id) :
    pool.fault? place isKnown (.ok source) = pool.fault? place isKnownToo (.ok source) := by
  cases pool with
  | blobs => rfl
  | modules =>
    simp only [fault?]
    cases describing : ModuleInfo.ofSource source with
    | error reason => rfl
    | ok found =>
      simp only [same rfl found.1 (ModuleInfo.ofOctets_of_ofSource describing)]

end InputPool

/-! ## Deeds that fail by themselves -/

namespace Recording.Keeps

variable
  {recording : Recording}
  {path : String}
  {journal : Journal}
  {writer : Writer}
  {accepted : List (String × Octets)}
  {call : Call}
  {input : String}
  {pool : InputPool}

/-- A call fails by itself if its file fails and no earlier reading of it is recalled. -/
theorem fault?_deed_iff
    (keeps : recording.Keeps path journal writer accepted)
    (named : call.path? = some input)
    (pooled : call.pool? = some pool)
    {failure : Failure} :
    (call.deed recording.files journal).fault? = some failure ↔
      (call.deed recording.files journal).recalled? = none ∧
        pool.Fails input recording.recorder.modules.contains (recording.files.openSource input)
          failure := by
  rw [← InputPool.fault?_eq_some_iff, FileSystem.openSource_eq]
  cases seen : recording.files.look input with
  | error fault =>
    have unrecalled : (call.deed recording.files journal).recalled? = none := by
      rw [Call.deed_of_file named pooled, seen]
      rfl
    rw [Call.fault?_deed_of_error named pooled seen, unrecalled]
    exact (and_iff_right rfl).symm
  | ok sight =>
    have recalls := Call.recalled?_deed named pooled seen journal
    rw [recalls]
    cases recalled : journal.recalled? input pool sight.fingerprint with
    | some reading => simp [Call.fault?_deed_of_recalled named pooled seen recalled]
    | none =>
      rw [Call.fault?_deed_of_unrecalled named pooled seen recalled, Except.map]
      have same :
          pool.fault? input (fun _ => pool == .modules && journal.hasStored sight.source.data)
              (.ok sight.source) =
            pool.fault? input recording.recorder.modules.contains (.ok sight.source) := by
        apply InputPool.fault?_congr
        rintro rfl info described
        exact keeps.contains_iff_hasStored described
      rw [same]
      exact (and_iff_right rfl).symm

/-- A reading that is recalled was none of a file that fails. -/
theorem recalled_is_harmless
    (keeps : recording.Keeps path journal writer accepted)
    (sound : journal.Sound)
    (named : call.path? = some input)
    (pooled : call.pool? = some pool)
    {reading : Reading}
    (recalls : (call.deed recording.files journal).recalled? = some reading)
    {failure : Failure} :
    ¬ pool.Fails input recording.recorder.modules.contains (.ok reading.sight.source) failure := by
  rw [Call.deed_of_file named pooled] at recalls
  rcases Option.bind_eq_some_iff.1 recalls with ⟨sight, -, recalled⟩
  cases pool with
  | blobs =>
    rcases Journal.mem_of_recalled? recalled with ⟨member, blobs, -⟩
    intro fails
    cases fails with
    | broken breaks =>
      rw [sound.contents input reading member blobs] at breaks
      cases breaks
  | modules =>
    have known := keeps.inputs.knownModule? input sight.fingerprint
    rw [recalled] at known
    generalize recording.recorder.knownModule? input sight.fingerprint = info? at known
    cases known with
    | some facts =>
      rcases facts with ⟨⟨found, described, same⟩, stored⟩
      rcases ModuleInfo.ofSource_of_ofOctets described with ⟨body, reads⟩
      have contained : recording.recorder.modules.contains found.id = true := by
        rw [same]
        exact Option.isSome_of_eq_some stored
      rw [← InputPool.fault?_eq_some_iff]
      simp [InputPool.fault?, reads, contained]

end Recording.Keeps

/-! ## Calls -/

theorem Invocation.adding_of_error
    {α : Type}
    {invocation : Invocation}
    {fetch : Recording → Recording × Except Failure α}
    {after : Recording}
    {failure : Failure}
    (unfailed : invocation.failure = none)
    (fetching : fetch invocation.recording = (after, .error failure))
    (note : α → InvocationRecord → InvocationRecord) :
    invocation.adding fetch note =
      { invocation with recording := after, failure := some failure } := by
  have notFailed : ¬ invocation.hasFailed = true := by
    rw [hasFailed, unfailed]
    exact Bool.false_ne_true
  rw [adding, if_neg notFailed]
  simp only [fetching]

section Calls

variable [Zstd.Encoder]

/-- However often it is called afterwards, an invocation that has failed is left out. -/
theorem Invocation.commit_of_failed
    {invocation : Invocation}
    {failure : Failure}
    (failed : invocation.failure = some failure)
    (confined : failure.isInvocationScoped = true)
    (later : List Call) :
    (later.foldl Call.apply invocation).commit =
      (invocation.recording.report invocation.record.projectPath failure, .error failure) := by
  induction later generalizing invocation with
  | nil =>
    rw [List.foldl_nil, commit, failed]
    simp only
    rw [drop, if_pos confined]
  | cons call rest ih =>
    rcases call.apply_of_failed invocation (Option.isSome_of_eq_some failed) with
      ⟨recording, same⟩
    rw [List.foldl_cons, ih (same.trans failed), recording, call.projectPath_apply]

namespace Transcript

variable
  {transcript : Transcript}
  {path : String}
  {writer : Writer}
  {call : Call}
  {failure : Failure}

/-- A call that is at fault fails so, and the recorder stays as it was. -/
theorem invocation_of_fault
    (faithful : transcript.invocation.recording.Faithful path transcript.journal)
    (stocked : transcript.Stocked)
    (records : transcript.invocation.recording.recorder.state = .recording writer)
    (unfailed : transcript.invocation.failure = none)
    (faulty : (transcript.deed call).fault? = some failure) :
    (transcript.call call).invocation =
      { transcript.invocation with failure := some failure } := by
  cases transcript.comesTo faithful stocked call with
  | noting _ _ harmless _ =>
    rw [show (transcript.deed call).fault? = none from harmless] at faulty
    cases faulty
  | @obtaining α data fetch note applies _ ends =>
    have failing : fetch transcript.invocation.recording =
        (transcript.invocation.recording, .error failure) :=
      (ends records).eq_of_fault faulty
    show call.apply transcript.invocation = _
    rw [applies]
    exact Invocation.adding_of_error unfailed failing note

/-- A call fails with a failure that concerns only its invocation exactly if it is at fault. -/
theorem failure_call_iff
    (faithful : transcript.invocation.recording.Faithful path transcript.journal)
    (stocked : transcript.Stocked)
    (records : transcript.invocation.recording.recorder.state = .recording writer)
    (unfailed : transcript.invocation.failure = none)
    (confined : failure.isInvocationScoped = true) :
    (transcript.call call).invocation.failure = some failure ↔
      (transcript.deed call).fault? = some failure := by
  constructor
  · intro failed
    have before : transcript.Stands [] := .unharmed unfailed records rfl
    have after := before.call (transcript.comesTo faithful stocked call)
    rw [List.nil_append] at after
    cases after with
    | unharmed unfailedToo =>
      rw [failed] at unfailedToo
      cases unfailedToo
    | faulty other _ first =>
      rw [failed] at other
      cases other
      rw [List.findSome?_singleton] at first
      exact first
    | exhausted other exhausted =>
      rw [failed] at other
      cases other
      rw [exhausted.not_scoped] at confined
      cases confined
  · intro faulty
    rw [invocation_of_fault faithful stocked records unfailed faulty]

end Transcript

/--
How inputs fail.  A call on an invocation that has not failed fails with a failure
of its input exactly if the file of the input fails as this pool takes it, unless
an earlier reading is recalled, in which case it does not fail so; where what is
recalled is what the file still shows, that makes no difference.  Whatever is
called afterwards, this failure is what the invocation is left out with and what
is reported.  A storeroom in any state in which there is room for what is read
answers in the same way for anything that can be read in pieces and breaks off
anywhere.  A file is an unsupported module without being malformed exactly where
reading breaks off before the module is described.
-/
theorem inputs_fail_as_their_files
    [Zstd.Packer]
    {path : String}
    {config : WriterConfig}
    {transcript : Transcript}
    (reached : Reaches path config (.lent transcript))
    {writer : Writer}
    (records : transcript.invocation.recording.recorder.state = .recording writer)
    (unfailed : transcript.invocation.failure = none)
    {call : Call}
    {pool : InputPool}
    {input : String}
    (pooled : call.pool? = some pool)
    (named : call.path? = some input) :
    (∀ failure : Failure, failure.isInvocationScoped = true →
      ((transcript.call call).invocation.failure = some failure ↔
          (transcript.deed call).recalled? = none ∧
            pool.Fails input transcript.invocation.recording.recorder.modules.contains
              (transcript.invocation.recording.files.openSource input) failure) ∧
        ((∀ reading, (transcript.deed call).recalled? = some reading →
            transcript.invocation.recording.files.openSource input =
              .ok reading.sight.source) →
          ((transcript.call call).invocation.failure = some failure ↔
            pool.Fails input transcript.invocation.recording.recorder.modules.contains
              (transcript.invocation.recording.files.openSource input) failure)) ∧
        ((transcript.call call).invocation.failure = some failure →
          ∀ later : List Call,
            (later.foldl Transcript.call (transcript.call call)).invocation.commit =
              (transcript.invocation.recording.report transcript.invocation.record.projectPath
                failure, .error failure))) ∧
      (∀ fault, transcript.invocation.recording.files.stat input = .error fault →
        (transcript.call call).invocation.failure = some (.inputUnreadable input fault)) ∧
      (∀ isKnown source fault,
        FailsAsModule input isKnown (.ok source) (.unsupportedModule input (.unreadable fault)) ↔
          ModuleInfo.BreaksOff source fault) ∧
      ∀ {files started : FileSystem} {place : String} {settings : WriterConfig} {first : Writer},
        Writer.create files place settings = (started, .ok first) →
          ∀ (actions : List Ledger.Action) (blobs : BlobPool) (modules : ModulePool)
            (opened : Except FileFault Reader),
            let room : Storeroom :=
              { scribe := ((Ledger.start started first).run actions).scribe, blobs, modules }
            room.HasRoomFor opened →
              ∀ failure : Failure, failure.isInvocationScoped = true →
                ((room.storeFile input opened).2 = .error failure ↔
                    FailsAsContent input (opened.map Reader.source) failure) ∧
                  ((room.storeModuleFile input opened).2 = .error failure ↔
                    FailsAsModule input modules.contains (opened.map Reader.source) failure) := by
  have faithful := reached.holds.faithful
  have stocked := reached.stocked
  rcases faithful.keeps records with ⟨accepted, keeps⟩
  have fails : ∀ {failure : Failure}, failure.isInvocationScoped = true →
      ((transcript.call call).invocation.failure = some failure ↔
        (transcript.deed call).fault? = some failure) :=
    fun confined => Transcript.failure_call_iff faithful stocked records unfailed confined
  have exactly : ∀ {failure : Failure}, failure.isInvocationScoped = true →
      ((transcript.call call).invocation.failure = some failure ↔
        (transcript.deed call).recalled? = none ∧
          pool.Fails input transcript.invocation.recording.recorder.modules.contains
            (transcript.invocation.recording.files.openSource input) failure) :=
    fun confined => (fails confined).trans (keeps.fault?_deed_iff named pooled)
  refine ⟨?_, ?_, fun _ _ _ => failsAsModule_unreadable_iff, ?_⟩
  · intro failure confined
    refine ⟨exactly confined, ?_, ?_⟩
    · intro current
      refine (exactly confined).trans (and_iff_right_of_imp ?_)
      intro fails
      rw [Option.eq_none_iff_forall_ne_some]
      intro reading recalls
      rw [current reading recalls] at fails
      exact keeps.recalled_is_harmless reached.holds.sound named pooled recalls fails
    · intro failed later
      have left := Transcript.invocation_of_fault faithful stocked records unfailed
        ((fails confined).1 failed)
      rw [Transcript.invocation_foldl_call, Invocation.commit_of_failed failed confined, left]
  · intro fault missing
    exact (fails rfl).2
      (Call.fault?_deed_of_error named pooled (FileSystem.stat_eq_error_iff.1 missing))
  · intro files started place settings first creating actions blobs modules opened room fits
      failure confined
    rcases (Ledger.sound_start creating).run actions with ⟨draft, sound⟩
    have inStep : room.scribe.InStep place draft := sound.inStep
    exact ⟨Storeroom.storeFile_error_iff inStep fits input confined,
      Storeroom.storeModuleFile_error_iff inStep fits input confined⟩

end Calls

/-! ## Inputs of each kind -/

namespace FailingInputs

open RewrittenFile Storeroom

/-- The call that adds the file as a module. -/
def referencing : Call := .reference "a" .assembly false []

set_option maxRecDepth 100000 in
/--
A short file is no module.  A stream that breaks off makes a content unreadable,
but a module unsupported if it had to be described.
-/
theorem inputs_fail_in_three_ways :
    Reaches "out" settings (.lent begun) ∧
      (begun.call referencing).invocation.failure = some (.unsupportedModule "a" .truncated) ∧
      ∃ started writer, Writer.create noFiles "plain" plainConfig = (started, .ok writer) ∧
        (let room : Storeroom := { scribe := ((Ledger.start started writer).run []).scribe }
        (room.storeFile "a" (.ok brokenReader)).2 =
            .error (.inputUnreadable "a" (.source "broken")) ∧
          (room.storeModuleFile "a" (.ok brokenReader)).2 =
            .error (.unsupportedModule "a" (.unreadable (.source "broken")))) := by
  obtain ⟨writer, records⟩ :
      ∃ writer, begun.invocation.recording.recorder.state = .recording writer :=
    Recording.begin_isOk_iff.1 ⟨_, Recording.begin_start created "p" .csharp .regular⟩
  have pooled : referencing.pool? = some .modules := rfl
  have named : referencing.path? = some "a" := rfl
  rcases inputs_fail_as_their_files reaches_begun records rfl pooled named with
    ⟨calls, -, -, stores⟩
  obtain ⟨ledger, plain, packs, fits⟩ :
      ∃ ledger, Ledger.plainLedger [] = some ledger ∧
        Scribe.form? ledger.scribe.compression brokenReader.whole = some ([1, 2], 0) ∧
        ledger.scribe.offset + 2 ≤ FileSystem.maximalFile := by
    refine ⟨_, rfl, ?_⟩
    decide +kernel
  rcases Ledger.run_of_plainLedger plain with ⟨started, first, creating, rfl⟩
  have room : ({ scribe := ((Ledger.start started first).run []).scribe } : Storeroom).HasRoomFor
      (.ok brokenReader) := by
    rintro reader same
    cases same
    exact ⟨_, packs, fits⟩
  refine ⟨reaches_begun, ?_, started, first, creating, ?_⟩
  · have opened : begun.invocation.recording.files.openSource "a" = .ok (.ofOctets [97]) := by
      decide +kernel
    refine (calls (.unsupportedModule "a" .truncated) rfl).1.2 ⟨?_, ?_⟩
    · decide +kernel
    · rw [opened]
      exact .malformed ⟨rfl, fun _ => rfl⟩
  · have verdicts := stores creating [] {} {} (.ok brokenReader) room
    refine ⟨(verdicts _ rfl).1.2 (.broken rfl), (verdicts _ rfl).2.2 (.undescribed ⟨rfl, ?_⟩)⟩
    decide +kernel

end FailingInputs

/-! ## A directory -/

namespace DirectoryAsInput

open RewrittenFile (settings recorderOver begunOver)

/-- A file system with nothing but a directory. -/
def files : FileSystem where
  workingDirectory := []
  nodes := [(["dir"], .directory)]
  clock := 1

/-- An invocation on which nothing has been called. -/
def begun : Invocation := (begunOver files).invocation

set_option maxRecDepth 100000 in
/-- A directory can not be read, and yet it is reported as a module that is unsupported. -/
theorem directory_is_an_unsupported_module :
    (Recorder.create files "out" settings).2.isOk = true ∧
      (recorderOver files).begin "p" .csharp .regular = .ok begun ∧
      (recorderOver files).files.openSource "dir" = .ok { data := [], fault := some .isDirectory } ∧
      (begun.addReference "dir" .assembly false []).failure =
        some (.unsupportedModule "dir" (.unreadable .isDirectory)) ∧
      (begun.addContent "dir" .source).failure = some (.inputUnreadable "dir" .isDirectory) ∧
      (begun.addReference "dir" .assembly false []).commit.1.recorder.diagnostics.map
        Diagnostic.kind = [.unsupportedModule] := by
  decide +kernel

end DirectoryAsInput

end BuildCapture
