import BuildCapture.Proofs.Archive.Calls

/-!
# What calls keep

The record of an invocation that has not failed is what its calls noted, given
the octets that were taken for their inputs, and the journal remembers all of
these inputs.  What was taken is what the file of the input showed at the time,
unless its path had the fingerprint of an earlier reading.  Each call either keeps
this up or makes the invocation fail.
-/

namespace BuildCapture

open Container

/-! ## Transcripts -/

/-- The recorder of a transcript is faithful, and its record is what was called if nothing failed. -/
structure Transcript.Holds
    (transcript : Transcript)
    (path : String) : Prop where
  faithful : transcript.invocation.recording.Faithful path transcript.journal
  sound : transcript.journal.Sound
  asCalled : transcript.invocation.failure = none →
    transcript.invocation.record = transcript.deeds.foldl Deed.note transcript.heading.record
  covers : transcript.invocation.failure = none →
    ∀ deed ∈ transcript.deeds, transcript.journal.Covers deed

/-- Of a transcript that has failed only the recorder and the journal matter. -/
theorem Transcript.Holds.of_failed
    {path : String}
    {transcript : Transcript}
    (failed : transcript.invocation.hasFailed = true)
    (faithful : transcript.invocation.recording.Faithful path transcript.journal)
    (sound : transcript.journal.Sound) :
    transcript.Holds path := by
  have noSuccess : transcript.invocation.failure ≠ none := Option.isSome_iff_ne_none.1 failed
  exact ⟨faithful, sound, fun unfailed => absurd unfailed noSuccess,
    fun unfailed => absurd unfailed noSuccess⟩

/--
What obtaining the input of a call leads to: the journal may observe the deed, and
what is noted of the input is what the deed notes.
-/
structure Obtains
    {α : Type}
    (path : String)
    (call : Call)
    (fetch : Recording → Recording × Except Failure α)
    (note : α → InvocationRecord → InvocationRecord) : Prop where
  succeeds : ∀ {recording after journal found},
    recording.Faithful path journal → fetch recording = (after, .ok found) →
      after.Faithful path (journal.observe (call.deed recording.files journal)) ∧
        journal.Admits (call.deed recording.files journal) ∧
        ∀ record, note found record = Deed.note record (call.deed recording.files journal)
  fails : ∀ {recording after failure},
    fetch recording = (after, .error failure) → after = recording ∨ after.Spent

variable [Zstd.Encoder]

namespace Transcript.Holds

variable
  {transcript : Transcript}
  {path : String}

/-- A call that does not fail keeps a transcript if the record becomes what is noted. -/
theorem of_noted
    (holds : transcript.Holds path)
    {call : Call}
    (unfailed : transcript.invocation.failure = none)
    (journal :
      (transcript.call call).journal = transcript.journal.observe (transcript.deed call))
    (faithful :
      (transcript.call call).invocation.recording.Faithful path
        (transcript.journal.observe (transcript.deed call)))
    (admits : transcript.journal.Admits (transcript.deed call))
    (noted :
      (transcript.call call).invocation.record =
        Deed.note transcript.invocation.record (transcript.deed call)) :
    (transcript.call call).Holds path := by
  constructor
  case faithful =>
    rw [journal]
    exact faithful
  case sound =>
    rw [journal]
    exact holds.sound.observe admits
  case asCalled =>
    intro _
    show (transcript.call call).invocation.record =
      (transcript.deeds ++ [transcript.deed call]).foldl Deed.note transcript.heading.record
    rw [List.foldl_append, ← holds.asCalled unfailed]
    exact noted
  case covers =>
    intro _ other member
    rw [journal]
    rcases List.mem_append.1 member with earlier | last
    · exact (holds.covers unfailed other earlier).mono (transcript.journal.grows_observe _)
    · rw [List.mem_singleton.1 last]
      exact admits.covers

/-- A call that notes a setting keeps a transcript. -/
theorem noting
    (holds : transcript.Holds path)
    {call : Call}
    {note : InvocationRecord → InvocationRecord}
    (applies : call.apply transcript.invocation = transcript.invocation.noting note)
    (noInput : call.pool? = none)
    (notes : ∀ data record, note record = call.note data record) :
    (transcript.call call).Holds path := by
  have noPool : (transcript.deed call).call.pool? = none := Call.pool?_deed noInput _ _
  have observed := transcript.journal.observe_setting noPool
  have called := Transcript.call_setting applies noInput
  cases before : transcript.invocation.failure with
  | some failure =>
    rw [called]
    exact of_failed (Option.isSome_of_eq_some before) holds.faithful holds.sound
  | none =>
    apply holds.of_noted before
    · rw [called, observed]
    · rw [called, observed]
      exact holds.faithful
    · exact Journal.admits_setting noInput _ _
    · rw [called, Deed.note, deed, Call.call_deed]
      exact notes _ _

/-- A call that adds an input keeps a transcript, whether or not the input is obtained. -/
theorem adding
    (holds : transcript.Holds path)
    {α : Type}
    {call : Call}
    {fetch : Recording → Recording × Except Failure α}
    {note : α → InvocationRecord → InvocationRecord}
    (applies : call.apply transcript.invocation = transcript.invocation.adding fetch note)
    (obtains : Obtains path call fetch note) :
    (transcript.call call).Holds path := by
  have adds := transcript.adds applies
  cases calling : transcript.call call with
  | mk invocation heading deeds journal =>
  rw [calling] at adds
  cases adds with
  | ignored failed => exact of_failed failed holds.faithful holds.sound
  | failed unfailed fetching =>
    exact of_failed rfl (holds.faithful.of_fail (obtains.fails fetching)) holds.sound
  | noted unfailed fetching =>
    rcases obtains.succeeds holds.faithful fetching with ⟨faithful, admits, noted⟩
    rw [← calling]
    apply holds.of_noted unfailed
    · rw [calling]
    · rw [calling]
      exact faithful
    · exact admits
    · rw [calling]
      exact noted _

end Transcript.Holds

/-! ## Calls -/

/-- A content is observed under the key that is noted. -/
theorem obtains_contentKey
    {path input : String}
    {call : Call}
    {note : ContentKey → InvocationRecord → InvocationRecord}
    (pool : call.pool? = some .blobs)
    (named : call.path? = some input)
    (notes : ∀ data record, note (.of data) record = call.note data record) :
    Obtains path call (·.contentKey input) note where
  succeeds {recording after journal key} faithful obtaining := by
    rcases faithful with ⟨writer, accepted, keeps⟩ | spent
    · rcases keeps.contentKey named pool obtaining with ⟨rfl, admits, faithful⟩
      refine ⟨faithful, admits, fun record => ?_⟩
      rw [Deed.note, Call.call_deed]
      exact notes _ record
    · exact absurd obtaining spent.contentKey
  fails obtaining := Recording.contentKey_error obtaining

/-- A text is observed under the key that is noted. -/
theorem obtains_storeText
    {path : String}
    {data : Octets}
    {call : Call}
    {note : ContentKey → InvocationRecord → InvocationRecord}
    (pool : call.pool? = some .blobs)
    (noFile : call.path? = none)
    (reads : ∀ files journal, (call.deed files journal).data = data)
    (notes : ∀ record, note (.of data) record = call.note data record) :
    Obtains path call (·.storeText data) note where
  succeeds {recording after journal key} faithful storing := by
    rcases faithful with ⟨writer, accepted, keeps⟩ | spent
    · rcases keeps.storeText noFile pool (reads _ _) storing with ⟨rfl, admits, faithful⟩
      refine ⟨faithful, admits, fun record => ?_⟩
      rw [Deed.note, Call.call_deed, reads]
      exact notes record
    · exact absurd storing spent.storeText
  fails storing := Recording.storeText_error storing

/-- A module is observed under the identity that is noted. -/
theorem obtains_moduleInfo
    {path input : String}
    {call : Call}
    {note : ModuleInfo → InvocationRecord → InvocationRecord}
    (pool : call.pool? = some .modules)
    (named : call.path? = some input)
    (notes : ∀ info image record, ModuleId.ofImage? image = some info.id →
      note info record = call.note image record) :
    Obtains path call (·.moduleInfo input) note where
  succeeds {recording after journal info} faithful obtaining := by
    rcases faithful with ⟨writer, accepted, keeps⟩ | spent
    · rcases keeps.moduleInfo named pool obtaining with
        ⟨described, reads, identified, admits, faithful⟩
      refine ⟨faithful, admits, fun record => ?_⟩
      rw [Deed.note, Call.call_deed]
      apply notes
      rw [ModuleId.ofImage?_of_described reads, identified]
    · exact absurd obtaining spent.moduleInfo
  fails obtaining := Recording.moduleInfo_error obtaining

/-- Every call keeps a transcript. -/
theorem Transcript.Holds.call
    {transcript : Transcript}
    {path : String}
    (holds : transcript.Holds path)
    (call : Call) :
    (transcript.call call).Holds path := by
  cases call.shape with
  | setting note pool applies notes => exact holds.noting (applies _) pool notes
  | content input note pool named applies notes =>
    exact holds.adding (applies _) (obtains_contentKey pool named notes)
  | text data note pool noFile applies reads notes =>
    exact holds.adding (applies _) (obtains_storeText pool noFile reads notes)
  | module input note pool named applies notes =>
    exact holds.adding (applies _) (obtains_moduleInfo pool named notes)

end BuildCapture
