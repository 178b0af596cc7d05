import BuildCapture.Proofs.Archive.Inputs

/-!
# What calls come down to

Every call notes a setting, or it adds an input: a content from a file, a text
from memory or a module.  What is proved of these four is proved of all calls.
-/

namespace BuildCapture

/-! ## Noting settings -/

/-- What a call that notes a setting makes of a transcript. -/
theorem Transcript.call_setting
    [Zstd.Encoder]
    {transcript : Transcript}
    {call : Call}
    {note : InvocationRecord → InvocationRecord}
    (applies : call.apply transcript.invocation = transcript.invocation.noting note)
    (noInput : call.pool? = none) :
    transcript.call call = { transcript with
      invocation := transcript.invocation.noting note
      deeds := transcript.deeds ++ [transcript.deed call] } := by
  have observed : transcript.journal.observe (transcript.deed call) = transcript.journal := by
    exact Journal.observe_setting _ (Call.pool?_deed noInput _ _)
  rw [Transcript.call]
  simp only [applies, observed, ite_self]

/-! ## Adding inputs -/

/-- What a call that adds an input makes of a transcript. -/
inductive Transcript.Adds
    {α : Type}
    (transcript : Transcript)
    (deed : Deed)
    (fetch : Recording → Recording × Except Failure α)
    (note : α → InvocationRecord → InvocationRecord) : Transcript → Prop
  /-- An input has failed before, so this one is not looked at. -/
  | ignored (failed : transcript.invocation.hasFailed = true) :
    Adds transcript deed fetch note { transcript with deeds := transcript.deeds ++ [deed] }
  | failed {after : Recording} {failure : Failure}
    (unfailed : transcript.invocation.failure = none)
    (fetching : fetch transcript.invocation.recording = (after, .error failure)) :
    Adds transcript deed fetch note { transcript with
      invocation := { transcript.invocation with recording := after, failure := some failure }
      deeds := transcript.deeds ++ [deed] }
  | noted {after : Recording} {found : α}
    (unfailed : transcript.invocation.failure = none)
    (fetching : fetch transcript.invocation.recording = (after, .ok found)) :
    Adds transcript deed fetch note { transcript with
      invocation := { recording := after, record := note found transcript.invocation.record }
      deeds := transcript.deeds ++ [deed]
      journal := transcript.journal.observe deed }

theorem Transcript.adds
    [Zstd.Encoder]
    {α : Type}
    {transcript : Transcript}
    {call : Call}
    {fetch : Recording → Recording × Except Failure α}
    {note : α → InvocationRecord → InvocationRecord}
    (applies : call.apply transcript.invocation = transcript.invocation.adding fetch note) :
    transcript.Adds (transcript.deed call) fetch note (transcript.call call) := by
  have made :
      transcript.call call =
        { transcript with
          invocation := call.apply transcript.invocation
          deeds := transcript.deeds ++ [transcript.deed call]
          journal :=
            if (call.apply transcript.invocation).hasFailed then transcript.journal
            else transcript.journal.observe (transcript.deed call) } := rfl
  rw [made, applies, Invocation.adding]
  split
  · next failed => exact .ignored failed
  next unfailed =>
  have before : transcript.invocation.failure = none := Option.not_isSome_iff_eq_none.1 unfailed
  split
  · next after failure fetching => exact .failed before fetching
  · next after found fetching =>
    simp only [Invocation.hasFailed, before, Option.isSome_none, Bool.false_eq_true, if_false]
    exact .noted before fetching

/-! ## Calls -/

variable [Zstd.Encoder]

/-- What a call comes down to, and what it notes of its input. -/
inductive Call.Shape (call : Call) : Prop
  | setting
      (note : InvocationRecord → InvocationRecord)
      (pool : call.pool? = none)
      (applies : ∀ invocation, call.apply invocation = invocation.noting note)
      (notes : ∀ data record, note record = call.note data record)
  | content
      (input : String)
      (note : ContentKey → InvocationRecord → InvocationRecord)
      (pool : call.pool? = some .blobs)
      (path : call.path? = some input)
      (applies : ∀ invocation,
        call.apply invocation = invocation.adding (·.contentKey input) note)
      (notes : ∀ data record, note (.of data) record = call.note data record)
  | text
      (data : Octets)
      (note : ContentKey → InvocationRecord → InvocationRecord)
      (pool : call.pool? = some .blobs)
      (path : call.path? = none)
      (applies : ∀ invocation, call.apply invocation = invocation.adding (·.storeText data) note)
      (reads : ∀ files journal, (call.deed files journal).data = data)
      (notes : ∀ record, note (.of data) record = call.note data record)
  | module
      (input : String)
      (note : ModuleInfo → InvocationRecord → InvocationRecord)
      (pool : call.pool? = some .modules)
      (path : call.path? = some input)
      (applies : ∀ invocation,
        call.apply invocation = invocation.adding (·.moduleInfo input) note)
      (notes : ∀ info image record, ModuleId.ofImage? image = some info.id →
        note info record = call.note image record)

theorem Call.shape
    (call : Call) :
    call.Shape := by
  cases call with
  | content input kind =>
    have applies : ∀ invocation : Invocation,
        (content input kind).apply invocation = invocation.addContent input kind := fun _ => rfl
    simp only [Invocation.addContent] at applies
    exact .content input _ rfl rfl applies fun _ _ => rfl
  | resource input name isPublic =>
    have applies : ∀ invocation : Invocation,
        (resource input name isPublic).apply invocation =
          invocation.addResource input name isPublic := fun _ => rfl
    simp only [Invocation.addResource] at applies
    exact .content input _ rfl rfl applies fun _ _ => rfl
  | reference input kind embedInteropTypes aliases =>
    have applies : ∀ invocation : Invocation,
        (reference input kind embedInteropTypes aliases).apply invocation =
          invocation.addReference input kind embedInteropTypes aliases := fun _ => rfl
    simp only [Invocation.addReference] at applies
    apply Shape.module input _ rfl rfl applies
    intro info image record id
    simp only [note, id]
    rfl
  | analyzer input =>
    have applies : ∀ invocation : Invocation,
        (analyzer input).apply invocation = invocation.addAnalyzer input := fun _ => rfl
    simp only [Invocation.addAnalyzer] at applies
    apply Shape.module input _ rfl rfl applies
    intro info image record id
    simp only [note, id]
    rfl
  | generatedFile input =>
    have applies : ∀ invocation : Invocation,
        (generatedFile input).apply invocation = invocation.addGeneratedFile input := fun _ => rfl
    simp only [Invocation.addGeneratedFile] at applies
    exact .content input _ rfl rfl applies fun _ _ => rfl
  | generatedText input data =>
    have applies : ∀ invocation : Invocation,
        (generatedText input data).apply invocation =
          invocation.addGeneratedText input data := fun _ => rfl
    simp only [Invocation.addGeneratedText] at applies
    exact .text data _ rfl rfl applies (fun _ _ => rfl) fun _ => rfl
  | markGenerated => exact .setting _ rfl (fun _ => rfl) fun _ _ => rfl
  | setOptions options => exact .setting _ rfl (fun _ => rfl) fun _ _ => rfl
  | setTargetFramework targetFramework => exact .setting _ rfl (fun _ => rfl) fun _ _ => rfl
  | setOutputName outputName => exact .setting _ rfl (fun _ => rfl) fun _ _ => rfl
  | setWorkingDirectory workingDirectory => exact .setting _ rfl (fun _ => rfl) fun _ _ => rfl
  | setArguments arguments => exact .setting _ rfl (fun _ => rfl) fun _ _ => rfl

end BuildCapture
