import BuildCapture.Proofs.Module.Image
import BuildCapture.Proofs.Pool.Agreement

/-!
# What is wrong with an input

An input that can not be opened, or whose octets break off while they are copied,
is unreadable.  A file that is to be a module is described first: its header and
the metadata that the header states are read, and whatever goes wrong with that,
be it that the octets break off, makes the module unsupported.
-/

namespace BuildCapture

open Container

/-! ## Descriptions -/

namespace ModuleInfo

/-- What was read of a file tells that it is no module: it is long enough, or it is all there is. -/
def Malformed (source : Source) (fault : ImageFault) : Prop :=
  ofSource (.ofOctets source.data) = .error fault ∧
    (source.data.length < extent source.data → source.fault = none)

/-- Reading breaks off before there are as many octets as describing a module asks for. -/
def BreaksOff (source : Source) (fault : FileFault) : Prop :=
  source.fault = some fault ∧ source.data.length < extent source.data

/-- Octets without a fault behind them are not unreadable. -/
theorem ofOctets_ne_unreadable
    (data : Octets)
    (fault : FileFault) :
    ofSource (.ofOctets data) ≠ .error (.unreadable fault) := by
  intro failed
  rw [ofSource] at failed
  simp only at failed
  -- each of the checks has its own reason, and only the metadata is read further
  iterate 7
    split at failed
    · cases failed
  split at failed
  · next reason describing =>
    rw [ofMetadata] at describing
    split at describing
    · cases describing
      cases failed
    · cases describing
  · cases failed

theorem Malformed.ne_unreadable
    {source : Source}
    {reason : ImageFault}
    (malformed : Malformed source reason)
    (fault : FileFault) :
    reason ≠ .unreadable fault := by
  rintro rfl
  exact ofOctets_ne_unreadable source.data fault malformed.1

/-- A file is not described because it is no module, or because reading it breaks off too early. -/
theorem ofSource_error_iff
    {source : Source}
    {reason : ImageFault} :
    ofSource source = .error reason ↔
      Malformed source reason ∨ ∃ fault, BreaksOff source fault ∧ reason = .unreadable fault := by
  rw [ofSource_eq, Malformed, ofSource_eq (.ofOctets source.data)]
  by_cases short : source.data.length < extent source.data
  · have shortToo : (Source.ofOctets source.data).data.length <
        extent (Source.ofOctets source.data).data := short
    rw [if_pos short, if_pos shortToo]
    simp only [BreaksOff, short, and_true, true_implies]
    cases source.fault with
    | none => simp [shortfall, Source.ofOctets]
    | some fault => simp [shortfall, eq_comm]
  · have longToo : ¬ (Source.ofOctets source.data).data.length <
        extent (Source.ofOctets source.data).data := short
    rw [if_neg short, if_neg longToo]
    simp only [BreaksOff, short, and_false, false_and, exists_false, or_false, false_implies,
      and_true]

end ModuleInfo

/-! ## Copies that break off -/

/-- Where copying the octets would succeed, a fault behind them is what copying fails with. -/
theorem Container.Sink.copy_of_fault
    {packing : Zstd.Packing}
    {sink filled : Sink}
    {earlier pieces : List Octets}
    (copying : sink.copy packing none earlier pieces = (filled, .ok ()))
    (fault : FileFault) :
    ∃ broken, sink.copy packing (some fault) earlier pieces = (broken, .error fault) := by
  induction pieces generalizing sink earlier with
  | nil => exact ⟨sink, rfl⟩
  | cons piece pieces ih =>
    rw [copy] at copying ⊢
    split at copying
    · cases copying
    split at copying
    · cases copying
    · exact ih copying

/-- A reader of the same octets without the fault behind them. -/
def Reader.whole
    (reader : Reader) :
    Reader :=
  { reader with fault := none }

theorem Reader.whole_eq
    {reader : Reader}
    (faultless : reader.fault = none) :
    reader.whole = reader := by
  rcases reader with ⟨pieces, fault, filled⟩
  cases faultless
  rfl

/-- A container fails with the fault of what it copies, or because a name is taken. -/
def Container.Scribe.Heeds (fault? : Option FileFault) (outcome : Except Failure Unit) : Prop :=
  match fault? with
  | some fault => outcome = .error (.file fault)
  | none => outcome = .ok () ∨ outcome = .error (.unsupported .duplicateEntry)

namespace Container.Scribe.InStep

variable
  [Zstd.Packer]
  {scribe : Scribe}
  {path : String}
  {draft : Draft}
  {reader : Reader}

/-- Where there is room for the octets of a reader, streaming fails with the fault behind them. -/
theorem stream_of_fault
    (inStep : scribe.InStep path draft)
    (fits : scribe.HasRoom (form? scribe.compression reader.whole))
    {fault : FileFault}
    (broken : reader.fault = some fault) :
    ∃ after, scribe.stream reader = (after, .error (.file fault)) := by
  have streamed := inStep.stream reader.whole
  rw [← inStep.compression] at streamed
  cases streaming : scribe.stream reader.whole with
  | mk after outcome =>
    rw [streaming] at streamed
    cases streamed with
    | broken cause reason back =>
      rcases fits with ⟨form, packs, short⟩
      rw [inStep.offset] at short
      exact absurd short (Nat.not_le.2 (reason form packs))
    | stored packs short ahead =>
      rw [Scribe.stream, if_neg inStep.notSealed] at streaming ⊢
      simp only at streaming ⊢
      split at streaming
      · exact absurd streaming recover_ne_ok
      next sink copying =>
      rcases Sink.copy_of_fault copying fault with ⟨rest, breaking⟩
      rw [broken]
      have same : reader.whole.pieces = reader.pieces := rfl
      rw [same] at breaking
      simp only [breaking]
      rw [Scribe.recover, Scribe.rewind, if_neg inStep.notSealed]
      exact ⟨_, rfl⟩

/-- A visit where there is room fails for a fault of the reader alone. -/
theorem heeds_visit
    (inStep : scribe.InStep path draft)
    (fits : scribe.HasRoom (form? scribe.compression reader.whole)) :
    Heeds reader.fault (scribe.visit reader).2 := by
  unfold Heeds
  split
  · next fault broken =>
    rcases inStep.stream_of_fault fits broken with ⟨after, streaming⟩
    rw [Scribe.visit, streaming]
  · next faultless =>
    rw [reader.whole_eq faultless] at fits
    rcases inStep.visit_of_hasRoom fits with ⟨after, visiting, -⟩
    rw [visiting]
    exact Or.inl rfl

/-- A deposit where there is room fails for a fault of the reader, or because the name is taken. -/
theorem heeds_deposit
    (inStep : scribe.InStep path draft)
    (fits : scribe.HasRoom (form? scribe.compression reader.whole))
    (name : String) :
    Heeds reader.fault (scribe.deposit reader name).2 := by
  unfold Heeds
  split
  · next fault broken =>
    rcases inStep.stream_of_fault fits broken with ⟨after, streaming⟩
    rw [Scribe.deposit, streaming]
  · next faultless =>
    rw [reader.whole_eq faultless, inStep.compression] at fits
    rcases inStep.deposited_cases fits (inStep.deposit reader name) with
      ⟨-, done, -⟩ | ⟨-, refused, -⟩
    · exact Or.inl done
    · exact Or.inr refused

end Container.Scribe.InStep

/-! ## Verdicts -/

/-- Why a file that shows this when it is opened does not become a content. -/
inductive FailsAsContent (place : String) : Except FileFault Source → Failure → Prop
  /-- The file can not be opened. -/
  | closed {fault : FileFault} :
    FailsAsContent place (.error fault) (.inputUnreadable place fault)
  /-- Reading breaks off. -/
  | broken {source : Source} {fault : FileFault}
    (breaks : source.fault = some fault) :
    FailsAsContent place (.ok source) (.inputUnreadable place fault)

/-- Why a file that shows this when it is opened does not become a module. -/
inductive FailsAsModule (place : String) (isKnown : ModuleId → Bool) :
    Except FileFault Source → Failure → Prop
  /-- The file can not be opened. -/
  | closed {fault : FileFault} :
    FailsAsModule place isKnown (.error fault) (.inputUnreadable place fault)
  /-- Reading breaks off while the image of a new module is copied. -/
  | broken {source : Source} {info : ModuleInfo} {body : Octets} {fault : FileFault}
    (described : ModuleInfo.ofSource source = .ok (info, body))
    (new : isKnown info.id = false)
    (breaks : source.fault = some fault) :
    FailsAsModule place isKnown (.ok source) (.inputUnreadable place fault)
  /-- Reading breaks off while the module is described. -/
  | undescribed {source : Source} {fault : FileFault}
    (breaksOff : ModuleInfo.BreaksOff source fault) :
    FailsAsModule place isKnown (.ok source) (.unsupportedModule place (.unreadable fault))
  /-- What was read is no module. -/
  | malformed {source : Source} {reason : ImageFault}
    (malformed : ModuleInfo.Malformed source reason) :
    FailsAsModule place isKnown (.ok source) (.unsupportedModule place reason)

/-- How a file fails as a module depends on whether it can be described. -/
theorem failsAsModule_iff
    {place : String}
    {isKnown : ModuleId → Bool}
    {source : Source}
    {failure : Failure} :
    FailsAsModule place isKnown (.ok source) failure ↔
      (∃ reason, ModuleInfo.ofSource source = .error reason ∧
        failure = .unsupportedModule place reason) ∨
      ∃ info body, ModuleInfo.ofSource source = .ok (info, body) ∧ isKnown info.id = false ∧
        ∃ fault, source.fault = some fault ∧ failure = .inputUnreadable place fault := by
  constructor
  · intro fails
    cases fails with
    | broken described new breaks => exact Or.inr ⟨_, _, described, new, _, breaks, rfl⟩
    | undescribed breaksOff =>
      exact Or.inl ⟨_, ModuleInfo.ofSource_error_iff.2 (.inr ⟨_, breaksOff, rfl⟩), rfl⟩
    | malformed malformed =>
      exact Or.inl ⟨_, ModuleInfo.ofSource_error_iff.2 (.inl malformed), rfl⟩
  · rintro (⟨reason, failed, rfl⟩ | ⟨info, body, described, new, fault, breaks, rfl⟩)
    · rcases ModuleInfo.ofSource_error_iff.1 failed with malformed | ⟨fault, breaksOff, rfl⟩
      · exact .malformed malformed
      · exact .undescribed breaksOff
    · exact .broken described new breaks

/-- Only where reading breaks off too early is a module unsupported without being malformed. -/
theorem failsAsModule_unreadable_iff
    {place : String}
    {isKnown : ModuleId → Bool}
    {source : Source}
    {fault : FileFault} :
    FailsAsModule place isKnown (.ok source) (.unsupportedModule place (.unreadable fault)) ↔
      ModuleInfo.BreaksOff source fault := by
  constructor
  · intro fails
    cases fails with
    | undescribed breaksOff => exact breaksOff
    | malformed malformed => exact absurd rfl (malformed.ne_unreadable fault)
  · exact .undescribed

namespace Storeroom

variable
  [Zstd.Packer]
  {room : Storeroom}
  {path : String}
  {draft : Draft}
  {opened : Except FileFault Reader}
  {failure : Failure}

/-- There is room for whatever a file holds. -/
def HasRoomFor (room : Storeroom) (opened : Except FileFault Reader) : Prop :=
  ∀ reader, opened = .ok reader →
    room.scribe.HasRoom (Scribe.form? room.scribe.compression reader.whole)

omit [Zstd.Packer] in
/-- Of what its container fails with, a pool blames the faults of the input on the path. -/
theorem settle_error_iff
    {α : Type}
    {learnt : Storeroom}
    {place : String}
    {source : Source}
    {value : α}
    {answer : Scribe × Except Failure Unit}
    (heeds : Scribe.Heeds source.fault answer.2)
    (confined : failure.isInvocationScoped = true) :
    (room.settle learnt (BlobPool.blame source place) value answer).2 = .error failure ↔
      ∃ fault, source.fault = some fault ∧ failure = .inputUnreadable place fault := by
  rcases answer with ⟨scribe, outcome⟩
  unfold Scribe.Heeds at heeds
  split at heeds
  · next fault broken =>
    have failed : outcome = .error (.file fault) := heeds
    have blamed : BlobPool.blame source place (.file fault) = .inputUnreadable place fault := by
      simp only [BlobPool.blame, broken]
    rw [failed, settle, blamed, broken]
    constructor
    · intro same
      cases same
      exact ⟨fault, rfl, rfl⟩
    · rintro ⟨other, same, rfl⟩
      cases same
      rfl
  · next faultless =>
    have nothing :
        ¬ ∃ fault, source.fault = some fault ∧ failure = .inputUnreadable place fault := by
      rw [faultless]
      rintro ⟨fault, broken, -⟩
      cases broken
    rw [iff_false_right nothing]
    rcases heeds with done | refused
    · have succeeded : outcome = .ok () := done
      rw [succeeded, settle]
      intro failed
      cases failed
    · have failed : outcome = .error (.unsupported .duplicateEntry) := refused
      have kept : BlobPool.blame source place (.unsupported .duplicateEntry) =
          .unsupported .duplicateEntry := rfl
      rw [failed, settle, kept]
      intro same
      cases same
      cases confined

/-- Storing a file is storing what its reader hands out, with faults blamed on the path. -/
theorem storeFile_eq
    (room : Storeroom)
    (reader : Reader)
    (place : String) :
    room.storeFile place (.ok reader) =
      if room.blobs.contains (.of reader.pieces.flatten) then
        room.settle room (BlobPool.blame reader.source place) (.of reader.pieces.flatten)
          (room.scribe.visit reader)
      else
        room.settle (room.withContent reader.pieces.flatten)
          (BlobPool.blame reader.source place) (.of reader.pieces.flatten)
          (room.scribe.deposit reader (ContentKey.of reader.pieces.flatten).entryName) := by
  rw [storeFile]
  simp only [storeReader_eq]
  by_cases known : room.blobs.contains (.of reader.pieces.flatten) = true
  · simp only [if_pos known]
    rcases room.scribe.visit reader with ⟨scribe, failure | done⟩ <;> rfl
  · simp only [if_neg known]
    rcases room.scribe.deposit reader (ContentKey.of reader.pieces.flatten).entryName with
      ⟨scribe, failure | done⟩ <;> rfl

/-- A content fails because of its file exactly as the file has it. -/
theorem storeFile_error_iff
    (inStep : room.scribe.InStep path draft)
    (fits : room.HasRoomFor opened)
    (place : String)
    (confined : failure.isInvocationScoped = true) :
    (room.storeFile place opened).2 = .error failure ↔
      FailsAsContent place (opened.map Reader.source) failure := by
  cases opened with
  | error fault =>
    constructor
    · intro failed
      cases failed
      exact .closed
    · rintro ⟨⟩
      rfl
  | ok reader =>
    have short := fits reader rfl
    have breaks :
        (∃ fault, reader.source.fault = some fault ∧ failure = .inputUnreadable place fault) ↔
          FailsAsContent place (.ok reader.source) failure := by
      constructor
      · rintro ⟨fault, broken, rfl⟩
        exact .broken broken
      · intro fails
        cases fails with
        | broken broken => exact ⟨_, broken, rfl⟩
    rw [storeFile_eq, Except.map, ← breaks]
    split
    · exact settle_error_iff (inStep.heeds_visit short) confined
    · exact settle_error_iff (inStep.heeds_deposit short _) confined

/-- A module fails because of its file exactly as the file has it. -/
theorem storeModuleFile_error_iff
    (inStep : room.scribe.InStep path draft)
    (fits : room.HasRoomFor opened)
    (place : String)
    (confined : failure.isInvocationScoped = true) :
    (room.storeModuleFile place opened).2 = .error failure ↔
      FailsAsModule place room.modules.contains (opened.map Reader.source) failure := by
  cases opened with
  | error fault =>
    constructor
    · intro failed
      cases failed
      exact .closed
    · rintro ⟨⟩
      rfl
  | ok reader =>
    rw [Except.map, failsAsModule_iff]
    cases describing : ModuleInfo.ofSource reader.source with
    | error reason =>
      rw [storeModuleFile]
      simp only [describing]
      constructor
      · intro failed
        cases failed
        exact Or.inl ⟨reason, rfl, rfl⟩
      · rintro (⟨other, same, rfl⟩ | ⟨info, body, same, -⟩)
        · cases same
          rfl
        · cases same
    | ok found =>
      rcases found with ⟨info, body⟩
      cases known : room.modules.get? info.id with
      | some first =>
        have contained : room.modules.contains info.id = true := Option.isSome_of_eq_some known
        rw [storeModuleFile]
        simp [describing, known, contained]
      | none =>
        have new : room.modules.contains info.id = false := by
          rw [ModulePool.contains, known]
          rfl
        have settled : (room.storeModuleFile place (.ok reader)).2 = .error failure ↔
            ∃ fault, reader.source.fault = some fault ∧ failure = .inputUnreadable place fault := by
          rw [storeModuleFile_eq describing known]
          exact settle_error_iff (inStep.heeds_deposit (fits reader rfl) info.id.entryName)
            confined
        rw [settled]
        simp [new]

end Storeroom

end BuildCapture
