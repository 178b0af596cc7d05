import BuildCapture.Pool.Storeroom
import BuildCapture.Proofs.Container.Scribe

/-!
# Failed requests leave no trace

How much of a stream has reached the file when it breaks off is up to the
buffer, the compressor and the pieces of the reader.  The scribe takes all of it
back, and the pools learn of an entry only when nothing can fail any more.  So a
request that fails, for whatever reason, and a request for what is stored
already leave the directory, the names, the end of the payload, the temporary
file and both pools as they were.
-/

namespace BuildCapture

open Container

namespace Container.Scribe

variable
  {scribe after : Scribe}
  {path : String}
  {draft : Draft}

/-- The octets in the temporary file of a scribe. -/
def fileContent?
    (scribe : Scribe) :
    Option Octets :=
  match scribe.handle.files.find (Writer.temporaryRoute scribe.path) with
  | .ok (_, .file _ _ content) => some content
  | _ => none

/-- The temporary file holds the image of the draft that a scribe is in step with. -/
theorem InStep.fileContent?_eq
    (inStep : scribe.InStep path draft) :
    scribe.fileContent? = some draft.image := by
  rcases inStep.holds.found with ⟨location, stamp, found⟩
  rw [fileContent?, inStep.here, found]

/-- Recovering never ends well. -/
theorem recover_ne_ok
    {α : Type}
    {value : α}
    {failure : Failure} :
    scribe.recover failure ≠ (after, .ok value) := by
  intro recovered
  rw [recover] at recovered
  split at recovered
  · cases recovered
  · cases recovered

/-- What is counted while streaming is what a reader hands out. -/
theorem counts_of_stream
    [Zstd.Packer]
    {reader : Reader}
    {pending : Pending}
    (streaming : scribe.stream reader = (after, .ok pending)) :
    pending.digest = sha256 reader.pieces.flatten ∧
      pending.rawLength = reader.pieces.flatten.length := by
  rw [stream] at streaming
  split at streaming
  · cases streaming
  simp only at streaming
  split at streaming
  · exact absurd streaming recover_ne_ok
  · cases streaming
    exact ⟨rfl, rfl⟩

end Container.Scribe

namespace Storeroom

/-- A storeroom starts with a new container and empty pools. -/
def start
    (started : FileSystem)
    (writer : Writer) :
    Storeroom where
  scribe := .ofWriter started writer

/-! ## Storing new entries -/

/--
How storing a new entry ends: the storeroom has learnt of the entry and answers a
value, or it is as before and answers a failure.
-/
def settle
    {α : Type}
    (room learnt : Storeroom)
    (report : Failure → Failure)
    (value : α) :
    Scribe × Except Failure Unit → Storeroom × Except Failure α
  | (scribe, .error failure) => ({ room with scribe }, .error (report failure))
  | (scribe, .ok ()) => ({ learnt with scribe }, .ok value)

/-- The storeroom that knows a content. -/
def withContent
    (room : Storeroom)
    (data : Octets) :
    Storeroom :=
  { room with blobs := room.blobs.remember (.of data) data.length }

/-- The storeroom that knows a module. -/
def withModule
    (room : Storeroom)
    (info : ModuleInfo) :
    Storeroom :=
  { room with modules := room.modules.remember info }

/-- An entry of which no pool learns is answered as the container answers. -/
theorem settle_unnoticed
    (room : Storeroom)
    (answer : Scribe × Except Failure Unit) :
    room.settle room id () answer = ({ room with scribe := answer.1 }, answer.2) := by
  rcases answer with ⟨scribe, failure | done⟩
  · rfl
  · rfl

/-- Where nothing is learnt, only the container may change. -/
theorem settle_known
    {α : Type}
    (room : Storeroom)
    (report : Failure → Failure)
    (value : α)
    (answer : Scribe × Except Failure Unit) :
    ∃ outcome, room.settle room report value answer =
      ({ room with scribe := answer.1 }, outcome) := by
  rcases answer with ⟨scribe, failure | done⟩
  · exact ⟨_, rfl⟩
  · exact ⟨_, rfl⟩

theorem storeContent_eq
    [Zstd.Encoder]
    (room : Storeroom)
    (data : Octets) :
    room.storeContent data =
      if room.blobs.contains (.of data) then
        (room, .ok (.of data))
      else
        room.settle (room.withContent data) id (.of data)
          (room.scribe.write (ContentKey.of data).entryName data) :=
  rfl

theorem storeModule_eq
    [Zstd.Encoder]
    {room : Storeroom}
    {image : Octets}
    {info : ModuleInfo}
    (described : ModuleInfo.ofOctets image = .ok info)
    (unknown : room.modules.get? info.id = none) :
    room.storeModule image =
      room.settle (room.withModule info) id info
        (room.scribe.write info.id.entryName image) := by
  rw [storeModule]
  simp only [described, unknown]
  rfl

/-- Storing what a reader hands out is a visit if the content is known, and else a deposit. -/
theorem storeReader_eq
    [Zstd.Packer]
    (room : Storeroom)
    (reader : Reader) :
    room.storeReader reader =
      if room.blobs.contains (.of reader.pieces.flatten) then
        room.settle room id (.of reader.pieces.flatten) (room.scribe.visit reader)
      else
        room.settle (room.withContent reader.pieces.flatten) id (.of reader.pieces.flatten)
          (room.scribe.deposit reader (ContentKey.of reader.pieces.flatten).entryName) := by
  rw [storeReader, Scribe.visit, Scribe.deposit]
  cases streaming : room.scribe.stream reader with
  | mk scribe outcome =>
    cases outcome with
    | error failure => exact (ite_self _).symm
    | ok pending =>
      rcases Scribe.counts_of_stream streaming with ⟨digest, rawLength⟩
      have keyed : (⟨pending.digest⟩ : ContentKey) = .of reader.pieces.flatten :=
        congrArg ContentKey.mk digest
      simp only
      rw [keyed, rawLength]
      rfl

theorem storeModuleFile_eq
    [Zstd.Packer]
    {room : Storeroom}
    {reader : Reader}
    {info : ModuleInfo}
    {body : Octets}
    (described : ModuleInfo.ofSource reader.source = .ok (info, body))
    (unknown : room.modules.get? info.id = none)
    (place : String) :
    room.storeModuleFile place (.ok reader) =
      room.settle (room.withModule info) (BlobPool.blame reader.source place) info
        (room.scribe.deposit reader info.id.entryName) := by
  rw [storeModuleFile]
  simp only [described, unknown]
  rfl

/-! ## What requests lead to -/

/--
What a request leads to while the container is in step with a draft: either the
pools and the draft are as before, or the request succeeds.
-/
inductive Answered
    {α : Type}
    (path : String)
    (draft : Draft)
    (room : Storeroom) :
    Storeroom × Except Failure α → Prop
  | same
    {scribe : Scribe}
    {outcome : Except Failure α}
    (inStep : scribe.InStep path draft) :
    Answered path draft room ({ room with scribe }, outcome)
  | grown
    {after : Storeroom}
    {value : α}
    {longer : Draft}
    (inStep : after.scribe.InStep path longer) :
    Answered path draft room (after, .ok value)

variable
  {room : Storeroom}
  {path : String}
  {draft : Draft}

/-- An answer of which only the success is told leads to the same. -/
theorem Answered.forget
    {α : Type}
    {answer : Storeroom × Except Failure α}
    (answered : Answered path draft room answer) :
    Answered path draft room (forget answer) := by
  cases answered with
  | same inStep => exact .same inStep
  | grown inStep => exact .grown inStep

/-- Storing a new entry leads to a longer draft, or leaves everything as it is. -/
theorem settle_answered
    {α : Type}
    {name : String}
    {data : Octets}
    {form? : Option (Octets × UInt16)}
    {answer : Scribe × Except Failure Unit}
    (deposited : Scribe.Deposited path draft name data form? answer)
    (room learnt : Storeroom)
    (report : Failure → Failure)
    (value : α) :
    Answered path draft room (room.settle learnt report value answer) := by
  cases deposited with
  | stored _ _ _ ahead => exact .grown ahead
  | taken _ back => exact .same back
  | broken _ _ back => exact .same back

section FromMemory

variable [Zstd.Encoder]

theorem storeContent_answered
    (inStep : room.scribe.InStep path draft)
    (data : Octets) :
    Answered path draft room (room.storeContent data) := by
  rw [storeContent_eq]
  split
  · exact .same inStep
  · exact settle_answered (inStep.write_deposited _ data) room _ _ _

theorem storeModule_answered
    (inStep : room.scribe.InStep path draft)
    (image : Octets) :
    Answered path draft room (room.storeModule image) := by
  rw [storeModule]
  split
  · exact .same inStep
  next info described =>
  split
  · exact .same inStep
  · exact settle_answered (inStep.write_deposited _ image) room (room.withModule info) id info

end FromMemory

section FromReaders

variable [Zstd.Packer]

theorem storeReader_answered
    (inStep : room.scribe.InStep path draft)
    (reader : Reader) :
    Answered path draft room (room.storeReader reader) := by
  rw [storeReader_eq]
  split
  · rcases room.settle_known id (ContentKey.of reader.pieces.flatten)
        (room.scribe.visit reader) with ⟨outcome, visited⟩
    rw [visited]
    exact .same (inStep.visit reader).1
  · exact settle_answered (inStep.deposit reader _) room _ _ _

theorem storeFile_answered
    (inStep : room.scribe.InStep path draft)
    (place : String)
    (opened : Except FileFault Reader) :
    Answered path draft room (room.storeFile place opened) := by
  cases opened with
  | error fault => exact .same inStep
  | ok reader =>
    have answered := storeReader_answered inStep reader
    rw [storeFile]
    cases storing : room.storeReader reader with
    | mk after outcome =>
      rw [storing] at answered
      cases answered with
      | same back =>
        cases outcome with
        | error failure => exact .same back
        | ok key => exact .same back
      | grown ahead => exact .grown ahead

theorem storeModuleFile_answered
    (inStep : room.scribe.InStep path draft)
    (place : String)
    (opened : Except FileFault Reader) :
    Answered path draft room (room.storeModuleFile place opened) := by
  cases opened with
  | error fault => exact .same inStep
  | ok reader =>
    rw [storeModuleFile]
    split
    · exact .same inStep
    next info body described =>
    split
    · exact .same inStep
    · exact settle_answered (inStep.deposit reader _) room (room.withModule info)
        (BlobPool.blame reader.source place) info

end FromReaders

section Runs

variable [Zstd.Encoder] [Zstd.Packer]

/-- Every request leaves the pools and the draft as they are, or succeeds. -/
theorem serve_answered
    (inStep : room.scribe.InStep path draft)
    (request : Request) :
    Answered path draft room (room.serve request) := by
  cases request with
  | entry name data =>
    have answered := settle_answered (inStep.write_deposited name data) room room id ()
    rw [settle_unnoticed] at answered
    exact answered
  | deposit name reader =>
    have answered := settle_answered (inStep.deposit reader name) room room id ()
    rw [settle_unnoticed] at answered
    exact answered
  | visit reader => exact .same (inStep.visit reader).1
  | content data => exact (storeContent_answered inStep data).forget
  | contentFrom reader => exact (storeReader_answered inStep reader).forget
  | contentOf place opened => exact (storeFile_answered inStep place opened).forget
  | moduleImage image => exact (storeModule_answered inStep image).forget
  | moduleOf place opened => exact (storeModuleFile_answered inStep place opened).forget

/-- After every request the container is in step with some draft. -/
theorem inStep_serve
    (inStep : room.scribe.InStep path draft)
    (request : Request) :
    ∃ next, (room.serve request).1.scribe.InStep path next := by
  have answered := serve_answered inStep request
  cases serving : room.serve request with
  | mk after outcome =>
    rw [serving] at answered
    cases answered with
    | same back => exact ⟨draft, back⟩
    | grown ahead => exact ⟨_, ahead⟩

/-- After every run the container is in step with some draft. -/
theorem inStep_run
    (inStep : room.scribe.InStep path draft)
    (requests : List Request) :
    ∃ last, (room.run requests).scribe.InStep path last := by
  induction requests generalizing room draft with
  | nil => exact ⟨draft, inStep⟩
  | cons request rest ih =>
    rcases inStep_serve inStep request with ⟨next, inStepNext⟩
    exact ih inStepNext

end Runs

/-! ## Requests that fail, and requests for what is there -/

/--
A storeroom after a request that left no trace: the directory, the names, the end
of the payload, the octets of the temporary file and the pools are as before.
-/
structure Untouched (before after : Storeroom) : Prop where
  entries : after.scribe.entries = before.scribe.entries
  names : after.scribe.names = before.scribe.names
  offset : after.scribe.offset = before.scribe.offset
  content : ∃ content,
    before.scribe.fileContent? = some content ∧ after.scribe.fileContent? = some content
  blobs : after.blobs = before.blobs
  modules : after.modules = before.modules

/-- A name that a pool would give is taken by something that the pool does not know. -/
def IsBarred
    (room : Storeroom)
    (known : Bool)
    (name : String) :
    Prop :=
  known = false ∧ name ∈ room.scribe.names

/--
A request that can not be granted: the name is taken, or the input is missing,
breaks off or is no module.
-/
def IsFaulty
    (room : Storeroom) : Request → Prop
  | .entry name _ => name ∈ room.scribe.names
  | .deposit name reader => reader.fault ≠ none ∨ name ∈ room.scribe.names
  | .visit reader => reader.fault ≠ none
  | .content data => room.IsBarred (room.blobs.contains (.of data)) (ContentKey.of data).entryName
  | .contentFrom reader => reader.fault ≠ none
  | .contentOf _ (.error _) => True
  | .contentOf _ (.ok reader) => reader.fault ≠ none
  | .moduleImage image =>
    match ModuleInfo.ofOctets image with
    | .error _ => True
    | .ok info => room.IsBarred (room.modules.contains info.id) info.id.entryName
  | .moduleOf _ (.error _) => True
  | .moduleOf _ (.ok reader) =>
    match ModuleInfo.ofSource reader.source with
    | .error _ => True
    | .ok (info, _) => room.modules.contains info.id = false ∧ reader.fault ≠ none

/-- A request for a content or a module that is stored already. -/
def IsDuplicate
    (room : Storeroom) : Request → Prop
  | .content data => room.blobs.contains (.of data) = true
  | .contentFrom reader => room.blobs.contains (.of reader.pieces.flatten) = true
  | .contentOf _ (.ok reader) => room.blobs.contains (.of reader.pieces.flatten) = true
  | .moduleImage image =>
    ∃ info, ModuleInfo.ofOctets image = .ok info ∧ room.modules.contains info.id = true
  | .moduleOf _ (.ok reader) =>
    ∃ info body, ModuleInfo.ofSource reader.source = .ok (info, body) ∧
      room.modules.contains info.id = true
  | _ => False

/-- A container that is in step with the same draft again shows no trace. -/
theorem untouched_of_inStep
    (inStep : room.scribe.InStep path draft)
    {scribe : Scribe}
    (back : scribe.InStep path draft) :
    room.Untouched { room with scribe } where
  entries := back.entries.trans inStep.entries.symm
  names := back.names.trans inStep.names.symm
  offset := back.offset.trans inStep.offset.symm
  content := ⟨draft.image, inStep.fileContent?_eq, back.fileContent?_eq⟩
  blobs := rfl
  modules := rfl

/-- A name is taken in the draft if it is taken in the container. -/
theorem contains_of_mem_names
    (inStep : room.scribe.InStep path draft)
    {name : String}
    (taken : name ∈ room.scribe.names) :
    draft.contains name = true := by
  rw [← inStep.contains_eq]
  exact List.contains_iff_mem.2 taken

/-- Octets of which there is no form, or whose name is taken, are not deposited. -/
theorem error_of_deposited
    {name : String}
    {data : Octets}
    {form? : Option (Octets × UInt16)}
    {answer : Scribe × Except Failure Unit}
    (deposited : Scribe.Deposited path draft name data form? answer)
    (refused : form? = none ∨ draft.contains name = true) :
    ∃ scribe failure, answer = (scribe, .error failure) := by
  cases deposited with
  | taken => exact ⟨_, _, rfl⟩
  | broken => exact ⟨_, _, rfl⟩
  | stored packs _ free =>
    rcases refused with nothing | taken
    · rw [nothing] at packs
      cases packs
    · rw [free] at taken
      cases taken

section Barred

variable [Zstd.Encoder]

/-- A new content whose name is taken is not stored. -/
theorem storeContent_of_barred
    (inStep : room.scribe.InStep path draft)
    {data : Octets}
    (barred :
      room.IsBarred (room.blobs.contains (.of data)) (ContentKey.of data).entryName) :
    ∃ after failure, room.storeContent data = (after, .error failure) := by
  rcases barred with ⟨unknown, taken⟩
  rcases error_of_deposited (inStep.write_deposited _ data)
      (Or.inr (contains_of_mem_names inStep taken)) with ⟨scribe, failure, writing⟩
  rw [storeContent, unknown, writing]
  exact ⟨_, _, rfl⟩

/-- A new module whose name is taken is not stored. -/
theorem storeModule_of_barred
    (inStep : room.scribe.InStep path draft)
    {image : Octets}
    {info : ModuleInfo}
    (described : ModuleInfo.ofOctets image = .ok info)
    (barred : room.IsBarred (room.modules.contains info.id) info.id.entryName) :
    ∃ after failure, room.storeModule image = (after, .error failure) := by
  rcases barred with ⟨unknown, taken⟩
  rcases error_of_deposited (inStep.write_deposited _ image)
      (Or.inr (contains_of_mem_names inStep taken)) with ⟨scribe, failure, writing⟩
  rw [ModulePool.contains, Option.isSome_eq_false_iff, Option.isNone_iff_eq_none] at unknown
  rw [storeModule_eq described unknown, writing]
  exact ⟨_, _, rfl⟩

end Barred

section Breaking

variable [Zstd.Packer]

/-- There is no form of octets that break off. -/
theorem form?_of_fault
    {reader : Reader}
    (broken : reader.fault ≠ none)
    (compression : CompressionConfig) :
    Scribe.form? compression reader = none := by
  cases form : Scribe.form? compression reader with
  | none => rfl
  | some packed => exact absurd (Scribe.form?_eq_some_iff.1 form).1 broken

/-- A reader that breaks off is not stored. -/
theorem storeReader_of_fault
    (inStep : room.scribe.InStep path draft)
    {reader : Reader}
    (broken : reader.fault ≠ none) :
    ∃ after failure, room.storeReader reader = (after, .error failure) := by
  rw [storeReader]
  have streamed := inStep.stream reader
  rw [form?_of_fault broken] at streamed
  cases streaming : room.scribe.stream reader with
  | mk scribe outcome =>
    rw [streaming] at streamed
    cases streamed with
    | stored packs => cases packs
    | broken => exact ⟨_, _, rfl⟩

/-- A new module is not stored if its reader breaks off. -/
theorem storeModuleFile_of_fault
    (inStep : room.scribe.InStep path draft)
    {reader : Reader}
    {info : ModuleInfo}
    {body : Octets}
    (described : ModuleInfo.ofSource reader.source = .ok (info, body))
    (unknown : room.modules.contains info.id = false)
    (broken : reader.fault ≠ none)
    (place : String) :
    ∃ after failure, room.storeModuleFile place (.ok reader) = (after, .error failure) := by
  rcases error_of_deposited (inStep.deposit reader info.id.entryName)
      (Or.inl (form?_of_fault broken _)) with ⟨scribe, failure, depositing⟩
  rw [ModulePool.contains, Option.isSome_eq_false_iff, Option.isNone_iff_eq_none] at unknown
  rw [storeModuleFile_eq described unknown, depositing]
  exact ⟨_, _, rfl⟩

/-- A reader whose content is known leaves no trace. -/
theorem untouched_of_known
    (inStep : room.scribe.InStep path draft)
    {reader : Reader}
    (known : room.blobs.contains (.of reader.pieces.flatten) = true) :
    room.Untouched (room.storeReader reader).1 := by
  rcases room.settle_known id (ContentKey.of reader.pieces.flatten)
      (room.scribe.visit reader) with ⟨outcome, visited⟩
  rw [storeReader_eq, if_pos known, visited]
  exact untouched_of_inStep inStep (inStep.visit reader).1

end Breaking

section Answers

variable [Zstd.Encoder] [Zstd.Packer]

/-- A request that can not be granted fails. -/
theorem error_of_isFaulty
    (inStep : room.scribe.InStep path draft)
    {request : Request}
    (faulty : room.IsFaulty request) :
    ∃ failure, (room.serve request).2 = .error failure := by
  cases request with
  | entry name data =>
    rcases error_of_deposited (inStep.write_deposited name data)
        (Or.inr (contains_of_mem_names inStep faulty)) with ⟨scribe, failure, writing⟩
    rw [serve, writing]
    exact ⟨failure, rfl⟩
  | deposit name reader =>
    have refused :
        Scribe.form? draft.compression reader = none ∨ draft.contains name = true :=
      faulty.imp (form?_of_fault · _) (contains_of_mem_names inStep)
    rcases error_of_deposited (inStep.deposit reader name) refused with
      ⟨scribe, failure, depositing⟩
    rw [serve, depositing]
    exact ⟨failure, rfl⟩
  | visit reader =>
    rcases (inStep.visit reader).2 with ⟨-, form, packs⟩ | ⟨fault, failed, -⟩
    · rw [form?_of_fault faulty] at packs
      cases packs
    · exact ⟨.file fault, failed⟩
  | content data =>
    rcases storeContent_of_barred inStep faulty with ⟨after, failure, storing⟩
    rw [serve, storing]
    exact ⟨failure, rfl⟩
  | contentFrom reader =>
    rcases storeReader_of_fault inStep faulty with ⟨after, failure, storing⟩
    rw [serve, storing]
    exact ⟨failure, rfl⟩
  | contentOf place opened =>
    cases opened with
    | error fault => exact ⟨_, rfl⟩
    | ok reader =>
      rcases storeReader_of_fault inStep faulty with ⟨after, failure, storing⟩
      rw [serve, storeFile, storing]
      exact ⟨_, rfl⟩
  | moduleImage image =>
    cases described : ModuleInfo.ofOctets image with
    | error fault =>
      rw [serve, storeModule, described]
      exact ⟨_, rfl⟩
    | ok info =>
      simp only [IsFaulty, described] at faulty
      rcases storeModule_of_barred inStep described faulty with ⟨after, failure, storing⟩
      rw [serve, storing]
      exact ⟨failure, rfl⟩
  | moduleOf place opened =>
    cases opened with
    | error fault => exact ⟨_, rfl⟩
    | ok reader =>
      cases described : ModuleInfo.ofSource reader.source with
      | error fault =>
        rw [serve, storeModuleFile, described]
        exact ⟨_, rfl⟩
      | ok found =>
        rcases found with ⟨info, body⟩
        simp only [IsFaulty, described] at faulty
        rcases storeModuleFile_of_fault inStep described faulty.1 faulty.2 place with
          ⟨after, failure, storing⟩
        rw [serve, storing]
        exact ⟨failure, rfl⟩

/-- A request that fails leaves no trace. -/
theorem untouched_of_error
    (inStep : room.scribe.InStep path draft)
    {request : Request}
    {failure : Failure}
    (failed : (room.serve request).2 = .error failure) :
    room.Untouched (room.serve request).1 := by
  have answered := serve_answered inStep request
  cases serving : room.serve request with
  | mk after outcome =>
    rw [serving] at answered failed
    cases answered with
    | same back => exact untouched_of_inStep inStep back
    | grown => cases failed

/-- A request for what is stored already leaves no trace. -/
theorem untouched_of_isDuplicate
    (inStep : room.scribe.InStep path draft)
    {request : Request}
    (duplicate : room.IsDuplicate request) :
    room.Untouched (room.serve request).1 := by
  have still := untouched_of_inStep inStep inStep
  cases request with
  | entry name data => exact duplicate.elim
  | deposit name reader => exact duplicate.elim
  | visit reader => exact duplicate.elim
  | content data =>
    have known : room.storeContent data = (room, .ok (.of data)) := if_pos duplicate
    rw [serve, known]
    exact still
  | contentFrom reader => exact untouched_of_known inStep duplicate
  | contentOf place opened =>
    cases opened with
    | error fault => exact duplicate.elim
    | ok reader =>
      have untouched := untouched_of_known inStep duplicate
      rw [serve, storeFile]
      cases storing : room.storeReader reader with
      | mk after outcome =>
        rw [storing] at untouched
        cases outcome with
        | error failure => exact untouched
        | ok key => exact untouched
  | moduleImage image =>
    rcases duplicate with ⟨info, described, known⟩
    rcases Option.isSome_iff_exists.1 known with ⟨first, found⟩
    rw [serve, storeModule]
    simp only [described, found]
    exact still
  | moduleOf place opened =>
    cases opened with
    | error fault => exact duplicate.elim
    | ok reader =>
      rcases duplicate with ⟨info, body, described, known⟩
      rcases Option.isSome_iff_exists.1 known with ⟨first, found⟩
      rw [serve, storeModuleFile]
      simp only [described, found]
      exact still

/--
After any requests, a request that can not be granted fails, and a request that
fails leaves no trace, and neither does a request for what is stored already.
-/
theorem failed_requests_leave_no_trace
    {files started : FileSystem}
    {path : String}
    {config : WriterConfig}
    {writer : Writer}
    (creating : Writer.create files path config = (started, .ok writer))
    (requests : List Request)
    (request : Request) :
    let room := (start started writer).run requests
    (room.IsFaulty request → ∃ failure, (room.serve request).2 = .error failure) ∧
      (∀ failure, (room.serve request).2 = .error failure →
        room.Untouched (room.serve request).1) ∧
      (room.IsDuplicate request → room.Untouched (room.serve request).1) := by
  intro room
  have begins : (start started writer).scribe.InStep path writer.draft :=
    Scribe.inStep_start creating
  rcases inStep_run begins requests with ⟨draft, inStep⟩
  exact ⟨error_of_isFaulty inStep, fun failure => untouched_of_error inStep,
    untouched_of_isDuplicate inStep⟩

end Answers

/-! ## A stream that breaks off -/

/-- Two octets, and then nothing more. -/
def brokenReader : Reader :=
  ⟨[[1], [2]], some (.source "broken"), by decide⟩

/-- The storeroom of a plain container after requests. -/
def plainStoreroom
    (requests : List Request) :
    Option Storeroom :=
  match plainStart with
  | (_, .error _) => none
  | (started, .ok writer) => some ((start started writer).run requests)

set_option maxRecDepth 100000 in
/-- Behind a content, neither a stream that breaks off nor the same content leaves a trace. -/
theorem broken_stream_leaves_no_trace :
    ∃ started writer room,
      Writer.create noFiles "plain" plainConfig = (started, .ok writer) ∧
        room = (start started writer).run [.content [120]] ∧ room.blobs.size = 1 ∧
        (∃ failure, (room.serve (.contentFrom brokenReader)).2 = .error failure) ∧
        room.Untouched (room.serve (.contentFrom brokenReader)).1 ∧
        room.Untouched (room.serve (.content [120])).1 := by
  have reached :
      ∃ room, plainStoreroom [.content [120]] = some room ∧ room.blobs.size = 1 ∧
        room.blobs.contains (.of [120]) = true := by
    refine ⟨_, rfl, ?_⟩
    decide +kernel
  rcases reached with ⟨room, reached, one, known⟩
  rw [plainStoreroom] at reached
  split at reached
  · cases reached
  next started writer starting =>
  have run : (start started writer).run [.content [120]] = room := Option.some.inj reached
  have broken :=
    failed_requests_leave_no_trace starting [.content [120]] (.contentFrom brokenReader)
  have again := failed_requests_leave_no_trace starting [.content [120]] (.content [120])
  rw [run] at broken again
  have fault : brokenReader.fault ≠ none := by decide
  rcases broken.1 fault with ⟨failure, failed⟩
  exact ⟨started, writer, room, starting, run.symm, one, ⟨failure, failed⟩,
    broken.2.1 failure failed, again.2.2 known⟩

end Storeroom

end BuildCapture
