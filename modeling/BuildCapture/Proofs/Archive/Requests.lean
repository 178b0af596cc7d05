import BuildCapture.Proofs.Archive.Explanations
import BuildCapture.Proofs.Pool.Correspondence

/-!
# What a recorder asks of its container

A recorder says where each operation leads.  A storeroom gets there through
writes that may break off: it packs the pieces of a reader as they come, has
written an unknown part of them when the reader fails, and cuts its file
afterwards.  What was called in a run, and what the files showed then, says what a
storeroom has to be asked for, and asked for it the storeroom has the container and
the pools of the recorder, however its readers are cut.
-/

namespace BuildCapture

open Container

/-! ## Readers of one source -/

/-- The reader that hands the same out in pieces of the greatest length. -/
def Reader.uncut
    (reader : Reader) :
    Reader :=
  .ofSource reader.source

theorem Reader.uncut_eq_ofSource_iff
    {reader : Reader}
    {source : Source} :
    reader.uncut = .ofSource source ↔ reader.source = source := by
  constructor
  · intro same
    have sources := congrArg Reader.source same
    rwa [uncut, source_ofSource, source_ofSource] at sources
  · rintro rfl
    rfl

theorem Reader.uncut_ofSource
    (source : Source) :
    (Reader.ofSource source).uncut = .ofSource source :=
  uncut_eq_ofSource_iff.2 (source_ofSource source)

namespace Storeroom

/-- The request for the same whose readers hand out pieces of the greatest length. -/
def Request.uncut : Request → Request
  | .entry name data => .entry name data
  | .deposit name reader => .deposit name reader.uncut
  | .visit reader => .visit reader.uncut
  | .content data => .content data
  | .contentFrom reader => .contentFrom reader.uncut
  | .contentOf path opened => .contentOf path (opened.map Reader.uncut)
  | .moduleImage image => .moduleImage image
  | .moduleOf path opened => .moduleOf path (opened.map Reader.uncut)

namespace Request

variable {request : Request}

theorem uncut_eq_entry
    {name : String}
    {data : Octets}
    (same : request.uncut = .entry name data) :
    request = .entry name data := by
  cases request <;> cases same
  rfl

theorem uncut_eq_content
    {data : Octets}
    (same : request.uncut = .content data) :
    request = .content data := by
  cases request <;> cases same
  rfl

/-- A request for a content at a path has a reader of the source. -/
theorem uncut_eq_contentOf
    {path : String}
    {source : Source}
    (same : request.uncut = .contentOf path (.ok (.ofSource source))) :
    ∃ reader : Reader, request = .contentOf path (.ok reader) ∧ reader.source = source := by
  cases request <;> try cases same
  next other opened =>
  rw [uncut, contentOf.injEq] at same
  rcases same with ⟨rfl, same⟩
  cases opened with
  | error fault => cases same
  | ok reader => exact ⟨reader, rfl, Reader.uncut_eq_ofSource_iff.1 (Except.ok.inj same)⟩

/-- A request for a module at a path has a reader of the source. -/
theorem uncut_eq_moduleOf
    {path : String}
    {source : Source}
    (same : request.uncut = .moduleOf path (.ok (.ofSource source))) :
    ∃ reader : Reader, request = .moduleOf path (.ok reader) ∧ reader.source = source := by
  cases request <;> try cases same
  next other opened =>
  rw [uncut, moduleOf.injEq] at same
  rcases same with ⟨rfl, same⟩
  cases opened with
  | error fault => cases same
  | ok reader => exact ⟨reader, rfl, Reader.uncut_eq_ofSource_iff.1 (Except.ok.inj same)⟩

end Request

end Storeroom

/-! ## What is asked for -/

/-- What storing the file at a path asks for, given what the path shows. -/
def InputPool.request
    (pool : InputPool)
    (path : String)
    (source : Source) :
    Storeroom.Request :=
  match pool with
  | .blobs => .contentOf path (.ok (.ofSource source))
  | .modules => .moduleOf path (.ok (.ofSource source))

/-- What a deed asks for: nothing if it has no input, finds no file or recalls its reading. -/
def Deed.request?
    (deed : Deed) :
    Option Storeroom.Request :=
  match deed.call with
  | .generatedText _ data => some (.content data)
  | _ => deed.reading?.map fun read => read.2.pool.request read.1 read.2.sight.source

/-- What a step towards a record asks for. -/
def Move.request?
    (move : Move) :
    Option Storeroom.Request :=
  move.deed?.bind Deed.request?

/-- What steps towards a record ask for: nothing behind the first with which something is wrong. -/
def requestsOf : List Move → List Storeroom.Request
  | [] => []
  | move :: rest =>
    move.request?.toList ++ if move.fault?.isSome then [] else requestsOf rest

/-- The entry that an attempt asks for if it writes a record. -/
def Attempt.recordRequest?
    (attempt : Attempt) :
    Option Storeroom.Request :=
  attempt.index?.map fun index =>
    .entry (InvocationRecord.entryName index) attempt.record.encode

/-- What an attempt asks for: its inputs, and the entry of its record. -/
def Attempt.requests
    (attempt : Attempt) :
    List Storeroom.Request :=
  requestsOf attempt.moves ++ attempt.recordRequest?.toList

/-- What the attempts of a log and the steps since ask for. -/
def loggedRequests
    (log : List Attempt)
    (moves : List Move) :
    List Storeroom.Request :=
  log.flatMap Attempt.requests ++ requestsOf moves

/-- After harmless steps one more asks for what it needs. -/
theorem requestsOf_append_of_harmless
    {moves : List Move}
    (harmless : moves.findSome? Move.fault? = none)
    (move : Move) :
    requestsOf (moves ++ [move]) = requestsOf moves ++ move.request?.toList := by
  induction moves with
  | nil => simp [requestsOf]
  | cons first rest ih =>
    rw [List.findSome?_cons] at harmless
    cases faulty : first.fault? with
    | some failure =>
      rw [faulty] at harmless
      cases harmless
    | none =>
      rw [faulty] at harmless
      simp [requestsOf, faulty, ih harmless]

/-- After a step with which something is wrong another one asks for nothing. -/
theorem requestsOf_append_of_faulty
    {moves : List Move}
    {failure : Failure}
    (first : moves.findSome? Move.fault? = some failure)
    (move : Move) :
    requestsOf (moves ++ [move]) = requestsOf moves := by
  induction moves with
  | nil => cases first
  | cons head rest ih =>
    rw [List.findSome?_cons] at first
    cases faulty : head.fault? with
    | some failure => simp [requestsOf, faulty]
    | none =>
      rw [faulty] at first
      simp [requestsOf, faulty, ih first]

/-- What a step asks for has a reader that is cut no further than need be. -/
theorem Move.map_uncut_request?
    (move : Move) :
    move.request?.map Storeroom.Request.uncut = move.request? := by
  cases move with
  | unresolved raw reasons => rfl
  | call deed =>
    show deed.request?.map Storeroom.Request.uncut = deed.request?
    rw [Deed.request?]
    split
    · rfl
    · cases deed.reading? with
      | none => rfl
      | some read =>
        rcases read with ⟨path, ⟨pool, sight⟩⟩
        cases pool <;>
          simp [InputPool.request, Storeroom.Request.uncut, Except.map, Reader.uncut_ofSource]

theorem map_uncut_requestsOf
    (moves : List Move) :
    (requestsOf moves).map Storeroom.Request.uncut = requestsOf moves := by
  induction moves with
  | nil => rfl
  | cons move rest ih =>
    rw [requestsOf, List.map_append, ← Option.toList_map, move.map_uncut_request?]
    split
    · rfl
    · rw [ih]

/-- What a run asks for has readers that are cut no further than need be. -/
theorem map_uncut_loggedRequests
    (log : List Attempt)
    (moves : List Move) :
    (loggedRequests log moves).map Storeroom.Request.uncut = loggedRequests log moves := by
  have attempts : ∀ attempt ∈ log,
      attempt.requests.map Storeroom.Request.uncut = attempt.requests := by
    intro attempt _
    rw [Attempt.requests, List.map_append, map_uncut_requestsOf, Attempt.recordRequest?]
    cases attempt.index? <;> rfl
  rw [loggedRequests, List.map_append, map_uncut_requestsOf, List.map_flatMap,
    List.flatMap_congr attempts]

theorem loggedRequests_append
    (log : List Attempt)
    (attempt : Attempt) :
    loggedRequests (log ++ [attempt]) [] =
      loggedRequests log attempt.moves ++ attempt.recordRequest?.toList := by
  simp [loggedRequests, requestsOf, Attempt.requests]

namespace Call

variable
  {call : Call}
  {path : String}
  {pool : InputPool}
  {files : FileSystem}
  {journal : Journal}

/-- A call without an input asks for nothing. -/
theorem request?_deed_of_pool?
    (noInput : call.pool? = none) :
    (call.deed files journal).request? = none := by
  have nothing :=
    (takesPresent_of_none (path?_of_pool? noInput) files journal).2
  rw [Deed.request?, call_deed, nothing]
  cases call <;> first | rfl | cases noInput

/-- A call with a file asks for what is read of it. -/
theorem request?_deed
    (named : call.path? = some path) :
    (call.deed files journal).request? =
      (call.deed files journal).reading?.map fun read =>
        read.2.pool.request read.1 read.2.sight.source := by
  rw [Deed.request?, call_deed]
  cases call <;> first | rfl | cases named

/-- A call with an input that is no file asks for the text. -/
theorem request?_deed_of_text
    (pooled : call.pool? = some pool)
    (noFile : call.path? = none) :
    (call.deed files journal).request? = some (.content (call.deed files journal).data) := by
  cases call with
  | generatedText => rfl
  | content | resource | reference | analyzer | generatedFile => cases noFile
  | _ => cases pooled

/-- What shows nothing is not read. -/
theorem reading?_deed_of_error
    (named : call.path? = some path)
    (pooled : call.pool? = some pool)
    {fault : FileFault}
    (missing : files.look path = .error fault) :
    (call.deed files journal).reading? = none := by
  rw [deed_of_file named pooled, missing]
  simp only [Deed.reading?, named, pooled]
  rfl

end Call

/-! ## Mirroring a recorder -/

namespace Storeroom

/-- A storeroom has the container and the pools of a recorder, as long as that records. -/
def Mirrors
    (room : Storeroom)
    (recorder : Recorder) :
    Prop :=
  ∀ writer, recorder.state = .recording writer →
    room.scribe.InStep writer.path writer.draft ∧
      room.blobs = recorder.blobs ∧ room.modules = recorder.modules

namespace Mirrors

variable
  {room : Storeroom}
  {recorder : Recorder}

theorem attends
    {recording : Recording}
    {writer : Writer}
    (mirrors : room.Mirrors recording.recorder)
    (records : recording.recorder.state = .recording writer) :
    room.Attends ⟨recording.files, writer⟩ :=
  (mirrors writer records).1

/-- A recorder with the same container and pools is mirrored as well. -/
theorem congr
    (mirrors : room.Mirrors recorder)
    {other : Recorder}
    (state : other.state = recorder.state)
    (blobs : other.blobs = recorder.blobs)
    (modules : other.modules = recorder.modules) :
    room.Mirrors other := by
  intro writer records
  rw [state] at records
  rw [blobs, modules]
  exact mirrors writer records

/-- A recorder that has ended is mirrored by anything. -/
theorem of_idle
    {failure : Failure}
    {recording : Recording}
    (idle : recording.bench = .error failure) :
    room.Mirrors recording.recorder := by
  intro writer records
  rw [Recording.bench_of_state records] at idle
  cases idle

/-- Failing leaves a recorder as it is, or ends it. -/
theorem fail
    {recording : Recording}
    (mirrors : room.Mirrors recording.recorder)
    {α : Type}
    (failure : Failure) :
    room.Mirrors (recording.fail failure : Recording × Except Failure α).1.recorder := by
  rcases failing : (recording.fail failure : Recording × Except Failure α) with ⟨after, outcome⟩
  rcases (Recording.fail_cases failing).2 with rfl | spent
  · exact mirrors
  · rcases spent.bench with ⟨cause, idle⟩
    exact of_idle idle

/-- Storing in the pools of a recorder is mirrored by what corresponds to it. -/
theorem storing
    {recording : Recording}
    {writer : Writer}
    (mirrors : room.Mirrors recording.recorder)
    (records : recording.recorder.state = .recording writer)
    {α Pool : Type}
    {learn : Pool → Scribe → Storeroom}
    {answer : Storeroom × Except Failure α}
    {store : Workbench → Except Failure (α × Pool × Workbench)}
    (corresponds :
      room.Corresponds ⟨recording.files, writer⟩ learn answer (store ⟨recording.files, writer⟩))
    {keep : Pool → Workbench → Recording}
    (keeping : ∀ {pool scribe left}, scribe.InStep left.writer.path left.writer.draft →
      (learn pool scribe).Mirrors (keep pool left).recorder) :
    answer.1.Mirrors (recording.storing store keep).1.recorder := by
  rw [Recording.storing, Recording.bench_of_state records]
  simp only
  cases storing : store ⟨recording.files, writer⟩ with
  | error failure =>
    rw [storing] at corresponds
    cases corresponds with
    | error same back =>
      refine Mirrors.fail ?_ failure
      intro other recordsToo
      rw [records] at recordsToo
      cases recordsToo
      exact ⟨back, (mirrors writer records).2⟩
  | ok stored =>
    rw [storing] at corresponds
    cases corresponds with
    | ok ahead => exact keeping ahead

end Mirrors

end Storeroom

/-! ## Inputs -/

/-- What adds an input obtains it, as long as none has failed. -/
theorem Invocation.recording_adding
    {α : Type}
    {invocation : Invocation}
    (unfailed : invocation.failure = none)
    (fetch : Recording → Recording × Except Failure α)
    (note : α → InvocationRecord → InvocationRecord) :
    (invocation.adding fetch note).recording = (fetch invocation.recording).1 := by
  simp only [adding, hasFailed, unfailed, Option.isSome_none, Bool.false_eq_true, if_false]
  rcases fetch invocation.recording with ⟨after, failure | found⟩ <;> rfl

section Inputs

variable
  [Zstd.Encoder]
  {room : Storeroom}
  {recording : Recording}
  {writer : Writer}
  {input : String}

namespace Storeroom.Mirrors

/-- Storing a text is mirrored by the request for it. -/
theorem storeText
    (mirrors : room.Mirrors recording.recorder)
    (records : recording.recorder.state = .recording writer)
    (data : Octets) :
    (room.storeContent data).1.Mirrors (recording.storeText data).1.recorder := by
  rcases mirrors writer records with ⟨-, blobs, modules⟩
  have corresponds :
      room.Corresponds ⟨recording.files, writer⟩ room.withBlobs (room.storeContent data)
        (room.blobs.put ⟨recording.files, writer⟩ data) :=
    storeContent_corresponds (mirrors.attends records) data
  rw [blobs] at corresponds
  rw [Recording.storeText_eq]
  apply mirrors.storing records corresponds
  intro pool scribe left ahead other recordsToo
  cases recordsToo
  exact ⟨ahead, rfl, modules⟩

variable [Zstd.Packer]

/-- Storing the content at a path is mirrored by the request for it, however its reader is cut. -/
theorem storeContent
    (agrees : Zstd.Packer.Agrees)
    (mirrors : room.Mirrors recording.recorder)
    (records : recording.recorder.state = .recording writer)
    {opened : Except FileFault Reader}
    (shows : recording.files.openSource input = opened.map Reader.source) :
    (room.storeFile input opened).1.Mirrors (recording.storeContent input).1.recorder := by
  rcases mirrors writer records with ⟨-, blobs, modules⟩
  have corresponds :
      room.Corresponds ⟨recording.files, writer⟩ room.withBlobs (room.storeFile input opened)
        (room.blobs.putFile ⟨recording.files, writer⟩ input) :=
    storeFile_corresponds agrees (mirrors.attends records) shows
  rw [blobs] at corresponds
  rw [Recording.storeContent_eq]
  apply mirrors.storing records corresponds
  intro pool scribe left ahead other recordsToo
  cases recordsToo
  exact ⟨ahead, rfl, modules⟩

/-- Storing the module at a path is mirrored by the request for it, however its reader is cut. -/
theorem storeModule
    (agrees : Zstd.Packer.Agrees)
    (mirrors : room.Mirrors recording.recorder)
    (records : recording.recorder.state = .recording writer)
    {opened : Except FileFault Reader}
    (shows : recording.files.openSource input = opened.map Reader.source) :
    (room.storeModuleFile input opened).1.Mirrors (recording.storeModule input).1.recorder := by
  rcases mirrors writer records with ⟨-, blobs, modules⟩
  have corresponds :
      room.Corresponds ⟨recording.files, writer⟩ room.withModules
        (room.storeModuleFile input opened)
        (room.modules.putFile ⟨recording.files, writer⟩ input) :=
    storeModuleFile_corresponds agrees (mirrors.attends records) shows
  rw [modules] at corresponds
  rw [Recording.storeModule_eq]
  apply mirrors.storing records corresponds
  intro pool scribe left ahead other recordsToo
  cases recordsToo
  exact ⟨ahead, blobs, rfl⟩

end Storeroom.Mirrors

end Inputs

/-! ## Calls -/

section Calls

variable
  [Zstd.Encoder]
  [Zstd.Packer]
  {room : Storeroom}
  {recording : Recording}
  {journal : Journal}
  {call : Call}
  {input : String}
  {pool : InputPool}
  {made : List Storeroom.Request}

/--
Recalling an input is mirrored by asking for nothing; reading it is mirrored by
the request for it.
-/
theorem Storeroom.Mirrors.recalling
    (mirrors : room.Mirrors recording.recorder)
    (named : call.path? = some input)
    (pooled : call.pool? = some pool)
    {α : Type}
    {known? : Fingerprint → Option α}
    {right : α → Reading → Prop}
    (remembered : ∀ fingerprint,
      Option.Rel right (known? fingerprint) (journal.recalled? input pool fingerprint))
    {stored : Recording × Except Failure α}
    (storing : ∀ {source}, recording.files.openSource input = .ok source →
      ∀ {request : Storeroom.Request}, request.uncut = pool.request input source →
        (room.serve request).1.Mirrors stored.1.recorder)
    (identity : α → InputIdentity)
    (asked :
      made.map Storeroom.Request.uncut =
        (call.deed recording.files journal).request?.toList) :
    (room.run made).Mirrors
      (recording.recalling input known? stored identity).1.recorder := by
  rw [Call.request?_deed named] at asked
  rw [Recording.recalling]
  cases seen : recording.files.look input with
  | error fault =>
    rw [Call.reading?_deed_of_error named pooled seen] at asked
    cases List.map_eq_nil_iff.1 asked
    rw [FileSystem.stat_eq_error_iff.2 seen]
    exact mirrors
  | ok sight =>
    rw [FileSystem.stat_eq_ok_iff.2 ⟨sight, seen, rfl⟩]
    have related := remembered sight.fingerprint
    cases recalled : journal.recalled? input pool sight.fingerprint with
    | some reading =>
      rw [(Call.deed_of_recalled named pooled seen recalled).2] at asked
      cases List.map_eq_nil_iff.1 asked
      rw [recalled] at related
      simp only
      generalize known? sight.fingerprint = found? at related ⊢
      cases related
      exact mirrors
    | none =>
      rw [(Call.deed_of_unrecalled named pooled seen recalled).2] at asked
      rcases List.map_eq_singleton_iff.1 asked with ⟨request, rfl, same⟩
      have opened : recording.files.openSource input = .ok sight.source := by
        rw [FileSystem.openSource_eq, seen]
        rfl
      have after := storing opened same
      rw [recalled] at related
      simp only
      generalize known? sight.fingerprint = found? at related ⊢
      cases related
      rcases stored with ⟨left, failure | found⟩
      · exact after
      · exact after.congr rfl rfl rfl

/-- A call on an invocation that has not failed is mirrored by what it asks for. -/
theorem Storeroom.Mirrors.calling
    {transcript : Transcript}
    (agrees : Zstd.Packer.Agrees)
    (mirrors : room.Mirrors transcript.invocation.recording.recorder)
    {path : String}
    (faithful : transcript.invocation.recording.Faithful path transcript.journal)
    {writer : Writer}
    (records : transcript.invocation.recording.recorder.state = .recording writer)
    (unfailed : transcript.invocation.failure = none)
    (asked : made.map Storeroom.Request.uncut = (transcript.move call).request?.toList) :
    (room.run made).Mirrors (transcript.call call).invocation.recording.recorder := by
  rcases faithful.keeps records with ⟨accepted, keeps⟩
  have carries : (transcript.call call).invocation = call.apply transcript.invocation := rfl
  have askedOfDeed :
      made.map Storeroom.Request.uncut =
        (call.deed transcript.invocation.recording.files transcript.journal).request?.toList :=
    asked
  rw [carries]
  cases call.shape with
  | setting note noInput applies notes =>
    rw [Call.request?_deed_of_pool? noInput] at askedOfDeed
    cases List.map_eq_nil_iff.1 askedOfDeed
    rw [applies]
    exact mirrors
  | content input note pooled named applies notes =>
    rw [applies, Invocation.recording_adding unfailed, Recording.contentKey_eq]
    refine mirrors.recalling named pooled (keeps.inputs.knownContent? input) ?_ _ askedOfDeed
    intro source opened request same
    rcases Storeroom.Request.uncut_eq_contentOf same with ⟨reader, rfl, rfl⟩
    rw [← Recording.storeContent_eq]
    exact mirrors.storeContent agrees records opened
  | text data note pooled noFile applies reads notes =>
    rw [Call.request?_deed_of_text pooled noFile, reads] at askedOfDeed
    rcases List.map_eq_singleton_iff.1 askedOfDeed with ⟨request, rfl, same⟩
    cases Storeroom.Request.uncut_eq_content same
    rw [applies, Invocation.recording_adding unfailed]
    exact mirrors.storeText records data
  | module input note pooled named applies notes =>
    rw [applies, Invocation.recording_adding unfailed, Recording.moduleInfo_eq]
    refine mirrors.recalling named pooled (keeps.inputs.knownModule? input) ?_ _ askedOfDeed
    intro source opened request same
    rcases Storeroom.Request.uncut_eq_moduleOf same with ⟨reader, rfl, rfl⟩
    rw [← Recording.storeModule_eq]
    exact mirrors.storeModule agrees records opened

end Calls

/-! ## Runs -/

section Runs

variable [Zstd.Encoder]

/--
A recorder is carried out by requests if, in whatever pieces they are packed and
however their readers are cut, a storeroom mirrors it after them.
-/
structure Recorder.IsCarriedOut
    (recorder : Recorder)
    (start : Storeroom)
    (requests : List Storeroom.Request) : Prop where
  mirrors : ∀ [Zstd.Packer], Zstd.Packer.Agrees → ∀ made,
    made.map Storeroom.Request.uncut = requests → (start.run made).Mirrors recorder

namespace Recorder.IsCarriedOut

variable
  {recorder after : Recorder}
  {start : Storeroom}
  {requests : List Storeroom.Request}

/-- An operation that asks for nothing changes neither the container nor the pools. -/
theorem congr
    (carriedOut : recorder.IsCarriedOut start requests)
    (state : after.state = recorder.state)
    (blobs : after.blobs = recorder.blobs)
    (modules : after.modules = recorder.modules) :
    after.IsCarriedOut start requests where
  mirrors agrees made asked := (carriedOut.mirrors agrees made asked).congr state blobs modules

/-- An operation is carried out by what it asks for. -/
theorem step
    (carriedOut : recorder.IsCarriedOut start requests)
    {more : List Storeroom.Request}
    (next : ∀ [Zstd.Packer] {room : Storeroom} {made : List Storeroom.Request},
      Zstd.Packer.Agrees → room.Mirrors recorder → made.map Storeroom.Request.uncut = more →
        (room.run made).Mirrors after) :
    after.IsCarriedOut start (requests ++ more) := by
  constructor
  intro packer agrees made asked
  rcases List.map_eq_append_iff.1 asked with ⟨earlier, later, rfl, before, rest⟩
  rw [Storeroom.run, List.foldl_append]
  exact next agrees (carriedOut.mirrors agrees earlier before) rest

/-- Of a recorder that has ended there is nothing to carry out. -/
theorem of_idle
    {recording : Recording}
    {failure : Failure}
    (idle : recording.bench = .error failure)
    (start : Storeroom)
    (requests : List Storeroom.Request) :
    recording.recorder.IsCarriedOut start requests where
  mirrors _ _ _ := .of_idle idle

/-- Failing asks for nothing. -/
theorem of_fail
    {recording left : Recording}
    (carriedOut : recording.recorder.IsCarriedOut start requests)
    {α : Type}
    {failure : Failure}
    {outcome : Except Failure α}
    (failing : recording.fail failure = (left, outcome)) :
    left.recorder.IsCarriedOut start requests := by
  rcases (Recording.fail_cases failing).2 with rfl | spent
  · exact carriedOut
  · rcases spent.bench with ⟨cause, idle⟩
    exact of_idle idle start requests

/-- Writing a record is carried out by the request for its entry. -/
theorem storeRecord
    {recording left : Recording}
    (carriedOut : recording.recorder.IsCarriedOut start requests)
    {record : InvocationRecord}
    {index : Nat}
    (storing : recording.storeRecord record = (left, .ok index)) :
    left.recorder.IsCarriedOut start
      (requests ++ [.entry (InvocationRecord.entryName index) record.encode]) := by
  rcases Recording.storeRecord_eq_ok storing with ⟨bench, written, idle, writing, rfl, rfl⟩
  apply carriedOut.step
  intro packer room made agrees mirrors asked
  rcases List.map_eq_singleton_iff.1 asked with ⟨request, rfl, same⟩
  cases Storeroom.Request.uncut_eq_entry same
  rcases Recording.state_of_bench idle with ⟨writer, records, rfl⟩
  rcases Storeroom.serve_entry (mirrors.attends records) writing with ⟨scribe, served, ahead⟩
  intro other recordsToo
  cases recordsToo
  rw [Storeroom.run, List.foldl_cons, List.foldl_nil, served]
  exact ⟨ahead, (mirrors writer records).2⟩

end Recorder.IsCarriedOut

/-- A recorder that was just created has asked for nothing. -/
theorem Recorder.isCarriedOut_create
    {files after : FileSystem}
    {path : String}
    {config : WriterConfig}
    {recorder : Recorder}
    (creating : Recorder.create files path config = (after, .ok recorder)) :
    ∃ writer, Writer.create files path config = (after, .ok writer) ∧
      recorder.IsCarriedOut (.start after writer) [] := by
  rcases Recorder.create_eq_ok creating with ⟨writer, starting, rfl⟩
  refine ⟨writer, starting, ⟨?_⟩⟩
  intro packer agrees made asked other records
  cases List.map_eq_nil_iff.1 asked
  cases records
  have inStep := Scribe.inStep_start starting
  rw [← (Workbench.sound_create starting).2.1] at inStep
  exact ⟨inStep, rfl, rfl⟩

namespace Transcript

variable
  {transcript : Transcript}
  {path : String}
  {start : Storeroom}
  {moves : List Move}
  {log : List Attempt}

/-- A call is carried out by what it asks for, which is nothing once the invocation has failed. -/
theorem isCarriedOut_call
    (faithful : transcript.invocation.recording.Faithful path transcript.journal)
    (stands : transcript.Stands moves)
    (carriedOut :
      transcript.invocation.recording.recorder.IsCarriedOut start (loggedRequests log moves))
    (call : Call) :
    (transcript.call call).invocation.recording.recorder.IsCarriedOut start
      (loggedRequests log (moves ++ [transcript.move call])) := by
  have unchanged : ∀ {failure}, transcript.invocation.failure = some failure →
      (transcript.call call).invocation.recording = transcript.invocation.recording := by
    intro failure failed
    have hasFailed : transcript.invocation.hasFailed = true := by
      rw [Invocation.hasFailed, failed]
      rfl
    exact (call.apply_of_failed transcript.invocation hasFailed).1
  rw [loggedRequests]
  cases stands with
  | unharmed unfailed records harmless =>
    rw [requestsOf_append_of_harmless harmless, ← List.append_assoc]
    apply carriedOut.step
    intro packer room made agrees mirrors asked
    exact mirrors.calling agrees faithful records unfailed asked
  | faulty failed _ first =>
    rw [requestsOf_append_of_faulty first, unchanged failed]
    exact carriedOut
  | @exhausted failure failed _ aborted =>
    have idle : transcript.invocation.recording.bench = .error (.aborted failure.message) := by
      simp only [Recording.bench, Recorder.writer, aborted]
    rw [unchanged failed]
    exact .of_idle idle start _

/-- A commit is carried out by the request for its record, if it writes one. -/
theorem isCarriedOut_commit
    (holds : transcript.Holds path)
    (noted : transcript.deeds = moves.filterMap Move.deed?)
    (carriedOut :
      transcript.invocation.recording.recorder.IsCarriedOut start (loggedRequests log moves)) :
    transcript.commit.1.recorder.IsCarriedOut start
      (loggedRequests (log ++ [⟨transcript.heading, moves, .of transcript.invocation.commit.2⟩])
        []) := by
  rw [loggedRequests_append, commit_fst]
  rcases committing : transcript.invocation.commit with ⟨after, failure | index⟩
  · have nothing :
        (Attempt.mk transcript.heading moves (.of (.error failure))).recordRequest? = none := rfl
    rw [nothing, Option.toList_none, List.append_nil]
    rcases Invocation.commit_cases committing with
      ⟨-, storing⟩ | ⟨cause, -, ⟨-, -, rfl⟩ | ⟨-, failing⟩⟩
    · exact carriedOut.of_fail (Recording.storeRecord_eq_error storing).1
    · exact carriedOut.congr rfl rfl rfl
    · exact carriedOut.of_fail failing
  · rcases Invocation.commit_ok committing with ⟨unfailed, storing⟩
    have written :
        (Attempt.mk transcript.heading moves (.of (.ok index))).recordRequest? =
          some (.entry (InvocationRecord.entryName index) transcript.invocation.record.encode) := by
      rw [holds.asCalled unfailed, noted]
      rfl
    rw [written]
    exact carriedOut.storeRecord storing

end Transcript

/-- What the log of a run asks for carries the run out. -/
theorem Conducts.isCarriedOut
    {path : String}
    {config : WriterConfig}
    {changes : FileSystem → FileSystem → Prop}
    (foreign : AreForeign path changes)
    {stage : Stage}
    {moves : List Move}
    {log : List Attempt}
    (conducts : Conducts path config changes stage moves log) :
    ∃ files started writer, Writer.create files path config = (started, .ok writer) ∧
      stage.recording.recorder.IsCarriedOut (.start started writer)
        (loggedRequests log moves) := by
  refine Conducts.induct
    (motive := fun stage moves log =>
      ∃ files started writer, Writer.create files path config = (started, .ok writer) ∧
        stage.recording.recorder.IsCarriedOut (.start started writer) (loggedRequests log moves))
    ?create ?elapse ?begin ?call ?commit ?drop ?unresolved conducts
  case create =>
    intro files after recorder _ creating
    rcases Recorder.isCarriedOut_create creating with ⟨writer, starting, carriedOut⟩
    exact ⟨files, after, writer, starting, carriedOut⟩
  case elapse =>
    rintro stage moves log files ⟨first, started, writer, starting, carriedOut⟩ _
    refine ⟨first, started, writer, starting, ?_⟩
    cases stage with
    | idle recording journal => exact carriedOut
    | lent transcript => exact carriedOut
  case begin =>
    rintro recording journal log invocation ⟨first, started, writer, starting, carriedOut⟩
      heading beginning
    rw [Recording.begin_eq_ok beginning]
    exact ⟨first, started, writer, starting, carriedOut⟩
  case call =>
    rintro transcript moves log conducts ⟨first, started, writer, starting, carriedOut⟩ call
    have reached := conducts.reaches foreign
    exact ⟨first, started, writer, starting,
      Transcript.isCarriedOut_call reached.holds.faithful (conducts.explained foreign).1
        carriedOut call⟩
  case commit =>
    rintro transcript moves log conducts ⟨first, started, writer, starting, carriedOut⟩
    exact ⟨first, started, writer, starting,
      Transcript.isCarriedOut_commit (conducts.reaches foreign).holds conducts.follows.2
        carriedOut⟩
  case drop =>
    rintro transcript moves log ⟨first, started, writer, starting, carriedOut⟩
    refine ⟨first, started, writer, starting, ?_⟩
    rw [loggedRequests_append]
    exact (List.append_nil _).symm ▸ carriedOut
  case unresolved =>
    rintro recording journal log ⟨first, started, writer, starting, carriedOut⟩ raw reasons
    refine ⟨first, started, writer, starting, ?_⟩
    rw [loggedRequests_append]
    exact (List.append_nil _).symm ▸ carriedOut.congr rfl rfl rfl

/-! ## Completing -/

/-- What completing an archive asks for: the entries of its documents. -/
def Recorder.documentRequests
    (recorder : Recorder) :
    List Storeroom.Request :=
  recorder.documents.map fun document => .entry document.1 document.2

/-- Adding documents is carried out by the requests for their entries. -/
theorem Storeroom.attends_addDocuments
    [Zstd.Packer]
    {room : Storeroom}
    {bench filled : Workbench}
    (attends : room.Attends bench)
    {documents : List (String × Octets)}
    (adding : Recording.addDocuments bench documents = .ok filled)
    {made : List Storeroom.Request}
    (asked : made.map Storeroom.Request.uncut =
      documents.map fun document => .entry document.1 document.2) :
    (room.run made).Attends filled := by
  induction documents generalizing room bench made with
  | nil =>
    cases List.map_eq_nil_iff.1 asked
    cases adding
    exact attends
  | cons document rest ih =>
    rcases Recording.addDocuments_cons_eq_ok adding with ⟨written, writing, addingRest⟩
    rcases List.map_eq_cons_iff.1 asked with ⟨request, later, rfl, same, askedLater⟩
    cases Storeroom.Request.uncut_eq_entry same
    rcases Storeroom.serve_entry attends writing with ⟨scribe, served, ahead⟩
    have attendsLater : ({ room with scribe } : Storeroom).Attends written := ahead
    rw [run, List.foldl_cons, served]
    exact ih attendsLater addingRest askedLater

/-! ## Stages that are reached -/

/-- A change of others that leaves a temporary file alone. -/
def FileSystem.ChangesAround
    (path : String)
    (before after : FileSystem) :
    Prop :=
  after.Sane ∧ FileSystem.Leaves (Writer.temporaryRoute path) before after

omit [Zstd.Encoder] in
theorem areForeign_changesAround
    (path : String) :
    AreForeign path (FileSystem.ChangesAround path) where
  sane changed := changed.1
  leaves changed := changed.2

/-- There is a log of what led to a stage. -/
def Stage.IsConducted
    (path : String)
    (config : WriterConfig) : Stage → Prop
  | .idle recording journal =>
    ∃ log, Conducts path config (FileSystem.ChangesAround path) (.idle recording journal) [] log
  | .lent transcript =>
    ∃ moves log,
      Conducts path config (FileSystem.ChangesAround path) (.lent transcript) moves log

/-- Of every stage that is reached there is a log, unless its recorder has ended. -/
theorem Reaches.isConducted
    {path : String}
    {config : WriterConfig}
    {stage : Stage}
    (reached : Reaches path config stage) :
    stage.IsConducted path config ∨
      ∃ recording journal, stage = .idle recording journal ∧
        ∀ writer, recording.recorder.state ≠ .recording writer := by
  induction reached with
  | create sane creating => exact Or.inl ⟨[], .create sane creating⟩
  | @elapse stage files _ sane leaves ih =>
    rcases ih with conducted | ⟨recording, journal, rfl, ended⟩
    · left
      cases stage with
      | idle recording journal =>
        rcases conducted with ⟨log, conducts⟩
        exact ⟨log, conducts.elapse ⟨sane, leaves⟩⟩
      | lent transcript =>
        rcases conducted with ⟨moves, log, conducts⟩
        exact ⟨moves, log, conducts.elapse ⟨sane, leaves⟩⟩
    · exact Or.inr ⟨_, journal, rfl, ended⟩
  | begin _ heading beginning ih =>
    rcases ih with ⟨log, conducts⟩ | ⟨_, _, same, ended⟩
    · exact Or.inl ⟨[], log, conducts.begin heading beginning⟩
    · cases same
      rcases Recording.begin_isOk_iff.1 ⟨_, beginning⟩ with ⟨writer, records⟩
      exact absurd records (ended writer)
  | call _ next ih =>
    rcases ih with ⟨moves, log, conducts⟩ | ⟨_, _, same, -⟩
    · exact Or.inl ⟨_, log, conducts.call next⟩
    · cases same
  | commit _ ih =>
    rcases ih with ⟨moves, log, conducts⟩ | ⟨_, _, same, -⟩
    · exact Or.inl ⟨_, conducts.commit⟩
    · cases same
  | drop _ ih =>
    rcases ih with ⟨moves, log, conducts⟩ | ⟨_, _, same, -⟩
    · exact Or.inl ⟨_, conducts.drop⟩
    · cases same
  | @capture recording journal _ raw resolve ih =>
    rcases ih with ⟨log, conducts⟩ | ⟨_, _, same, ended⟩
    · exact Or.inl ⟨_, conducts.capture raw resolve⟩
    · cases same
      refine Or.inr ⟨_, _, rfl, ?_⟩
      cases beginning : recording.begin raw.projectPath raw.language raw.kind with
      | error failure =>
        rw [Recording.capture]
        simp only [beginning]
        exact ended
      | ok invocation =>
        rcases Recording.begin_isOk_iff.1 ⟨_, beginning⟩ with ⟨writer, records⟩
        exact absurd records (ended writer)
  | @unfinished recording after journal failure _ finishing ih =>
    rcases Recording.finish_error finishing with rfl | spent
    · exact ih
    · refine Or.inr ⟨after, journal, rfl, ?_⟩
      intro writer records
      rcases spent.bench with ⟨cause, idle⟩
      rw [Recording.bench_of_state records] at idle
      cases idle

/--
A container that is about to be completed is the one that a storeroom gets to by
carrying out what the log of the run asks for, with an unknown part of every
reader that fails written and cut off again on the way.
-/
theorem Reaches.isCarriedOut
    {path : String}
    {config : WriterConfig}
    {recording : Recording}
    {journal : Journal}
    (reached : Reaches path config (.idle recording journal))
    {bench filled : Workbench}
    (records : recording.bench = .ok bench)
    (adding : Recording.addDocuments bench recording.recorder.documents = .ok filled) :
    ∃ log files started writer,
      Conducts path config (FileSystem.ChangesAround path) (.idle recording journal) [] log ∧
        Writer.create files path config = (started, .ok writer) ∧
        ∀ [Zstd.Packer], Zstd.Packer.Agrees → ∀ made : List Storeroom.Request,
          made.map Storeroom.Request.uncut =
              loggedRequests log [] ++ recording.recorder.documentRequests →
            ((Storeroom.start started writer).run made).Attends filled := by
  rcases Recording.state_of_bench records with ⟨working, state, rfl⟩
  rcases reached.isConducted with ⟨log, conducts⟩ | ⟨_, _, same, ended⟩
  · rcases conducts.isCarriedOut (areForeign_changesAround path) with
      ⟨files, started, writer, starting, carriedOut⟩
    refine ⟨log, files, started, writer, conducts, starting, ?_⟩
    intro packer agrees made asked
    rcases List.map_eq_append_iff.1 asked with ⟨earlier, later, rfl, before, rest⟩
    have attends := (carriedOut.mirrors agrees earlier before).attends state
    rw [Storeroom.run, List.foldl_append]
    exact Storeroom.attends_addDocuments attends adding rest
  · cases same
    exact absurd state (ended working)

end Runs

end BuildCapture
