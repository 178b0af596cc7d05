import BuildCapture.Extension.Session
import BuildCapture.Replay.Crew

/-!
# Replays

A replay hands every record of an archive to a compiler front end, together
with a session of its own, and disposes of the session afterwards.  A failure,
and even a front end that breaks down, stays with its invocation.
Cancellation takes effect between invocations only.
-/

namespace BuildCapture

/-! ## Front ends -/

/-- Everything a front end gets for one invocation. -/
structure ReplayRequest where
  index : Nat
  record : InvocationRecord
  archive : Archive
  session : Session
  files : FileSystem

namespace ReplayRequest

/-- Several values, or the first failure to obtain one. -/
def obtainAll
    {α β : Type}
    (obtain : α → Except Failure β) : List α → Except Failure (List (α × β))
  | [] => .ok []
  | entry :: rest =>
    match obtain entry with
    | .error failure => .error failure
    | .ok value =>
      match obtainAll obtain rest with
      | .error failure => .error failure
      | .ok others => .ok ((entry, value) :: others)

/-- The content inputs with their octets, in stored order. -/
def contents
    (request : ReplayRequest) :
    Except Failure (List (ContentEntry × Octets)) :=
  obtainAll (fun entry => request.archive.blob entry.key) request.record.contents

/-- The referenced modules with their images, in stored order. -/
def references
    (request : ReplayRequest) :
    Except Failure (List (ReferenceEntry × Octets)) :=
  obtainAll (fun entry => request.archive.module entry.module) request.record.references

/-- The content with a key. -/
def blob
    (request : ReplayRequest)
    (key : ContentKey) :
    Except Failure Octets :=
  request.archive.blob key

end ReplayRequest

/-- Why the replay of an invocation failed. -/
inductive ReplayFailure where
  /-- The archive or the session failed. -/
  | library (failure : Failure)
  /-- The front end failed with its own text. -/
  | frontEnd (message : String)
deriving DecidableEq, Repr

/-- How a front end ends. -/
inductive FrontEndEnding (α : Type) where
  | returned (value : α)
  | failed (failure : ReplayFailure)
  /-- The front end broke down, with a text if it left one. -/
  | brokeDown (payload : Option String)

/-- The outcome of an invocation whose front end ended in some way. -/
def FrontEndEnding.outcome
    {α : Type} : FrontEndEnding α → Except ReplayFailure α
  | .returned value => .ok value
  | .failed failure => .error failure
  | .brokeDown payload =>
    .error (.frontEnd ("front end panicked: " ++ payload.getD "non-string payload"))

/-- Replays one invocation; it may use a memory of its own, and may cancel the replay. -/
abbrev FrontEnd (σ α : Type) := ReplayRequest → σ → TaskReply σ (FrontEndEnding α)

/-! ## Replaying -/

/-- The outcomes of all attempted invocations, in the order of their indices. -/
structure ReplayReport (α : Type) where
  outcomes : List (Nat × Except ReplayFailure α)
  isCancelled : Bool

namespace ReplayReport

/-- How many invocations were replayed. -/
def completed
    {α : Type}
    (report : ReplayReport α) :
    Nat :=
  (report.outcomes.filter fun outcome => outcome.2.isOk).length

/-- How many invocations failed. -/
def failed
    {α : Type}
    (report : ReplayReport α) :
    Nat :=
  report.outcomes.length - report.completed

end ReplayReport

namespace Archive

variable {σ α : Type}

/-- Hands a record and its session to a front end, and disposes of the session. -/
def replaySession
    (archive : Archive)
    (frontEnd : FrontEnd σ α)
    (index : Nat)
    (record : InvocationRecord)
    (session : Session)
    (memory : FileSystem × σ) :
    TaskReply (FileSystem × σ) (Except ReplayFailure α) :=
  let reply := frontEnd { index, record, archive, session, files := memory.1 } memory.2
  { memory := ((session.dispose memory.1).1, reply.memory)
    cancels := reply.cancels
    outcome := reply.outcome.outcome }

/-- Replays the record with an index. -/
def replayOne
    (archive : Archive)
    (frontEnd : FrontEnd σ α)
    (config : LoaderConfig) :
    Task (FileSystem × σ) (Except ReplayFailure α) :=
  fun index memory =>
    match archive.record index with
    | .error failure => { memory, outcome := .error (.library failure) }
    | .ok record =>
      match Session.create memory.1 archive record config with
      | (files, .error failure) =>
        { memory := (files, memory.2), outcome := .error (.library failure) }
      | (files, .ok session) =>
        archive.replaySession frontEnd index record session (files, memory.2)

/-- How many workers replay an archive: no more than there are records, but at least one. -/
def crewSize
    (archive : Archive)
    (config : ReplayConfig) :
    Nat :=
  min (max config.workers.toNat 1) (max archive.count 1)

/-- What a crew that is done reports. -/
def report
    (archive : Archive)
    (crew : Crew (FileSystem × σ) (Except ReplayFailure α)) :
    ReplayReport α where
  outcomes := crew.sortedOutcomes
  isCancelled := crew.isCancelled ∧ crew.outcomes.length < archive.count

/-- Replays every record; `memory` holds the file system and what the front end remembers. -/
def replay
    (archive : Archive)
    (frontEnd : FrontEnd σ α)
    (config : ReplayConfig)
    (isCancelled : Bool)
    (memory : FileSystem × σ) :
    ReplayReport α × (FileSystem × σ) :=
  let size := archive.crewSize config
  let crew := (Crew.new size memory isCancelled).run archive.count
    (archive.replayOne frontEnd config.loader) (Crew.turns archive.count size)
  (archive.report crew, crew.memory)

end Archive

end BuildCapture
