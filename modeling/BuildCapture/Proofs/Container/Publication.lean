import BuildCapture.Proofs.Container.Frozen
import BuildCapture.Proofs.Container.Temporary

/-!
# Sealing that fails

A writer seals its container by writing the directory and the trailer behind the
octets in the temporary file and moving the file to the final path.  This can break
off at every octet, before the file is moved and when it is moved, and the files
around it may change at any time.  Whatever happens, a failed attempt leaves the
final path alone and removes the temporary file, unless the system forbids that too.

The writer keeps no record of how the attempt ended, though: it counts as sealed
from the first attempt on.  So being sealed says that the container was published
exactly if that first attempt did not fail.
-/

namespace BuildCapture.Container

open Writer

/-! ## Writers and what is around them -/

/-- The file with an identity stands nowhere but where the way to the temporary file leads. -/
def Hides
    (files : FileSystem)
    (own : Nat)
    (path : String) :
    Prop :=
  ∀ place stamp content flaw, files.node? place = some (.file own stamp content flaw) →
    files.locate (temporaryRoute path) = .ok place

namespace Hides

variable
  {before after : FileSystem}
  {own : Nat}
  {path : String}

theorem rewrites
    (hides : Hides before own path)
    (rewrites : before.Rewrites own after) :
    Hides after own path := by
  intro place stamp content flaw there
  rw [rewrites.locate_eq]
  rcases rewrites.nodes place with same | ⟨_, _, _, _, _, old, -, -⟩
  · exact hides place stamp content flaw (same.symm.trans there)
  · exact hides place _ _ _ old

/-- A directory that is made does not matter. -/
theorem createDirectory
    (hides : Hides before own path)
    {route : Route}
    (making : before.createDirectory route = .ok after) :
    Hides after own path := by
  rcases FileSystem.createDirectory_eq_ok making with ⟨made, -, nothing, rfl⟩
  intro place stamp content flaw there
  rw [FileSystem.node?_put _ _ _ _ (FileSystem.ne_root_of_nothing nothing)] at there
  split at there
  · cases there
  · have kept := FileSystem.keepsDirectories_put
      (FileSystem.noDirectory_of_nothing nothing) Node.directory
    exact FileSystem.locate_eq_ok kept rfl (hides place stamp content flaw there)

/-- A file that is hidden is not found at the final path. -/
theorem other_at_path
    (hides : Hides before own path)
    {place : Location}
    (located : before.locate (.ofPath path) = .ok place)
    (stamp : Nat)
    (content : Octets)
    (flaw : Option Flaw) :
    before.node? place ≠ some (.file own stamp content flaw) := by
  intro there
  have beside := hides place stamp content flaw there
  rcases FileSystem.follow_of_locate_beside suffix_nonempty beside with
    ⟨elsewhere, followed, different⟩
  exact different (Except.ok.inj (followed.symm.trans (FileSystem.follow_of_locate located)))

end Hides

/-- Removing the temporary file leaves everything else where it is. -/
theorem Writer.node?_removeTemporary_of_ne
    {files : FileSystem}
    {path : String}
    {place : Location}
    (elsewhere : files.locate (temporaryRoute path) ≠ .ok place) :
    (removeTemporary files path).node? place = files.node? place := by
  rw [removeTemporary]
  split
  · rfl
  next after removing =>
  rcases FileSystem.removeFile_eq_ok removing with
    ⟨location, identity, stamp, content, flaw, found, rfl⟩
  have different : place ≠ location := by
    rintro rfl
    exact elsewhere (FileSystem.find_eq_file_iff.1 found).1
  rw [FileSystem.node?_erase _ _ _ (FileSystem.ne_root_of_find found), if_neg different]

/-- A system that breaks off while a container is sealed. -/
structure Interruption where
  /-- How many octets of the directory and the trailer it still writes. -/
  written : Nat
  fault : FileFault
  /-- Whether the temporary file can be removed after that. -/
  removes : Bool
deriving DecidableEq, Repr

namespace Workbench

/-! ## Attempts to seal -/

/-- The file system after the container could not be published because the system broke off. -/
def breakOff
    (bench : Workbench)
    (interruption : Interruption) :
    FileSystem :=
  let writer := bench.writer
  let files := bench.files.writeAt writer.identity writer.draft.image.length
    (writer.draft.ending.take interruption.written)
  if interruption.removes then removeTemporary files writer.path else files

/-- Finishes the container on a system that may break off. -/
def attempt
    (bench : Workbench) : Option Interruption → Workbench × Except Failure Unit
  | none => bench.finish
  | some interruption =>
    if bench.writer.draft.isSealed then
      (bench, .error .alreadySealed)
    else
      ({ files := bench.breakOff interruption
         writer := { bench.writer with draft := bench.writer.draft.sealed } },
        .error (.file interruption.fault))

variable
  {bench after : Workbench}
  {interruption? : Option Interruption}

/-- A sealed writer is not sealed again. -/
theorem attempt_of_sealed
    (closed : bench.writer.draft.isSealed = true)
    (interruption? : Option Interruption) :
    bench.attempt interruption? = (bench, .error .alreadySealed) := by
  cases interruption? with
  | none => rw [attempt, finish, if_pos closed]
  | some interruption => rw [attempt, if_pos closed]

/-- After an attempt the writer is sealed, however the attempt ended. -/
theorem sealed_attempt
    (bench : Workbench)
    (interruption? : Option Interruption) :
    (bench.attempt interruption?).1.writer.path = bench.writer.path ∧
      (bench.attempt interruption?).1.writer.draft.isSealed = true := by
  cases interruption? with
  | none => exact sealed_finish rfl
  | some interruption =>
    rw [attempt]
    split
    next closed => exact ⟨rfl, closed⟩
    · exact ⟨rfl, rfl⟩

/-- An attempt fails after the temporary file was rewritten, and then that file goes if it can. -/
theorem attempt_cases
    (unsealed : bench.writer.draft.isSealed = false)
    {failure : Failure}
    (failing : bench.attempt interruption? = (after, .error failure)) :
    ∃ completed, bench.files.Rewrites bench.writer.identity completed ∧
      (after.files = removeTemporary completed bench.writer.path ∨
        after.files = completed ∧
          ∃ interruption ∈ interruption?, interruption.removes = false) := by
  cases interruption? with
  | none =>
    rcases finish_cases unsealed failing with ⟨completed, rewrites, moved | removed⟩
    · cases moved.1
    · rcases removed with ⟨fault, -, removed⟩
      exact ⟨completed, rewrites, Or.inl removed⟩
  | some interruption =>
    rw [attempt, unsealed] at failing
    simp only [Bool.false_eq_true, if_false] at failing
    cases failing
    refine ⟨bench.files.writeAt bench.writer.identity bench.writer.draft.image.length
      (bench.writer.draft.ending.take interruption.written), FileSystem.rewrites_edit _ _ _, ?_⟩
    rw [breakOff]
    cases removes : interruption.removes with
    | true => exact Or.inl rfl
    | false => exact Or.inr ⟨rfl, interruption, rfl, removes⟩

/-- What a failed attempt to seal the container with a path leaves. -/
structure Spoils
    (bench : Workbench)
    (path : String)
    (interruption? : Option Interruption)
    (after : Workbench) : Prop where
  closed : after.writer.draft.isSealed = true
  kept : after.files.find (.ofPath path) = bench.files.find (.ofPath path)
  others : ∀ {place}, bench.files.locate (temporaryRoute path) ≠ .ok place →
    after.files.node? place = bench.files.node? place
  /-- A writer that was sealed before does nothing. -/
  idle : bench.writer.draft.isSealed = true → after = bench
  gone : bench.writer.draft.isSealed = false →
    (∀ interruption ∈ interruption?, interruption.removes = true) →
      ∀ location identity stamp content flaw,
        after.files.find (temporaryRoute path) ≠
          .ok (location, .file identity stamp content flaw)

/-- An attempt that fails can not be seen but by the seal, while the temporary file is hidden. -/
theorem spoils_of_attempt
    (hidden : bench.writer.draft.isSealed = false →
      Hides bench.files bench.writer.identity bench.writer.path)
    {failure : Failure}
    (failing : bench.attempt interruption? = (after, .error failure)) :
    bench.Spoils bench.writer.path interruption? after := by
  have closed : after.writer.draft.isSealed = true := by
    have sealed := (sealed_attempt bench interruption?).2
    rw [failing] at sealed
    exact sealed
  cases state : bench.writer.draft.isSealed with
  | true =>
    rw [attempt_of_sealed state] at failing
    cases failing
    exact ⟨closed, rfl, fun _ => rfl, fun _ => rfl, fun unsealed => by simp [state] at unsealed⟩
  | false =>
    have hides := hidden state
    rcases attempt_cases state failing with ⟨completed, rewrites, left⟩
    have keptCompleted :=
      rewrites.find_eq_of_other fun located => hides.other_at_path located
    have othersCompleted {place : Location}
        (elsewhere : bench.files.locate (temporaryRoute bench.writer.path) ≠ .ok place) :
        completed.node? place = bench.files.node? place :=
      rewrites.node?_eq_of_other fun stamp content flaw there =>
        elsewhere (hides place stamp content flaw there)
    constructor
    case closed => exact closed
    case kept =>
      rcases left with removed | ⟨stays, -⟩
      · rw [removed, find_removeTemporary, keptCompleted]
      · rw [stays, keptCompleted]
    case others =>
      intro place elsewhere
      rcases left with removed | ⟨stays, -⟩
      · have still := rewrites.locate_eq (temporaryRoute bench.writer.path) ▸ elsewhere
        rw [removed, node?_removeTemporary_of_ne still, othersCompleted elsewhere]
      · rw [stays, othersCompleted elsewhere]
    case idle =>
      intro sealed
      rw [state] at sealed
      cases sealed
    case gone =>
      intro _ removable location identity stamp content flaw found
      rcases left with removed | ⟨-, interruption, member, stuck⟩
      · rw [removed] at found
        rcases FileSystem.find_eq_file_iff.1 found with ⟨located, there, -⟩
        exact node?_of_removeTemporary located there
      · rw [removable interruption member] at stuck
        cases stuck

/-! ## Runs of a writer -/

variable [Zstd.Encoder]

/-- Whatever is asked of a writer but to seal, it only rewrites its temporary file. -/
theorem rewrites_serve
    (bench : Workbench)
    {request : Request}
    (other : request ≠ .finish) :
    bench.Rewrites (bench.serve request).1 := by
  cases request with
  | write name data =>
    rw [serve]
    split
    · exact .refl bench
    · next written writing => exact rewrites_write writing
  | stream source =>
    rw [serve]
    split
    · exact .refl bench
    · next pending streamed streaming => exact rewrites_stream streaming
  | commit pending name => exact rewrites_commit bench pending name
  | discard pending =>
    rw [serve]
    split
    · exact .refl bench
    · next shorter discarding => exact rewrites_discard discarding
  | finish => exact absurd rfl other

/--
What a workbench can become, and how the attempts to seal it have ended.  Files
around the writer may change in any way, but while it is not sealed nobody else
puts its temporary file to another place.
-/
inductive Reaches (start : Workbench) : Workbench → List (Except Failure Unit) → Prop
  | start : Reaches start start []
  | request {bench : Workbench} {attempts : List (Except Failure Unit)}
    (reached : Reaches start bench attempts)
    (request : Request)
    (other : request ≠ .finish) :
    Reaches start (bench.serve request).1 attempts
  | attempt {bench : Workbench} {attempts : List (Except Failure Unit)}
    (reached : Reaches start bench attempts)
    (interruption? : Option Interruption) :
    Reaches start (bench.attempt interruption?).1
      (attempts ++ [(bench.attempt interruption?).2])
  | around {bench : Workbench} {attempts : List (Except Failure Unit)}
    (reached : Reaches start bench attempts)
    (files : FileSystem)
    (hidden : bench.writer.draft.isSealed = false →
      Hides files bench.writer.identity bench.writer.path) :
    Reaches start { bench with files } attempts

/-- What holds of a writer of the container with a path, however its attempts to seal have ended. -/
structure Keeps
    (path : String)
    (bench : Workbench)
    (attempts : List (Except Failure Unit)) : Prop where
  path_eq : bench.writer.path = path
  hidden : bench.writer.draft.isSealed = false →
    Hides bench.files bench.writer.identity bench.writer.path
  none : bench.writer.draft.isSealed = false → attempts = []
  /-- Only the first attempt can do anything. -/
  first : bench.writer.draft.isSealed = true →
    ∃ outcome later, attempts = outcome :: later ∧
      ∀ refusal ∈ later, refusal = .error .alreadySealed

namespace Keeps

variable
  {path : String}
  {attempts : List (Except Failure Unit)}

omit [Zstd.Encoder] in
/-- The temporary file of a new writer is hidden. -/
theorem create
    {files started : FileSystem}
    {config : WriterConfig}
    {writer : Writer}
    (sane : files.Sane)
    (creating : Writer.create files path config = (started, .ok writer)) :
    Keeps path ⟨started, writer⟩ [] := by
  have drafts := (Writer.drafts_create sane creating).1
  rcases drafts.found with ⟨location, -, -, located, alone⟩
  have samePath : writer.path = path := drafts.path_eq
  constructor
  case path_eq => exact samePath
  case hidden =>
    intro _ place stamp content flaw there
    rw [alone place stamp content flaw there, samePath]
    exact located
  case none => exact fun _ => rfl
  case first =>
    intro sealed
    rw [drafts.unsealed] at sealed
    cases sealed

theorem request
    (keeps : Keeps path bench attempts)
    {request : Request}
    (other : request ≠ .finish) :
    Keeps path (bench.serve request).1 attempts := by
  have rewrites := rewrites_serve bench other
  have sameSeal : (bench.serve request).1.writer.draft.isSealed = bench.writer.draft.isSealed :=
    congrArg Prod.snd rewrites.settings
  constructor
  case path_eq => exact rewrites.path.trans keeps.path_eq
  case hidden =>
    rw [sameSeal, rewrites.identity, rewrites.path]
    exact fun unsealed => (keeps.hidden unsealed).rewrites rewrites.files
  case none =>
    rw [sameSeal]
    exact keeps.none
  case first =>
    rw [sameSeal]
    exact keeps.first

omit [Zstd.Encoder] in
theorem attempt
    (keeps : Keeps path bench attempts)
    (interruption? : Option Interruption) :
    Keeps path (bench.attempt interruption?).1
      (attempts ++ [(bench.attempt interruption?).2]) := by
  have sealed := sealed_attempt bench interruption?
  constructor
  case path_eq => exact sealed.1.trans keeps.path_eq
  case hidden =>
    intro unsealed
    rw [sealed.2] at unsealed
    cases unsealed
  case none =>
    intro unsealed
    rw [sealed.2] at unsealed
    cases unsealed
  case first =>
    intro _
    cases state : bench.writer.draft.isSealed with
    | false =>
      rw [keeps.none state]
      exact ⟨_, [], rfl, fun _ member => absurd member List.not_mem_nil⟩
    | true =>
      rcases keeps.first state with ⟨outcome, later, shape, refused⟩
      rw [attempt_of_sealed state, shape]
      refine ⟨outcome, later ++ [.error .alreadySealed], rfl, ?_⟩
      intro refusal member
      rcases List.mem_append.1 member with earlier | last
      · exact refused refusal earlier
      · exact List.mem_singleton.1 last

omit [Zstd.Encoder] in
theorem around
    (keeps : Keeps path bench attempts)
    {files : FileSystem}
    (hidden : bench.writer.draft.isSealed = false →
      Hides files bench.writer.identity bench.writer.path) :
    Keeps path { bench with files } attempts :=
  ⟨keeps.path_eq, hidden, keeps.none, keeps.first⟩

/-- It holds of everything that a writer can become. -/
theorem of_reaches
    {start : Workbench}
    (keeps : Keeps path start [])
    (reached : start.Reaches bench attempts) :
    Keeps path bench attempts := by
  induction reached with
  | start => exact keeps
  | request _ request other ih => exact ih.request other
  | attempt _ interruption? ih => exact ih.attempt interruption?
  | around _ files hidden ih => exact ih.around hidden

omit [Zstd.Encoder] in
/-- A writer is sealed once there was an attempt to seal it. -/
theorem sealed_iff
    (keeps : Keeps path bench attempts) :
    bench.writer.draft.isSealed = true ↔ attempts ≠ [] := by
  cases state : bench.writer.draft.isSealed with
  | false => simp [keeps.none state]
  | true =>
    rcases keeps.first state with ⟨outcome, later, shape, -⟩
    simp [shape]

omit [Zstd.Encoder] in
/-- A container was published if the first attempt did it. -/
theorem published_iff
    (keeps : Keeps path bench attempts) :
    .ok () ∈ attempts ↔ attempts.head? = some (.ok ()) := by
  cases state : bench.writer.draft.isSealed with
  | false => simp [keeps.none state]
  | true =>
    rcases keeps.first state with ⟨outcome, later, rfl, refused⟩
    have notLater : .ok () ∉ later := by
      intro member
      cases refused _ member
    rw [List.mem_cons, List.head?_cons, Option.some_inj, eq_comm (a := outcome)]
    exact or_iff_left notLater

end Keeps

/--
However a writer is used and whatever the system does, it is sealed as soon as
there was an attempt to seal it.  So being sealed says that an attempt was
successful exactly if the first one did not fail.  An attempt that fails leaves
the final path and everything else as it was, and no temporary file unless that
can not be removed.
-/
theorem sealed_means_published_iff_first_attempt_did_not_fail
    {files started : FileSystem}
    (sane : files.Sane)
    {path : String}
    {config : WriterConfig}
    {writer : Writer}
    (creating : Writer.create files path config = (started, .ok writer))
    {attempts : List (Except Failure Unit)}
    (reached : (⟨started, writer⟩ : Workbench).Reaches bench attempts) :
    (bench.writer.draft.isSealed = true ↔ attempts ≠ []) ∧
      ((bench.writer.draft.isSealed = true ↔ .ok () ∈ attempts) ↔
        ∀ failure, attempts.head? ≠ some (.error failure)) ∧
      ∀ interruption? after failure,
        bench.attempt interruption? = (after, .error failure) →
          bench.Spoils path interruption? after := by
  have keeps := (Keeps.create sane creating).of_reaches reached
  refine ⟨keeps.sealed_iff, ?_, ?_⟩
  · rw [keeps.sealed_iff, keeps.published_iff]
    cases attempts with
    | nil => simp
    | cons first later =>
      cases first with
      | error failure => simp
      | ok done => simp
  · intro interruption? after failure failing
    rw [← keeps.path_eq]
    exact spoils_of_attempt keeps.hidden failing

end Workbench

/-! ## A final path that becomes a directory -/

theorem sane_noFiles : noFiles.Sane := by
  apply FileSystem.sane_of_nodes
  · decide
  · decide

/-- The workbench of a plain container with an entry whose final path has become a directory. -/
def blockedBench : Option Workbench :=
  (plainBench [.write "a" [120]]).bind fun bench =>
    match bench.files.createDirectory (.ofPath "plain") with
    | .error _ => none
    | .ok files => some { bench with files }

set_option maxRecDepth 100000 in
/-- The container can not be published over the directory. -/
theorem attempt_blockedBench :
    ∃ started writer bench,
      Writer.create noFiles "plain" plainConfig = (started, .ok writer) ∧
        (⟨started, writer⟩ : Workbench).Reaches bench [] ∧
        (bench.attempt none).2 = .error (.file .isDirectory) ∧
        bench.files.find (.ofPath "plain") = .ok (["plain"], .directory) := by
  have starts : ∃ started writer, plainStart = (started, .ok writer) := ⟨_, _, rfl⟩
  rcases starts with ⟨started, writer, starting⟩
  have blocked :
      ∃ bench, blockedBench = some bench ∧
        (bench.attempt none).2 = .error (.file .isDirectory) ∧
        bench.files.find (.ofPath "plain") = .ok (["plain"], .directory) := by
    refine ⟨_, rfl, ?_⟩
    decide +kernel
  rcases blocked with ⟨bench, shape, failing, directory⟩
  refine ⟨started, writer, bench, starting, ?_, failing, directory⟩
  rw [blockedBench, plainBench, starting, Option.bind_some] at shape
  split at shape
  · cases shape
  next files making =>
  cases shape
  have written : (⟨started, writer⟩ : Workbench).Reaches _ [] :=
    .request .start (.write "a" [120]) (by decide)
  have keeps := (Workbench.Keeps.create sane_noFiles starting).of_reaches written
  exact written.around files fun unsealed => (keeps.hidden unsealed).createDirectory making

/-- A writer counts as sealed although its container was never published. -/
theorem failed_writer_counts_as_sealed :
    ∃ started writer bench,
      Writer.create noFiles "plain" plainConfig = (started, .ok writer) ∧
        (⟨started, writer⟩ : Workbench).Reaches bench [.error (.file .isDirectory)] ∧
        ¬ (bench.writer.draft.isSealed = true ↔
          .ok () ∈ ([.error (.file .isDirectory)] : List (Except Failure Unit))) := by
  rcases attempt_blockedBench with ⟨started, writer, bench, starting, reached, failing, -⟩
  have attempted := reached.attempt none
  rw [failing] at attempted
  refine ⟨started, writer, _, starting, attempted, ?_⟩
  rw [(bench.sealed_attempt none).2]
  decide

/-- An attempt that fails at a directory leaves the directory and nothing beside it. -/
theorem blocked_container_leaves_no_trace :
    ∃ started writer bench after,
      Writer.create noFiles "plain" plainConfig = (started, .ok writer) ∧
        (⟨started, writer⟩ : Workbench).Reaches bench [] ∧
        bench.attempt none = (after, .error (.file .isDirectory)) ∧
        after.files.find (.ofPath "plain") = .ok (["plain"], .directory) ∧
        (∀ location identity stamp content flaw,
          after.files.find (Writer.temporaryRoute "plain") ≠
            .ok (location, .file identity stamp content flaw)) ∧
        (⟨started, writer⟩ : Workbench).Reaches after [.error (.file .isDirectory)] ∧
        after.writer.draft.isSealed = true := by
  rcases attempt_blockedBench with ⟨started, writer, bench, starting, reached, failing, directory⟩
  have attempting : bench.attempt none = ((bench.attempt none).1, .error (.file .isDirectory)) :=
    Prod.ext rfl failing
  have attempted := reached.attempt none
  rw [failing] at attempted
  rcases Workbench.sealed_means_published_iff_first_attempt_did_not_fail sane_noFiles starting
    reached with ⟨unsealed, -, spoils⟩
  rcases Workbench.sealed_means_published_iff_first_attempt_did_not_fail sane_noFiles starting
    attempted with ⟨sealed, -, -⟩
  have spoiled := spoils none _ _ attempting
  have before : bench.writer.draft.isSealed = false :=
    Bool.eq_false_iff.2 fun already => unsealed.1 already rfl
  refine ⟨started, writer, bench, _, starting, reached, attempting, ?_, ?_, attempted, ?_⟩
  · rw [spoiled.kept, directory]
  · exact spoiled.gone before nofun
  · exact sealed.2 (List.cons_ne_nil _ _)

end BuildCapture.Container
