import BuildCapture.Proofs.Archive.Recollection
import BuildCapture.Proofs.Archive.Room

/-!
# Isolation of failed invocations

Invocations that fail or are given up leave little behind but a diagnostic:
indices and diagnostics depend on the log alone, an attempt fails because of
its own inputs, and a run that leaves out all attempts that were not committed
writes the same records.  Two such runs store different inputs and remember
different ones, so all that they have in common is what their attempts were
shown of the files.  That is enough if no file changes behind its fingerprint and
no module breaks off that only an attempt that was left out had stored.
-/

namespace BuildCapture

open Container

/-! ## Sealing -/

/-- What was attempted and shown, apart from what was remembered and what became of it. -/
def Attempt.plan
    (attempt : Attempt) :
    Heading × List Move :=
  (attempt.heading, attempt.moves.map Move.bare)

/--
A log makes the first of those attempts that another log says were committed,
with the same calls and the same files shown, and no others.
-/
structure Repeats
    (repeated log : List Attempt) : Prop where
  plans : repeated.map Attempt.plan <+: (log.filter Attempt.isCommitted).map Attempt.plan
  noneDropped : ∀ attempt ∈ repeated, attempt.outcome ≠ .dropped

theorem Attempt.deeds_plan
    (attempt : Attempt) :
    attempt.plan.2.filterMap Move.deed? = attempt.deeds.map Deed.bare := by
  rw [plan, deeds, List.filterMap_map, List.map_filterMap]
  congr 1
  funext move
  cases move <;> rfl

namespace Repeats

variable
  {repeated log : List Attempt}

/-- Every attempt repeats one with whose steps nothing is wrong. -/
theorem origin
    (repeats : Repeats repeated log)
    {recorder : Recorder}
    (explained : ∀ attempt ∈ log, attempt.Explained recorder)
    {attempt : Attempt}
    (member : attempt ∈ repeated) :
    ∃ first ∈ log, first.plan = attempt.plan ∧ ∀ move ∈ first.moves, move.fault? = none := by
  have planned := repeats.plans.subset (List.mem_map_of_mem member)
  rcases List.mem_map.1 planned with ⟨first, firstMember, same⟩
  rcases List.mem_filter.1 firstMember with ⟨inside, committed⟩
  refine ⟨first, inside, same, ?_⟩
  cases explained first inside with
  | committed harmless => exact List.findSome?_eq_none_iff.1 harmless
  | faulty _ => cases committed
  | exhausted _ _ => cases committed
  | dropped => cases committed

/-- Every deed was shown what one was shown with which nothing was wrong. -/
theorem deed_origin
    (repeats : Repeats repeated log)
    {recorder : Recorder}
    (explained : ∀ attempt ∈ log, attempt.Explained recorder)
    {deed : Deed}
    (member : deed ∈ loggedDeeds repeated) :
    ∃ first ∈ loggedDeeds log, first.bare = deed.bare ∧ first.fault? = none := by
  rcases List.mem_flatMap.1 member with ⟨attempt, there, inside⟩
  rcases repeats.origin explained there with ⟨first, memberToo, same, harmless⟩
  have shown : deed.bare ∈ first.deeds.map Deed.bare := by
    rw [← first.deeds_plan, same, attempt.deeds_plan]
    exact List.mem_map_of_mem inside
  rcases List.mem_map.1 shown with ⟨other, called, alike⟩
  refine ⟨other, List.mem_flatMap.2 ⟨first, memberToo, called⟩, alike, ?_⟩
  rcases List.mem_filterMap.1 called with ⟨move, made, isDeed⟩
  cases move with
  | call _ =>
    cases isDeed
    exact harmless _ made
  | unresolved _ _ => cases isDeed

/-- What another run has committed is acceptable, unless a module breaks off that is not backed. -/
theorem acceptable
    (repeats : Repeats repeated log)
    {recorder : Recorder}
    (explained : ∀ attempt ∈ log, attempt.Explained recorder)
    {journal : Journal}
    (attests : journal.Attests (loggedDeeds log))
    (tell : FingerprintsTell (loggedDeeds log))
    (backed : Backed (loggedDeeds repeated)) :
    Acceptable (loggedDeeds repeated) where
  tell := by
    apply tell.mono
    intro deed member
    rcases repeats.deed_origin explained member with ⟨first, there, alike, -⟩
    refine ⟨first, there, ?_⟩
    show deed.bare.seen? = first.bare.seen?
    rw [alike]
  harmless deed member := by
    rcases repeats.deed_origin explained member with ⟨first, there, alike, harmless⟩
    have own := attests.ownFault?_of_harmless tell there harmless
    rw [Deed.ownFault?, alike] at own
    exact own
  backed := backed

/-- Nothing is wrong with the steps of an attempt whose calls are harmless. -/
theorem harmless
    (repeats : Repeats repeated log)
    {recorder : Recorder}
    (explained : ∀ attempt ∈ log, attempt.Explained recorder)
    (harmless : ∀ deed ∈ loggedDeeds repeated, deed.fault? = none)
    {attempt : Attempt}
    (member : attempt ∈ repeated) :
    attempt.moves.findSome? Move.fault? = none := by
  rw [List.findSome?_eq_none_iff]
  intro move made
  cases move with
  | call deed =>
    have called : deed ∈ attempt.deeds := List.mem_filterMap.2 ⟨_, made, rfl⟩
    exact harmless deed (List.mem_flatMap.2 ⟨attempt, member, called⟩)
  | unresolved raw reasons =>
    -- the attempt that is repeated had nothing that could not be resolved
    rcases repeats.origin explained member with ⟨first, -, same, harmlessToo⟩
    have planned : Move.unresolved raw reasons ∈ first.moves.map Move.bare := by
      rw [show first.moves.map Move.bare = attempt.moves.map Move.bare from
        congrArg Prod.snd same]
      exact List.mem_map.2 ⟨_, made, rfl⟩
    rcases List.mem_map.1 planned with ⟨other, there, alike⟩
    cases other with
    | call _ => cases alike
    | unresolved _ _ => cases harmlessToo _ there

/-- A run that has room commits whatever another run has committed. -/
theorem committed
    (repeats : Repeats repeated log)
    {recorder other : Recorder}
    (explained : ∀ attempt ∈ log, attempt.Explained recorder)
    (explainedToo : ∀ attempt ∈ repeated, attempt.Explained other)
    (harmless : ∀ deed ∈ loggedDeeds repeated, deed.fault? = none)
    {writer : Writer}
    (records : other.state = .recording writer) :
    ∀ attempt ∈ repeated, attempt.isCommitted = true := by
  intro attempt member
  have nothing := repeats.harmless explained harmless member
  have kept := repeats.noneDropped attempt member
  cases explainedToo attempt member with
  | committed _ => rfl
  | faulty first =>
    rw [first] at nothing
    cases nothing
  | exhausted _ aborted =>
    rw [records] at aborted
    cases aborted
  | dropped => exact absurd rfl kept

end Repeats

/-! ## Runs -/

section Runs

variable
  [Zstd.Encoder]
  {path : String}
  {config : WriterConfig}
  {changes : FileSystem → FileSystem → Prop}

/-- Where the directories are the same, one archive is completed if the other one was. -/
theorem Reaches.completes
    {recording other after : Recording}
    {journal otherJournal : Journal}
    (reached : Reaches path config (.idle recording journal))
    (reachedToo : Reaches path config (.idle other otherJournal))
    {writer : Writer}
    (records : other.recorder.state = .recording writer)
    {summary : SealedArchive}
    (finishing : recording.finish = (after, .ok summary))
    (shape : recording.files.SameShape other.files)
    (room : other.HasRoomToFinish) :
    ∃ otherSummary, other.finish.2 = .ok otherSummary := by
  rcases reachedToo.holds.1.keeps records with ⟨accepted, keeps⟩
  apply keeps.finish_of_room reachedToo.stocked _ room
  rcases reached.holds.1 with ⟨first, acceptedFirst, keepsFirst⟩ | spent
  · exact (keepsFirst.admits_of_finish finishing).congr shape
  · rcases spent.bench with ⟨cause, idle⟩
    simp only [Recording.finish, idle] at finishing
    cases finishing

end Runs

/-! ## Three attempts too many -/

namespace LeftOut

open RewrittenFile

/-- The invocation that is begun on a recorder between two attempts. -/
def begin
    (after : Recording × Journal) :
    Transcript where
  invocation := { recording := after.1, record := heading.record }
  heading := heading
  journal := after.2

/-- The calls of an invocation that stores a text before it fails at a missing file. -/
def failing : List Call := [.generatedText "t" [98], .content "missing" .source, adding]

/-- The invocation that fails. -/
def failed : Transcript := failing.foldl Transcript.call begun

/-- An invocation that is given up after it has stored another text. -/
def dropped : Transcript := (begin failed.commit).call (.generatedText "u" [99])

/-- An invocation that was discovered. -/
def raw : RawInvocation where
  projectPath := "q"
  language := .csharp
  kind := .regular
  workingDirectory := ""

/-- A resolver that finds nothing. -/
def resolve : InvocationResolver := fun _ => .error ["no compiler"]

/-- The recorder after the discovered invocation was captured to no avail. -/
def unresolved : Recording × Journal :=
  ((dropped.invocation.recording.capture raw resolve).1,
    dropped.journal.capture dropped.invocation.recording raw resolve)

/-- The end of the run, after the file was added and committed. -/
def ended : Recording × Journal := ((begin unresolved).call adding).commit

/-- What was attempted. -/
def log : List Attempt :=
  [⟨heading, begun.moves failing, .of failed.invocation.commit.2⟩] ++
    [⟨heading, [(begin failed.commit).move (.generatedText "u" [99])], .dropped⟩] ++
    dropped.invocation.recording.attempts dropped.journal raw resolve ++
    [⟨heading, [(begin unresolved).move adding],
      .of ((begin unresolved).call adding).invocation.commit.2⟩]

/-- The run in which nothing but the last invocation is attempted. -/
def alone : Recording × Journal := (begun.call adding).commit

/-- What is attempted in it. -/
def repeated : List Attempt :=
  [⟨heading, [begun.move adding], .of (begun.call adding).invocation.commit.2⟩]

/-- Nobody else changes the files. -/
def still (_ _ : FileSystem) : Prop := False

end LeftOut

/-! ## A module that only a failed invocation had stored -/

namespace Unbacked

open RewrittenFile

/-- The image of a module. -/
def image : ModuleImage where
  id := .repeating 1
  version := ⟨1, 0, 0, 0⟩
  metadata := { name := "s" }

/-- Why the copy of the module can not be read to its end. -/
def fault : FileFault := .source "Input/output error (os error 5)"

/-- A file system with the module, and with a copy of it that breaks off. -/
def files : FileSystem where
  workingDirectory := []
  nodes := [(["a"], .file 1 1 image.octets),
    (["b"], .file 2 2 (image.octets ++ [0]) (some ⟨image.octets.length, fault⟩))]
  clock := 3

theorem sane_files : files.Sane := by
  apply FileSystem.sane_of_nodes
  case started => decide
  case nodes => simp [files, FileSystem.isSaneBeside]

/-- The calls of an invocation that stores the module before it fails at a missing file. -/
def failing : List Call := [.analyzer "a", .content "missing" .source]

/-- The invocation that fails. -/
def failed : Transcript := failing.foldl Transcript.call (begunOver files)

/-- The end of the run, after the copy was added and committed. -/
def ended : Recording × Journal := ((LeftOut.begin failed.commit).call (.analyzer "b")).commit

/-- What was attempted. -/
def log : List Attempt :=
  [⟨heading, (begunOver files).moves failing, .of failed.invocation.commit.2⟩] ++
    [⟨heading, [(LeftOut.begin failed.commit).move (.analyzer "b")],
      .of ((LeftOut.begin failed.commit).call (.analyzer "b")).invocation.commit.2⟩]

/-- The run in which nothing but the last invocation is attempted. -/
def alone : Recording × Journal := ((begunOver files).call (.analyzer "b")).commit

/-- What is attempted in it. -/
def repeated : List Attempt :=
  [⟨heading, [(begunOver files).move (.analyzer "b")],
    .of ((begunOver files).call (.analyzer "b")).invocation.commit.2⟩]

/-- A recorder whose temporary file is replaced before the invocation is committed. -/
def replaced
    (transcript : Transcript) :
    Recording :=
  (changing (·.placeFile ["out.tmp"] [97, 97, 97, 97]) transcript).commit.1

end Unbacked

end BuildCapture
