import BuildCapture.Proofs.Container.Pendings

/-!
# Writers after sealing

Once a container is sealed, its writer should refuse every further request and
keep its entries, so that they stay those of the published file.  Writing,
streaming, discarding and sealing again look at the seal.  Committing does not:
it compares the end of the pending octets with the length of the image and then
looks at the names.  Hence a commit is accepted after sealing if it is late, that
is, if its octets are the last ones of the image and its name is new.

The main theorem says that this is the only way: a sealed writer refuses a
sequence of requests exactly if none of them is a late commit.
-/

namespace BuildCapture.Container

/-- What can be asked of a writer; pending octets may come from any earlier request. -/
inductive Request where
  | write (name : String) (data : Octets)
  | stream (source : Source)
  | commit (pending : Pending) (name : String)
  | discard (pending : Pending)
  | finish
deriving DecidableEq, Repr

namespace Workbench

/-- A request that gives the last octets of the image a new name. -/
def IsLate (bench : Workbench) : Request → Prop
  | .commit pending name =>
    bench.writer.draft.isLatest pending = true ∧ bench.contains name = false
  | _ => False

instance (bench : Workbench) :
    DecidablePred bench.IsLate
  | .commit _ _ => instDecidableAnd
  | .write _ _ => instDecidableFalse
  | .stream _ => instDecidableFalse
  | .discard _ => instDecidableFalse
  | .finish => instDecidableFalse

/-- Nothing can be discarded from a sealed draft. -/
theorem discard_of_sealed
    {bench : Workbench}
    (closed : bench.writer.draft.isSealed = true)
    (pending : Pending) :
    ∃ failure, bench.discard pending = .error failure := by
  rw [discard, Draft.discard, closed]
  cases bench.writer.draft.isLatest pending with
  | false => exact ⟨_, rfl⟩
  | true => exact ⟨_, rfl⟩

/-- Sealing changes nothing about the draft but the seal. -/
theorem draft_of_finish
    {bench finished : Workbench}
    (sealing : bench.finish = (finished, .ok ())) :
    finished.writer.draft = bench.writer.draft.sealed := by
  rcases finish_eq_ok sealing with ⟨files, -, -, -, rfl⟩
  rfl

variable [Zstd.Encoder]

/-- The workbench after a request, and whether the request was granted. -/
def serve
    (bench : Workbench) : Request → Workbench × Except Failure Unit
  | .write name data =>
    match bench.write name data with
    | .error failure => (bench, .error failure)
    | .ok written => (written, .ok ())
  | .stream source =>
    match bench.stream source with
    | .error failure => (bench, .error failure)
    | .ok (_, streamed) => (streamed, .ok ())
  | .commit pending name => bench.commit pending name
  | .discard pending =>
    match bench.discard pending with
    | .error failure => (bench, .error failure)
    | .ok shorter => (shorter, .ok ())
  | .finish => bench.finish

/-- The workbench after requests. -/
def after
    (bench : Workbench)
    (requests : List Request) :
    Workbench :=
  requests.foldl (fun bench request => (bench.serve request).1) bench

/-- Every one of the requests fails and leaves the workbench, and so the entries, as it is. -/
def Refuses
    (bench : Workbench)
    (requests : List Request) : Prop :=
  ∀ front request back,
    requests = front ++ request :: back →
      ∃ failure, (bench.after front).serve request = (bench.after front, .error failure)

/-! ## Single requests to a sealed writer -/

/-- A late commit is granted: it adds an entry and nothing else changes. -/
theorem serve_commit_of_late
    {bench : Workbench}
    {pending : Pending}
    {name : String}
    (late : bench.IsLate (.commit pending name)) :
    bench.serve (.commit pending name) =
      ({ bench with writer := { bench.writer with
          draft := { bench.writer.draft with
            entries := bench.writer.draft.entries ++ [pending.named name] } } },
        .ok ()) := by
  rcases late with ⟨latest, new⟩
  have notTaken : bench.writer.draft.contains name = false := new
  rw [serve, commit, if_neg (by rw [new]; exact fun both => Bool.false_ne_true both.2),
    Draft.commit, latest, notTaken]
  rfl

/-- A sealed writer refuses everything but late commits. -/
theorem serve_of_sealed
    {bench : Workbench}
    (closed : bench.writer.draft.isSealed = true)
    {request : Request}
    (timely : ¬ bench.IsLate request) :
    ∃ failure, bench.serve request = (bench, .error failure) := by
  cases request with
  | write name data =>
    have refused : ∃ failure, bench.writer.draft.write name data = .error failure := by
      rw [Draft.write, closed]
      split
      · exact ⟨_, rfl⟩
      split
      · exact ⟨_, rfl⟩
      · exact ⟨_, rfl⟩
    rcases refused with ⟨failure, refused⟩
    exact ⟨failure, by rw [serve, write, refused]⟩
  | stream source =>
    have refused : bench.writer.draft.stream source = .error .alreadySealed := by
      rw [Draft.stream, if_pos closed]
    exact ⟨_, by rw [serve, stream, refused]⟩
  | discard pending =>
    rcases discard_of_sealed closed pending with ⟨failure, refused⟩
    exact ⟨failure, by rw [serve, refused]⟩
  | finish => exact ⟨_, by rw [serve, finish, if_pos closed]⟩
  | commit pending name =>
    rw [serve, commit]
    split
    · -- The name is taken, so the octets would be discarded, which the seal forbids.
      rcases discard_of_sealed closed pending with ⟨failure, refused⟩
      exact ⟨failure, by rw [refused]⟩
    · next notBoth =>
      cases latest : bench.writer.draft.isLatest pending with
      | false => exact ⟨_, by rw [Draft.commit, latest]; rfl⟩
      | true =>
        rw [latest, eq_self, true_and, Bool.not_eq_true] at notBoth
        exact absurd ⟨latest, notBoth⟩ timely

/-- No request breaks a seal. -/
theorem isSealed_serve
    {bench : Workbench}
    (closed : bench.writer.draft.isSealed = true)
    (request : Request) :
    (bench.serve request).1.writer.draft.isSealed = true := by
  by_cases late : bench.IsLate request
  · cases request with
    | commit pending name =>
      rw [serve_commit_of_late late]
      exact closed
    | _ => exact late.elim
  · rcases serve_of_sealed closed late with ⟨failure, refused⟩
    rw [refused]
    exact closed

/-! ## The file before sealing -/

/-- The writer is sealed, or its temporary file holds the image. -/
def Tracked (bench : Workbench) : Prop :=
  bench.writer.draft.isSealed = true ∨ bench.Backed

/-- Every request keeps the temporary file in step with the draft until the writer is sealed. -/
theorem Tracked.serve
    {bench : Workbench}
    (tracked : bench.Tracked)
    (request : Request) :
    (bench.serve request).1.Tracked := by
  rcases tracked with closed | backed
  · exact Or.inl (isSealed_serve closed request)
  cases request with
  | write name data =>
    right
    rw [Workbench.serve]
    split
    · exact backed
    · next written writing => exact backed.write writing
  | stream source =>
    right
    rw [Workbench.serve]
    split
    · exact backed
    · next pending streamed streaming => exact backed.stream streaming
  | commit pending name => exact Or.inr (backed.commit pending name)
  | discard pending =>
    right
    rw [Workbench.serve]
    split
    · exact backed
    · next shorter discarding => exact backed.discard discarding
  | finish =>
    -- Even a container that can not be published takes no more octets.
    left
    rw [Workbench.serve, Workbench.finish]
    split
    · next closed => exact closed
    · rfl

theorem Tracked.after
    {bench : Workbench}
    (tracked : bench.Tracked)
    (requests : List Request) :
    (bench.after requests).Tracked := by
  induction requests generalizing bench with
  | nil => exact tracked
  | cons request rest ih => exact ih (tracked.serve request)

/-- No request moves the container to another path. -/
theorem path_after
    (bench : Workbench)
    (requests : List Request) :
    (bench.after requests).writer.path = bench.writer.path := by
  induction requests generalizing bench with
  | nil => rfl
  | cons request rest ih =>
    refine (ih (bench.serve request).1).trans ?_
    cases request with
    | write name data =>
      rw [serve]
      split
      · rfl
      · next written writing => exact (continues_write writing).path
    | stream source =>
      rw [serve]
      split
      · rfl
      · next pending streamed streaming => exact (continues_stream streaming).path
    | commit pending name => exact (continues_commit bench pending name).path
    | discard pending =>
      rw [serve]
      split
      · rfl
      · next shorter discarding => exact (continues_discard discarding).path
    | finish =>
      rw [serve, finish]
      split
      · rfl
      · rfl

/-! ## Sequences of requests to a sealed writer -/

/-- A workbench that refuses requests stays as it is. -/
theorem Refuses.after
    {bench : Workbench}
    {requests : List Request}
    (refuses : bench.Refuses requests) :
    bench.after requests = bench := by
  induction requests with
  | nil => rfl
  | cons request rest ih =>
    rcases refuses [] request rest rfl with ⟨failure, refused⟩
    have unchanged : (bench.serve request).1 = bench := congrArg Prod.fst refused
    have others : bench.Refuses rest := by
      intro front other back split
      have later := refuses (request :: front) other back (by rw [split]; rfl)
      rw [Workbench.after, List.foldl_cons, unchanged] at later
      exact later
    rw [Workbench.after, List.foldl_cons, unchanged]
    exact ih others

/-- A sealed writer refuses requests exactly if none of them is a late commit. -/
theorem refuses_iff
    {bench : Workbench}
    (closed : bench.writer.draft.isSealed = true)
    (requests : List Request) :
    bench.Refuses requests ↔ ∀ request ∈ requests, ¬ bench.IsLate request := by
  constructor
  · intro refuses request member late
    rcases List.append_of_mem member with ⟨front, back, split⟩
    have still : bench.after front = bench := by
      apply Refuses.after
      intro start other rest inside
      apply refuses start other (rest ++ request :: back)
      rw [split, inside, List.append_assoc]
      rfl
    rcases refuses front request back split with ⟨failure, refused⟩
    rw [still] at refused
    cases request with
    | commit pending name =>
      rw [serve_commit_of_late late] at refused
      cases congrArg Prod.snd refused
    | _ => exact late
  · intro timely front request back split
    have still : bench.after front = bench := by
      subst split
      induction front with
      | nil => rfl
      | cons first others ih =>
        rcases serve_of_sealed closed (timely first List.mem_cons_self) with ⟨failure, refused⟩
        rw [Workbench.after, List.foldl_cons, refused]
        exact ih fun other later => timely other (List.mem_cons_of_mem first later)
    rw [still]
    apply serve_of_sealed closed
    apply timely
    rw [split]
    exact List.mem_append_right front List.mem_cons_self

omit [Zstd.Encoder] in
/-- What was sealed is found at the path, and it lists the entries of the writer. -/
theorem published
    {bench finished : Workbench}
    (tracked : bench.Tracked)
    (sealing : bench.finish = (finished, .ok ())) :
    finished.files.read bench.writer.path = .ok finished.writer.draft.sealedImage ∧
      ((∀ entry ∈ finished.writer.draft.entries, entry.Fits) →
        ∀ verify container, openFile finished.files bench.writer.path verify = .ok container →
          container.entries.Perm finished.writer.draft.entries) := by
  have backed : bench.Backed := by
    rcases tracked with closed | backed
    · rw [finish, if_pos closed] at sealing
      cases sealing
    · exact backed
  have sameDraft := draft_of_finish sealing
  rcases read_of_finish backed sealing with ⟨content, small⟩
  have image : finished.writer.draft.sealedImage = bench.writer.draft.sealedImage := by
    rw [sameDraft]
    rfl
  rw [← image] at content small
  refine ⟨content, ?_⟩
  intro fit verify container opened
  have sizes : finished.writer.draft.Sizes :=
    ⟨fit, Nat.lt_of_le_of_lt small maximalFile_lt⟩
  rw [openFile_of_read content] at opened
  exact (Draft.entries_of_ofImage_sealedImage sizes opened).2.2

/--
After a container was sealed, its writer refuses any requests exactly if none of
them is a late commit, and then its entries stay those of the published file.
A late commit is granted, and the writer gets an entry that the file lacks.
-/
theorem sealed_writer_refuses_iff_no_commit_is_late
    {files started : FileSystem}
    {path : String}
    {config : WriterConfig}
    {writer : Writer}
    (creating : Writer.create files path config = (started, .ok writer))
    {earlier : List Request}
    {finished : Workbench}
    (sealing : ((⟨started, writer⟩ : Workbench).after earlier).finish = (finished, .ok ()))
    (later : List Request) :
    (finished.Refuses later ↔ ∀ request ∈ later, ¬ finished.IsLate request) ∧
      (finished.Refuses later → finished.after later = finished) ∧
      finished.files.read path = .ok finished.writer.draft.sealedImage ∧
      ((∀ entry ∈ finished.writer.draft.entries, entry.Fits) →
        ∀ verify container, openFile finished.files path verify = .ok container →
          container.entries.Perm finished.writer.draft.entries) ∧
      ∀ pending name, finished.IsLate (.commit pending name) →
        finished.serve (.commit pending name) =
          ({ finished with writer := { finished.writer with
              draft := { finished.writer.draft with
                entries := finished.writer.draft.entries ++ [pending.named name] } } },
            .ok ()) := by
  rcases sound_create creating with ⟨fresh, place, -⟩
  have tracked := Tracked.after (Or.inr fresh.backed) earlier
  have closed : finished.writer.draft.isSealed = true := by
    rw [draft_of_finish sealing]
    rfl
  rcases published tracked sealing with ⟨content, lists⟩
  rw [path_after, show (⟨started, writer⟩ : Workbench).writer.path = path from place]
    at content lists
  exact ⟨refuses_iff closed later, Refuses.after, content, lists,
    fun _ _ late => serve_commit_of_late late⟩

end Workbench

/-! ## A sealed writer at work -/

/-- Three octets are streamed and left pending, and an entry is written behind them. -/
def earlierRequests : List Request := [
  .stream (.ofOctets [97, 98, 99]),
  .write "a" [120]]

/-- Every kind of request, for the pending octets too, which are not the last ones any more. -/
def laterRequests : List Request :=
  let pending := Pending.ofStored headerLength [97, 98, 99] [97, 98, 99] 0
  [.write "b" [121], .stream (.ofOctets [122]), .commit pending "c", .discard pending, .finish]

/-- The workbench after requests to a new container that stores everything as it is. -/
def plainBench
    (requests : List Request) :
    Option Workbench :=
  match plainStart with
  | (_, .error _) => none
  | (started, .ok writer) => some ((⟨started, writer⟩ : Workbench).after requests)

set_option maxRecDepth 100000 in
/-- A sealed writer refuses every kind of request. -/
theorem later_requests_are_refused :
    ∃ bench finished,
      plainBench earlierRequests = some bench ∧ bench.finish = (finished, .ok ()) ∧
        finished.Refuses laterRequests ∧ finished.after laterRequests = finished := by
  have starts : ∃ started writer, plainStart = (started, .ok writer) := ⟨_, _, rfl⟩
  rcases starts with ⟨started, writer, starting⟩
  have reached :
      ∃ bench, plainBench earlierRequests = some bench ∧ bench.finish.2 = .ok () ∧
        ∀ request ∈ laterRequests, ¬ bench.finish.1.IsLate request := by
    refine ⟨_, rfl, ?_⟩
    decide +kernel
  rcases reached with ⟨bench, run, granted, timely⟩
  have same : bench = (⟨started, writer⟩ : Workbench).after earlierRequests := by
    rw [plainBench, starting] at run
    exact (Option.some.inj run).symm
  have sealing : bench.finish = (bench.finish.1, .ok ()) := Prod.ext rfl granted
  rw [same] at sealing
  rcases Workbench.sealed_writer_refuses_iff_no_commit_is_late starting sealing laterRequests with
    ⟨refuses, unchanged, -⟩
  rw [← same] at sealing refuses unchanged
  exact ⟨bench, bench.finish.1, run, sealing, refuses.2 timely, unchanged (refuses.2 timely)⟩

/-! ## A late commit -/

set_option maxRecDepth 100000 in
/-- Octets were streamed, the container was sealed, and a commit is accepted all the same. -/
theorem commit_after_sealing_adds_unpublished_entry :
    ∃ started writer pending streamed finished committed container,
      plainStart = (started, .ok writer) ∧
        (⟨started, writer⟩ : Workbench).stream (.ofOctets [97, 98, 99]) =
          .ok (pending, streamed) ∧
        streamed.finish = (finished, .ok ()) ∧
        finished.commit pending "late" = (committed, .ok ()) ∧
        finished.contains "late" = false ∧ committed.contains "late" = true ∧
        openFile committed.files "plain" true = .ok container ∧
        container.contains "late" = false := by
  refine ⟨_, _, _, _, _, _, _, rfl, rfl, rfl, rfl, ?_, ?_, rfl, ?_⟩
  · decide +kernel
  · decide +kernel
  · decide +kernel

end BuildCapture.Container
