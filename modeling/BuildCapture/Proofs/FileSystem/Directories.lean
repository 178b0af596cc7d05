import BuildCapture.Proofs.FileSystem

/-!
# When directories can be made

Making a directory and all missing ones above it fails only for reasons that no
earlier attempt changes: the route has a name that no file can have, or a file
stands somewhere on the way.  What is missing on the way is made, and a file is
never put where there was none.

Ways are walked without looking: a step leads to the child or the parent of a
location, whatever stands there.  A way is passable if no file stands on it and
its names are short.  The main result says that the directories at the end of a
route can be made exactly if the route is open in this sense.
-/

namespace BuildCapture

/-- Where a step leads, whatever stands there. -/
def Step.leadsTo
    (here : Location) : Step → Location
  | .up => here.dropLast
  | .down name => here ++ [name]

/-- A step whose name a file can have. -/
def Step.IsShort : Step → Prop
  | .up => True
  | .down name => name.utf8ByteSize ≤ FileSystem.maximalName

namespace FileSystem

/-! ## Ways without files -/

/-- A file stands at a location. -/
def FileAt (files : FileSystem) (location : Location) : Prop :=
  ∃ identity stamp content flaw,
    files.node? location = some (.file identity stamp content flaw)

/-- No file stands on a way, and all its names are short. -/
def Passable (files : FileSystem) : (here : Location) → List Step → Prop
  | here, [] => ¬ files.FileAt here
  | here, step :: rest =>
    ¬ files.FileAt here ∧ step.IsShort ∧ files.Passable (step.leadsTo here) rest

/-- Where the way along a route starts. -/
def startOf
    (files : FileSystem)
    (route : Route) :
    Location :=
  if route.isAbsolute then [] else files.workingDirectory

/-- Nothing that stays keeps the directories on a route from being made. -/
structure Open (files : FileSystem) (route : Route) : Prop where
  noNul : route.steps.any hasStrayNul = false
  notEmpty : route.isEmpty = false
  notLong : route.isTooLong = false
  passable : files.Passable (files.startOf route) route.steps

/-- No file of the second file system stands where none of the first did. -/
structure AddsNoFile (before after : FileSystem) : Prop where
  start : after.workingDirectory = before.workingDirectory
  files : ∀ location, after.FileAt location → before.FileAt location

theorem AddsNoFile.refl
    (files : FileSystem) :
    AddsNoFile files files :=
  ⟨rfl, fun _ there => there⟩

theorem AddsNoFile.trans
    {first second third : FileSystem}
    (left : AddsNoFile first second)
    (right : AddsNoFile second third) :
    AddsNoFile first third :=
  ⟨right.start.trans left.start, fun location there => left.files location (right.files location there)⟩

theorem Passable.noFile
    {files : FileSystem}
    {here : Location}
    {steps : List Step}
    (passable : files.Passable here steps) :
    ¬ files.FileAt here := by
  cases steps with
  | nil => exact passable
  | cons step rest => exact passable.1

theorem Passable.mono
    {before after : FileSystem}
    (fewer : AddsNoFile before after)
    {here : Location}
    {steps : List Step}
    (passable : before.Passable here steps) :
    after.Passable here steps := by
  induction steps generalizing here with
  | nil => exact fun there => passable (fewer.files here there)
  | cons step rest ih =>
    exact ⟨fun there => passable.1 (fewer.files here there), passable.2.1, ih passable.2.2⟩

/-- A route stays open while no file is added. -/
theorem Open.mono
    {before after : FileSystem}
    (fewer : AddsNoFile before after)
    {route : Route}
    (free : before.Open route) :
    after.Open route := by
  have sameStart : after.startOf route = before.startOf route := by
    rw [startOf, startOf, fewer.start]
  exact ⟨free.noNul, free.notEmpty, free.notLong, sameStart ▸ free.passable.mono fewer⟩

/-- The way to the parent of the end of a way is passable, too. -/
theorem Passable.dropLast
    {files : FileSystem}
    {here : Location}
    {steps : List Step}
    (passable : files.Passable here steps) :
    files.Passable here steps.dropLast := by
  induction steps generalizing here with
  | nil => exact passable
  | cons step rest ih =>
    cases rest with
    | nil => exact passable.1
    | cons next others => exact ⟨passable.1, passable.2.1, ih passable.2.2⟩

theorem Open.parent
    {files : FileSystem}
    {route : Route}
    (free : files.Open route) :
    files.Open route.parent := by
  constructor
  case noNul =>
    rw [List.any_eq_false]
    intro step member
    exact List.any_eq_false.1 free.noNul step (List.dropLast_subset _ member)
  case notEmpty => rfl
  case notLong => rfl
  case passable => exact free.passable.dropLast

/-! ## Following ways -/

/-- A step is taken from a directory, to a name that a file can have. -/
theorem follow_cons
    {files : FileSystem}
    {here : Location}
    (there : files.node? here = some .directory)
    {step : Step}
    (short : step.IsShort)
    (rest : List Step) :
    files.follow here (step :: rest) = files.follow (step.leadsTo here) rest := by
  cases step with
  | up =>
    rw [follow.eq_def]
    simp only [there]
    rfl
  | down name =>
    rw [follow.eq_def]
    simp only [there, if_neg (Nat.not_lt.2 short)]
    rfl

theorem follow_cons_eq_ok
    {files : FileSystem}
    {here location : Location}
    {step : Step}
    {rest : List Step}
    (followed : files.follow here (step :: rest) = .ok location) :
    files.node? here = some .directory ∧ step.IsShort ∧
      files.follow (step.leadsTo here) rest = .ok location := by
  unfold follow at followed
  split at followed
  · cases followed
  · cases followed
  next there =>
  cases step with
  | up => exact ⟨there, trivial, followed⟩
  | down name =>
    simp only at followed
    split at followed
    · cases followed
    · next short => exact ⟨there, Nat.not_lt.1 short, followed⟩

/-- A passable way leads somewhere, or something on it is missing. -/
theorem Passable.follow
    {files : FileSystem}
    {here : Location}
    {steps : List Step}
    (passable : files.Passable here steps) :
    (∃ location, files.follow here steps = .ok location ∧ ¬ files.FileAt location) ∨
      files.follow here steps = .error .notFound := by
  induction steps generalizing here with
  | nil => exact Or.inl ⟨here, rfl, passable⟩
  | cons step rest ih =>
    rcases passable with ⟨noFile, short, others⟩
    cases there : files.node? here with
    | none =>
      right
      rw [follow.eq_def]
      simp only [there]
    | some node =>
      cases node with
      | file identity stamp content flaw =>
        exact absurd ⟨identity, stamp, content, flaw, there⟩ noFile
      | directory =>
        rw [follow_cons there short]
        exact ih others

/-- No file stands where a directory does. -/
theorem not_fileAt_of_directory
    {files : FileSystem}
    {location : Location}
    (there : files.node? location = some .directory) :
    ¬ files.FileAt location := by
  rintro ⟨identity, stamp, content, flaw, file⟩
  rw [there] at file
  cases file

/-- A way that leads to no file is passable. -/
theorem passable_of_follow
    {files : FileSystem}
    {here location : Location}
    {steps : List Step}
    (followed : files.follow here steps = .ok location)
    (noFile : ¬ files.FileAt location) :
    files.Passable here steps := by
  induction steps generalizing here with
  | nil =>
    cases followed
    exact noFile
  | cons step rest ih =>
    rcases follow_cons_eq_ok followed with ⟨there, short, others⟩
    exact ⟨not_fileAt_of_directory there, short, ih others⟩

/-- Where the way to the parent ends at a directory, the last step can be taken. -/
theorem follow_concat
    {files : FileSystem}
    {here above : Location}
    {steps : List Step}
    (followed : files.follow here steps = .ok above)
    (there : files.node? above = some .directory)
    {last : Step}
    (passable : files.Passable here (steps ++ [last])) :
    ∃ location, files.follow here (steps ++ [last]) = .ok location ∧
      ¬ files.FileAt location := by
  induction steps generalizing here with
  | nil =>
    cases followed
    refine ⟨_, ?_, passable.2.2⟩
    rw [List.nil_append, follow_cons there passable.2.1]
    rfl
  | cons step rest ih =>
    rcases follow_cons_eq_ok followed with ⟨directory, short, others⟩
    rw [List.cons_append, follow_cons directory short]
    exact ih others passable.2.2

theorem Open.locate_eq
    {files : FileSystem}
    {route : Route}
    (free : files.Open route) :
    files.locate route = files.follow (files.startOf route) route.steps := by
  rw [locate, free.noNul, free.notEmpty, free.notLong]
  rfl

/-- A route that leads to a directory is open. -/
theorem open_of_locate
    {files : FileSystem}
    {route : Route}
    {location : Location}
    (located : files.locate route = .ok location)
    (there : files.node? location = some .directory) :
    files.Open route := by
  rw [locate] at located
  split at located
  · cases located
  next noNul =>
  split at located
  · cases located
  next notEmpty =>
  split at located
  · cases located
  next notLong =>
  refine ⟨by simpa using noNul, by simpa using notEmpty, by simpa using notLong, ?_⟩
  exact passable_of_follow located (not_fileAt_of_directory there)

/-! ## Leading to a directory -/

theorem leadsToDirectory_iff
    {files : FileSystem}
    {route : Route} :
    files.leadsToDirectory route = true ↔
      ∃ location, files.locate route = .ok location ∧
        files.node? location = some .directory := by
  constructor
  · intro leads
    rw [leadsToDirectory, find] at leads
    split at leads
    · next place found =>
      split at found
      · cases found
      next location located =>
      split at found
      · cases found
      · next there => exact ⟨location, located, there⟩
      · split at found
        · cases found
        · cases found
    · cases leads
  · rintro ⟨location, located, there⟩
    rw [leadsToDirectory, find, located]
    simp only [there]

/-! ## Making directories -/

/-- Where a directory was made, none stood before. -/
theorem createDirectory_eq_ok
    {files after : FileSystem}
    {route : Route}
    (creating : files.createDirectory route = .ok after) :
    ∃ location, files.locate route = .ok location ∧ files.node? location = none ∧
      after = files.put location .directory := by
  rw [createDirectory] at creating
  split at creating
  · cases creating
  next location located =>
  split at creating
  · cases creating
  next nothing =>
  cases creating
  exact ⟨location, located, nothing, rfl⟩

theorem fileAt_put_directory
    {files : FileSystem}
    {location : Location}
    (below : location ≠ [])
    (other : Location) :
    (files.put location .directory).FileAt other ↔ other ≠ location ∧ files.FileAt other := by
  rw [FileAt, FileAt, node?_put _ _ _ _ below]
  by_cases same : other = location
  · rw [if_pos same]
    constructor
    · rintro ⟨identity, stamp, content, flaw, there⟩
      cases there
    · rintro ⟨different, -⟩
      exact absurd same different
  · rw [if_neg same]
    constructor
    · exact fun there => ⟨same, there⟩
    · exact fun there => there.2

/-- Making a directory neither adds a file nor removes one. -/
theorem createDirectory_keeps
    {files after : FileSystem}
    {route : Route}
    (creating : files.createDirectory route = .ok after) :
    AddsNoFile files after ∧ AddsNoFile after files := by
  rcases createDirectory_eq_ok creating with ⟨location, -, nothing, rfl⟩
  have below := ne_root_of_nothing nothing
  constructor
  · exact ⟨rfl, fun other there => ((fileAt_put_directory below other).1 there).2⟩
  · refine ⟨rfl, fun other there => (fileAt_put_directory below other).2 ⟨?_, there⟩⟩
    rintro rfl
    rcases there with ⟨identity, stamp, content, flaw, file⟩
    rw [nothing] at file
    cases file

theorem createDirectoriesFrom_keeps
    (files : FileSystem)
    (route : Route)
    (depth : Nat) :
    AddsNoFile files (files.createDirectoriesFrom route depth).1 ∧
      AddsNoFile (files.createDirectoriesFrom route depth).1 files :=
  @createDirectoriesFrom_related
    (fun before after => AddsNoFile before after ∧ AddsNoFile after before)
    (fun files => ⟨.refl files, .refl files⟩)
    (fun left right => ⟨left.1.trans right.1, right.2.trans left.2⟩)
    createDirectory_keeps files route depth

/-- A directory that could be made, or was there, is there afterwards. -/
theorem leadsToDirectory_of_settle
    {files after : FileSystem}
    {route : Route}
    (settled : files.settleDirectory route (files.createDirectory route) = (after, .ok ())) :
    after.leadsToDirectory route = true := by
  cases creating : files.createDirectory route with
  | error fault =>
    rw [creating, settleDirectory] at settled
    have same : files = after := congrArg Prod.fst settled
    have outcome := congrArg Prod.snd settled
    simp only at outcome
    split at outcome
    · next leads => exact same ▸ leads
    · cases outcome
  | ok changed =>
    rw [creating] at settled
    cases settled
    rcases createDirectory_eq_ok creating with ⟨location, located, nothing, rfl⟩
    have below := ne_root_of_nothing nothing
    have kept : KeepsDirectories files (files.put location .directory) :=
      keepsDirectories_put (noDirectory_of_nothing nothing) _
    refine leadsToDirectory_iff.2 ⟨location, locate_eq_ok kept rfl located, ?_⟩
    rw [node?_put _ _ _ _ below, if_pos rfl]

theorem leadsToDirectory_of_createDirectoriesFrom
    {files after : FileSystem}
    {route : Route}
    {depth : Nat}
    (making : files.createDirectoriesFrom route depth = (after, .ok ())) :
    after.leadsToDirectory route = true := by
  cases depth with
  | zero => exact leadsToDirectory_of_settle making
  | succ depth =>
    rw [createDirectoriesFrom] at making
    split at making
    · split at making
      · cases making
      · exact leadsToDirectory_of_settle making
    · exact leadsToDirectory_of_settle making

/-- At the end of a way that leads somewhere without a file, the directory is made or there. -/
theorem settleDirectory_isOk
    {files : FileSystem}
    {route : Route}
    {location : Location}
    (located : files.locate route = .ok location)
    (noFile : ¬ files.FileAt location) :
    (files.settleDirectory route (files.createDirectory route)).2 = .ok () := by
  cases there : files.node? location with
  | none =>
    rw [createDirectory, located]
    simp only [there]
    rfl
  | some node =>
    cases node with
    | file identity stamp content flaw =>
      exact absurd ⟨identity, stamp, content, flaw, there⟩ noFile
    | directory =>
      have leads := leadsToDirectory_iff.2 ⟨location, located, there⟩
      rw [createDirectory, located]
      simp only [there, settleDirectory]
      rw [if_pos leads]

/-- On an open route whose parent is there, the directory is made or there. -/
theorem Open.settleDirectory_isOk
    {files : FileSystem}
    {route : Route}
    (free : files.Open route)
    (above : files.leadsToDirectory route.parent = true) :
    (files.settleDirectory route (files.createDirectory route)).2 = .ok () := by
  rcases leadsToDirectory_iff.1 above with ⟨parent, located, there⟩
  rw [free.parent.locate_eq] at located
  have passable := free.passable
  have reached :
      ∃ location, files.follow (files.startOf route) route.steps = .ok location ∧
        ¬ files.FileAt location := by
    rcases List.eq_nil_or_concat route.steps with nothing | ⟨front, last, split⟩
    · rw [nothing] at passable ⊢
      exact ⟨_, rfl, passable⟩
    · rw [List.concat_eq_append] at split
      have front_eq : route.parent.steps = front := by
        show route.steps.dropLast = front
        rw [split, List.dropLast_concat]
      rw [front_eq] at located
      rw [split] at passable ⊢
      exact follow_concat located there passable
  rcases reached with ⟨location, followed, noFile⟩
  exact FileSystem.settleDirectory_isOk (free.locate_eq.trans followed) noFile

/-- On an open route all directories can be made. -/
theorem Open.createDirectoriesFrom
    {files : FileSystem}
    {route : Route}
    (free : files.Open route)
    {depth : Nat}
    (enough : route.steps.length ≤ depth) :
    (files.createDirectoriesFrom route depth).2 = .ok () := by
  induction depth generalizing files route with
  | zero =>
    have nowhere : route.steps = [] := List.length_eq_zero_iff.1 (Nat.le_zero.1 enough)
    have located : files.locate route = .ok (files.startOf route) := by
      rw [free.locate_eq, nowhere]
      rfl
    exact FileSystem.settleDirectory_isOk located free.passable.noFile
  | succ depth ih =>
    rw [FileSystem.createDirectoriesFrom]
    split
    · have shorter : route.parent.steps.length ≤ depth := by
        show route.steps.dropLast.length ≤ depth
        rw [List.length_dropLast]
        omega
      have above := ih free.parent shorter
      split
      · next after fault making =>
        rw [making] at above
        cases above
      · next after making =>
        have kept := (createDirectoriesFrom_keeps files route.parent depth).1
        rw [making] at kept
        exact (free.mono kept).settleDirectory_isOk
          (leadsToDirectory_of_createDirectoriesFrom making)
    · next outcome notMissing =>
      rcases free.passable.follow with ⟨location, followed, noFile⟩ | missing
      · exact FileSystem.settleDirectory_isOk (free.locate_eq.trans followed) noFile
      · have absent : files.createDirectory route = .error .notFound := by
          rw [createDirectory, free.locate_eq, missing]
        exact absurd absent (notMissing)

/-- Making directories neither adds a file nor removes one, even if it fails. -/
theorem createDirectories_keeps
    (files : FileSystem)
    (route : Route) :
    AddsNoFile files (files.createDirectories route).1 ∧
      AddsNoFile (files.createDirectories route).1 files :=
  createDirectoriesFrom_keeps files route route.steps.length

/-- Whatever stands somewhere stays there while directories are made. -/
theorem node?_createDirectories
    {files : FileSystem}
    (route : Route)
    {location : Location}
    {node : Node}
    (there : files.node? location = some node) :
    (files.createDirectories route).1.node? location = some node := by
  have kept :=
    @createDirectoriesFrom_related
      (fun before after => before.node? location = some node → after.node? location = some node)
      (fun _ => id) (fun left right => right ∘ left)
  refine kept ?create files route route.steps.length there
  case create =>
    intro before after _ creating standing
    rcases createDirectory_eq_ok creating with ⟨place, -, nothing, rfl⟩
    have below := ne_root_of_nothing nothing
    have elsewhere : location ≠ place := by
      rintro rfl
      rw [nothing] at standing
      cases standing
    rw [node?_put _ _ _ _ below, if_neg elsewhere]
    exact standing

/-- The end of a route whose directories were made is a directory. -/
theorem locate_of_createDirectories
    {files after : FileSystem}
    {route : Route}
    (making : files.createDirectories route = (after, .ok ())) :
    ∃ location, after.locate route = .ok location ∧ after.node? location = some .directory :=
  leadsToDirectory_iff.1 (leadsToDirectory_of_createDirectoriesFrom making)

/-- Directories can be made exactly on open routes. -/
theorem createDirectories_isOk_iff
    {files : FileSystem}
    {route : Route} :
    (files.createDirectories route).2 = .ok () ↔ files.Open route := by
  constructor
  · intro made
    have making : files.createDirectories route = ((files.createDirectories route).1, .ok ()) :=
      Prod.ext rfl made
    rcases locate_of_createDirectories making with ⟨location, located, there⟩
    exact (open_of_locate located there).mono (createDirectories_keeps files route).2
  · exact fun free => free.createDirectoriesFrom (Nat.le_refl _)

end FileSystem

end BuildCapture
