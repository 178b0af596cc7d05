import BuildCapture.Extension.Session
import BuildCapture.Proofs.FileSystem.Directories
import BuildCapture.Proofs.Record.Parts

/-!
# What sessions offer, and what they leave behind

A session on disk has its modules in files of a directory whose name is new each
time.  Apart from this name, what a session offers is determined by the archive,
the record and the configuration: a view of a session has the content of each
file in place of the directory.

Opening and disposing of a session adds no file to the file system.  Therefore
whether later sessions can make their directories does not depend on earlier
ones: it depends on the file system before the first.
-/

namespace BuildCapture

/-! ## Contents of files -/

namespace FileSystem

/-- The content of the file without a flaw at a location. -/
def contentAt?
    (files : FileSystem)
    (location : Location) :
    Option Octets :=
  match files.node? location with
  | some (.file _ _ content) => some content
  | _ => none

/-- Nothing outside a directory is different. -/
structure SameOutside (directory : Location) (before after : FileSystem) : Prop where
  start : after.workingDirectory = before.workingDirectory
  nodes : ∀ location, ¬ directory <+: location → after.node? location = before.node? location

theorem SameOutside.refl
    (directory : Location)
    (files : FileSystem) :
    SameOutside directory files files :=
  ⟨rfl, fun _ _ => rfl⟩

theorem SameOutside.trans
    {directory : Location}
    {first second third : FileSystem}
    (left : SameOutside directory first second)
    (right : SameOutside directory second third) :
    SameOutside directory first third :=
  ⟨right.start.trans left.start,
    fun location outside => (right.nodes location outside).trans (left.nodes location outside)⟩

/-- A node that is put below a directory changes nothing outside. -/
theorem sameOutside_put
    {directory below : Location}
    (inside : below ≠ [])
    (files : FileSystem)
    (node : Node) :
    SameOutside directory files (files.put (directory ++ below) node) := by
  refine ⟨rfl, ?_⟩
  intro location outside
  have somewhere : directory ++ below ≠ [] := List.append_ne_nil_of_right_ne_nil _ inside
  rw [node?_put _ _ _ _ somewhere, if_neg]
  rintro rfl
  exact outside (List.prefix_append directory below)

theorem sameOutside_placeFile
    {directory below : Location}
    (inside : below ≠ [])
    (files : FileSystem)
    (content : Octets) :
    SameOutside directory files (files.placeFile (directory ++ below) content) :=
  ⟨rfl, (sameOutside_put inside files _).nodes⟩

theorem contentAt?_placeFile
    {files : FileSystem}
    {location : Location}
    (below : location ≠ [])
    (content : Octets)
    (other : Location) :
    (files.placeFile location content).contentAt? other =
      if other = location then some content else files.contentAt? other := by
  have placed : (files.placeFile location content).node? other =
      (files.put location (.file files.clock files.clock content)).node? other := rfl
  rw [contentAt?, contentAt?, placed, node?_put _ _ _ _ below]
  by_cases here : other = location
  · rw [if_pos here, if_pos here]
  · rw [if_neg here, if_neg here]

theorem contentAt?_put_directory
    {files : FileSystem}
    {location other : Location}
    (below : location ≠ [])
    (different : other ≠ location) :
    (files.put location .directory).contentAt? other = files.contentAt? other := by
  rw [contentAt?, contentAt?, node?_put _ _ _ _ below, if_neg different]

theorem lookup_eraseTree
    (directory location : Location)
    (nodes : List (Location × Node)) :
    (nodes.filter fun entry => !directory.isPrefixOf entry.1).lookup location =
      if directory <+: location then none else nodes.lookup location := by
  induction nodes with
  | nil =>
    split
    · rfl
    · rfl
  | cons entry rest ih =>
    rw [List.filter_cons]
    by_cases here : location = entry.1
    · subst here
      by_cases inside : directory <+: entry.1
      · have removed : directory.isPrefixOf entry.1 = true := List.isPrefixOf_iff_prefix.2 inside
        rw [removed, if_neg (by decide), ih, if_pos inside, if_pos inside]
      · have kept : directory.isPrefixOf entry.1 = false := by
          rw [← Bool.not_eq_true, List.isPrefixOf_iff_prefix]
          exact inside
        rw [kept, if_pos (by decide), if_neg inside, List.lookup_cons, List.lookup_cons,
          beq_self_eq_true]
    · have elsewhere : (location == entry.1) = false := beq_false_of_ne here
      have skipped : (entry :: rest).lookup location = rest.lookup location := by
        rw [List.lookup_cons, elsewhere]
      rw [skipped, ← ih]
      split
      · rw [List.lookup_cons, elsewhere]
      · rfl

theorem node?_eraseTree
    (files : FileSystem)
    {directory : Location}
    (below : directory ≠ [])
    (location : Location) :
    (files.eraseTree directory).node? location =
      if directory <+: location then none else files.node? location := by
  by_cases root : location = []
  · subst root
    rw [if_neg (fun inside => below (List.prefix_nil.1 inside)), node?_root, node?_root]
  · rw [node?, node?, if_neg root, if_neg root]
    exact lookup_eraseTree directory location files.nodes

/-- When the directory is erased, no file is left that was not outside. -/
theorem addsNoFile_eraseTree
    {directory : Location}
    (below : directory ≠ [])
    {before after : FileSystem}
    (outside : SameOutside directory before after) :
    AddsNoFile before (after.eraseTree directory) := by
  refine ⟨outside.start, ?_⟩
  rintro location ⟨identity, stamp, content, flaw, there⟩
  rw [node?_eraseTree after below] at there
  split at there
  · cases there
  · next notInside =>
    rw [outside.nodes location notInside] at there
    exact ⟨identity, stamp, content, flaw, there⟩

end FileSystem

/-! ## Views of sessions -/

/-- Where the image of a module is, without the directory of the session. -/
inductive SeenLocation where
  | host (version : ModuleVersion)
  | memory (image : Octets)
  /-- A file below the directory of the session, with its content. -/
  | file (below : List String) (content : Option Octets)
deriving DecidableEq, Repr

/-- What a session has loaded, without its directory. -/
inductive SeenContent where
  | output (language : Language) (outcome : GeneratedOutcome)
  | modules (loaded : List (ModuleInfo × SeenLocation))
deriving DecidableEq, Repr

/-- What a location shows in a file system. -/
def ModuleLocation.seen
    (files : FileSystem) : ModuleLocation → SeenLocation
  | .host version => .host version
  | .memory image => .memory image
  | .file directory below => .file below (files.contentAt? (directory ++ below))

/-- What the content of a session shows in a file system. -/
def SessionContent.seen
    (files : FileSystem) : SessionContent → SeenContent
  | .output language outcome => .output language outcome
  | .modules loaded => .modules (loaded.map fun (info, location) => (info, location.seen files))

namespace Session

/-! ## Modules in files -/

/-- The image that the file of a module gets. -/
def imageFor
    (archive : Archive)
    (info : ModuleInfo) :
    Except Failure Octets :=
  match archive.openModule info.id with
  | .error failure => .error failure
  | .ok source =>
    if (fileName info).utf8ByteSize > FileSystem.maximalName then
      .error (.file .nameTooLong)
    else
      match source.readAll with
      | .error fault => .error (.file fault)
      | .ok image => .ok image

/-- Where the file of a module is below the directory of a session. -/
def placeBelow
    (info : ModuleInfo) :
    List String :=
  [info.id.hex, fileName info]

/-- The file system with the image of a module below the directory of a session. -/
def withImage
    (files : FileSystem)
    (directory : Location)
    (info : ModuleInfo)
    (image : Octets) :
    FileSystem :=
  (files.put (directory ++ [info.id.hex]) .directory).placeFile
    (directory ++ placeBelow info) image

theorem materialize_eq
    (files : FileSystem)
    (archive : Archive)
    (directory : Location)
    (info : ModuleInfo) :
    materialize files archive directory info =
      (imageFor archive info).map fun image =>
        (withImage files directory info image, .file directory (placeBelow info)) := by
  rw [materialize, imageFor]
  cases archive.openModule info.id with
  | error failure => rfl
  | ok source =>
    simp only
    split
    · rfl
    · cases source.readAll with
      | error fault => rfl
      | ok image => rfl

theorem sameOutside_withImage
    (files : FileSystem)
    (directory : Location)
    (info : ModuleInfo)
    (image : Octets) :
    FileSystem.SameOutside directory files (withImage files directory info image) :=
  (FileSystem.sameOutside_put (List.cons_ne_nil _ _) files .directory).trans
    (FileSystem.sameOutside_placeFile (List.cons_ne_nil _ _) _ image)

theorem contentAt?_withImage
    (files : FileSystem)
    (directory : Location)
    (info other : ModuleInfo)
    (image : Octets) :
    (withImage files directory info image).contentAt? (directory ++ placeBelow other) =
      if placeBelow other = placeBelow info then some image
      else files.contentAt? (directory ++ placeBelow other) := by
  have deeper : directory ++ placeBelow other ≠ directory ++ [info.id.hex] := by
    intro same
    have sameLength := congrArg List.length (List.append_cancel_left same)
    simp [placeBelow] at sameLength
  have below : ∀ first rest, directory ++ first :: rest ≠ [] :=
    fun _ _ => List.append_ne_nil_of_right_ne_nil directory (List.cons_ne_nil _ _)
  have placed : directory ++ placeBelow info ≠ [] := below _ _
  rw [withImage, FileSystem.contentAt?_placeFile placed,
    FileSystem.contentAt?_put_directory (below _ _) deeper]
  simp only [List.append_cancel_left_eq]

/-- Modules whose files have one place have one image. -/
theorem imageFor_congr
    {archive : Archive}
    {info other : ModuleInfo}
    (same : placeBelow other = placeBelow info) :
    imageFor archive other = imageFor archive info := by
  rw [placeBelow, placeBelow, List.cons.injEq, List.cons.injEq] at same
  have sameId : other.id = info.id := by
    apply Option.some.inj
    rw [← ModuleId.ofHex?_hex, ← ModuleId.ofHex?_hex, same.1]
  rw [imageFor, imageFor, sameId, same.2.1]

/-- What is seen of a module that a session on disk has loaded. -/
def seenModule
    (archive : Archive)
    (planned : PlannedModule) :
    Except Failure SeenLocation :=
  match planned.host with
  | some version => .ok (.host version)
  | none =>
    (imageFor archive planned.info).map fun image => .file (placeBelow planned.info) (some image)

/-- What is seen of the modules that a session on disk has loaded. -/
def seenModules
    (archive : Archive) :
    List PlannedModule → Except Failure (List (ModuleInfo × SeenLocation))
  | [] => .ok []
  | planned :: rest =>
    match seenModule archive planned with
    | .error failure => .error failure
    | .ok location =>
      match seenModules archive rest with
      | .error failure => .error failure
      | .ok others => .ok ((planned.info, location) :: others)

/-- A module that is loaded shows what it has to, and so do the modules loaded before. -/
structure Places
    (archive : Archive)
    (directory : Location)
    (before after : FileSystem) : Prop where
  outside : FileSystem.SameOutside directory before after
  kept :
    ∀ info image, imageFor archive info = .ok image →
      before.contentAt? (directory ++ placeBelow info) = some image →
      after.contentAt? (directory ++ placeBelow info) = some image

theorem Places.refl
    (archive : Archive)
    (directory : Location)
    (files : FileSystem) :
    Places archive directory files files :=
  ⟨.refl directory files, fun _ _ _ there => there⟩

theorem Places.trans
    {archive : Archive}
    {directory : Location}
    {first second third : FileSystem}
    (left : Places archive directory first second)
    (right : Places archive directory second third) :
    Places archive directory first third :=
  ⟨left.outside.trans right.outside,
    fun info image imaged there => right.kept info image imaged (left.kept info image imaged there)⟩

theorem places_withImage
    {archive : Archive}
    {info : ModuleInfo}
    {image : Octets}
    (imaged : imageFor archive info = .ok image)
    (directory : Location)
    (files : FileSystem) :
    Places archive directory files (withImage files directory info image) := by
  refine ⟨sameOutside_withImage files directory info image, ?_⟩
  intro other content otherImaged there
  rw [contentAt?_withImage]
  split
  · next same =>
    rw [imageFor_congr same, imaged] at otherImaged
    rw [Except.ok.inj otherImaged]
  · exact there

/-- Loads one planned module into a file, unless the host has it. -/
def loadFile
    (archive : Archive)
    (directory : Location)
    (files : FileSystem)
    (planned : PlannedModule) :
    Except Failure (FileSystem × ModuleLocation) :=
  match planned.host with
  | some version => .ok (files, .host version)
  | none => materialize files archive directory planned.info

theorem loadFiles_cons
    (archive : Archive)
    (directory : Location)
    (files : FileSystem)
    (planned : PlannedModule)
    (rest : List PlannedModule) :
    loadFiles archive directory files (planned :: rest) =
      match loadFile archive directory files planned with
      | .error failure => .error failure
      | .ok (files, location) =>
        match loadFiles archive directory files rest with
        | .error failure => .error failure
        | .ok (files, others) => .ok (files, (planned.info, location) :: others) :=
  rfl

/-- A module is loaded where the host has it, or into a file with its image. -/
theorem loadFile_cases
    {archive : Archive}
    {directory : Location}
    {before after : FileSystem}
    {planned : PlannedModule}
    {location : ModuleLocation}
    (loading : loadFile archive directory before planned = .ok (after, location)) :
    (∃ version, planned.host = some version ∧ after = before ∧ location = .host version) ∨
      ∃ image, planned.host = none ∧ imageFor archive planned.info = .ok image ∧
        after = withImage before directory planned.info image ∧
        location = .file directory (placeBelow planned.info) := by
  rw [loadFile] at loading
  split at loading
  · next version provided =>
    cases loading
    exact Or.inl ⟨version, provided, rfl, rfl⟩
  next own =>
  rw [materialize_eq] at loading
  cases imaged : imageFor archive planned.info with
  | error failure =>
    rw [imaged] at loading
    cases loading
  | ok image =>
    rw [imaged] at loading
    cases loading
    exact Or.inr ⟨image, own, rfl, rfl, rfl⟩

theorem loadFiles_cons_eq_ok
    {archive : Archive}
    {directory : Location}
    {before after : FileSystem}
    {planned : PlannedModule}
    {rest : List PlannedModule}
    {loaded : List (ModuleInfo × ModuleLocation)}
    (loading : loadFiles archive directory before (planned :: rest) = .ok (after, loaded)) :
    ∃ between location others,
      loadFile archive directory before planned = .ok (between, location) ∧
        loadFiles archive directory between rest = .ok (after, others) ∧
        loaded = (planned.info, location) :: others := by
  rw [loadFiles_cons] at loading
  split at loading
  · cases loading
  next between location first =>
  split at loading
  · cases loading
  next final others later =>
  cases loading
  exact ⟨between, location, others, first, later, rfl⟩

theorem loadFile_eq_error
    {archive : Archive}
    {directory : Location}
    {files : FileSystem}
    {planned : PlannedModule}
    {failure : Failure}
    (failed : loadFile archive directory files planned = .error failure) :
    seenModule archive planned = .error failure := by
  rw [loadFile] at failed
  rw [seenModule]
  split at failed
  · cases failed
  · rw [materialize_eq] at failed
    cases imaged : imageFor archive planned.info with
    | error other =>
      rw [imaged] at failed
      cases failed
      rfl
    | ok image =>
      rw [imaged] at failed
      cases failed

/-- What a loaded module shows, it shows whatever is loaded after it. -/
theorem loadFile_eq_ok
    {archive : Archive}
    {directory : Location}
    {before after : FileSystem}
    {planned : PlannedModule}
    {location : ModuleLocation}
    (loaded : loadFile archive directory before planned = .ok (after, location)) :
    Places archive directory before after ∧
      ∀ final, Places archive directory after final →
        seenModule archive planned = .ok (location.seen final) := by
  rcases loadFile_cases loaded with ⟨version, provided, rfl, rfl⟩ | ⟨image, own, imaged, rfl, rfl⟩
  · refine ⟨.refl archive directory _, fun _ _ => ?_⟩
    rw [seenModule, provided]
    rfl
  · refine ⟨places_withImage imaged directory before, ?_⟩
    intro final later
    have written : (withImage before directory planned.info image).contentAt?
        (directory ++ placeBelow planned.info) = some image := by
      rw [contentAt?_withImage, if_pos rfl]
    have kept := later.kept planned.info image imaged written
    rw [seenModule, own, imaged, ModuleLocation.seen, kept]
    rfl

theorem loadFiles_eq_error
    {archive : Archive}
    {directory : Location}
    {files : FileSystem}
    {plan : List PlannedModule}
    {failure : Failure}
    (failed : loadFiles archive directory files plan = .error failure) :
    seenModules archive plan = .error failure := by
  induction plan generalizing files with
  | nil => cases failed
  | cons planned rest ih =>
    rw [loadFiles_cons] at failed
    rw [seenModules]
    split at failed
    · next other first =>
      cases failed
      rw [loadFile_eq_error first]
    · next after location first =>
      rw [(loadFile_eq_ok first).2 after (.refl archive directory after)]
      split at failed
      · next other others =>
        cases failed
        rw [ih others]
      · cases failed

/-- Loading modules into files shows what depends on the archive and the plan only. -/
theorem loadFiles_eq_ok
    {archive : Archive}
    {directory : Location}
    {before after : FileSystem}
    {plan : List PlannedModule}
    {loaded : List (ModuleInfo × ModuleLocation)}
    (loading : loadFiles archive directory before plan = .ok (after, loaded)) :
    Places archive directory before after ∧
      seenModules archive plan =
        .ok (loaded.map fun (info, location) => (info, location.seen after)) := by
  induction plan generalizing before loaded with
  | nil =>
    cases loading
    exact ⟨.refl archive directory _, rfl⟩
  | cons planned rest ih =>
    rcases loadFiles_cons_eq_ok loading with ⟨between, location, others, first, later, rfl⟩
    rcases loadFile_eq_ok first with ⟨placed, shown⟩
    rcases ih later with ⟨placedLater, shownLater⟩
    refine ⟨placed.trans placedLater, ?_⟩
    rw [seenModules, shown after placedLater, shownLater]
    rfl

/-! ## Directories of sessions -/

/-- The route to the directory that a configuration names for the directories of sessions. -/
def rootRoute
    (path : String) :
    Route :=
  { Route.ofPath path with isEmpty := false }

/-- Nothing that stays keeps sessions from making their directories. -/
def Ready
    (files : FileSystem) : (root : Option String) → Prop
  | none => True
  | some path => files.Open (rootRoute path)

theorem Ready.mono
    {before after : FileSystem}
    (fewer : FileSystem.AddsNoFile before after)
    {root : Option String}
    (ready : Ready before root) :
    Ready after root := by
  cases root with
  | none => trivial
  | some path => exact FileSystem.Open.mono fewer ready

theorem createFresh_ne_root
    (files : FileSystem)
    (parent : Location)
    (start : String) :
    (files.createFresh parent start).1 ≠ [] :=
  List.append_ne_nil_of_right_ne_nil parent (List.cons_ne_nil _ _)

/-- A directory with a new name adds no file. -/
theorem addsNoFile_createFresh
    (files : FileSystem)
    (parent : Location)
    (start : String) :
    FileSystem.AddsNoFile files (files.createFresh parent start).2 :=
  ⟨rfl, fun other there =>
    ((FileSystem.fileAt_put_directory (createFresh_ne_root files parent start) other).1 there).2⟩

/-- Where nothing that stays is in the way, a session gets its directory. -/
theorem Ready.createDirectory
    {files : FileSystem}
    {root : Option String}
    (ready : Ready files root) :
    ∃ after directory, Session.createDirectory files root = (after, .ok directory) ∧
      directory ≠ [] ∧ FileSystem.AddsNoFile files after := by
  cases root with
  | none =>
    exact ⟨_, _, rfl, createFresh_ne_root files _ _, addsNoFile_createFresh files _ _⟩
  | some path =>
    have made := FileSystem.createDirectories_isOk_iff.2 ready
    have kept := (FileSystem.createDirectories_keeps files (rootRoute path)).1
    rcases making : files.createDirectories (rootRoute path) with ⟨between, outcome⟩
    rw [making] at made kept
    cases made
    rcases FileSystem.locate_of_createDirectories making with ⟨parent, located, -⟩
    refine ⟨(between.createFresh parent directoryStart).2,
      (between.createFresh parent directoryStart).1, ?_, createFresh_ne_root between _ _,
      kept.trans (addsNoFile_createFresh between _ _)⟩
    rw [Session.createDirectory]
    simp only
    rw [← rootRoute, making]
    simp only [located]

/-- Otherwise it gets none, and directories are all that the attempt can leave. -/
theorem createDirectory_of_not_ready
    {files : FileSystem}
    {root : Option String}
    (blocked : ¬ Ready files root) :
    ∃ fault, (Session.createDirectory files root).2 = .error (.file fault) ∧
      FileSystem.AddsNoFile files (Session.createDirectory files root).1 ∧
      FileSystem.AddsNoFile (Session.createDirectory files root).1 files := by
  cases root with
  | none => exact absurd trivial blocked
  | some path =>
    have failed := mt FileSystem.createDirectories_isOk_iff.1 blocked
    have kept := FileSystem.createDirectories_keeps files (rootRoute path)
    rcases making : files.createDirectories (rootRoute path) with ⟨after, outcome⟩
    rw [making] at kept failed
    cases outcome with
    | ok value => exact absurd rfl failed
    | error fault =>
      have created :
          Session.createDirectory files (some path) = (after, .error (.file fault)) := by
        rw [Session.createDirectory]
        simp only
        rw [← rootRoute, making]
      rw [created]
      exact ⟨fault, rfl, kept⟩

/-! ## Opening and disposing -/

/-- Modules in memory show the same in every file system. -/
theorem seen_of_loadMemory
    {archive : Archive}
    {plan : List PlannedModule}
    {loaded : List (ModuleInfo × ModuleLocation)}
    (loading : loadMemory archive plan = .ok loaded)
    (files other : FileSystem) :
    (SessionContent.modules loaded).seen files = (SessionContent.modules loaded).seen other := by
  have inMemory : ∀ entry ∈ loaded, entry.2.seen files = entry.2.seen other := by
    induction plan generalizing loaded with
    | nil =>
      cases loading
      exact nofun
    | cons planned rest ih =>
      rw [loadMemory] at loading
      split at loading
      · cases loading
      next location placed =>
      split at loading
      · cases loading
      next others later =>
      cases loading
      intro entry member
      rcases List.mem_cons.1 member with rfl | member
      · split at placed
        · cases placed
          rfl
        · cases stored : archive.module planned.info.id with
          | error failure =>
            rw [stored] at placed
            cases placed
          | ok image =>
            rw [stored] at placed
            cases placed
            rfl
      · exact ih later entry member
  apply congrArg SeenContent.modules
  apply List.map_congr_left
  intro entry member
  exact congrArg (Prod.mk entry.1) (inMemory entry member)

/-- What a session that was opened shows, and what it leaves when it is disposed of. -/
structure Opened
    (config : LoaderConfig)
    (before after : FileSystem)
    (session : Session)
    (shown : SeenContent) : Prop where
  kind : session.kind = config.kind
  content : session.content.map (SessionContent.seen after) = some shown
  leaves : FileSystem.AddsNoFile before (session.dispose after).1

/-- What is seen of the session for a record, if its directory can be made. -/
def seenFor
    (archive : Archive)
    (record : InvocationRecord)
    (config : LoaderConfig) :
    Except Failure SeenContent :=
  match config.kind with
  | .none => (readOutcome archive record).map (.output record.language)
  | .inMemory =>
    match archive.plan record config.host with
    | .error failure => .error failure
    | .ok plan =>
      (loadMemory archive plan).map fun loaded => (SessionContent.modules loaded).seen ⟨[], [], 0⟩
  | .onDisk =>
    match archive.plan record config.host with
    | .error failure => .error failure
    | .ok plan => (seenModules archive plan).map .modules

/-- Opening a session fails as it has to, or the session shows what it has to. -/
inductive Shows
    (config : LoaderConfig)
    (before : FileSystem) :
    Except Failure SeenContent → FileSystem × Except Failure Session → Prop
  | failed {after : FileSystem} {failure : Failure}
      (leaves : FileSystem.AddsNoFile before after) :
      Shows config before (.error failure) (after, .error failure)
  | opened {after : FileSystem} {session : Session} {shown : SeenContent}
      (opened : Opened config before after session shown) :
      Shows config before (.ok shown) (after, .ok session)

/-- On disk, a session shows what it has to, whatever directory it gets. -/
theorem Ready.onDisk_shows
    {files : FileSystem}
    {config : LoaderConfig}
    (ready : Ready files config.temporaryRoot)
    (kind : config.kind = .onDisk)
    (archive : Archive)
    (record : InvocationRecord) :
    Shows config files (seenFor archive record config) (onDisk files archive record config) := by
  simp only [seenFor, kind]
  cases planned : archive.plan record config.host with
  | error failure =>
    rw [onDisk, planned]
    exact .failed (.refl files)
  | ok plan =>
    rcases ready.createDirectory with ⟨between, directory, created, below, kept⟩
    cases loading : loadFiles archive directory between plan with
    | error failure =>
      simp only [onDisk, planned, created, loading, loadFiles_eq_error loading]
      exact .failed (kept.trans (FileSystem.addsNoFile_eraseTree below (.refl directory between)))
    | ok result =>
      rcases result with ⟨after, loaded⟩
      rcases loadFiles_eq_ok loading with ⟨places, shown⟩
      simp only [onDisk, planned, created, loading, shown]
      apply Shows.opened
      constructor
      case kind => exact kind.symm
      case content => rfl
      case leaves => exact kept.trans (FileSystem.addsNoFile_eraseTree below places.outside)

/-- What a session shows does not depend on the file system, as long as it gets a directory. -/
theorem create_shows
    {files : FileSystem}
    {config : LoaderConfig}
    (ready : config.kind = .onDisk → Ready files config.temporaryRoot)
    (archive : Archive)
    (record : InvocationRecord) :
    Shows config files (seenFor archive record config) (create files archive record config) := by
  rw [create]
  cases kind : config.kind with
  | none =>
    simp only [seenFor, kind, ofOutput]
    cases readOutcome archive record with
    | error failure => exact .failed (.refl files)
    | ok outcome => exact .opened ⟨kind.symm, rfl, .refl files⟩
  | inMemory =>
    simp only [seenFor, kind, inMemory]
    cases archive.plan record config.host with
    | error failure => exact .failed (.refl files)
    | ok plan =>
      simp only
      cases loading : loadMemory archive plan with
      | error failure => exact .failed (.refl files)
      | ok loaded =>
        refine .opened ⟨kind.symm, ?_, .refl files⟩
        exact congrArg some (seen_of_loadMemory loading files _)
  | onDisk => exact (ready kind).onDisk_shows kind archive record

/-- On disk and without a directory, a session can not be opened. -/
theorem onDisk_of_not_ready
    {files : FileSystem}
    {archive : Archive}
    {record : InvocationRecord}
    {config : LoaderConfig}
    {plan : List PlannedModule}
    (planned : archive.plan record config.host = .ok plan)
    (blocked : ¬ Ready files config.temporaryRoot) :
    ∃ after fault,
      createDirectory files config.temporaryRoot = (after, .error (.file fault)) ∧
        onDisk files archive record config = (after, .error (.file fault)) := by
  rcases createDirectory_of_not_ready blocked with ⟨fault, failed, -⟩
  rcases creating : createDirectory files config.temporaryRoot with ⟨after, outcome⟩
  rw [creating] at failed
  cases failed
  refine ⟨after, fault, rfl, ?_⟩
  simp only [onDisk, planned, creating]

end Session

end BuildCapture
