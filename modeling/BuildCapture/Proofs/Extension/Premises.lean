import BuildCapture.Proofs.Extension.Plan
import BuildCapture.Proofs.Extension.Session
import BuildCapture.Proofs.FileSystem.Freshness
import Mathlib.Data.List.Forall2

/-!
# The premises of a session

A session on disk has a directory of its own below a root that sessions share.
The directory is new, so nothing stands in it at first.  The modules of the
session are loaded into it, and nowhere else.  If loading one of them fails, the
directory goes again, and the file system is what it was before.

A missing root is made on the way to the first directory.  Once it is there, no
other directory is made than that of the session.
-/

namespace BuildCapture.Session

/-! ## Modules in their places -/

/--
A module that is planned is in its place: the host has it, or its image is in a
file of the session.
-/
inductive Placed (archive : Archive) (directory : Location) (files : FileSystem) :
    PlannedModule → ModuleInfo × ModuleLocation → Prop
  | host {planned : PlannedModule} {version : ModuleVersion}
      (provided : planned.host = some version) :
      Placed archive directory files planned (planned.info, .host version)
  | file {planned : PlannedModule} {image : Octets}
      (own : planned.host = none)
      (imaged : imageFor archive planned.info = .ok image)
      (written : files.contentAt? (directory ++ placeBelow planned.info) = some image) :
      Placed archive directory files planned
        (planned.info, .file directory (placeBelow planned.info))

section Placing

variable
    {archive : Archive}
    {directory : Location}
    {before after : FileSystem}
    {planned : PlannedModule}

theorem Placed.mono
    {entry : ModuleInfo × ModuleLocation}
    (kept : ∀ info image, imageFor archive info = .ok image →
      before.contentAt? (directory ++ placeBelow info) = some image →
      after.contentAt? (directory ++ placeBelow info) = some image)
    (placed : Placed archive directory before planned entry) :
    Placed archive directory after planned entry := by
  cases placed with
  | host provided => exact .host provided
  | file own imaged written => exact .file own imaged (kept _ _ imaged written)

theorem placed_of_loadFile
    {location : ModuleLocation}
    (loading : loadFile archive directory before planned = .ok (after, location)) :
    Placed archive directory after planned (planned.info, location) := by
  rcases loadFile_cases loading with ⟨version, provided, rfl, rfl⟩ | ⟨image, own, imaged, rfl, rfl⟩
  · exact .host provided
  · refine .file own imaged ?_
    rw [contentAt?_withImage, if_pos rfl]

/-- Modules that are loaded are all in their places. -/
theorem placed_of_loadFiles
    {plan : List PlannedModule}
    {loaded : List (ModuleInfo × ModuleLocation)}
    (loading : loadFiles archive directory before plan = .ok (after, loaded)) :
    List.Forall₂ (Placed archive directory after) plan loaded := by
  induction plan generalizing before loaded with
  | nil =>
    cases loading
    exact .nil
  | cons planned rest ih =>
    rcases loadFiles_cons_eq_ok loading with ⟨between, location, others, first, later, rfl⟩
    have kept := (loadFiles_eq_ok later).1.kept
    exact .cons ((placed_of_loadFile first).mono kept) (ih later)

end Placing

/-- The image of a module is what its stream in the archive yields. -/
theorem imageFor_eq_ok
    {archive : Archive}
    {info : ModuleInfo}
    {image : Octets}
    (imaged : imageFor archive info = .ok image) :
    archive.openModule info.id = .ok (.ofOctets image) := by
  rw [imageFor] at imaged
  split at imaged
  · cases imaged
  next source opened =>
  split at imaged
  · cases imaged
  split at imaged
  · cases imaged
  next data read =>
  cases imaged
  rcases source with ⟨data, fault⟩
  cases fault with
  | some fault => cases read
  | none =>
    cases read
    exact opened

/-! ## Roots of sessions -/

/-- A place where sessions can make their directories, if need be with all above it. -/
def Accommodates
    (files : FileSystem) : (root : Option String) → Prop
  | none => files.node? systemTemporary = some .directory
  | some path => files.Open (rootRoute path)

/-- The file system with the root of sessions, and all directories above it. -/
def withRoot
    (files : FileSystem) : (root : Option String) → FileSystem
  | none => files
  | some path => (files.createDirectories (rootRoute path)).1

/-- The root of sessions is there, and this is where. -/
inductive Hosts (files : FileSystem) : (root : Option String) → (parent : Location) → Prop
  | temporary
      (there : files.node? systemTemporary = some .directory) :
      Hosts files none systemTemporary
  | named {path : String} {parent : Location}
      (located : files.locate (rootRoute path) = .ok parent)
      (there : files.node? parent = some .directory) :
      Hosts files (some path) parent

section Roots

variable
    {files : FileSystem}
    {root : Option String}
    {parent : Location}

/-- Where the root is there, a session gets a fresh directory below it. -/
theorem Hosts.createDirectory
    (hosts : Hosts files root parent) :
    Session.createDirectory files root =
      ((files.createFresh parent directoryStart).2,
        .ok (files.createFresh parent directoryStart).1) := by
  cases hosts with
  | temporary there => rfl
  | @named path _ located there =>
    have leads := FileSystem.leadsToDirectory_iff.2 ⟨parent, located, there⟩
    have making := FileSystem.createDirectories_of_leadsToDirectory leads
    rw [Session.createDirectory]
    simp only
    rw [← rootRoute, making]
    simp only [located]

/-- Where the root is there, it need not be made. -/
theorem Hosts.withRoot_eq
    (hosts : Hosts files root parent) :
    withRoot files root = files := by
  cases hosts with
  | temporary there => rfl
  | named located there =>
    have leads := FileSystem.leadsToDirectory_iff.2 ⟨parent, located, there⟩
    exact congrArg Prod.fst (FileSystem.createDirectories_of_leadsToDirectory leads)

/-- The root stays where it is while its directories do. -/
theorem Hosts.mono
    {after : FileSystem}
    (kept : FileSystem.KeepsDirectories files after)
    (start : after.workingDirectory = files.workingDirectory)
    (hosts : Hosts files root parent) :
    Hosts after root parent := by
  cases hosts with
  | temporary there => exact .temporary (kept _ there)
  | named located there => exact .named (FileSystem.locate_eq_ok kept start located) (kept _ there)

/-- Making the root of sessions makes it be there, and it is what opening a session starts with. -/
theorem hosts_withRoot
    (accommodates : Accommodates files root) :
    ∃ parent, Hosts (withRoot files root) root parent ∧
      Session.createDirectory files root =
        Session.createDirectory (withRoot files root) root := by
  cases root with
  | none => exact ⟨systemTemporary, .temporary accommodates, rfl⟩
  | some path =>
    have made := FileSystem.createDirectories_isOk_iff.2 accommodates
    rcases making : files.createDirectories (rootRoute path) with ⟨between, outcome⟩
    rw [making] at made
    cases made
    have same : withRoot files (some path) = between := congrArg Prod.fst making
    rcases FileSystem.locate_of_createDirectories making with ⟨parent, located, there⟩
    have hosts : Hosts between (some path) parent := .named located there
    rw [same]
    refine ⟨parent, hosts, ?_⟩
    rw [hosts.createDirectory, Session.createDirectory]
    simp only
    rw [← rootRoute, making]
    simp only [located]

theorem rooted_withRoot
    (rooted : files.Rooted) :
    (withRoot files root).Rooted := by
  cases root with
  | none => exact rooted
  | some path => exact rooted.createDirectories (rootRoute path)

/-- Making the root of sessions adds directories and does nothing else. -/
theorem addsDirectories_withRoot :
    FileSystem.AddsDirectories files (withRoot files root) := by
  cases root with
  | none => exact .refl files
  | some path => exact FileSystem.addsDirectories_createDirectories files (rootRoute path)

end Roots

/-! ## Opening one session -/

/-- A session that is open, with the modules of a record in its directory. -/
structure Furnished
    (archive : Archive)
    (record : InvocationRecord)
    (host : HostModules)
    (directory : Location)
    (files : FileSystem)
    (session : Session) : Prop where
  kind : session.kind = .onDisk
  lives : session.directory = some directory
  there : files.node? directory = some .directory
  content : ∃ plan loaded, session.content = some (.modules loaded) ∧
    archive.plan record host = .ok plan ∧ List.Forall₂ (Placed archive directory files) plan loaded

/-- Nothing stands where a child of a directory is missing, nor below. -/
def ClearBelow (files : FileSystem) (parent : Location) : Prop :=
  ∀ name, files.node? (parent ++ [name]) = none →
    ∀ location, parent ++ [name] <+: location → files.node? location = none

/--
What opening a session does: nothing at all, or it makes a directory where
nothing stood, loads the modules into it and leaves all else as it is.
-/
inductive Opening
    (archive : Archive)
    (record : InvocationRecord)
    (host : HostModules)
    (parent : Location)
    (before : FileSystem) :
    FileSystem × Except Failure Session → Prop
  | failed {after : FileSystem} {failure : Failure}
      (start : after.workingDirectory = before.workingDirectory)
      (unchanged : ∀ location, after.node? location = before.node? location) :
      Opening archive record host parent before (after, .error failure)
  | opened {after : FileSystem} {session : Session} {name : String}
      (free : before.node? (parent ++ [name]) = none)
      (outside : FileSystem.SameOutside (parent ++ [name]) before after)
      (furnished : Furnished archive record host (parent ++ [name]) after session) :
      Opening archive record host parent before (after, .ok session)

section OneSession

variable
    {files : FileSystem}
    {parent : Location}

/-- Nothing changes outside a fresh directory. -/
theorem sameOutside_createFresh
    (files : FileSystem)
    (parent : Location)
    (start : String) :
    FileSystem.SameOutside (files.createFresh parent start).1 files
      (files.createFresh parent start).2 := by
  refine ⟨rfl, ?_⟩
  intro location outside
  rw [FileSystem.node?_createFresh, if_neg]
  rintro rfl
  exact outside (List.prefix_refl _)

/-- A module is put below the directory of its session, not in place of it. -/
theorem node?_withImage
    (files : FileSystem)
    (directory : Location)
    (info : ModuleInfo)
    (image : Octets) :
    (withImage files directory info image).node? directory = files.node? directory := by
  have below := FileSystem.below_ne_root directory
  have elsewhere : ∀ first rest, directory ≠ directory ++ first :: rest := by
    intro first rest same
    exact absurd (List.append_right_eq_self.1 same.symm) (List.cons_ne_nil first rest)
  rw [withImage, placeBelow]
  show ((files.put _ _).put (directory ++ [info.id.hex, fileName info]) _).node? directory = _
  rw [FileSystem.node?_put _ _ _ _ (below _ _), if_neg (elsewhere _ _),
    FileSystem.node?_put _ _ _ _ (below _ _), if_neg (elsewhere _ _)]

/-- The directory of a session is still there when modules have been loaded into it. -/
theorem node?_of_loadFiles
    {archive : Archive}
    {directory : Location}
    {before after : FileSystem}
    {plan : List PlannedModule}
    {loaded : List (ModuleInfo × ModuleLocation)}
    (loading : loadFiles archive directory before plan = .ok (after, loaded)) :
    after.node? directory = before.node? directory := by
  induction plan generalizing before loaded with
  | nil =>
    cases loading
    rfl
  | cons planned rest ih =>
    rcases loadFiles_cons_eq_ok loading with ⟨between, location, others, first, later, rfl⟩
    rw [ih later]
    rcases loadFile_cases first with ⟨version, -, rfl, -⟩ | ⟨image, -, -, rfl, -⟩
    · rfl
    · exact node?_withImage before directory planned.info image

/-- Where the root is there, opening a session makes its directory or does nothing. -/
theorem Hosts.opening
    {root : Option String}
    (hosts : Hosts files root parent)
    (clear : ClearBelow files parent)
    (archive : Archive)
    (record : InvocationRecord)
    (host : HostModules) :
    Opening archive record host parent files
      (onDisk files archive record { kind := .onDisk, temporaryRoot := root, host }) := by
  cases planned : archive.plan record host with
  | error failure =>
    simp only [onDisk, planned]
    exact .failed rfl fun _ => rfl
  | ok plan =>
    have free := FileSystem.node?_freshName files parent directoryStart
    have fresh := sameOutside_createFresh files parent directoryStart
    have below := createFresh_ne_root files parent directoryStart
    have there := FileSystem.node?_createFresh files parent directoryStart
      (files.createFresh parent directoryStart).1
    rw [if_pos rfl] at there
    cases loading : loadFiles archive (files.createFresh parent directoryStart).1
        (files.createFresh parent directoryStart).2 plan with
    | error failure =>
      simp only [onDisk, planned, hosts.createDirectory, loading]
      refine .failed rfl ?_
      intro location
      rw [FileSystem.node?_eraseTree _ below]
      split
      · next inside => exact (clear _ free location inside).symm
      · next outside => exact fresh.nodes location outside
    | ok result =>
      rcases result with ⟨after, loaded⟩
      simp only [onDisk, planned, hosts.createDirectory, loading]
      refine .opened free (fresh.trans (loadFiles_eq_ok loading).1.outside) ?_
      constructor
      case kind => rfl
      case lives => rfl
      case there => exact (node?_of_loadFiles loading).trans there
      case content => exact ⟨plan, loaded, rfl, planned, placed_of_loadFiles loading⟩

end OneSession

/-! ## Giving up one session -/

section GivingUp

variable
    {session : Session}
    {files : FileSystem}
    {location : Location}

/-- Nothing is left in the directory of a session that was disposed of. -/
theorem node?_dispose_inside
    {directory : Location}
    (lives : session.directory = some directory)
    (below : directory ≠ [])
    (inside : directory <+: location) :
    (session.dispose files).1.node? location = none := by
  rw [dispose, lives]
  show (files.eraseTree directory).node? location = none
  rw [FileSystem.node?_eraseTree files below, if_pos inside]

/-- Disposing of a session changes nothing outside its directory. -/
theorem node?_dispose_outside
    (below : ∀ directory, session.directory = some directory → directory ≠ [])
    (outside : ∀ directory, session.directory = some directory → ¬ directory <+: location) :
    (session.dispose files).1.node? location = files.node? location := by
  rw [dispose]
  cases lives : session.directory with
  | none => rfl
  | some directory =>
    show (files.eraseTree directory).node? location = files.node? location
    rw [FileSystem.node?_eraseTree files (below directory lives), if_neg (outside directory lives)]

theorem workingDirectory_dispose
    (session : Session)
    (files : FileSystem) :
    (session.dispose files).1.workingDirectory = files.workingDirectory := by
  rw [dispose]
  cases session.directory <;> rfl

end GivingUp

end BuildCapture.Session
