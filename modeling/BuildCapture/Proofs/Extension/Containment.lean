import BuildCapture.Proofs.Container.Streams
import BuildCapture.Proofs.Extension.FileNames
import BuildCapture.Proofs.Extension.Sites
import BuildCapture.Proofs.Hash.Collections

/-!
# Sessions keep to their directories

The names of modules are metadata of an archive, and no name is too strange to
be there.  Still every file of a session lies two steps below its directory: one
for the identity of the module, and one for a name that is a plain component.
Modules with the same name have different identities, so none of them is put in
place of another.

Whatever else is opened and disposed of in the meantime, the files of a session
hold the octets of its modules until it is disposed of itself.  Then its
directory goes, and nothing else does; and what remains of the session offers
nothing and can be disposed of again without any effect.
-/

namespace BuildCapture

namespace Session

/-! ## Open sessions -/

/-- The modules that a session has loaded, with their locations. -/
def loaded (session : Session) : List (ModuleInfo × ModuleLocation) :=
  match session.content with
  | some (.modules loaded) => loaded
  | _ => []

/--
The location of a module: the host has it, or a file of the session has exactly
the octets that the archive streams for it, and no others when it is read whole.
-/
inductive Located
    (archive : Archive)
    (host : HostModules)
    (directory : Location)
    (files : FileSystem)
    (info : ModuleInfo) :
    ModuleLocation → Prop
  | host {version : ModuleVersion}
      (provided : host.get? info.name = some version) :
      Located archive host directory files info (.host version)
  | file {image : Octets}
      (absent : host.get? info.name = none)
      (streamed : archive.openModule info.id = .ok (.ofOctets image))
      (whole : ∀ other, archive.module info.id = .ok other → other = image)
      (written : files.contentAt? (directory ++ [info.id.hex, fileName info]) = some image) :
      Located archive host directory files info
        (.file directory [info.id.hex, fileName info])

/-- An open session has the modules of its record, all of them in places of their own. -/
structure Holds
    (archive : Archive)
    (record : InvocationRecord)
    (host : HostModules)
    (directory : Location)
    (files : FileSystem)
    (session : Session) : Prop where
  there : files.node? directory = some .directory
  ids : (session.loaded.map fun entry => entry.1.id) =
    (record.analyzers.map AnalyzerEntry.module).eraseDups
  described : ∀ entry ∈ session.loaded, archive.moduleInfo entry.1.id = .ok entry.1
  located : ∀ entry ∈ session.loaded, Located archive host directory files entry.1 entry.2
  apart : ∀ left ∈ session.loaded, ∀ right ∈ session.loaded, ∀ place below,
    left.2 = .file place below → right.2 = .file place below → left = right
  offered : ∀ kind language, ∀ handle ∈ session.handles kind language,
    ∃ entry ∈ session.loaded, handle.origin = .module entry.1.id entry.1.name entry.2

section Holding

variable
    {archive : Archive}
    {record : InvocationRecord}
    {host : HostModules}
    {directory : Location}
    {files : FileSystem}

theorem exists_placed_of_mem
    {plan : List PlannedModule}
    {loaded : List (ModuleInfo × ModuleLocation)}
    (placed : List.Forall₂ (Placed archive directory files) plan loaded)
    {entry : ModuleInfo × ModuleLocation}
    (member : entry ∈ loaded) :
    ∃ planned ∈ plan, Placed archive directory files planned entry := by
  induction placed with
  | nil => cases member
  | cons first _ ih =>
    rcases List.mem_cons.1 member with rfl | later
    · exact ⟨_, List.mem_cons_self, first⟩
    · rcases ih later with ⟨planned, inside, place⟩
      exact ⟨planned, List.mem_cons_of_mem _ inside, place⟩

theorem Placed.info_eq
    {planned : PlannedModule}
    {entry : ModuleInfo × ModuleLocation}
    (placed : Placed archive directory files planned entry) :
    entry.1 = planned.info := by
  cases placed <;> rfl

/-- A module that is in its place is located there. -/
theorem Placed.located
    {planned : PlannedModule}
    {entry : ModuleInfo × ModuleLocation}
    (delegated : planned.host = host.get? planned.info.name)
    (placed : Placed archive directory files planned entry) :
    Located archive host directory files entry.1 entry.2 := by
  cases placed with
  | host provided => exact .host (delegated.symm.trans provided)
  | file own imaged written =>
    have streamed := imageFor_eq_ok imaged
    have streams : archive.container.Streams planned.info.id.entryName _ := streamed
    exact .file (delegated.symm.trans own) streamed (fun _ => streams.eq_of_read) written

/-- The file of a module tells its identity. -/
theorem Located.hex_of_file
    {info : ModuleInfo}
    {place : Location}
    {below : List String}
    (located : Located archive host directory files info (.file place below)) :
    below.head? = some info.id.hex := by
  cases located
  rfl

/-- A session offers the extensions of the modules that it has loaded. -/
theorem origin_of_mem_handles
    {session : Session}
    {loaded : List (ModuleInfo × ModuleLocation)}
    (content : session.content = some (.modules loaded))
    {kind : ExtensionKind}
    {language : Language}
    {handle : ExtensionHandle}
    (member : handle ∈ session.handles kind language) :
    ∃ entry ∈ loaded, handle.origin = .module entry.1.id entry.1.name entry.2 := by
  rw [handles, content] at member
  rcases List.mem_flatMap.1 member with ⟨entry, inside, exported⟩
  rcases List.mem_map.1 exported with ⟨type, -, rfl⟩
  exact ⟨entry, inside, rfl⟩

/-- A session that is open holds its modules. -/
theorem Furnished.holds
    {session : Session}
    (furnished : Furnished archive record host directory files session) :
    Holds archive record host directory files session := by
  rcases furnished.content with ⟨plan, loaded, content, planned, placed⟩
  have closed := Archive.closed_of_plan planned
  have same : session.loaded = loaded := by
    rw [Session.loaded, content]
  have described : ∀ entry ∈ loaded, archive.moduleInfo entry.1.id = .ok entry.1 := by
    intro entry member
    rcases exists_placed_of_mem placed member with ⟨module, inside, place⟩
    rw [place.info_eq]
    exact closed.described module inside
  have located : ∀ entry ∈ loaded, Located archive host directory files entry.1 entry.2 := by
    intro entry member
    rcases exists_placed_of_mem placed member with ⟨module, inside, place⟩
    exact place.located (closed.delegated module inside)
  constructor
  case there => exact furnished.there
  case ids =>
    have ids := map_eq_of_forall₂
      (fun (module : PlannedModule) (entry : ModuleInfo × ModuleLocation)
        (place : Placed archive directory files module entry) =>
          congrArg ModuleInfo.id place.info_eq.symm) placed
    rw [same, ← ids]
    exact closed.ids
  case described => exact same ▸ described
  case located => exact same ▸ located
  case apart =>
    rw [same]
    intro left leftIn right rightIn place below leftAt rightAt
    have leftHex := (leftAt ▸ located left leftIn).hex_of_file
    have rightHex := (rightAt ▸ located right rightIn).hex_of_file
    have sameHex := Option.some.inj (leftHex.symm.trans rightHex)
    have sameId : left.1.id = right.1.id := by
      apply Option.some.inj
      rw [← ModuleId.ofHex?_hex, ← ModuleId.ofHex?_hex, sameHex]
    have sameInfo : left.1 = right.1 := by
      have found := described left leftIn
      rw [sameId, described right rightIn] at found
      exact (Except.ok.inj found).symm
    exact Prod.ext sameInfo (leftAt.trans rightAt.symm)
  case offered =>
    rw [same]
    exact fun kind language handle => origin_of_mem_handles content

end Holding

/-! ## Sessions that were disposed of -/

/-- Of a session that was disposed of nothing is left that could be given up. -/
structure IsOver (session : Session) : Prop where
  disposed : session.isDisposed = true
  empty : ∀ kind language, session.handles kind language = []
  idle : ∀ files, session.dispose files = (files, session)

/-- Disposing of a session removes what is in its directory, and nothing else. -/
structure Removes (session : Session) (before after : FileSystem) : Prop where
  inside : ∀ directory, session.directory = some directory →
    ∀ location, directory <+: location → after.node? location = none
  outside : ∀ location,
    (∀ directory, session.directory = some directory → ¬ directory <+: location) →
      after.node? location = before.node? location

/-- A session without content and directory is over. -/
theorem isOver_of_empty
    {session : Session}
    (emptied : session.content = none)
    (left : session.directory = none) :
    session.IsOver := by
  constructor
  case disposed =>
    rw [isDisposed, emptied]
    rfl
  case empty =>
    intro kind language
    rw [handles, emptied]
  case idle =>
    intro files
    rcases session with ⟨kind, content, directory⟩
    cases emptied
    cases left
    rfl

theorem removes_dispose
    {session : Session}
    (below : ∀ directory, session.directory = some directory → directory ≠ [])
    (files : FileSystem) :
    session.Removes files (session.dispose files).1 where
  inside directory lives _ inside := node?_dispose_inside lives (below directory lives) inside
  outside _ outside := node?_dispose_outside below outside

/-! ## Paths of files -/

/--
The path of a module's file leads down from that of the directory: to a
component for the identity of the module, and to one that has the suffix of
module files.
-/
structure LeadsDown (info : ModuleInfo) : Prop where
  identity : Route.IsComponent info.id.hex
  name : Route.IsComponent (fileName info)
  suffix : ∃ stem, fileName info = stem ++ ".dll"
  joined : ∀ base, (Route.ofPath (Route.join (Route.join base info.id.hex) (fileName info))).steps =
    (Route.ofPath base).steps ++ [.down info.id.hex, .down (fileName info)]
  start : ∀ base, base ≠ "" →
    (Route.ofPath (Route.join (Route.join base info.id.hex) (fileName info))).isAbsolute =
      (Route.ofPath base).isAbsolute

/-- Whatever the name of a module is, the path of its file leads down. -/
theorem leadsDown
    (info : ModuleInfo) :
    LeadsDown info := by
  classical
  have identity := isComponent_hex info.id
  have name := isComponent_fileName info
  constructor
  case identity => exact identity
  case name => exact name
  case suffix => exact ⟨_, fileName_eq info⟩
  case joined =>
    intro base
    rw [name.steps_join, identity.steps_join, List.append_assoc]
    rfl
  case start =>
    intro base nonempty
    have further : Route.join base info.id.hex ≠ "" := by
      intro empty
      have steps := identity.steps_join base
      rw [empty] at steps
      exact List.append_ne_nil_of_right_ne_nil _ (List.cons_ne_nil _ _) steps.symm
    exact (name.isAbsolute_join further).trans (identity.isAbsolute_join nonempty)

end Session

namespace Site

/-! ## Sites at rest -/

/--
The file system of a site is some other, apart from the directories of
sessions; and the other has nothing there.
-/
structure StandsOn (ground : FileSystem) (site : Site) : Prop where
  clear : ∀ directory ∈ site.directories,
    ∀ location, directory <+: location → ground.node? location = none
  outside : ∀ location, site.IsOutside location →
    site.files.node? location = ground.node? location

/--
Every session at a site is open, in a directory of its own below the root, or
it is over; and nothing else has happened to the file system but that the root
may have been made.
-/
structure Contained
    (initial : FileSystem)
    (root : Option String)
    (parent : Location)
    (site : Site) : Prop where
  beside : ∀ directory ∈ site.directories, ∃ name, directory = parent ++ [name]
  apart : site.directories.Nodup
  holds : ∀ tenant ∈ site.tenants, ∀ directory, tenant.session.directory = some directory →
    tenant.session.Holds tenant.archive tenant.record tenant.host directory site.files
  ended : ∀ tenant ∈ site.tenants, tenant.session.directory = none → tenant.session.IsOver
  ground : site.StandsOn initial ∨ site.StandsOn (Session.withRoot initial root)

/-- Sessions at an orderly site are contained. -/
theorem Orderly.contained
    {initial : FileSystem}
    {root : Option String}
    {parent : Location}
    {site : Site}
    (orderly : site.Orderly (Session.withRoot initial root) root parent) :
    site.Contained initial root parent := by
  constructor
  case beside =>
    intro directory member
    rcases orderly.child_of_mem member with ⟨name, here, -⟩
    exact ⟨name, here⟩
  case apart => exact orderly.distinct
  case holds =>
    intro tenant member directory lives
    cases orderly.lodged tenant member with
    | furnished furnished =>
      cases furnished.lives.symm.trans lives
      exact furnished.holds
    | gone gone => cases gone.left.symm.trans lives
  case ended =>
    intro tenant member left
    cases orderly.lodged tenant member with
    | furnished furnished => cases furnished.lives.symm.trans left
    | gone gone => exact Session.isOver_of_empty gone.emptied left
  case ground =>
    exact Or.inr ⟨fun _ member _ => orderly.nothing_in_ground member, orderly.outside⟩

/-- Sessions at a settled site are contained. -/
theorem Settled.contained
    {initial : FileSystem}
    {root : Option String}
    {parent : Location}
    {site : Site}
    (settled : Settled initial root parent site) :
    site.Contained initial root parent := by
  cases settled with
  | orderly orderly => exact orderly.contained
  | untouched =>
    constructor
    case beside => exact fun _ member => absurd member List.not_mem_nil
    case apart => exact List.nodup_nil
    case holds => exact fun _ member => absurd member List.not_mem_nil
    case ended => exact fun _ member => absurd member List.not_mem_nil
    case ground => exact Or.inl ⟨fun _ member => absurd member List.not_mem_nil, fun _ _ => rfl⟩

/-! ## What a move does -/

/--
What a move does to a site.  A session that can not be opened leaves nothing; one
that is opened has a fresh directory, and nothing outside is written.  Giving up
a session removes its directory only, and the other sessions stay as they are.
-/
inductive Effect (root : Option String) (parent : Location) (site : Site) : Move → Site → Prop
  | refused {archive : Archive} {record : InvocationRecord} {host : HostModules}
      {files : FileSystem}
      (unchanged : (∀ location, files.node? location = site.files.node? location) ∨
        ∀ location, files.node? location = (Session.withRoot site.files root).node? location) :
      Effect root parent site (.create archive record host) { site with files }
  | opened {archive : Archive} {record : InvocationRecord} {host : HostModules}
      {files : FileSystem} {session : Session} {name : String}
      (lives : session.directory = some (parent ++ [name]))
      (fresh : ∀ location, parent ++ [name] <+: location → site.files.node? location = none)
      (outside : ∀ location, ¬ parent ++ [name] <+: location →
        files.node? location = (Session.withRoot site.files root).node? location) :
      Effect root parent site (.create archive record host)
        { files, tenants := site.tenants ++ [{ archive, record, host, session }] }
  | enumerated {index : Nat} {kind : ExtensionKind} {language : Language} :
      Effect root parent site (.enumerate index kind language) site
  | disposed {index : Nat} {tenant : Tenant} {files : FileSystem} {session : Session}
      (there : site.tenants[index]? = some tenant)
      (removes : tenant.session.Removes site.files files)
      (ended : session.IsOver) :
      Effect root parent site (.dispose index)
        { files, tenants := site.tenants.set index { tenant with session } }
  | dropped {index : Nat} {tenant : Tenant} {files : FileSystem}
      (there : site.tenants[index]? = some tenant)
      (removes : tenant.session.Removes site.files files) :
      Effect root parent site (.drop index) { files, tenants := site.tenants.eraseIdx index }
  | nobody {index : Nat} {move : Move}
      (absent : site.tenants[index]? = none)
      (idle : move = .dispose index ∨ move = .drop index) :
      Effect root parent site move site

section Effects

variable
    {initial : FileSystem}
    {root : Option String}
    {parent : Location}
    {site : Site}

/-- Once the root is there, opening a session has only the effects that it may have. -/
theorem effect_create
    (hosts : Session.Hosts (Session.withRoot site.files root) root parent)
    (clear : Session.ClearBelow (Session.withRoot site.files root) parent)
    (archive : Archive)
    (record : InvocationRecord)
    (host : HostModules) :
    site.Effect root parent (.create archive record host)
      (move root { site with files := Session.withRoot site.files root }
        (.create archive record host)) := by
  have opening := hosts.opening clear archive record host
  rw [move]
  generalize Session.onDisk (Session.withRoot site.files root) archive record
    { kind := .onDisk, temporaryRoot := root, host } = outcome at opening
  cases opening with
  | failed start unchanged => exact .refused (Or.inr unchanged)
  | @opened files session name free outside furnished =>
    refine .opened furnished.lives ?_ outside.nodes
    intro location inside
    have nothing := clear name free location inside
    rcases Session.addsDirectories_withRoot location with same | ⟨missing, -⟩
    · exact same.symm.trans nothing
    · exact missing

/-- Giving up a session has only the effects that it may have. -/
theorem effect_give_up
    (below : ∀ directory ∈ site.directories, directory ≠ [])
    (index : Nat) :
    site.Effect root parent (.dispose index) (site.move root (.dispose index)) ∧
      site.Effect root parent (.drop index) (site.move root (.drop index)) := by
  rw [move, move]
  cases there : site.tenants[index]? with
  | none => exact ⟨.nobody there (Or.inl rfl), .nobody there (Or.inr rfl)⟩
  | some tenant =>
    have removes := @Session.removes_dispose tenant.session
      (fun directory lives => below directory
        (mem_directories_iff.2 ⟨tenant, List.mem_of_getElem? there, lives⟩)) site.files
    exact ⟨.disposed there removes (Session.isOver_of_empty rfl rfl), .dropped there removes⟩

/-- Every move at a settled site has only the effects that it may have. -/
theorem Settled.effect
    (rooted : initial.Rooted)
    (accommodates : Session.Accommodates initial root)
    (hosts : Session.Hosts (Session.withRoot initial root) root parent)
    (settled : Settled initial root parent site)
    (move : Move) :
    site.Effect root parent move (site.move root move) := by
  have below : ∀ directory ∈ site.directories, directory ≠ [] := by
    intro directory member
    rcases settled.contained.beside directory member with ⟨name, rfl⟩
    exact FileSystem.below_ne_root _ _ _
  cases move with
  | enumerate index kind language => exact .enumerated
  | dispose index => exact (effect_give_up below index).1
  | drop index => exact (effect_give_up below index).2
  | create archive record host =>
    cases settled with
    | orderly orderly =>
      have same := orderly.hosts_here.withRoot_eq
      have creating := @effect_create root parent site (same.symm ▸ orderly.hosts_here)
        (same.symm ▸ orderly.clearBelow) archive record host
      rw [same] at creating
      exact creating
    | untouched =>
      rcases create_at_untouched accommodates archive record host with unchanged | later
      · rw [unchanged]
        exact .refused (Or.inl fun _ => rfl)
      · rw [later]
        have orderly := Orderly.empty (Session.rooted_withRoot rooted) hosts
        exact effect_create hosts orderly.clearBelow archive record host

end Effects

/-! ## All that may happen -/

theorem run_append
    (root : Option String)
    (site : Site)
    (moves : List Move)
    (next : Move) :
    site.run root (moves ++ [next]) = (site.run root moves).move root next := by
  rw [run, run, List.foldl_append]
  rfl

/--
Any number of sessions can be opened below one root, used and given up, in any
order: all of them keep to their directories, and every move has only the
effects that it may have.  Whatever the name of a module is, the path of its
file leads down from the directory of the session.
-/
theorem sessions_keep_to_their_directories
    {initial : FileSystem}
    {root : Option String}
    (rooted : initial.Rooted)
    (accommodates : Session.Accommodates initial root) :
    (∃ parent,
      Session.Hosts (Session.withRoot initial root) root parent ∧
        initial.AddsDirectories (Session.withRoot initial root) ∧
        ∀ moves,
          (run root { files := initial } moves).Contained initial root parent ∧
            ∀ next, (run root { files := initial } moves).Effect root parent next
              (run root { files := initial } (moves ++ [next]))) ∧
      ∀ info, Session.LeadsDown info := by
  rcases Session.hosts_withRoot accommodates with ⟨parent, hosts, -⟩
  refine ⟨⟨parent, hosts, Session.addsDirectories_withRoot, ?_⟩, Session.leadsDown⟩
  intro moves
  have settled := settled_run rooted accommodates hosts .untouched moves
  refine ⟨settled.contained, ?_⟩
  intro next
  rw [run_append]
  exact settled.effect rooted accommodates hosts next

end Site

/-! ## Modules with a strange name -/

namespace StrangeNames

/-- A module that has the name of a parent directory. -/
def module
    (octet : UInt8) :
    ModuleInfo :=
  .plain octet ".." 1

/-- An entry with one octet for such a module. -/
def entry
    (octet : UInt8)
    (offset : Nat) :
    DirectoryEntry where
  name := (module octet).id.entryName
  flags := 0
  offset := offset
  storedLength := 1
  rawLength := 1
  checksum := 0
  digest := Vector.replicate 32 0

/-- An archive with two such modules. -/
def archive : Archive where
  container := {
    path := "", image := [7, 8], flags := 0, entries := [entry 1 0, entry 2 1], verify := false }
  manifest := { formatVersion := 1, pathStyle := .unix, recordCount := 0 }
  modules := [module 1, module 2]
  diagnostics := []

/-- A record that names both modules. -/
def record : InvocationRecord where
  projectPath := "/p/a.csproj"
  language := .csharp
  kind := .regular
  analyzers := [⟨(module 1).id, "/a.dll"⟩, ⟨(module 2).id, "/b.dll"⟩]

/-- A file system with nothing in it. -/
def initial : FileSystem where
  workingDirectory := []
  nodes := []
  clock := 1

/-- Two sessions are opened, and the first is disposed of twice. -/
def moves : List Site.Move :=
  [.create archive record {}, .create archive record {}, .dispose 0, .dispose 0]

/-- The site after the moves. -/
def site : Site :=
  Site.run (some "t") { files := initial } moves

theorem rooted_initial :
    initial.Rooted := by
  constructor
  case start => rfl
  case above =>
    intro location there
    by_cases root : location = []
    · rw [root]
      rfl
    · rw [FileSystem.node?, if_neg root] at there
      exact absurd rfl there

/-- The second session holds its modules when the first is over, and nothing else is there. -/
theorem strange_names_keep_to_their_directories :
    initial.Rooted ∧ Session.Accommodates initial (some "t") ∧
      site.directories = [["t", "complog-4"]] ∧
      site.files.contentAt? (["t", "complog-4"] ++ Session.placeBelow (module 2)) = some [8] ∧
      (∃ parent, site.Contained initial (some "t") parent) ∧
      Session.LeadsDown (module 1) := by
  have accommodates : Session.Accommodates initial (some "t") :=
    FileSystem.createDirectories_isOk_iff.1 (by decide +kernel)
  rcases Site.sessions_keep_to_their_directories rooted_initial accommodates with
    ⟨⟨parent, -, -, contained⟩, leads⟩
  refine ⟨rooted_initial, accommodates, ?_, ?_, ⟨parent, (contained moves).1⟩, leads _⟩
  · decide +kernel
  · decide +kernel

end StrangeNames

end BuildCapture
