import BuildCapture.Proofs.Extension.Premises

/-!
# Sessions that share a root

Any number of sessions on disk are opened, used and given up in any order, and
all of them have their directories below one root.  At every moment the file
system is what it was in the beginning, apart from the root and from what is in
the directories of the sessions that are open.

This is kept by every single move.  A new session gets a directory where nothing
stands, which is no directory of another; the modules of a session are loaded
into its directory only; and when a session is given up, its directory goes and
nothing else.
-/

namespace BuildCapture

/-- A session on disk, with what it was opened for. -/
structure Tenant where
  archive : Archive
  record : InvocationRecord
  host : HostModules
  session : Session

/-- A file system, and the sessions that have been opened in it and not been dropped. -/
structure Site where
  files : FileSystem
  tenants : List Tenant := []

namespace Site

/-! ## Moves -/

/-- What may happen at a site. -/
inductive Move where
  | create (archive : Archive) (record : InvocationRecord) (host : HostModules)
  | enumerate (index : Nat) (kind : ExtensionKind) (language : Language)
  | dispose (index : Nat)
  | drop (index : Nat)

/-- The site after a move; a session that can not be opened is no tenant. -/
def move
    (root : Option String)
    (site : Site) : Move → Site
  | .create archive record host =>
    match Session.onDisk site.files archive record
        { kind := .onDisk, temporaryRoot := root, host } with
    | (files, .error _) => { site with files }
    | (files, .ok session) =>
      { files, tenants := site.tenants ++ [{ archive, record, host, session }] }
  | .enumerate _ _ _ => site
  | .dispose index =>
    match site.tenants[index]? with
    | none => site
    | some tenant =>
      { files := (tenant.session.dispose site.files).1
        tenants := site.tenants.set index
          { tenant with session := (tenant.session.dispose site.files).2 } }
  | .drop index =>
    match site.tenants[index]? with
    | none => site
    | some tenant =>
      { files := (tenant.session.dispose site.files).1
        tenants := site.tenants.eraseIdx index }

/-- The site after some moves, one after the other. -/
def run
    (root : Option String)
    (site : Site)
    (moves : List Move) :
    Site :=
  moves.foldl (move root) site

/-- The directories of the sessions that have not been disposed of. -/
def directories
    (site : Site) :
    List Location :=
  site.tenants.filterMap fun tenant => tenant.session.directory

/-- No session has a location in its directory. -/
def IsOutside (site : Site) (location : Location) : Prop :=
  ∀ directory ∈ site.directories, ¬ directory <+: location

end Site

/-! ## Tenants -/

namespace Tenant

/-- A session that has been disposed of. -/
structure Gone (tenant : Tenant) : Prop where
  emptied : tenant.session.content = none
  left : tenant.session.directory = none

/-- A session is open in a directory of its own, or it has been disposed of. -/
inductive Lodged (parent : Location) (files : FileSystem) (tenant : Tenant) : Prop
  | furnished {name : String}
      (furnished : Session.Furnished tenant.archive tenant.record tenant.host
        (parent ++ [name]) files tenant.session)
  | gone
      (gone : tenant.Gone)

/-- What happens outside the directory of a session does not matter to it. -/
theorem Lodged.congr
    {parent : Location}
    {before after : FileSystem}
    {tenant : Tenant}
    (same : ∀ directory, tenant.session.directory = some directory →
      ∀ location, directory <+: location → after.node? location = before.node? location)
    (lodged : tenant.Lodged parent before) :
    tenant.Lodged parent after := by
  cases lodged with
  | gone gone => exact .gone gone
  | @furnished name furnished =>
    have inside := same _ furnished.lives
    rcases furnished.content with ⟨plan, loaded, content, planned, placed⟩
    have later : List.Forall₂ (Session.Placed tenant.archive (parent ++ [name]) after) plan loaded := by
      refine placed.imp ?_
      intro _ _ place
      refine place.mono ?_
      intro info image _ written
      rw [FileSystem.contentAt?, inside _ (List.prefix_append _ _)]
      exact written
    have there := (inside _ (List.prefix_refl _)).trans furnished.there
    exact .furnished
      ⟨furnished.kind, furnished.lives, there, plan, loaded, content, planned, later⟩

end Tenant

/-- Of the children of a directory, only one leads to a location. -/
theorem child_unique
    {parent location : Location}
    {left right : String}
    (first : parent ++ [left] <+: location)
    (second : parent ++ [right] <+: location) :
    left = right := by
  have sameLength : (parent ++ [left]).length = (parent ++ [right]).length := by
    rw [List.length_append, List.length_append]
    rfl
  have inside := List.prefix_of_prefix_length_le first second (Nat.le_of_eq sameLength)
  have same := inside.eq_of_length sameLength
  exact (List.cons.inj (List.append_cancel_left same)).1

/-! ## Orderly sites -/

namespace Site

/--
A site whose file system is the ground that its sessions stand on, apart from
their directories; these are different, and the ground has nothing in their
place.
-/
structure Orderly
    (ground : FileSystem)
    (root : Option String)
    (parent : Location)
    (site : Site) :
    Prop where
  rooted : ground.Rooted
  hosts : Session.Hosts ground root parent
  start : site.files.workingDirectory = ground.workingDirectory
  lodged : ∀ tenant ∈ site.tenants, tenant.Lodged parent site.files
  distinct : site.directories.Nodup
  fresh : ∀ directory ∈ site.directories, ground.node? directory = none
  outside : ∀ location, site.IsOutside location →
    site.files.node? location = ground.node? location

theorem mem_directories_iff
    {site : Site}
    {directory : Location} :
    directory ∈ site.directories ↔
      ∃ tenant ∈ site.tenants, tenant.session.directory = some directory :=
  List.mem_filterMap

namespace Orderly

variable
    {ground : FileSystem}
    {root : Option String}
    {parent : Location}
    {site : Site}

/-- A site without tenants is orderly on its own ground. -/
theorem empty
    (rooted : ground.Rooted)
    (hosts : Session.Hosts ground root parent) :
    Orderly ground root parent { files := ground } where
  rooted := rooted
  hosts := hosts
  start := rfl
  lodged _ member := absurd member List.not_mem_nil
  distinct := List.nodup_nil
  fresh _ member := absurd member List.not_mem_nil
  outside _ _ := rfl

variable
    (orderly : site.Orderly ground root parent)

include orderly

/-- Sessions have their directories side by side, and these are there. -/
theorem child_of_mem
    {directory : Location}
    (member : directory ∈ site.directories) :
    ∃ name, directory = parent ++ [name] ∧ site.files.node? directory = some .directory := by
  rcases mem_directories_iff.1 member with ⟨tenant, inside, lives⟩
  cases orderly.lodged tenant inside with
  | gone gone =>
    rw [gone.left] at lives
    cases lives
  | furnished furnished =>
    rw [furnished.lives] at lives
    cases lives
    exact ⟨_, rfl, furnished.there⟩

/-- The ground has nothing in the directories of sessions. -/
theorem nothing_in_ground
    {directory location : Location}
    (member : directory ∈ site.directories)
    (inside : directory <+: location) :
    ground.node? location = none :=
  orderly.rooted.nothing_below (orderly.fresh directory member) inside

/-- Below a child that is missing there is no session. -/
theorem isOutside_of_missing
    {name : String}
    (free : site.files.node? (parent ++ [name]) = none)
    {location : Location}
    (inside : parent ++ [name] <+: location) :
    site.IsOutside location := by
  intro directory member within
  rcases orderly.child_of_mem member with ⟨other, rfl, there⟩
  rw [child_unique within inside, free] at there
  cases there

theorem ground_of_missing
    {name : String}
    (free : site.files.node? (parent ++ [name]) = none) :
    ground.node? (parent ++ [name]) = none := by
  rw [← orderly.outside _ (orderly.isOutside_of_missing free (List.prefix_refl _))]
  exact free

/-- Nothing stands below a child that is missing. -/
theorem clearBelow :
    Session.ClearBelow site.files parent := by
  intro name free location inside
  rw [orderly.outside location (orderly.isOutside_of_missing free inside)]
  exact orderly.rooted.nothing_below (orderly.ground_of_missing free) inside

/-- The root of the sessions is still there. -/
theorem hosts_here :
    Session.Hosts site.files root parent := by
  refine orderly.hosts.mono ?_ orderly.start
  intro location there
  rw [orderly.outside location]
  · exact there
  · intro directory member inside
    rw [orderly.nothing_in_ground member inside] at there
    cases there

/-- A file system in which the same stands everywhere does as well. -/
theorem congr
    {files : FileSystem}
    (start : files.workingDirectory = site.files.workingDirectory)
    (same : ∀ location, files.node? location = site.files.node? location) :
    Orderly ground root parent { site with files } where
  rooted := orderly.rooted
  hosts := orderly.hosts
  start := start.trans orderly.start
  lodged tenant member := (orderly.lodged tenant member).congr fun _ _ location _ => same location
  distinct := orderly.distinct
  fresh := orderly.fresh
  outside location outside := (same location).trans (orderly.outside location outside)

/-! ## Opening -/

/-- A new session with a directory of its own leaves the site orderly. -/
theorem open_session
    {tenant : Tenant}
    {files : FileSystem}
    {name : String}
    (free : site.files.node? (parent ++ [name]) = none)
    (outside : FileSystem.SameOutside (parent ++ [name]) site.files files)
    (furnished : Session.Furnished tenant.archive tenant.record tenant.host (parent ++ [name])
      files tenant.session) :
    Orderly ground root parent { files, tenants := site.tenants ++ [tenant] } := by
  have directories : directories { files, tenants := site.tenants ++ [tenant] } =
      site.directories ++ [parent ++ [name]] := by
    rw [Site.directories, List.filterMap_append, List.filterMap_cons, furnished.lives]
    rfl
  constructor
  case rooted => exact orderly.rooted
  case hosts => exact orderly.hosts
  case start => exact outside.start.trans orderly.start
  case lodged =>
    intro other member
    rcases List.mem_append.1 member with before | new
    · refine (orderly.lodged other before).congr ?_
      intro directory lives location inside
      have there := mem_directories_iff.2 ⟨other, before, lives⟩
      refine outside.nodes location ?_
      intro within
      exact orderly.isOutside_of_missing free within directory there inside
    · rw [List.mem_singleton.1 new]
      exact .furnished furnished
  case distinct =>
    rw [directories]
    refine List.nodup_append.2 ⟨orderly.distinct, List.nodup_singleton _, ?_⟩
    intro directory member other new same
    rw [List.mem_singleton.1 new] at same
    subst same
    exact orderly.isOutside_of_missing free (List.prefix_refl _) _ member (List.prefix_refl _)
  case fresh =>
    rw [directories]
    intro directory member
    rcases List.mem_append.1 member with before | new
    · exact orderly.fresh directory before
    · rw [List.mem_singleton.1 new]
      exact orderly.ground_of_missing free
  case outside =>
    intro location isOutside
    rw [IsOutside, directories] at isOutside
    rw [outside.nodes location (isOutside _ (List.mem_append_right _ List.mem_cons_self))]
    exact orderly.outside location fun directory member =>
      isOutside directory (List.mem_append_left _ member)

/-- Whether or not a session can be opened, the site stays orderly. -/
theorem move_create
    (archive : Archive)
    (record : InvocationRecord)
    (host : HostModules) :
    (site.move root (.create archive record host)).Orderly ground root parent := by
  have opening := orderly.hosts_here.opening orderly.clearBelow archive record host
  rw [Site.move]
  generalize Session.onDisk site.files archive record
    { kind := .onDisk, temporaryRoot := root, host } = outcome at opening
  cases opening with
  | failed start unchanged => exact orderly.congr start unchanged
  | opened free outside furnished => exact orderly.open_session free outside furnished

end Orderly

/-! ## Giving up -/

/-- The directories of tenants are those of one of them and those of the others. -/
theorem mem_directories_middle
    {files : FileSystem}
    {front back : List Tenant}
    {tenant : Tenant}
    {directory : Location} :
    directory ∈ directories { files, tenants := front ++ tenant :: back } ↔
      tenant.session.directory = some directory ∨
        directory ∈ directories { files, tenants := front ++ back } := by
  simp only [mem_directories_iff, List.mem_append, List.mem_cons]
  constructor
  · rintro ⟨other, inFront | rfl | inBack, lives⟩
    · exact Or.inr ⟨other, Or.inl inFront, lives⟩
    · exact Or.inl lives
    · exact Or.inr ⟨other, Or.inr inBack, lives⟩
  · rintro (lives | ⟨other, inFront | inBack, lives⟩)
    · exact ⟨tenant, Or.inr (Or.inl rfl), lives⟩
    · exact ⟨other, Or.inl inFront, lives⟩
    · exact ⟨other, Or.inr (Or.inr inBack), lives⟩

/-- Those who have left have no directories. -/
theorem directories_left
    (files : FileSystem)
    (front back : List Tenant)
    {others : List Tenant}
    (gone : ∀ other ∈ others, other.Gone) :
    directories { files, tenants := front ++ (others ++ back) } =
      directories { files, tenants := front ++ back } := by
  have nowhere : others.filterMap (fun other => other.session.directory) = [] := by
    rw [List.filterMap_eq_nil_iff]
    exact fun other member => (gone other member).left
  simp only [directories, List.filterMap_append, nowhere, List.nil_append]

namespace Orderly

section GivingUp

variable
    {ground files : FileSystem}
    {root : Option String}
    {parent : Location}
    {front back : List Tenant}
    {tenant : Tenant}
    (orderly : Orderly ground root parent { files, tenants := front ++ tenant :: back })

include orderly

/-- The directories of the others are different, and that of the tenant is none of them. -/
theorem distinct_others :
    (directories { files, tenants := front ++ back }).Nodup ∧
      ∀ directory, tenant.session.directory = some directory →
        directory ∉ directories { files, tenants := front ++ back } := by
  have distinct := orderly.distinct
  rw [directories, List.filterMap_append, List.filterMap_cons] at distinct
  rw [directories, List.filterMap_append]
  cases lives : tenant.session.directory with
  | none =>
    rw [lives] at distinct
    exact ⟨distinct, nofun⟩
  | some own =>
    rw [lives, List.nodup_middle, List.nodup_cons] at distinct
    refine ⟨distinct.2, ?_⟩
    intro directory same
    cases same
    exact distinct.1

/-- A tenant does not live in the root of the file system. -/
theorem below_root
    {directory : Location}
    (lives : tenant.session.directory = some directory) :
    directory ≠ [] := by
  rcases orderly.child_of_mem (mem_directories_middle.2 (Or.inl lives)) with ⟨name, rfl, -⟩
  exact FileSystem.below_ne_root _ _ _

/-- When a session is disposed of, nothing is touched in the directories of the others. -/
theorem dispose_elsewhere
    {directory location : Location}
    (member : directory ∈ directories { files, tenants := front ++ back })
    (inside : directory <+: location) :
    (tenant.session.dispose files).1.node? location = files.node? location := by
  refine Session.node?_dispose_outside (fun _ => orderly.below_root) ?_
  intro own lives within
  -- only one child of the root leads to the location, so the tenant would live with another
  have apart := orderly.distinct_others.2 own lives
  rcases orderly.child_of_mem (mem_directories_middle.2 (Or.inl lives)) with ⟨name, rfl, -⟩
  rcases orderly.child_of_mem (mem_directories_middle.2 (Or.inr member)) with ⟨other, rfl, -⟩
  rw [child_unique within inside] at apart
  exact apart member

/-- When a session is disposed of, the others stay where they are. -/
theorem lodged_elsewhere
    {other : Tenant}
    (member : other ∈ front ++ back) :
    other.Lodged parent (tenant.session.dispose files).1 := by
  have resident : other ∈ front ++ tenant :: back :=
    List.mem_append.2 ((List.mem_append.1 member).imp_right (List.mem_cons_of_mem _))
  refine (orderly.lodged other resident).congr ?_
  intro directory lives location
  exact orderly.dispose_elsewhere (mem_directories_iff.2 ⟨other, member, lives⟩)

/-- When a session is disposed of, all that is outside the other directories is the ground. -/
theorem ground_of_dispose
    {location : Location}
    (isOutside : IsOutside { files, tenants := front ++ back } location) :
    (tenant.session.dispose files).1.node? location = ground.node? location := by
  by_cases inside : ∃ directory, tenant.session.directory = some directory ∧ directory <+: location
  · rcases inside with ⟨directory, lives, inside⟩
    rw [Session.node?_dispose_inside lives (orderly.below_root lives) inside]
    exact (orderly.nothing_in_ground (mem_directories_middle.2 (Or.inl lives)) inside).symm
  · have elsewhere : ∀ directory, tenant.session.directory = some directory →
        ¬ directory <+: location :=
      fun directory lives within => inside ⟨directory, lives, within⟩
    rw [Session.node?_dispose_outside (fun _ => orderly.below_root) elsewhere]
    refine orderly.outside location ?_
    intro directory member
    rcases mem_directories_middle.1 member with lives | other
    · exact elsewhere directory lives
    · exact isOutside directory other

/-- A session that is given up takes its directory with it, and leaves the site orderly. -/
theorem give_up
    (others : List Tenant)
    (gone : ∀ other ∈ others, other.Gone) :
    Orderly ground root parent
      { files := (tenant.session.dispose files).1, tenants := front ++ (others ++ back) } := by
  have remaining := directories_left (tenant.session.dispose files).1 front back gone
  constructor
  case rooted => exact orderly.rooted
  case hosts => exact orderly.hosts
  case start => exact (Session.workingDirectory_dispose tenant.session files).trans orderly.start
  case lodged =>
    intro other member
    rcases List.mem_append.1 member with inFront | member
    · exact orderly.lodged_elsewhere (List.mem_append_left _ inFront)
    · rcases List.mem_append.1 member with left | inBack
      · exact .gone (gone other left)
      · exact orderly.lodged_elsewhere (List.mem_append_right _ inBack)
  case distinct =>
    rw [remaining]
    exact orderly.distinct_others.1
  case fresh =>
    rw [remaining]
    intro directory member
    exact orderly.fresh directory (mem_directories_middle.2 (Or.inr member))
  case outside =>
    intro location isOutside
    rw [IsOutside, remaining] at isOutside
    exact orderly.ground_of_dispose isOutside

end GivingUp

end Orderly

theorem gone_of_dispose
    (tenant : Tenant)
    (files : FileSystem) :
    Tenant.Gone { tenant with session := (tenant.session.dispose files).2 } :=
  ⟨rfl, rfl⟩

/-- Whatever is given up, the site stays orderly. -/
theorem Orderly.move_give_up
    {ground : FileSystem}
    {root : Option String}
    {parent : Location}
    {site : Site}
    (orderly : site.Orderly ground root parent)
    (index : Nat) :
    (site.move root (.dispose index)).Orderly ground root parent ∧
      (site.move root (.drop index)).Orderly ground root parent := by
  rw [Site.move, Site.move]
  cases there : site.tenants[index]? with
  | none => exact ⟨orderly, orderly⟩
  | some tenant =>
    rcases List.getElem?_eq_some_iff.1 there with ⟨inside, here⟩
    have split : site.tenants = site.tenants.take index ++ tenant :: site.tenants.drop (index + 1) := by
      rw [← here, List.getElem_cons_drop, List.take_append_drop]
    have divided : Orderly ground root parent {
        files := site.files
        tenants := site.tenants.take index ++ tenant :: site.tenants.drop (index + 1) } := by
      rw [← split]
      exact orderly
    constructor
    · simp only
      rw [List.set_eq_take_append_cons_drop, if_pos inside]
      refine divided.give_up [_] ?_
      intro other member
      rw [List.mem_singleton.1 member]
      exact gone_of_dispose tenant site.files
    · simp only
      rw [List.eraseIdx_eq_take_drop_succ]
      exact divided.give_up [] fun _ member => absurd member List.not_mem_nil

/-- Every move leaves an orderly site orderly. -/
theorem Orderly.move
    {ground : FileSystem}
    {root : Option String}
    {parent : Location}
    {site : Site}
    (orderly : site.Orderly ground root parent)
    (move : Move) :
    (site.move root move).Orderly ground root parent := by
  cases move with
  | create archive record host => exact orderly.move_create archive record host
  | enumerate index kind language => exact orderly
  | dispose index => exact (orderly.move_give_up index).1
  | drop index => exact (orderly.move_give_up index).2

/-! ## Runs -/

/-- A site at which nothing has happened, or which is orderly on the ground with the root. -/
inductive Settled (initial : FileSystem) (root : Option String) (parent : Location) : Site → Prop
  | untouched : Settled initial root parent { files := initial }
  | orderly {site : Site}
      (orderly : site.Orderly (Session.withRoot initial root) root parent) :
      Settled initial root parent site

section Runs

variable
    {initial : FileSystem}
    {root : Option String}

/-- Opening the first session starts with making the root, unless there is no plan. -/
theorem create_at_untouched
    (accommodates : Session.Accommodates initial root)
    (archive : Archive)
    (record : InvocationRecord)
    (host : HostModules) :
    move root { files := initial } (.create archive record host) = { files := initial } ∨
      move root { files := initial } (.create archive record host) =
        move root { files := Session.withRoot initial root } (.create archive record host) := by
  rcases Session.hosts_withRoot accommodates with ⟨parent, -, same⟩
  rw [move, move]
  cases planned : archive.plan record host with
  | error failure =>
    left
    simp only [Session.onDisk, planned]
  | ok plan =>
    right
    simp only [Session.onDisk, planned, same]

/-- Every move leaves a settled site settled. -/
theorem Settled.move
    (rooted : initial.Rooted)
    (accommodates : Session.Accommodates initial root)
    {parent : Location}
    (hosts : Session.Hosts (Session.withRoot initial root) root parent)
    {site : Site}
    (settled : Settled initial root parent site)
    (move : Move) :
    Settled initial root parent (site.move root move) := by
  cases settled with
  | orderly orderly => exact .orderly (orderly.move move)
  | untouched =>
    cases move with
    | create archive record host =>
      rcases create_at_untouched accommodates archive record host with unchanged | later
      · rw [unchanged]
        exact .untouched
      · rw [later]
        exact .orderly ((Orderly.empty (Session.rooted_withRoot rooted) hosts).move _)
    | enumerate index kind language => exact .untouched
    | dispose index => exact .untouched
    | drop index => exact .untouched

/-- Whatever happens at a site, it stays settled. -/
theorem settled_run
    (rooted : initial.Rooted)
    (accommodates : Session.Accommodates initial root)
    {parent : Location}
    (hosts : Session.Hosts (Session.withRoot initial root) root parent)
    {site : Site}
    (settled : Settled initial root parent site)
    (moves : List Move) :
    Settled initial root parent (site.run root moves) := by
  induction moves generalizing site with
  | nil => exact settled
  | cons move rest ih =>
    rw [run, List.foldl_cons]
    exact ih (settled.move rooted accommodates hosts move)

end Runs

end Site

end BuildCapture
