import BuildCapture.Proofs.Archive.Fidelity
import BuildCapture.Proofs.Extension.Plan
import BuildCapture.Proofs.Extension.Session
import Mathlib.Data.List.Forall2

/-!
# Sessions in memory and on disk

Both kinds of isolated sessions follow one plan.  A session in memory reads the
images of its modules whole; a session on disk streams them into files below a
directory of its own.  In a sealed archive every image can be had in both ways,
and both give the same, so the sessions offer the same extensions of the same
modules, in the order in which the record names them.
-/

namespace BuildCapture

open Container

/-! ## Modules of sealed archives -/

namespace Archive

/-- The image of every indexed module is read and streamed. -/
def ServesModules (archive : Archive) : Prop :=
  ∀ info ∈ archive.modules, ∃ image,
    archive.module info.id = .ok image ∧ archive.openModule info.id = .ok (.ofOctets image)

end Archive

/-- An archive that a faithful recorder has completed serves its modules. -/
theorem Recording.Faithful.servesModules
    [Zstd.Encoder]
    {path : String}
    {recording after : Recording}
    {journal : Journal}
    (faithful : recording.Faithful path journal)
    {summary : SealedArchive}
    (finishing : recording.finish = (after, .ok summary))
    {reading : ReaderConfig}
    {archive : Archive}
    (opening : Archive.openFile after.files path reading = .ok archive) :
    archive.ServesModules := by
  rcases Recording.finish_ok finishing with ⟨bench, filled, done, records, adding, closing, rfl, -⟩
  rcases faithful.keeps_of_bench records with ⟨writer, accepted, keeps, rfl⟩
  rcases Recording.settled_addDocuments keeps.settled adding with ⟨settled, continues⟩
  rcases keeps.opens adding closing reading.verifyChecksums with ⟨few, container, opened, -⟩
  rcases Archive.openFile_eq_ok_iff.1 opening with ⟨other, openedToo, holding⟩
  cases Except.ok.inj (opened.symm.trans openedToo)
  rcases Archive.contains_of_ofContainer holding with ⟨rfl, stored⟩
  rw [← keeps.path, ← continues.path] at opened
  intro info member
  exact settled.whole_of_opens (keeps.short few) closing opened (stored info member)

/-! ## Modules that are loaded twice -/

/-- A module in memory is seen on disk: the host has it, or its image is in both places. -/
inductive Alike (archive : Archive) : ModuleInfo × ModuleLocation → ModuleInfo × SeenLocation → Prop
  | host (info : ModuleInfo) (version : ModuleVersion) :
      Alike archive (info, .host version) (info, .host version)
  | image {info : ModuleInfo} {image : Octets} {below : List String}
      (stored : archive.module info.id = .ok image) :
      Alike archive (info, .memory image) (info, .file below (some image))

namespace Session

/-- A planned module that is not left to the host can be loaded in both ways. -/
def Loadable (archive : Archive) (planned : PlannedModule) : Prop :=
  planned.host = none →
    (∃ image, archive.module planned.info.id = .ok image ∧
      archive.openModule planned.info.id = .ok (.ofOctets image)) ∧
    (fileName planned.info).utf8ByteSize ≤ FileSystem.maximalName

/-- A plan whose modules can all be loaded gives the same modules in memory and on disk. -/
theorem loads_alike
    {archive : Archive}
    {plan : List PlannedModule}
    (loadable : ∀ planned ∈ plan, Loadable archive planned) :
    ∃ loaded seen,
      loadMemory archive plan = .ok loaded ∧ seenModules archive plan = .ok seen ∧
        List.Forall₂ (Alike archive) loaded seen ∧
        loaded.map Prod.fst = plan.map PlannedModule.info := by
  induction plan with
  | nil => exact ⟨[], [], rfl, rfl, .nil, rfl⟩
  | cons planned rest ih =>
    rw [List.forall_mem_cons] at loadable
    rcases loadable with ⟨first, others⟩
    rcases ih others with ⟨loaded, seen, inMemory, onDisk, alike, infos⟩
    rw [loadMemory, seenModules, seenModule]
    cases delegated : planned.host with
    | some version =>
      simp only [inMemory, onDisk]
      exact ⟨_, _, rfl, rfl, .cons (.host _ _) alike, congrArg (planned.info :: ·) infos⟩
    | none =>
      rcases first delegated with ⟨⟨image, stored, streamed⟩, short⟩
      have imaged : imageFor archive planned.info = .ok image := by
        rw [imageFor, streamed]
        simp only [if_neg (Nat.not_lt.2 short)]
        rfl
      simp only [stored, imaged, Except.map, inMemory, onDisk]
      exact ⟨_, _, rfl, rfl, .cons (.image stored) alike, congrArg (planned.info :: ·) infos⟩

end Session

/-! ## Extensions that are offered twice -/

/--
Two handles are for one extension: type name, kind, module and name are the
same, and both are left to one version of the host, or the file that one points
at has the image that the other has in memory.
-/
inductive SameExtension (archive : Archive) (files : FileSystem) :
    ExtensionHandle → ExtensionHandle → Prop
  | host {typeName : String} {kind : ExtensionKind} {id : ModuleId} {name : String}
      {version : ModuleVersion} :
      SameExtension archive files
        ⟨typeName, kind, .module id name (.host version)⟩
        ⟨typeName, kind, .module id name (.host version)⟩
  | image {typeName : String} {kind : ExtensionKind} {id : ModuleId} {name : String}
      {image : Octets} {directory : Location} {below : List String}
      (stored : archive.module id = .ok image)
      (written : files.contentAt? (directory ++ below) = some image) :
      SameExtension archive files
        ⟨typeName, kind, .module id name (.memory image)⟩
        ⟨typeName, kind, .module id name (.file directory below)⟩

/-- Handles of one module are for the same extensions, one by one. -/
theorem sameExtension_of_alike
    {archive : Archive}
    {files : FileSystem}
    {left right : ModuleInfo × ModuleLocation}
    (alike : Alike archive left (right.1, right.2.seen files))
    (kind : ExtensionKind)
    (language : Language) :
    List.Forall₂ (SameExtension archive files)
      (left.1.handles left.2 kind language) (right.1.handles right.2 kind language) := by
  rcases left with ⟨info, memory⟩
  rcases right with ⟨other, file⟩
  have same : other = info ∧
      ∀ type : ExportedType, SameExtension archive files
        ⟨type.typeName, kind, .module info.id info.name memory⟩
        ⟨type.typeName, kind, .module info.id info.name file⟩ := by
    generalize seen : file.seen files = view at alike
    cases alike with
    | host =>
      cases file with
      | host version =>
        cases seen
        exact ⟨rfl, fun _ => .host⟩
      | memory image => cases seen
      | file directory below => cases seen
    | image stored =>
      cases file with
      | host version => cases seen
      | memory image => cases seen
      | file directory below =>
        rw [ModuleLocation.seen, SeenLocation.file.injEq] at seen
        exact ⟨rfl, fun _ => .image stored seen.2⟩
  rcases same with ⟨rfl, each⟩
  rw [ModuleInfo.handles, ModuleInfo.handles, List.forall₂_map_left_iff,
    List.forall₂_map_right_iff, List.forall₂_same]
  exact fun type _ => each type

/-- The type name of an extension, with the module that exports it. -/
def ExtensionHandle.label? : ExtensionHandle → Option (String × ModuleId × String)
  | ⟨typeName, _, .module id name _⟩ => some (typeName, id, name)
  | ⟨_, _, .synthetic _⟩ => none

/-- The extensions that several modules export, in the order of the modules. -/
def extensionsOf
    (infos : List ModuleInfo)
    (kind : ExtensionKind)
    (language : Language) :
    List (String × ModuleId × String) :=
  infos.flatMap fun info =>
    (info.extensions kind language).map fun type => (type.typeName, info.id, info.name)

theorem label?_handles
    (loaded : List (ModuleInfo × ModuleLocation))
    (kind : ExtensionKind)
    (language : Language) :
    ((SessionContent.modules loaded).handles kind language).map ExtensionHandle.label? =
      (extensionsOf (loaded.map Prod.fst) kind language).map some := by
  rw [SessionContent.handles, extensionsOf, List.flatMap_map, List.map_flatMap, List.map_flatMap]
  congr 1
  funext entry
  show (entry.1.handles entry.2 kind language).map ExtensionHandle.label? = _
  rw [ModuleInfo.handles, List.map_map, List.map_map]
  rfl

/--
Two sessions for a record offer the same extensions, one by one and in the
order in which the record names their modules first.
-/
structure SameOffer
    (archive : Archive)
    (record : InvocationRecord)
    (files : FileSystem)
    (memory disk : Session) : Prop where
  same : ∀ kind language,
    List.Forall₂ (SameExtension archive files)
      (memory.handles kind language) (disk.handles kind language)
  inOrder : ∃ infos : List ModuleInfo,
    infos.map ModuleInfo.id = (record.analyzers.map AnalyzerEntry.module).eraseDups ∧
      (∀ info ∈ infos, archive.moduleInfo info.id = .ok info) ∧
      ∀ kind language,
        (memory.handles kind language).map ExtensionHandle.label? =
          (extensionsOf infos kind language).map some

namespace Session

/-- The directory of a session can be made, and files can have the names of its modules. -/
structure HasRoom
    (archive : Archive)
    (record : InvocationRecord)
    (config : LoaderConfig)
    (files : FileSystem) : Prop where
  directory : ∃ after location,
    createDirectory files config.temporaryRoot = (after, .ok location)
  names : ∀ info, archive.Names record info → config.host.get? info.name = none →
    (fileName info).utf8ByteSize ≤ FileSystem.maximalName

/-- Two sessions for a record fail alike, or offer the same. -/
def LoadAlike
    (archive : Archive)
    (record : InvocationRecord)
    (memory : Except Failure Session)
    (disk : FileSystem × Except Failure Session) :
    Prop :=
  (∃ failure files, memory = .error failure ∧ disk = (files, .error failure)) ∨
    ∃ left right files, memory = .ok left ∧ disk = (files, .ok right) ∧
      SameOffer archive record files left right

/-- What is planned for a record can be loaded where there is room. -/
theorem HasRoom.loadable
    {archive : Archive}
    {record : InvocationRecord}
    {config : LoaderConfig}
    {files : FileSystem}
    (room : HasRoom archive record config files)
    (serves : archive.ServesModules)
    {plan : List PlannedModule}
    (closed : archive.Closed record config.host plan) :
    ∀ planned ∈ plan, Loadable archive planned := by
  intro planned member own
  have described := closed.described planned member
  have named : planned.info.id ∈ record.analyzers.map AnalyzerEntry.module := by
    rw [← List.mem_eraseDups, ← closed.ids]
    exact List.mem_map_of_mem member
  rcases List.mem_map.1 named with ⟨entry, inside, same⟩
  refine ⟨serves planned.info (Archive.mem_modules_of_moduleInfo described), ?_⟩
  apply room.names planned.info ⟨entry, inside, same ▸ described⟩
  rw [← closed.delegated planned member, own]

/-- In an archive that serves its modules, sessions in memory and on disk agree. -/
theorem HasRoom.agree
    {archive : Archive}
    {record : InvocationRecord}
    {config : LoaderConfig}
    {files : FileSystem}
    (room : HasRoom archive record config files)
    (serves : archive.ServesModules) :
    LoadAlike archive record (inMemory archive record config.host)
      (onDisk files archive record config) := by
  cases planning : archive.plan record config.host with
  | error failure =>
    rw [inMemory, onDisk, planning]
    exact Or.inl ⟨failure, files, rfl, rfl⟩
  | ok plan =>
    have closed := Archive.closed_of_plan planning
    rcases loads_alike (room.loadable serves closed) with
      ⟨loaded, seen, inMemory, onDisk, alike, infos⟩
    rcases room.directory with ⟨between, directory, created⟩
    cases loading : loadFiles archive directory between plan with
    | error failure =>
      rw [loadFiles_eq_error loading] at onDisk
      cases onDisk
    | ok result =>
      rcases result with ⟨after, placed⟩
      have shown := (loadFiles_eq_ok loading).2
      rw [onDisk, Except.ok.injEq] at shown
      subst shown
      rw [List.forall₂_map_right_iff] at alike
      simp only [Session.inMemory, Session.onDisk, planning, inMemory, created, loading]
      refine Or.inr ⟨_, _, after, rfl, rfl, ?_⟩
      constructor
      case same =>
        intro kind language
        exact List.rel_flatMap alike fun _ _ same => sameExtension_of_alike same kind language
      case inOrder =>
        refine ⟨loaded.map Prod.fst, ?_, ?_, ?_⟩
        · rw [infos, List.map_map]
          exact closed.ids
        · rw [infos]
          intro info member
          rcases List.mem_map.1 member with ⟨planned, inside, rfl⟩
          exact closed.described planned inside
        · exact label?_handles loaded

end Session

open Session in
/--
In every sealed archive and for every record, host and place, a session in
memory and one on disk agree wherever the latter gets its directory and its
file names: both fail with the same failure, or both offer the same extensions,
one by one and in the order of the record, with the same images.
-/
theorem isolating_sessions_agree
    [Zstd.Encoder]
    {path : String}
    {config : WriterConfig}
    {recording after : Recording}
    {journal : Journal}
    (reached : Reaches path config (.idle recording journal))
    {summary : SealedArchive}
    (finishing : recording.finish = (after, .ok summary))
    (reading : ReaderConfig) :
    ∃ archive, Archive.openFile after.files path reading = .ok archive ∧
      ∀ (record : InvocationRecord) (loading : LoaderConfig) (files : FileSystem),
        HasRoom archive record loading files →
          LoadAlike archive record (inMemory archive record loading.host)
            (onDisk files archive record loading) := by
  rcases reached.holds with ⟨faithful, sound⟩
  rcases faithful.reproduces sound finishing reading with ⟨archive, opening, -⟩
  refine ⟨archive, opening, ?_⟩
  intro record loading files room
  exact room.agree (faithful.servesModules finishing opening)

/-! ## An archive with one analyzer -/

namespace OneAnalyzer

open RewrittenFile (settings heading begunOver)

/-- The identity of the analyzer. -/
def moduleId : ModuleId := .repeating 1

/-- The image of the analyzer. -/
def image : ModuleImage where
  id := moduleId
  version := ⟨1, 0, 0, 0⟩
  metadata := { name := "s", exports := [⟨"T", [⟨.analyzer, ["C#"]⟩]⟩] }

/-- A file system with the image. -/
def files : FileSystem where
  workingDirectory := []
  nodes := [(["a"], .file 1 1 image.octets)]
  clock := 2

theorem sane_files : files.Sane := by
  apply FileSystem.sane_of_nodes
  case started => decide
  case nodes => simp [files, FileSystem.isSaneBeside]

/-- The run: the analyzer is added, and the invocation is committed. -/
def ended : Recording × Journal :=
  ((begunOver files).call (.analyzer "a")).commit

/-- A record that names the analyzer twice. -/
def record : InvocationRecord :=
  { heading.record with analyzers := [⟨moduleId, "a"⟩, ⟨moduleId, "b"⟩] }

set_option maxRecDepth 100000 in
/-- What the run keeps: one record, which names the analyzer, and the image of the analyzer. -/
theorem kept_by_run :
    (ended.2.committed.map fun committed => committed.record.moduleIds) = [[moduleId]] ∧
      ended.2.images = [(moduleId, image.octets)] ∧ ended.1.finish.2.isOk = true := by
  decide +kernel

/-- The description of the analyzer. -/
def described : ModuleInfo where
  id := moduleId
  name := "s"
  version := ⟨1, 0, 0, 0⟩
  exports := [⟨"T", [⟨.analyzer, ["C#"]⟩]⟩]

set_option maxRecDepth 100000 in
theorem described_image : (ModuleInfo.ofOctets image.octets).toOption = some described := by
  decide +kernel

set_option maxRecDepth 100000 in
/-- Both sessions for the record offer the analyzer, once. -/
theorem analyzer_is_offered_by_both :
    ∃ archive, Archive.openFile ended.1.finish.1.files "out" {} = .ok archive ∧
      ∃ memory disk later,
        Session.inMemory archive record {} = .ok memory ∧
          Session.onDisk ended.1.finish.1.files archive record {} = (later, .ok disk) ∧
          (memory.handles .analyzer .csharp).length = 1 ∧
          SameOffer archive record later memory disk := by
  have created : (Recorder.create files "out" settings).2.isOk = true := by
    decide +kernel
  have reached : Reaches "out" settings (.idle ended.1 ended.2) :=
    ((Reaches.start sane_files created heading).call _).commit
  rcases kept_by_run with ⟨ids, images, completes⟩
  rcases Recording.finish_of_isOk completes with ⟨summary, finishing⟩
  rcases isolating_sessions_agree reached finishing {} with ⟨archive, opening, agree⟩
  have served : archive.module moduleId = .ok image.octets ∧
      archive.moduleInfo moduleId = .ok described := by
    rcases reached.holds with ⟨faithful, sound⟩
    rcases faithful.reproduces sound finishing {} with ⟨same, openingToo, reproduces, -⟩
    cases Except.ok.inj (opening.symm.trans openingToo)
    rcases List.map_eq_singleton_iff.1 ids with ⟨committed, journal, pointed⟩
    have member : committed ∈ ended.2.committed := by
      rw [journal]
      exact List.mem_cons_self
    have named : moduleId ∈ committed.record.moduleIds := by
      rw [pointed]
      exact List.mem_cons_self
    rcases reproduces.images committed member moduleId named with
      ⟨data, info, found, stored, identified, indexed⟩
    have first : List.lookup moduleId ended.2.images = some image.octets := by
      rw [images, List.lookup_cons, beq_self_eq_true]
    cases Option.some.inj (found.symm.trans first)
    have same := described_image
    rw [identified] at same
    cases Option.some.inj same
    exact ⟨stored, indexed⟩
  rcases served with ⟨stored, indexed⟩
  have room : Session.HasRoom archive record {} ended.1.finish.1.files := by
    constructor
    case directory => exact ⟨_, _, rfl⟩
    case names =>
      rintro info ⟨entry, inside, found⟩ -
      have same : entry.module = moduleId := by
        revert entry
        simp [record]
      rw [same, indexed] at found
      cases found
      decide
  have planned : archive.plan record {} = .ok [⟨described, none⟩] := by
    have added : archive.addAnalyzers [] record.analyzers = .ok [described] := by
      simp [record, Archive.addAnalyzers, indexed]
    rw [Archive.plan, added]
    rfl
  have inMemory : Session.inMemory archive record {} =
      .ok { kind := .inMemory, content := some (.modules [(described, .memory image.octets)]) } := by
    have loaded : Session.loadMemory archive [⟨described, none⟩] =
        .ok [(described, .memory image.octets)] := by
      have here : archive.module described.id = .ok image.octets := stored
      rw [Session.loadMemory, here]
      rfl
    rw [Session.inMemory, planned]
    simp only [loaded]
  refine ⟨archive, opening, ?_⟩
  rcases agree record {} ended.1.finish.1.files room with ⟨failure, later, failed, -⟩ | agreed
  · cases inMemory.symm.trans failed
  · rcases agreed with ⟨memory, disk, later, inMemoryToo, onDisk, same⟩
    cases inMemory.symm.trans inMemoryToo
    exact ⟨_, disk, later, inMemory, onDisk, rfl, same⟩

end OneAnalyzer

end BuildCapture
