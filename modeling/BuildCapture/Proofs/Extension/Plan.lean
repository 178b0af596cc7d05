import BuildCapture.Extension.Plan
import BuildCapture.Proofs.Extension.Resolution
import Mathlib.Logic.Basic

/-!
# Plans are closed

A plan lists the modules that a record names, each once and in the order in
which they are named first.  All of them are offered before any of them is
resolved, so what a module depends on may stand behind it.  A plan is therefore
closed: whatever a module of the session needs is there, at the host or in the
session itself, and never in an older version than was asked for.

Whether there is a plan depends on the set of modules alone.  It fails exactly
where the host has something only in an older version, or where neither the
host nor the session has it.
-/

namespace BuildCapture

/-! ## What a session needs -/

namespace HostModules

/-- The host has a module, but only in an older version than is asked for. -/
def FallsShort (host : HostModules) (name : String) (version : ModuleVersion) : Prop :=
  ∃ available, host.get? name = some available ∧ available.covers version = false

/-- The host falls short of a request, or neither it nor any of some modules meets it. -/
def Lacks (host : HostModules) (among : ModuleInfo → Prop) (reference : ModuleRef) : Prop :=
  host.FallsShort reference.name reference.version ∨
    host.get? reference.name = none ∧
      ∀ info, among info → info.name = reference.name →
        info.version.covers reference.version = false

variable
  {host : HostModules}
  {among : ModuleInfo → Prop}
  {reference : ModuleRef}

theorem lacks_iff_of_provided
    {available : ModuleVersion}
    (provided : host.get? reference.name = some available) :
    host.Lacks among reference ↔ available.covers reference.version = false := by
  simp [Lacks, FallsShort, provided]

theorem lacks_iff_of_absent
    (absent : host.get? reference.name = none) :
    host.Lacks among reference ↔
      ∀ info, among info → info.name = reference.name →
        info.version.covers reference.version = false := by
  simp [Lacks, FallsShort, absent]

end HostModules

namespace LoadContext

variable
  {host : HostModules}
  {infos : List ModuleInfo}
  {reference : ModuleRef}

/-- Where the host has none of a name, a session offers what its modules offer. -/
theorem offered?_ofSession_isSome_iff
    (unique : ∀ left ∈ infos, ∀ right ∈ infos, left.id = right.id → left = right) :
    (∃ offered,
        (ofSession host infos).offered? reference.name reference.version = some offered) ↔
      ∃ info ∈ infos, info.name = reference.name ∧
        info.version.covers reference.version = true := by
  rw [offered?_isSome_iff]
  constructor
  · rintro ⟨offered, member, name, covers⟩
    rcases (mem_offers_ofSession unique).1 member with ⟨info, inside, rfl⟩
    exact ⟨info, inside, name, covers⟩
  · rintro ⟨info, inside, name, covers⟩
    exact ⟨info.offer, (mem_offers_ofSession unique).2 ⟨info, inside, rfl⟩, name, covers⟩

/-- A request is met by the host or the modules of a session unless both lack it. -/
theorem resolve_ofSession_isOk_iff
    (unique : ∀ left ∈ infos, ∀ right ∈ infos, left.id = right.id → left = right) :
    (∃ resolution,
        (ofSession host infos).resolve reference.name reference.version = .ok resolution) ↔
      ¬ host.Lacks (· ∈ infos) reference := by
  have sameHost := get?_ofSession host infos reference.name
  cases provided : host.get? reference.name with
  | some available =>
    rw [HostModules.lacks_iff_of_provided provided, resolve_of_host (sameHost.trans provided)]
    cases available.covers reference.version <;> simp
  | none =>
    have absent := sameHost.trans provided
    have offers := @offered?_ofSession_isSome_iff host infos reference unique
    rw [HostModules.lacks_iff_of_absent provided]
    cases found : (ofSession host infos).offered? reference.name reference.version with
    | some offered =>
      rcases offers.1 ⟨offered, found⟩ with ⟨info, member, name, covers⟩
      rw [resolve_of_session absent found]
      refine ⟨fun _ none => ?_, fun _ => ⟨_, rfl⟩⟩
      rw [none info member name] at covers
      cases covers
    | none =>
      rw [resolve_of_nothing absent found]
      refine ⟨nofun, fun some => absurd ?_ some⟩
      intro info member name
      rw [← Bool.not_eq_true]
      intro covers
      rcases offers.2 ⟨info, member, name, covers⟩ with ⟨offered, there⟩
      rw [found] at there
      cases there

end LoadContext

namespace Archive

/-! ## Modules of a record -/

variable {archive : Archive}

/-- A description is found under its own identity. -/
theorem id_of_moduleInfo
    {id : ModuleId}
    {info : ModuleInfo}
    (found : archive.moduleInfo id = .ok info) :
    info.id = id := by
  rw [moduleInfo] at found
  split at found
  · cases found
  · next other there =>
    cases found
    have same := List.find?_some there
    exact beq_iff_eq.1 same

/--
The modules that entries name are added behind those that are known: each once,
in the order in which they are named first.
-/
theorem addAnalyzers_eq_ok
    {known infos : List ModuleInfo}
    {entries : List AnalyzerEntry}
    (adding : archive.addAnalyzers known entries = .ok infos) :
    ∃ fresh, infos = known ++ fresh ∧
      fresh.map ModuleInfo.id =
        ((entries.map AnalyzerEntry.module).filter
          fun id => !(known.map ModuleInfo.id).contains id).eraseDups ∧
      ∀ info ∈ fresh, archive.moduleInfo info.id = .ok info := by
  induction entries generalizing known with
  | nil =>
    cases adding
    exact ⟨[], (List.append_nil _).symm, rfl, nofun⟩
  | cons entry rest ih =>
    rw [addAnalyzers] at adding
    split at adding
    · cases adding
    next info found =>
    have identified := id_of_moduleInfo found
    have same : (known.any fun other => other.id == info.id) =
        (known.map ModuleInfo.id).contains entry.module := by
      rw [identified, Bool.eq_iff_iff]
      simp
    rcases ih adding with ⟨fresh, rfl, ids, described⟩
    rw [List.map_cons, List.filter_cons]
    cases there : (known.map ModuleInfo.id).contains entry.module with
    | true =>
      rw [same, there, if_pos rfl] at ids ⊢
      exact ⟨fresh, rfl, ids, described⟩
    | false =>
      rw [same, there, if_neg Bool.false_ne_true] at ids ⊢
      refine ⟨info :: fresh, List.append_assoc _ _ _, ?_, ?_⟩
      · have outside : (fun id => !((known ++ [info]).map ModuleInfo.id).contains id) =
            fun id => !(id == entry.module) && !(known.map ModuleInfo.id).contains id := by
          funext id
          have last : [entry.module].contains id = (id == entry.module) := by
            rw [List.contains_cons, List.contains_nil, Bool.or_false]
          rw [List.map_append, List.map_singleton, identified, List.contains_append, last,
            Bool.not_or, Bool.and_comm]
        rw [List.map_cons, ids, identified, outside, Bool.not_false, if_pos rfl,
          List.eraseDups_cons, List.filter_filter]
      · rw [List.forall_mem_cons, identified]
        exact ⟨found, described⟩

/-- The modules of entries are added exactly if all of them are described. -/
theorem addAnalyzers_isOk_iff
    {entries : List AnalyzerEntry}
    (known : List ModuleInfo) :
    (∃ infos, archive.addAnalyzers known entries = .ok infos) ↔
      ∀ entry ∈ entries, ∃ info, archive.moduleInfo entry.module = .ok info := by
  induction entries generalizing known with
  | nil => exact ⟨fun _ => nofun, fun _ => ⟨known, rfl⟩⟩
  | cons entry rest ih =>
    rw [List.forall_mem_cons, addAnalyzers]
    cases archive.moduleInfo entry.module with
    | error failure => simp
    | ok info =>
      simp only [Except.ok.injEq, exists_eq', true_and]
      exact ih _

/-- A record names a module that the archive describes. -/
def Names (archive : Archive) (record : InvocationRecord) (info : ModuleInfo) : Prop :=
  ∃ entry ∈ record.analyzers, archive.moduleInfo entry.module = .ok info

/-- The modules of a record, each once: those that it names, in the order of their first naming. -/
theorem addAnalyzers_of_record
    {record : InvocationRecord}
    {infos : List ModuleInfo}
    (adding : archive.addAnalyzers [] record.analyzers = .ok infos) :
    infos.map ModuleInfo.id = (record.analyzers.map AnalyzerEntry.module).eraseDups ∧
      (∀ info, info ∈ infos ↔ archive.Names record info) ∧
      ∀ left ∈ infos, ∀ right ∈ infos, left.id = right.id → left = right := by
  rcases addAnalyzers_eq_ok adding with ⟨fresh, same, ids, described⟩
  rw [List.nil_append] at same
  subst same
  have everything : (record.analyzers.map AnalyzerEntry.module).filter
      (fun id => !(([] : List ModuleInfo).map ModuleInfo.id).contains id) =
        record.analyzers.map AnalyzerEntry.module :=
    List.filter_eq_self.2 fun _ _ => rfl
  rw [everything] at ids
  have unique : ∀ left ∈ infos, ∀ right ∈ infos, left.id = right.id → left = right := by
    intro left memberLeft right memberRight same
    have found := described right memberRight
    rw [← same, described left memberLeft] at found
    exact Except.ok.inj found
  refine ⟨ids, ?_, unique⟩
  intro info
  constructor
  · intro member
    have named : info.id ∈ record.analyzers.map AnalyzerEntry.module := by
      rw [← List.mem_eraseDups, ← ids]
      exact List.mem_map_of_mem member
    rcases List.mem_map.1 named with ⟨entry, inside, same⟩
    exact ⟨entry, inside, same ▸ described info member⟩
  · rintro ⟨entry, inside, found⟩
    have named : entry.module ∈ infos.map ModuleInfo.id := by
      rw [ids, List.mem_eraseDups]
      exact List.mem_map_of_mem inside
    rcases List.mem_map.1 named with ⟨other, member, same⟩
    have foundToo := described other member
    rw [same, found] at foundToo
    rw [Except.ok.inj foundToo]
    exact member

/-! ## Plans -/

/-- A module of a session is provided by the host, or everything that it depends on is. -/
def Admits (context : LoadContext) (info : ModuleInfo) : Prop :=
  (∃ available, context.host.get? info.name = some available ∧
    available.covers info.version = true) ∨
  context.host.get? info.name = none ∧
    ∀ reference ∈ info.dependencies, ∃ resolution,
      context.resolve reference.name reference.version = .ok resolution

/-- A module as it is planned: left to the host where the host has it. -/
def plannedFor
    (host : HostModules)
    (info : ModuleInfo) :
    PlannedModule where
  info := info
  host := host.get? info.name

theorem planModule_eq_ok_iff
    {context : LoadContext}
    {info : ModuleInfo}
    {planned : PlannedModule} :
    planModule context info = .ok planned ↔
      Admits context info ∧ planned = plannedFor context.host info := by
  rw [planModule, Admits, plannedFor, ← LoadContext.resolveAll_isOk_iff,
    LoadContext.resolveDependencies]
  cases context.host.get? info.name with
  | some available =>
    cases covers : available.covers info.version <;> simp [covers, @eq_comm _ planned]
  | none => cases context.resolveAll info.dependencies <;> simp [@eq_comm _ planned]

/-- Modules are planned one by one, and each has to be admitted. -/
theorem planModules_eq_ok_iff
    {context : LoadContext}
    {infos : List ModuleInfo}
    {plan : List PlannedModule} :
    planModules context infos = .ok plan ↔
      (∀ info ∈ infos, Admits context info) ∧ plan = infos.map (plannedFor context.host) := by
  induction infos generalizing plan with
  | nil => simp [planModules, eq_comm]
  | cons info rest ih =>
    rw [planModules, List.forall_mem_cons, List.map_cons]
    constructor
    · intro planning
      split at planning
      · cases planning
      next first planned =>
      split at planning
      · cases planning
      next others later =>
      cases planning
      rcases planModule_eq_ok_iff.1 planned with ⟨admits, rfl⟩
      rcases ih.1 later with ⟨admitsRest, rfl⟩
      exact ⟨⟨admits, admitsRest⟩, rfl⟩
    · rintro ⟨⟨admits, admitsRest⟩, rfl⟩
      rw [planModule_eq_ok_iff.2 ⟨admits, rfl⟩]
      simp only [ih.2 ⟨admitsRest, rfl⟩]

variable
  {record : InvocationRecord}
  {host : HostModules}

/-- A record is planned by adding its modules and admitting each among all of them. -/
theorem plan_eq_ok_iff
    {plan : List PlannedModule} :
    archive.plan record host = .ok plan ↔
      ∃ infos, archive.addAnalyzers [] record.analyzers = .ok infos ∧
        (∀ info ∈ infos, Admits (.ofSession host infos) info) ∧
        plan = infos.map (plannedFor host) := by
  rw [Archive.plan]
  cases archive.addAnalyzers [] record.analyzers with
  | error failure => simp
  | ok infos =>
    have planning := @planModules_eq_ok_iff (.ofSession host infos) infos plan
    rw [LoadContext.host_ofSession] at planning
    simp only [Except.ok.injEq, exists_eq_left']
    exact planning

/-- What a planned module depends on is provided by the host or by another planned module. -/
def Provides (host : HostModules) (plan : List PlannedModule) (reference : ModuleRef) : Prop :=
  (∃ available, host.get? reference.name = some available ∧
    available.covers reference.version = true) ∨
  host.get? reference.name = none ∧
    ∃ other ∈ plan, other.host = none ∧ other.info.name = reference.name ∧
      other.info.version.covers reference.version = true ∧
      (LoadContext.ofSession host (plan.map PlannedModule.info)).resolve
        reference.name reference.version = .ok (.session other.info.id)

/-- A plan has the modules of a record, each once, and everything that they need. -/
structure Closed
    (archive : Archive)
    (record : InvocationRecord)
    (host : HostModules)
    (plan : List PlannedModule) : Prop where
  ids : (plan.map fun planned => planned.info.id) =
    (record.analyzers.map AnalyzerEntry.module).eraseDups
  described : ∀ planned ∈ plan, archive.moduleInfo planned.info.id = .ok planned.info
  delegated : ∀ planned ∈ plan, planned.host = host.get? planned.info.name
  neverOlder : ∀ planned ∈ plan, ∀ available,
    planned.host = some available → available.covers planned.info.version = true
  provided : ∀ planned ∈ plan, planned.host = none →
    ∀ reference ∈ planned.info.dependencies, Provides host plan reference

/--
A record cannot be planned: the host has one of its modules only in an older
version, or one that is not left to the host depends on something that the host
and the record lack.
-/
def Hindered (archive : Archive) (record : InvocationRecord) (host : HostModules) : Prop :=
  ∃ info, archive.Names record info ∧
    (host.FallsShort info.name info.version ∨
      host.get? info.name = none ∧
        ∃ reference ∈ info.dependencies, host.Lacks (archive.Names record) reference)

/-- What is resolved in a session that is planned is provided there. -/
theorem provides_of_resolve
    {infos : List ModuleInfo}
    {reference : ModuleRef}
    {resolution : Resolution}
    (unique : ∀ left ∈ infos, ∀ right ∈ infos, left.id = right.id → left = right)
    (resolved : (LoadContext.ofSession host infos).resolve
      reference.name reference.version = .ok resolution) :
    Provides host (infos.map (plannedFor host)) reference := by
  have sameInfos : (infos.map (plannedFor host)).map PlannedModule.info = infos := by
    rw [List.map_map]
    exact List.map_id'' (fun _ => rfl) infos
  rw [Provides, sameInfos]
  have sameHost := LoadContext.get?_ofSession host infos reference.name
  cases provided : host.get? reference.name with
  | some available =>
    rw [LoadContext.resolve_of_host (sameHost.trans provided)] at resolved
    split at resolved
    · next covers => exact Or.inl ⟨available, rfl, covers⟩
    · cases resolved
  | none =>
    have absent := sameHost.trans provided
    cases found : (LoadContext.ofSession host infos).offered? reference.name
        reference.version with
    | none =>
      rw [LoadContext.resolve_of_nothing absent found] at resolved
      cases resolved
    | some offered =>
      rcases LoadContext.of_offered? found with ⟨member, name, covers⟩
      rcases (LoadContext.mem_offers_ofSession unique).1 member with ⟨info, inside, rfl⟩
      refine Or.inr ⟨rfl, plannedFor host info, List.mem_map_of_mem inside, ?_, name, covers, ?_⟩
      · have sameName : info.name = reference.name := name
        rw [plannedFor, sameName, provided]
      · exact LoadContext.resolve_of_session absent found

/-- A plan is closed. -/
theorem closed_of_plan
    {plan : List PlannedModule}
    (planning : archive.plan record host = .ok plan) :
    Closed archive record host plan := by
  rcases plan_eq_ok_iff.1 planning with ⟨infos, adding, admitted, rfl⟩
  rcases addAnalyzers_of_record adding with ⟨ids, named, unique⟩
  constructor
  case ids =>
    rw [← ids, List.map_map]
    rfl
  case described =>
    intro planned member
    rcases List.mem_map.1 member with ⟨info, inside, rfl⟩
    rcases (named info).1 inside with ⟨entry, -, found⟩
    have identified := id_of_moduleInfo found
    rw [← identified] at found
    exact found
  case delegated =>
    intro planned member
    rcases List.mem_map.1 member with ⟨info, -, rfl⟩
    rfl
  case neverOlder =>
    intro planned member available here
    rcases List.mem_map.1 member with ⟨info, inside, rfl⟩
    have provided : host.get? info.name = some available := here
    rcases admitted info inside with ⟨other, there, covers⟩ | ⟨absent, -⟩
    · rw [LoadContext.host_ofSession, provided] at there
      cases there
      exact covers
    · rw [LoadContext.host_ofSession, provided] at absent
      cases absent
  case provided =>
    intro planned member here reference needed
    rcases List.mem_map.1 member with ⟨info, inside, rfl⟩
    have absent : host.get? info.name = none := here
    rcases admitted info inside with ⟨other, there, -⟩ | ⟨-, resolved⟩
    · rw [LoadContext.host_ofSession, absent] at there
      cases there
    · rcases resolved reference needed with ⟨resolution, resolves⟩
      exact provides_of_resolve unique resolves

/-- One of the modules of a record is not admitted exactly if the record is hindered. -/
theorem admits_all_iff
    {infos : List ModuleInfo}
    (named : ∀ info, info ∈ infos ↔ archive.Names record info)
    (unique : ∀ left ∈ infos, ∀ right ∈ infos, left.id = right.id → left = right) :
    (∀ info ∈ infos, Admits (.ofSession host infos) info) ↔ ¬ Hindered archive record host := by
  have among : (· ∈ infos) = archive.Names record := funext fun info => propext (named info)
  have meets : ∀ reference : ModuleRef,
      (∃ resolution, (LoadContext.ofSession host infos).resolve
        reference.name reference.version = .ok resolution) ↔
          ¬ host.Lacks (archive.Names record) reference := by
    intro reference
    rw [LoadContext.resolve_ofSession_isOk_iff unique, among]
  rw [Hindered, not_exists]
  refine forall_congr' fun info => ?_
  rw [← named info, not_and]
  refine forall_congr' fun _ => ?_
  rw [Admits, LoadContext.host_ofSession, HostModules.FallsShort]
  cases host.get? info.name with
  | some available => simp
  | none => simp [meets]

/-- A record is planned exactly if all its modules are described and nothing hinders it. -/
theorem plan_isOk_iff :
    (∃ plan, archive.plan record host = .ok plan) ↔
      (∀ entry ∈ record.analyzers, ∃ info, archive.moduleInfo entry.module = .ok info) ∧
        ¬ Hindered archive record host := by
  rw [← addAnalyzers_isOk_iff []]
  constructor
  · rintro ⟨plan, planning⟩
    rcases plan_eq_ok_iff.1 planning with ⟨infos, adding, admitted, -⟩
    rcases addAnalyzers_of_record adding with ⟨-, named, unique⟩
    exact ⟨⟨infos, adding⟩, (admits_all_iff named unique).1 admitted⟩
  · rintro ⟨⟨infos, adding⟩, free⟩
    rcases addAnalyzers_of_record adding with ⟨-, named, unique⟩
    exact ⟨_, plan_eq_ok_iff.2 ⟨infos, adding, (admits_all_iff named unique).2 free, rfl⟩⟩

/-- What hinders a record does not depend on the order of its modules. -/
theorem hindered_congr
    {other : InvocationRecord}
    (reordered : other.analyzers.Perm record.analyzers) :
    Hindered archive other host ↔ Hindered archive record host := by
  have names : archive.Names other = archive.Names record := by
    funext info
    rw [Names, Names]
    simp only [reordered.mem_iff]
  rw [Hindered, Hindered, names]

end Archive

open Archive in
/--
A planned session has the modules of its record, each once and in the order of
their first naming.  Those that the host has are left to it, in a version that
is new enough; whatever the others depend on is provided by the host or by one
of them.  Where all modules are described, planning fails exactly if the host
falls short or something is lacking, and the order of the modules does not
matter.
-/
theorem planned_session_is_closed
    (archive : Archive)
    (record : InvocationRecord)
    (host : HostModules) :
    (∀ plan, archive.plan record host = .ok plan → Closed archive record host plan) ∧
      ((∀ entry ∈ record.analyzers, ∃ info, archive.moduleInfo entry.module = .ok info) →
        ((∃ failure, archive.plan record host = .error failure) ↔
          Hindered archive record host)) ∧
      ∀ other : InvocationRecord, other.analyzers.Perm record.analyzers →
        ((∃ plan, archive.plan other host = .ok plan) ↔
          ∃ plan, archive.plan record host = .ok plan) := by
  refine ⟨fun _ => closed_of_plan, ?_, ?_⟩
  · intro described
    have planned := @plan_isOk_iff archive record host
    rw [and_iff_right described] at planned
    rw [← not_iff_not, ← planned]
    cases archive.plan record host <;> simp
  · intro other reordered
    rw [plan_isOk_iff, plan_isOk_iff, hindered_congr reordered]
    simp only [reordered.mem_iff]

/-! ## Two versions of one module -/

namespace TwoVersions

/-- An analyzer that needs the compiler and a module that is archived in two versions. -/
def analyzer : ModuleInfo :=
  .plain 1 "Style" 1 [⟨"Compiler", .ofMajor 4⟩, ⟨"Json", .ofMajor 12⟩]

/-- An archive with the analyzer, both versions of what it needs, and an old compiler. -/
def archive : Archive where
  container := { path := "", image := [], flags := 0, entries := [], verify := false }
  manifest := { formatVersion := 1, pathStyle := .unix, recordCount := 0 }
  modules := [analyzer, .plain 2 "Json" 12, .plain 3 "Json" 13, .plain 4 "Compiler" 3]
  diagnostics := []

/-- An entry for the module of the archive with an octet. -/
def entry
    (octet : UInt8) :
    AnalyzerEntry :=
  ⟨.repeating octet, "/a.dll"⟩

/-- A record that names the analyzer before and after what it needs. -/
def record : InvocationRecord where
  projectPath := "/p/a.csproj"
  language := .csharp
  kind := .regular
  analyzers := [entry 1, entry 2, entry 4, entry 3, entry 1]

/-- The record with its modules in the opposite order. -/
def reversed : InvocationRecord :=
  { record with analyzers := record.analyzers.reverse }

/-- A host with a new compiler. -/
def host : HostModules where
  entries := [("Compiler", .ofMajor 5)]

/-- A host that also has an old version of what the analyzer needs. -/
def olderHost : HostModules where
  entries := [("Compiler", .ofMajor 5), ("Json", .ofMajor 11)]

/-- The plan leaves the compiler to the host. -/
def planned : List PlannedModule :=
  [⟨analyzer, none⟩, ⟨.plain 2 "Json" 12, none⟩, ⟨.plain 4 "Compiler" 3, some (.ofMajor 5)⟩,
    ⟨.plain 3 "Json" 13, none⟩]

/-- The record is planned in both orders for the one host, and not at all for the other. -/
theorem planned_session_of_two_versions :
    archive.plan record host = .ok planned ∧
      archive.Closed record host planned ∧
      (∃ plan, archive.plan reversed host = .ok plan) ∧
      archive.Hindered record olderHost := by
  have plans : archive.plan record host = .ok planned := rfl
  have refuses : ∃ failure, archive.plan record olderHost = .error failure :=
    ⟨.versionConflict "Json" (.ofMajor 12) (.ofMajor 11), rfl⟩
  have added : archive.addAnalyzers [] record.analyzers =
      .ok (planned.map PlannedModule.info) := rfl
  have described := (Archive.addAnalyzers_isOk_iff []).1 ⟨_, added⟩
  have laws := planned_session_is_closed archive record host
  refine ⟨plans, laws.1 planned plans, ?_, ?_⟩
  · exact (laws.2.2 reversed (List.reverse_perm _)).2 ⟨planned, plans⟩
  · exact ((planned_session_is_closed archive record olderHost).2.1 described).1 refuses

end TwoVersions

end BuildCapture
