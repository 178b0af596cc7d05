import BuildCapture.Proofs.Archive.Names
import BuildCapture.Proofs.Module.Image
import BuildCapture.Proofs.Pool.Modules
import BuildCapture.Proofs.Pool.Storeroom
import BuildCapture.Proofs.Record.OrderedMap

/-!
# The indexes of the module pool

A module pool has a table by identity, the order in which modules were stored and
an index by name.  All of them are views of one list: the modules of which storing
first succeeded, in that order.  A module that is known already is answered from
the table, and one that can not be stored is left out of all three, so whatever is
stored, the views stay views of one list.

An entry of the container gets the name of a module exactly when the pool learns
of the module.  So as long as nobody else gives entries such names, the modules
whose entries are in the container are those of the pool.
-/

namespace BuildCapture

open Container

/-! ## Views of one list -/

/-- Where all keys are different, each is looked up as what it stands with. -/
theorem lookup_eq_some_iff_of_nodup
    {Key Value : Type}
    [DecidableEq Key]
    {table : List (Key × Value)}
    (distinct : (table.map Prod.fst).Nodup)
    {key : Key}
    {value : Value} :
    List.lookup key table = some value ↔ (key, value) ∈ table := by
  induction table with
  | nil => exact iff_of_false nofun List.not_mem_nil
  | cons entry rest ih =>
    rcases entry with ⟨first, content⟩
    rw [List.map_cons, List.nodup_cons] at distinct
    rw [List.lookup_cons, List.mem_cons, Prod.mk.injEq]
    by_cases here : key = first
    · subst here
      have notLater : (key, value) ∉ rest := by
        intro later
        exact distinct.1 (List.mem_map.2 ⟨(key, value), later, rfl⟩)
      rw [beq_self_eq_true, or_iff_left notLater]
      exact Option.some_inj.trans (eq_comm.trans (and_iff_right rfl).symm)
    · rw [beq_false_of_ne here, or_iff_right fun same => here same.1]
      exact ih distinct.2

namespace ModulePool

/-- A pool in which some modules were stored, one after the other. -/
structure Lists
    (pool : ModulePool)
    (stored : List ModuleInfo) : Prop where
  distinct : (stored.map ModuleInfo.id).Nodup
  known : pool.known = stored.map fun info => (info.id, info)
  order : pool.order = stored.map ModuleInfo.id
  byName : ∀ name, pool.idsNamed name =
    (stored.filter fun info => info.name == name).map ModuleInfo.id

/-- An identity more is listed under its name and nowhere else. -/
theorem lookup_addName
    (name other : String)
    (id : ModuleId)
    (index : List (String × List ModuleId)) :
    (List.lookup other (addName name id index)).getD [] =
      (List.lookup other index).getD [] ++ if name = other then [id] else [] := by
  induction index with
  | nil =>
    rw [addName, List.lookup_cons]
    by_cases same : name = other
    · rw [same, beq_self_eq_true, if_pos rfl]
      rfl
    · rw [beq_false_of_ne (Ne.symm same), if_neg same]
      rfl
  | cons entry rest ih =>
    rcases entry with ⟨first, ids⟩
    rw [addName]
    by_cases here : first = name
    · subst here
      rw [if_pos rfl, List.lookup_cons, List.lookup_cons]
      by_cases same : first = other
      · rw [same, beq_self_eq_true, if_pos rfl]
        rfl
      · rw [beq_false_of_ne (Ne.symm same), if_neg same, List.append_nil]
    · rw [if_neg here, List.lookup_cons, List.lookup_cons]
      by_cases same : other = first
      · have different : ¬ name = other := fun equal => here (same.symm.trans equal.symm)
        rw [same, beq_self_eq_true, ← same, if_neg different, List.append_nil]
      · rw [beq_false_of_ne same]
        exact ih

namespace Lists

variable
  {pool : ModulePool}
  {stored : List ModuleInfo}

theorem empty : Lists {} [] where
  distinct := List.nodup_nil
  known := rfl
  order := rfl
  byName _ := rfl

/-- The table has a module exactly if it was stored. -/
theorem get?_eq_some_iff
    (lists : pool.Lists stored)
    {id : ModuleId}
    {info : ModuleInfo} :
    pool.get? id = some info ↔ info ∈ stored ∧ info.id = id := by
  have distinct : (pool.known.map Prod.fst).Nodup := by
    rw [lists.known, List.map_map]
    exact lists.distinct
  rw [get?, lookup_eq_some_iff_of_nodup distinct, lists.known, List.mem_map]
  constructor
  · rintro ⟨other, member, same⟩
    cases same
    exact ⟨member, rfl⟩
  · rintro ⟨member, rfl⟩
    exact ⟨info, member, rfl⟩

theorem get?_of_mem
    (lists : pool.Lists stored)
    {info : ModuleInfo}
    (member : info ∈ stored) :
    pool.get? info.id = some info :=
  lists.get?_eq_some_iff.2 ⟨member, rfl⟩

theorem mem_order_iff
    (lists : pool.Lists stored)
    {id : ModuleId} :
    id ∈ pool.order ↔ (pool.get? id).isSome = true := by
  rw [lists.order, List.mem_map, Option.isSome_iff_exists]
  simp only [lists.get?_eq_some_iff]

/-- A module with a new identity is stored behind all others. -/
theorem remember
    (lists : pool.Lists stored)
    {info : ModuleInfo}
    (unknown : pool.get? info.id = none) :
    (pool.remember info).Lists (stored ++ [info]) where
  distinct := by
    rw [List.map_append, List.map_singleton, ← lists.order]
    have fresh : info.id ∉ pool.order := by
      rw [lists.mem_order_iff, unknown]
      exact Bool.false_ne_true
    rw [← List.concat_eq_append]
    exact List.Nodup.concat fresh (lists.order ▸ lists.distinct)
  known := by
    rw [ModulePool.remember, lists.known, List.map_append, List.map_singleton]
  order := by
    rw [ModulePool.remember, lists.order, List.map_append, List.map_singleton]
  byName name := by
    have before := lists.byName name
    rw [idsNamed] at before
    rw [idsNamed, ModulePool.remember, lookup_addName, before, List.filter_append,
      List.map_append]
    by_cases same : info.name = name
    · simp [same]
    · simp [same]

/-- The modules of a pool are those that were stored. -/
theorem infos_eq
    (lists : pool.Lists stored) :
    pool.infos = stored := by
  rw [infos, lists.order, List.filterMap_map]
  have found : ∀ info ∈ stored, (pool.get? ∘ ModuleInfo.id) info = some info :=
    fun info member => lists.get?_of_mem member
  rw [List.filterMap_congr found, List.filterMap_some]

theorem size_eq
    (lists : pool.Lists stored) :
    pool.size = stored.length := by
  rw [size, lists.known, List.length_map]

/-- Under a name are the identities of the modules that have it, in the order of all of them. -/
theorem idsNamed_eq
    (lists : pool.Lists stored)
    (name : String) :
    pool.idsNamed name =
      pool.order.filter fun id => (pool.get? id).any fun info => info.name == name := by
  rw [lists.byName, lists.order, List.filter_map]
  apply congrArg
  apply List.filter_congr
  intro info member
  rw [Function.comp_apply, lists.get?_of_mem member, Option.any_some]

end Lists

end ModulePool

/-! ## Names in the container -/

namespace Container.Scribe

/-- The names that the directory and the table of names of a container have gained. -/
structure Gains
    (before after : Scribe)
    (gained : List String) : Prop where
  entries : after.entries.map DirectoryEntry.name =
    before.entries.map DirectoryEntry.name ++ gained
  names : after.names = before.names ++ gained

/-- The name that was asked for, if it was granted. -/
def granted
    (name : String) : Except Failure Unit → List String
  | .ok () => [name]
  | .error _ => []

/-- Nothing is gained where the entries and the names stay. -/
theorem gains_nothing
    {before after : Scribe}
    (entries : after.entries = before.entries)
    (names : after.names = before.names) :
    before.Gains after [] where
  entries := by rw [entries, List.append_nil]
  names := by rw [names, List.append_nil]

variable
  {scribe after : Scribe}
  {outcome : Except Failure Unit}

theorem gains_enter
    (scribe : Scribe)
    (entry : DirectoryEntry) :
    scribe.Gains (scribe.enter entry) [entry.name] where
  entries := by rw [enter, List.map_append, List.map_singleton]
  names := rfl

theorem gains_rewind
    {offset : Nat}
    (rewinding : scribe.rewind offset = (after, outcome)) :
    scribe.Gains after [] := by
  rw [rewind] at rewinding
  split at rewinding
  · cases rewinding
    exact gains_nothing rfl rfl
  · cases rewinding
    exact gains_nothing rfl rfl

theorem gains_recover
    {α : Type}
    {failure : Failure}
    {answer : Except Failure α}
    (recovering : scribe.recover failure = (after, answer)) :
    scribe.Gains after [] := by
  rw [recover] at recovering
  split at recovering
  · next rewinding =>
    cases recovering
    exact gains_rewind rewinding
  · next rewinding =>
    cases recovering
    exact gains_rewind rewinding

theorem gains_discard
    {pending : Pending}
    (discarding : scribe.discard pending = (after, outcome)) :
    scribe.Gains after [] := by
  rw [discard] at discarding
  split at discarding
  · cases discarding
    exact gains_nothing rfl rfl
  · exact gains_rewind discarding

theorem gains_commit
    {pending : Pending}
    {name : String}
    (committing : scribe.commit pending name = (after, outcome)) :
    scribe.Gains after (granted name outcome) := by
  rw [commit] at committing
  split at committing
  · cases committing
    exact gains_nothing rfl rfl
  split at committing
  · split at committing
    · next discarding =>
      cases committing
      exact gains_discard discarding
    · next discarding =>
      cases committing
      exact gains_discard discarding
  · cases committing
    exact gains_enter scribe _

theorem gains_finish
    (finishing : scribe.finish = (after, outcome)) :
    scribe.Gains after [] := by
  rw [finish] at finishing
  split at finishing
  · cases finishing
    exact gains_nothing rfl rfl
  · cases finishing
    exact gains_nothing rfl rfl

theorem gains_write
    [Zstd.Encoder]
    {name : String}
    {data : Octets}
    (writing : scribe.write name data = (after, outcome)) :
    scribe.Gains after (granted name outcome) := by
  rw [write] at writing
  split at writing
  · cases writing
    exact gains_nothing rfl rfl
  split at writing
  · cases writing
    exact gains_nothing rfl rfl
  split at writing
  · cases writing
    exact gains_nothing rfl rfl
  split at writing
  · have back := gains_recover writing
    cases outcome with
    | ok done => exact absurd writing recover_ne_ok
    | error failure => exact ⟨back.entries, back.names⟩
  · cases writing
    exact ⟨(gains_enter _ _).entries, (gains_enter _ _).names⟩

theorem gains_stream
    [Zstd.Packer]
    {reader : Reader}
    {answer : Except Failure Pending}
    (streaming : scribe.stream reader = (after, answer)) :
    scribe.Gains after [] := by
  rw [stream] at streaming
  split at streaming
  · cases streaming
    exact gains_nothing rfl rfl
  simp only at streaming
  split at streaming
  · have back := gains_recover streaming
    exact ⟨back.entries, back.names⟩
  · cases streaming
    exact gains_nothing rfl rfl

theorem gains_deposit
    [Zstd.Packer]
    {reader : Reader}
    {name : String}
    (depositing : scribe.deposit reader name = (after, outcome)) :
    scribe.Gains after (granted name outcome) := by
  rw [deposit] at depositing
  split at depositing
  · next streaming =>
    cases depositing
    exact gains_stream streaming
  · next streamed pending streaming =>
    have first := gains_stream streaming
    have second := gains_commit depositing
    exact ⟨by rw [second.entries, first.entries, List.append_nil],
      by rw [second.names, first.names, List.append_nil]⟩

/-- What others do to a container: anything, but they give no entry the name of a module. -/
inductive Works [Zstd.Encoder] [Zstd.Packer] (scribe : Scribe) : Scribe → Prop
  | write (name : String) (data : Octets) (foreign : ∀ id : ModuleId, name ≠ id.entryName) :
    Works scribe (scribe.write name data).1
  | stream (reader : Reader) : Works scribe (scribe.stream reader).1
  | commit (pending : Pending) (name : String) (foreign : ∀ id : ModuleId, name ≠ id.entryName) :
    Works scribe (scribe.commit pending name).1
  | discard (pending : Pending) : Works scribe (scribe.discard pending).1
  | finish : Works scribe scribe.finish.1
  | around (files : FileSystem) :
    Works scribe { scribe with handle := { scribe.handle with files } }

/-- Others add entries, but none of a module. -/
theorem Works.gains
    [Zstd.Encoder]
    [Zstd.Packer]
    (works : scribe.Works after) :
    ∃ gained, scribe.Gains after gained ∧ ∀ id : ModuleId, id.entryName ∉ gained := by
  have foreign_granted {name : String} (foreign : ∀ id : ModuleId, name ≠ id.entryName)
      (outcome : Except Failure Unit) (id : ModuleId) : id.entryName ∉ granted name outcome := by
    intro member
    cases outcome with
    | error failure => exact absurd member List.not_mem_nil
    | ok done => exact foreign id (List.mem_singleton.1 member).symm
  cases works with
  | write name data foreign => exact ⟨_, gains_write rfl, foreign_granted foreign _⟩
  | stream reader => exact ⟨_, gains_stream rfl, fun _ => List.not_mem_nil⟩
  | commit pending name foreign => exact ⟨_, gains_commit rfl, foreign_granted foreign _⟩
  | discard pending => exact ⟨_, gains_discard rfl, fun _ => List.not_mem_nil⟩
  | finish => exact ⟨_, gains_finish rfl, fun _ => List.not_mem_nil⟩
  | around files => exact ⟨_, gains_nothing rfl rfl, fun _ => List.not_mem_nil⟩

end Container.Scribe

/-! ## Storing modules -/

namespace Storeroom

/-- A module that is given to the pool: its image, or what opening a path yields. -/
inductive Put where
  | image (octets : Octets)
  | file (path : String) (opened : Except FileFault Reader)

variable [Zstd.Encoder] [Zstd.Packer]

/-- Stores a module, unless its identity is stored already. -/
def put
    (room : Storeroom) : Put → Storeroom × Except Failure ModuleInfo
  | .image octets => room.storeModule octets
  | .file path opened => room.storeModuleFile path opened

/--
What storing a module leads to: neither the pool nor the names in the container
change, or the module is known and nothing at all changes, or the pool learns of
the module together with the container.
-/
inductive PutTo (room : Storeroom) : Storeroom × Except Failure ModuleInfo → Prop
  | failed {scribe : Scribe} (gains : room.scribe.Gains scribe []) (failure : Failure) :
    PutTo room ({ room with scribe }, .error failure)
  | again {id : ModuleId} {info : ModuleInfo} (known : room.modules.get? id = some info) :
    PutTo room (room, .ok info)
  | fresh {scribe : Scribe} {info : ModuleInfo}
    (unknown : room.modules.get? info.id = none)
    (gains : room.scribe.Gains scribe [info.id.entryName]) :
    PutTo room ({ room.withModule info with scribe }, .ok info)

omit [Zstd.Encoder] [Zstd.Packer] in
/-- A new module is stored if its entry is. -/
theorem putTo_settle
    {room : Storeroom}
    {info : ModuleInfo}
    (unknown : room.modules.get? info.id = none)
    (report : Failure → Failure)
    {answer : Scribe × Except Failure Unit}
    (gains : room.scribe.Gains answer.1 (Scribe.granted info.id.entryName answer.2)) :
    room.PutTo (room.settle (room.withModule info) report info answer) := by
  rcases answer with ⟨scribe, failure | done⟩
  · exact .failed gains (report failure)
  · exact .fresh unknown gains

theorem putTo_put
    (room : Storeroom)
    (put : Put) :
    room.PutTo (room.put put) := by
  have unchanged : room.scribe.Gains room.scribe [] := Scribe.gains_nothing rfl rfl
  cases put with
  | image octets =>
    rw [Storeroom.put]
    cases described : ModuleInfo.ofOctets octets with
    | error fault =>
      rw [storeModule, described]
      exact .failed unchanged _
    | ok info =>
      cases known : room.modules.get? info.id with
      | some earlier =>
        rw [storeModule, described]
        simp only [known]
        exact .again known
      | none =>
        rw [storeModule_eq described known]
        exact putTo_settle known id (Scribe.gains_write rfl)
  | file path opened =>
    rw [Storeroom.put]
    cases opened with
    | error fault => exact .failed unchanged _
    | ok reader =>
      cases described : ModuleInfo.ofSource reader.source with
      | error fault =>
        rw [storeModuleFile, described]
        exact .failed unchanged _
      | ok image =>
        rcases image with ⟨info, body⟩
        cases known : room.modules.get? info.id with
        | some earlier =>
          rw [storeModuleFile, described]
          simp only [known]
          exact .again known
        | none =>
          rw [storeModuleFile_eq described known]
          exact putTo_settle known _ (Scribe.gains_deposit rfl)

/-- The module that was answered, if storing it succeeded. -/
def answered : Except Failure ModuleInfo → List ModuleInfo
  | .ok info => [info]
  | .error _ => []

/--
What a storeroom becomes while modules are stored, with the modules that were
answered, and others use the container and the other pool.
-/
inductive Fills (start : Storeroom) : Storeroom → List ModuleInfo → Prop
  | start : Fills start start []
  | put {room : Storeroom} {answers : List ModuleInfo}
    (filled : Fills start room answers)
    (put : Put) :
    Fills start (room.put put).1 (answers ++ answered (room.put put).2)
  | others {room : Storeroom} {answers : List ModuleInfo} {scribe : Scribe}
    (filled : Fills start room answers)
    (works : room.scribe.Works scribe)
    (blobs : BlobPool) :
    Fills start { room with scribe, blobs } answers

/-! ## Runs -/

/-- The pool lists the modules that were answered, and the container has just their entries. -/
structure Follows
    (room : Storeroom)
    (answers : List ModuleInfo) : Prop where
  lists : room.modules.Lists answers.eraseDups
  firsts : answers.eraseDups.map ModuleInfo.id = (answers.map ModuleInfo.id).eraseDups
  names : room.scribe.names = room.scribe.entries.map DirectoryEntry.name
  stored : ∀ id : ModuleId, id.entryName ∈ room.scribe.names ↔ id ∈ room.modules.order

namespace Follows

variable
  {room : Storeroom}
  {answers : List ModuleInfo}

omit [Zstd.Encoder] [Zstd.Packer] in
theorem start
    (started : FileSystem)
    (writer : Writer) :
    (Storeroom.start started writer).Follows [] where
  lists := .empty
  firsts := rfl
  names := rfl
  stored _ := iff_of_false List.not_mem_nil List.not_mem_nil

omit [Zstd.Encoder] [Zstd.Packer] in
/-- Entries of others do not matter. -/
theorem others
    (follows : room.Follows answers)
    {scribe : Scribe}
    {gained : List String}
    (gains : room.scribe.Gains scribe gained)
    (foreign : ∀ id : ModuleId, id.entryName ∉ gained)
    (blobs : BlobPool) :
    ({ room with scribe, blobs } : Storeroom).Follows answers where
  lists := follows.lists
  firsts := follows.firsts
  names := by rw [gains.names, gains.entries, follows.names]
  stored id := by
    rw [gains.names, List.mem_append, or_iff_left (foreign id)]
    exact follows.stored id

omit [Zstd.Encoder] [Zstd.Packer] in
/-- Answering a module that is known changes nothing. -/
theorem again
    (follows : room.Follows answers)
    {id : ModuleId}
    {info : ModuleInfo}
    (known : room.modules.get? id = some info) :
    room.Follows (answers ++ [info]) := by
  have earlier : info ∈ answers :=
    List.mem_eraseDups.1 (follows.lists.get?_eq_some_iff.1 known).1
  have same : (answers ++ [info]).eraseDups = answers.eraseDups := by
    rw [eraseDups_append_singleton, if_pos earlier]
  constructor
  case lists =>
    rw [same]
    exact follows.lists
  case firsts =>
    rw [same, List.map_append, List.map_singleton, eraseDups_append_singleton,
      if_pos (List.mem_map_of_mem earlier)]
    exact follows.firsts
  case names => exact follows.names
  case stored => exact follows.stored

omit [Zstd.Encoder] [Zstd.Packer] in
/-- A new module joins all indexes, and its entry joins the container. -/
theorem fresh
    (follows : room.Follows answers)
    {info : ModuleInfo}
    (unknown : room.modules.get? info.id = none)
    {scribe : Scribe}
    (gains : room.scribe.Gains scribe [info.id.entryName]) :
    ({ room.withModule info with scribe } : Storeroom).Follows (answers ++ [info]) := by
  have newId : info.id ∉ answers.map ModuleInfo.id := by
    intro earlier
    rw [← List.mem_eraseDups, ← follows.firsts, ← follows.lists.order,
      follows.lists.mem_order_iff, unknown] at earlier
    cases earlier
  have new : info ∉ answers := fun earlier => newId (List.mem_map_of_mem earlier)
  have longer : (answers ++ [info]).eraseDups = answers.eraseDups ++ [info] := by
    rw [eraseDups_append_singleton, if_neg new]
  constructor
  case lists =>
    rw [longer]
    exact follows.lists.remember unknown
  case firsts =>
    rw [longer, List.map_append, List.map_append, List.map_singleton,
      eraseDups_append_singleton, if_neg newId, follows.firsts]
  case names => rw [gains.names, gains.entries, follows.names]
  case stored =>
    intro id
    have order : (room.withModule info).modules.order = room.modules.order ++ [info.id] := rfl
    rw [gains.names, order, List.mem_append, List.mem_append, follows.stored id,
      List.mem_singleton, List.mem_singleton, ModuleId.entryName_injective.eq_iff]

/-- Whatever is stored, the pool lists the modules that were answered. -/
theorem of_fills
    {start : Storeroom}
    (follows : start.Follows [])
    (filled : start.Fills room answers) :
    room.Follows answers := by
  induction filled with
  | start => exact follows
  | @put room answers _ put ih =>
    have putTo := putTo_put room put
    generalize room.put put = answer at putTo
    cases putTo with
    | failed gains failure =>
      rw [answered, List.append_nil]
      exact ih.others gains (fun _ => List.not_mem_nil) room.blobs
    | again known => exact ih.again known
    | fresh unknown gains => exact ih.fresh unknown gains
  | others _ works blobs ih =>
    rcases works.gains with ⟨gained, gains, foreign⟩
    exact ih.others gains foreign blobs

end Follows

/--
The indexes of a module pool after the modules that were answered, in the order in
which storing succeeded, and the entries of its container.
-/
structure Catalogues
    (room : Storeroom)
    (answers : List ModuleInfo) : Prop where
  distinct : room.modules.order.Nodup
  keys : room.modules.known.map Prod.fst = room.modules.order
  order : room.modules.order = (answers.map ModuleInfo.id).eraseDups
  identified : ∀ {id info}, room.modules.get? id = some info → info.id = id
  named : ∀ name, room.modules.idsNamed name =
    room.modules.order.filter fun id =>
      (room.modules.get? id).any fun info => info.name == name
  infos : room.modules.infos = answers.eraseDups
  ids : room.modules.infos.map ModuleInfo.id = room.modules.order
  size : room.modules.size = room.modules.infos.length
  entries : ∀ id : ModuleId,
    id.entryName ∈ room.scribe.entries.map DirectoryEntry.name ↔ id ∈ room.modules.order

omit [Zstd.Encoder] [Zstd.Packer] in
theorem Follows.catalogues
    {room : Storeroom}
    {answers : List ModuleInfo}
    (follows : room.Follows answers) :
    room.Catalogues answers where
  distinct := by
    rw [follows.lists.order]
    exact follows.lists.distinct
  keys := by
    rw [follows.lists.known, follows.lists.order, List.map_map]
    rfl
  order := follows.lists.order.trans follows.firsts
  identified known := (follows.lists.get?_eq_some_iff.1 known).2
  named := follows.lists.idsNamed_eq
  infos := follows.lists.infos_eq
  ids := by rw [follows.lists.infos_eq, follows.lists.order]
  size := by rw [follows.lists.size_eq, follows.lists.infos_eq]
  entries id := by
    rw [← follows.names]
    exact follows.stored id

/--
However modules are stored, with and without success, and whatever else is done to
the container as long as nobody else names entries like modules: the order has no
identity twice, the table and the index by name are views of it, the modules are
those that were answered, each once and in the order in which they were first, and
the container has an entry of a module exactly if the pool has the module.
-/
theorem indexes_are_views_of_what_was_answered
    {started : FileSystem}
    {writer : Writer}
    {room : Storeroom}
    {answers : List ModuleInfo}
    (filled : (Storeroom.start started writer).Fills room answers) :
    room.Catalogues answers :=
  ((Follows.start started writer).of_fills filled).catalogues

/-! ## Two modules of one name -/

/-- The storeroom after modules were given to its pool, with those that were answered. -/
def puts
    (room : Storeroom)
    (answers : List ModuleInfo) : List Put → Storeroom × List ModuleInfo
  | [] => (room, answers)
  | put :: rest =>
    match room.put put with
    | (after, outcome) => puts after (answers ++ answered outcome) rest

theorem fills_puts
    {start room : Storeroom}
    {answers : List ModuleInfo}
    (filled : start.Fills room answers)
    (given : List Put) :
    start.Fills (puts room answers given).1 (puts room answers given).2 := by
  induction given generalizing room answers with
  | nil => exact filled
  | cons put rest ih => exact ih (filled.put put)

end Storeroom

namespace ModuleImage

/-- A small module whose identity has equal octets. -/
def ofOctet
    (octet : UInt8) :
    ModuleImage where
  id := .repeating octet
  version := ⟨1, 0, 0, 0⟩
  metadata := { name := "Lint" }
  body := [octet]

end ModuleImage

namespace Storeroom

open ModuleImage

/-- The first of the small modules, read in two pieces. -/
def firstInPieces : Reader :=
  ⟨[(ofOctet 1).octets.take 70, (ofOctet 1).octets.drop 70], none, by decide +kernel⟩

/-- Two modules of one name, something that is no module, and one of the two once more. -/
def namesakes : List Put := [
  .image (ofOctet 1).octets,
  .image [1, 2, 3],
  .file "copy" (.ok firstInPieces),
  .image (ofOctet 2).octets]

/-- The storeroom of a plain container after modules were given to its pool. -/
def plainPuts
    (given : List Put) :
    Option (Storeroom × List ModuleInfo) :=
  match plainStart with
  | (_, .error _) => none
  | (started, .ok writer) => some (puts (start started writer) [] given)

set_option maxRecDepth 100000 in
/-- The two modules are listed once each, in the order in which they were stored. -/
theorem namesakes_are_listed_once :
    ∃ started writer room answers,
      plainStart = (started, .ok writer) ∧
        (start started writer).Fills room answers ∧
        answers = [(ofOctet 1).info, (ofOctet 1).info, (ofOctet 2).info] ∧
        room.modules.idsNamed "Lint" = [(ofOctet 1).id, (ofOctet 2).id] ∧
        room.modules.infos = [(ofOctet 1).info, (ofOctet 2).info] ∧
        room.modules.size = 2 ∧
        (ofOctet 2).id.entryName ∈ room.scribe.entries.map DirectoryEntry.name := by
  have reached :
      ∃ last, plainPuts namesakes = some last ∧
        last.2 = [(ofOctet 1).info, (ofOctet 1).info, (ofOctet 2).info] ∧
        last.1.modules.idsNamed "Lint" = [(ofOctet 1).id, (ofOctet 2).id] := by
    refine ⟨_, rfl, ?_⟩
    decide +kernel
  rcases reached with ⟨last, reached, answers, named⟩
  rw [plainPuts] at reached
  split at reached
  · cases reached
  next started writer starting =>
  have given : puts (start started writer) [] namesakes = last := Option.some.inj reached
  have filled := fills_puts (.start : (start started writer).Fills _ []) namesakes
  rw [given] at filled
  have catalogues := indexes_are_views_of_what_was_answered filled
  have infos : last.1.modules.infos = [(ofOctet 1).info, (ofOctet 2).info] := by
    rw [catalogues.infos, answers]
    decide
  have size : last.1.modules.size = 2 := by
    rw [catalogues.size, infos]
    rfl
  have entry : (ofOctet 2).id.entryName ∈ last.1.scribe.entries.map DirectoryEntry.name := by
    rw [catalogues.entries, ← catalogues.ids, infos]
    exact List.mem_cons_of_mem _ List.mem_cons_self
  exact ⟨started, writer, last.1, last.2, starting, filled, answers, named, infos, size, entry⟩

end Storeroom

end BuildCapture
