import BuildCapture.Proofs.Archive.Journal
import BuildCapture.Proofs.Decimal
import BuildCapture.Proofs.Octets.Hex
import BuildCapture.Proofs.Pool.Modules

/-!
# What a recorder keeps

As long as a recorder has not given up, its container has the records of all
committed invocations under their indices, its pools keep all inputs, and what
it remembers of a path is what the path was last read as.  Every operation either
keeps this up or gives the archive up for good.
-/

namespace BuildCapture

open Container

/-! ## Names -/

/-- The names of entries for inputs and for records with an index below a count. -/
inductive EntryName (count : Nat) : String → Prop
  | record {index : Nat} (counted : index < count) :
    EntryName count (InvocationRecord.entryName index)
  | blob (key : ContentKey) : EntryName count key.entryName
  | module (id : ModuleId) : EntryName count id.entryName

namespace EntryName

theorem mono
    {count more : Nat}
    (grows : count ≤ more)
    {name : String}
    (named : EntryName count name) :
    EntryName more name := by
  cases named with
  | record counted => exact .record (Nat.lt_of_lt_of_le counted grows)
  | blob key => exact .blob key
  | module id => exact .module id

/-- Names are short enough for a directory, since a file has no room for too many records. -/
theorem short
    {count : Nat}
    (few : count ≤ FileSystem.maximalFile)
    {name : String}
    (named : EntryName count name) :
    (Octets.ofText name).length < Octets.bound 2 := by
  have room : 600 < Octets.bound 2 := by
    decide
  cases named with
  | @record index counted =>
    have digits : (Decimal.octets index).length ≤ 19 + 1 := by
      apply Decimal.length_octets_le
      have most : FileSystem.maximalFile < Nat.pow 10 (19 + 1) := by
        decide
      omega
    have front : (Octets.ofText "records/").length = 8 := by
      decide
    have back : (Octets.ofText ".json").length = 5 := by
      decide
    rw [InvocationRecord.entryName, Octets.ofText_append, Octets.ofText_append,
      Decimal.ofText_text, List.length_append, List.length_append]
    omega
  | blob key =>
    have digits := Octets.length_ofText_hex_le key.octets
    have octets : key.octets.length = 32 := Vector.length_toList
    have front : (Octets.ofText "blobs/").length = 6 := by
      decide
    rw [ContentKey.entryName, Octets.ofText_append, List.length_append, ContentKey.hex]
    omega
  | module id =>
    have digits := Octets.length_ofText_hex_le id.octets
    have octets : id.octets.length = 16 := Vector.length_toList
    have front : (Octets.ofText "modules/").length = 8 := by
      decide
    rw [ModuleId.entryName, Octets.ofText_append, List.length_append, ModuleId.hex]
    omega

end EntryName

/-! ## Fingerprints -/

namespace FileSystem

/-- What has a fingerprint is a node that has it. -/
theorem find_of_stat
    {files : FileSystem}
    {path : String}
    {fingerprint : Fingerprint}
    (found : files.stat path = .ok fingerprint) :
    ∃ location node, files.find (.ofPath path) = .ok (location, node) ∧
      node.fingerprint = fingerprint := by
  rw [stat] at found
  cases finding : files.find (.ofPath path) with
  | error fault =>
    rw [finding] at found
    cases found
  | ok place =>
    rw [finding] at found
    exact ⟨place.1, place.2, rfl, Except.ok.inj found⟩

/-- Stamps are in the past. -/
theorem Sane.stamp_lt
    {files : FileSystem}
    (sane : files.Sane)
    {path : String}
    {fingerprint : Fingerprint}
    (found : files.stat path = .ok fingerprint) :
    fingerprint.stamp < files.clock := by
  rcases find_of_stat found with ⟨location, node, there, rfl⟩
  cases node with
  | directory => exact sane.started
  | file identity stamp content flaw => exact (sane.stamped (hasFile_of_find there)).2

/-- A path has a fingerprint exactly if it shows something. -/
theorem stat_eq_ok_iff
    {files : FileSystem}
    {path : String}
    {fingerprint : Fingerprint} :
    files.stat path = .ok fingerprint ↔
      ∃ sight, files.look path = .ok sight ∧ sight.fingerprint = fingerprint := by
  rw [stat_eq]
  cases files.look path <;> simp [Except.map]

theorem stat_eq_error_iff
    {files : FileSystem}
    {path : String}
    {fault : FileFault} :
    files.stat path = .error fault ↔ files.look path = .error fault := by
  rw [stat_eq]
  cases files.look path <;> simp [Except.map]

/-- A path that has no fingerprint can not be opened either. -/
theorem openSource_of_stat_error
    {files : FileSystem}
    {path : String}
    {fault : FileFault}
    (missing : files.stat path = .error fault) :
    files.openSource path = .error fault := by
  rw [openSource_eq, stat_eq_error_iff.1 missing]
  rfl

end FileSystem

/-! ## Remembered inputs -/

/-- The pool that an input was read for. -/
def InputIdentity.pool : InputIdentity → InputPool
  | .content _ => .blobs
  | .module _ => .modules

/-- What an input turned out to be is right for a content, and the pools have it. -/
def InputIdentity.Describes
    (blobs : BlobPool)
    (modules : ModulePool)
    (content : Octets) : InputIdentity → Prop
  | .content key => ContentKey.of content = key ∧ blobs.contains key = true
  | .module info =>
    (∃ found, ModuleInfo.ofOctets content = .ok found ∧ found.id = info.id) ∧
      modules.get? info.id = some info

/-- What is remembered of an input is what a reading of it amounts to, and the pools have it. -/
structure KnownInput.StandsFor
    (blobs : BlobPool)
    (modules : ModulePool)
    (input : KnownInput)
    (reading : Reading) : Prop where
  pool : input.identity.pool = reading.pool
  fingerprint : input.fingerprint = reading.sight.fingerprint
  describes : input.identity.Describes blobs modules reading.sight.source.data

/-- Pools that grow still have what was remembered. -/
theorem KnownInput.StandsFor.grows
    {input : KnownInput}
    {reading : Reading}
    {blobs moreBlobs : BlobPool}
    {modules moreModules : ModulePool}
    (stands : input.StandsFor blobs modules reading)
    (keys : ∀ {key}, blobs.contains key = true → moreBlobs.contains key = true)
    (infos : ∀ {id info}, modules.get? id = some info → moreModules.get? id = some info) :
    input.StandsFor moreBlobs moreModules reading where
  pool := stands.pool
  fingerprint := stands.fingerprint
  describes := by
    have described := stands.describes
    cases same : input.identity with
    | content key =>
      rw [same] at described
      exact ⟨described.1, keys described.2⟩
    | module info =>
      rw [same] at described
      exact ⟨described.1, infos described.2⟩

/-- A recorder remembers of each path what was read from it last. -/
def Recorder.Remembers
    (recorder : Recorder)
    (journal : Journal) :
    Prop :=
  ∀ path, Option.Rel (KnownInput.StandsFor recorder.blobs recorder.modules)
    (List.lookup path recorder.inputs) (List.lookup path journal.readings)

/-- What is remembered does not depend on what else the pools have. -/
theorem Recorder.Remembers.grows
    {recorder more : Recorder}
    {journal later : Journal}
    (remembers : recorder.Remembers journal)
    (inputs : more.inputs = recorder.inputs)
    (readings : later.readings = journal.readings)
    (keys : ∀ {key}, recorder.blobs.contains key = true → more.blobs.contains key = true)
    (infos : ∀ {id info}, recorder.modules.get? id = some info →
      more.modules.get? id = some info) :
    more.Remembers later := by
  intro path
  have remembered := remembers path
  rw [inputs, readings]
  generalize List.lookup path recorder.inputs = input? at remembered ⊢
  generalize List.lookup path journal.readings = reading? at remembered ⊢
  cases remembered with
  | none => exact .none
  | some stands => exact .some (stands.grows keys infos)

/-! ## Invariant -/

/--
A recorder of the archive at a path that records: what it has written are the
committed records and the inputs in its pools, and it remembers what was read.
-/
structure Recording.Keeps
    (recording : Recording)
    (path : String)
    (journal : Journal)
    (writer : Writer)
    (accepted : List (String × Octets)) : Prop where
  records : recording.recorder.state = .recording writer
  sane : recording.files.Sane
  path : writer.path = path
  settled : (⟨recording.files, writer⟩ : Workbench).Settled accepted
  named : ∀ item ∈ accepted, EntryName journal.committed.length item.1
  counted : recording.recorder.recordCount = journal.committed.length
  fewer : journal.committed.length ≤ accepted.length
  stored : ∀ {index committed}, journal.committed[index]? = some committed →
    (InvocationRecord.entryName index, committed.record.encode) ∈ accepted
  blobs : recording.recorder.blobs.Kept accepted journal.contents
  modules : recording.recorder.modules.Kept accepted journal.images
  inputs : recording.recorder.Remembers journal

/-- A recorder that no longer records, and remembers nothing. -/
structure Recording.Spent (recording : Recording) : Prop where
  bench : ∃ failure, recording.bench = .error failure
  inputs : recording.recorder.inputs = []

/-- A recorder either keeps what the journal says or has given up. -/
def Recording.Faithful
    (recording : Recording)
    (path : String)
    (journal : Journal) :
    Prop :=
  (∃ writer accepted, recording.Keeps path journal writer accepted) ∨ recording.Spent

namespace Recording

/-! ## Failing -/

theorem abort_spent
    {recording : Recording}
    {bench : Workbench}
    (records : recording.bench = .ok bench)
    (failure : Failure) :
    (recording.abort failure).Spent := by
  rw [abort, records]
  exact ⟨⟨.aborted failure.message, rfl⟩, rfl⟩

theorem abort_of_error
    {recording : Recording}
    {cause : Failure}
    (idle : recording.bench = .error cause)
    (failure : Failure) :
    recording.abort failure = recording := by
  rw [abort, idle]

/-- A recorder that has ended stays as it is. -/
theorem fail_of_idle
    {α : Type}
    {recording : Recording}
    {cause : Failure}
    (idle : recording.bench = .error cause)
    (failure : Failure) :
    recording.fail failure = (recording, (.error failure : Except Failure α)) := by
  rw [fail, abort_of_error idle]
  split <;> rfl

/-- A failure leaves a recorder alone or makes it give up. -/
theorem fail_cases
    {α : Type}
    {recording after : Recording}
    {failure : Failure}
    {outcome : Except Failure α}
    (failing : recording.fail failure = (after, outcome)) :
    outcome = .error failure ∧ (after = recording ∨ after.Spent) := by
  rw [fail] at failing
  split at failing
  · cases failing
    exact ⟨rfl, Or.inl rfl⟩
  · cases failing
    refine ⟨rfl, ?_⟩
    cases records : recording.bench with
    | error cause => exact Or.inl (abort_of_error records failure)
    | ok bench => exact Or.inr (abort_spent records failure)

theorem Faithful.of_fail
    {recording after : Recording}
    {path : String}
    {journal : Journal}
    (faithful : recording.Faithful path journal)
    (left : after = recording ∨ after.Spent) :
    after.Faithful path journal := by
  rcases left with rfl | spent
  · exact faithful
  · exact Or.inr spent

namespace Keeps

variable
  {recording : Recording}
  {path : String}
  {journal : Journal}
  {writer : Writer}
  {accepted : List (String × Octets)}

theorem bench
    (keeps : recording.Keeps path journal writer accepted) :
    recording.bench = .ok ⟨recording.files, writer⟩ := by
  simp only [Recording.bench, Recorder.writer, keeps.records]

theorem bench_eq
    (keeps : recording.Keeps path journal writer accepted)
    {bench : Workbench}
    (records : recording.bench = .ok bench) :
    bench = ⟨recording.files, writer⟩ := by
  rw [keeps.bench] at records
  exact (Except.ok.inj records).symm

/-- Any other file may change. -/
theorem elapse
    (keeps : recording.Keeps path journal writer accepted)
    {files : FileSystem}
    (sane : files.Sane)
    (leaves : FileSystem.Leaves (Writer.temporaryRoute path) recording.files files) :
    ({ recording with files } : Recording).Keeps path journal writer accepted :=
  { keeps with
    sane := sane
    settled := by
      have settled := keeps.settled
      rw [← keeps.path] at leaves
      exact settled.elsewhere leaves }

/-- What is noted about invocations that are left out does not matter. -/
theorem report
    (keeps : recording.Keeps path journal writer accepted)
    (projectPath : String)
    (failure : Failure) :
    (recording.report projectPath failure).Keeps path journal writer accepted :=
  { keeps with }

/-! ## Storing inputs -/

/-- Inputs that were stored, and that the pools keep, are kept. -/
theorem advance
    (keeps : recording.Keeps path journal writer accepted)
    {after : Workbench}
    (continues : (⟨recording.files, writer⟩ : Workbench).Continues after)
    {added : List (String × Octets)}
    (settled : after.Settled (accepted ++ added))
    (named : ∀ item ∈ added, EntryName journal.committed.length item.1)
    {blobs : BlobPool}
    {contents : List Octets}
    (keptBlobs : blobs.Kept (accepted ++ added) contents)
    (inside : ∀ data ∈ journal.contents, data ∈ contents)
    {modules : ModulePool}
    {images : List (ModuleId × Octets)}
    (keptModules : modules.Kept (accepted ++ added) images)
    (first : ∀ id image, List.lookup id journal.images = some image →
      List.lookup id images = some image) :
    (⟨after.files, { recording.recorder with
        state := .recording after.writer, blobs, modules }⟩ : Recording).Keeps
      path { journal with contents, images } after.writer (accepted ++ added) := by
  constructor
  case records => rfl
  case sane => exact (continues.files keeps.sane).1
  case path => exact continues.path.trans keeps.path
  case settled => exact settled
  case named =>
    intro item member
    rcases List.mem_append.1 member with earlier | new
    · exact keeps.named item earlier
    · exact named item new
  case counted => exact keeps.counted
  case fewer =>
    show journal.committed.length ≤ (accepted ++ added).length
    rw [List.length_append]
    exact Nat.le_trans keeps.fewer (Nat.le_add_right _ _)
  case stored =>
    intro index committed there
    exact List.mem_append_left added (keeps.stored there)
  case blobs => exact keptBlobs
  case modules => exact keptModules
  case inputs =>
    exact keeps.inputs.grows rfl rfl (keeps.blobs.grows keptBlobs inside)
      (keeps.modules.grows keptModules first)

/-- What was read of a path takes the place of what was read of it before. -/
theorem remember
    (keeps : recording.Keeps path journal writer accepted)
    {input : String}
    {identity : InputIdentity}
    (reading : Reading)
    (stands :
      (⟨reading.sight.fingerprint, identity⟩ : KnownInput).StandsFor recording.recorder.blobs
        recording.recorder.modules reading) :
    (recording.remember input reading.sight.fingerprint identity).Keeps path
      { journal with readings := (input, reading) :: journal.readings } writer accepted :=
  { keeps with
    inputs := by
      intro other
      show Option.Rel _ (List.lookup other (_ :: _)) (List.lookup other (_ :: _))
      rw [List.lookup_cons, List.lookup_cons]
      by_cases same : other = input
      · rw [beq_iff_eq.2 same]
        exact .some stands
      · rw [beq_false_of_ne same, lookup_filter_of_ne same]
        exact keeps.inputs other }

/-- A content that was stored is kept. -/
theorem withBlobs
    (keeps : recording.Keeps path journal writer accepted)
    {data : Octets}
    {key : ContentKey}
    {pool : BlobPool}
    {after : Workbench}
    {added : List (String × Octets)}
    (stored : BlobPool.Stored data ⟨recording.files, writer⟩ accepted journal.contents key pool
      after added) :
    (recording.withBlobs pool after).Keeps path
      { journal with contents := journal.contents ++ [data] } after.writer (accepted ++ added) := by
  apply keeps.advance stored.continues stored.settled
  · intro item member
    rw [stored.named item member]
    exact .blob key
  · exact stored.kept
  · exact fun other member => List.mem_append_left [data] member
  · exact keeps.modules.append added
  · exact fun id image there => there

/-- A module that was stored is kept. -/
theorem withModules
    (keeps : recording.Keeps path journal writer accepted)
    {image : Octets}
    {info : ModuleInfo}
    {pool : ModulePool}
    {after : Workbench}
    {added : List (String × Octets)}
    (stored : ModulePool.Stored image ⟨recording.files, writer⟩ accepted journal.images info pool
      after added) :
    (recording.withModules pool after).Keeps path
      { journal with images := journal.images ++ [(info.id, image)] } after.writer
      (accepted ++ added) := by
  apply keeps.advance stored.continues stored.settled
  · intro item member
    rw [stored.named item member]
    exact .module info.id
  · exact keeps.blobs.append added
  · exact fun data member => member
  · exact stored.kept
  · intro id first there
    rw [ModulePool.lookup_append_singleton, there, Option.some_or]

end Keeps

/-- A faithful recorder that still records keeps what its journal says. -/
theorem Faithful.keeps_of_bench
    {recording : Recording}
    {path : String}
    {journal : Journal}
    (faithful : recording.Faithful path journal)
    {bench : Workbench}
    (records : recording.bench = .ok bench) :
    ∃ writer accepted, recording.Keeps path journal writer accepted ∧
      bench = ⟨recording.files, writer⟩ := by
  rcases faithful with ⟨writer, accepted, keeps⟩ | spent
  · exact ⟨writer, accepted, keeps, keeps.bench_eq records⟩
  · rcases spent.bench with ⟨failure, idle⟩
    rw [idle] at records
    cases records

end Recording

end BuildCapture
