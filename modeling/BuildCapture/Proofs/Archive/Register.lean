import BuildCapture.Archive.Recorder
import BuildCapture.Proofs.Archive.Names
import BuildCapture.Proofs.Pool.Exhaustion

/-!
# Which names are taken

While a recorder records, a name is taken in its container only by an entry that
the recorder knows it has: a content or a module of its pools, or a record that
it has counted.  Whatever it does not have yet can therefore get its name.
-/

namespace BuildCapture

open Container

namespace Recorder

/-- What a recorder has written an entry for. -/
def Has
    (recorder : Recorder) : ArchiveEntry → Prop
  | .content key => recorder.blobs.contains key = true
  | .module id => recorder.modules.contains id = true
  | .record index => index < recorder.recordCount
  | .moduleIndex | .diagnostics | .manifest => False

/-- A recorder whose pools and records have grown still has what it had. -/
theorem Has.mono
    {recorder after : Recorder}
    (blobs : ∀ {key}, recorder.blobs.contains key = true → after.blobs.contains key = true)
    (modules : ∀ {id}, recorder.modules.contains id = true → after.modules.contains id = true)
    (count : recorder.recordCount ≤ after.recordCount)
    (entry : ArchiveEntry)
    (has : recorder.Has entry) :
    after.Has entry := by
  cases entry with
  | content key => exact blobs has
  | module id => exact modules has
  | record index => exact Nat.lt_of_lt_of_le has count
  | moduleIndex | diagnostics | manifest => exact has

/-- The draft takes more octets, and whatever takes a name is an entry that the recorder has. -/
structure Registers
    (recorder : Recorder)
    (draft : Draft) : Prop where
  unsealed : draft.isSealed = false
  has : ∀ name, draft.contains name = true → ∃ entry, recorder.Has entry ∧ entry.name = name

namespace Registers

variable
  {recorder after : Recorder}
  {draft left : Draft}

/-- What a recorder does not have can get its name. -/
theorem free
    (registers : recorder.Registers draft)
    (entry : ArchiveEntry)
    (unknown : ¬ recorder.Has entry) :
    draft.contains entry.name = false := by
  rw [← Bool.not_eq_true]
  intro taken
  rcases registers.has entry.name taken with ⟨other, has, same⟩
  rw [ArchiveEntry.name_injective same] at has
  exact unknown has

theorem free_record
    (registers : recorder.Registers draft) :
    draft.contains (InvocationRecord.entryName recorder.recordCount) = false :=
  registers.free (.record _) (Nat.lt_irrefl _)

/-- The documents that complete an archive have names that nothing else has. -/
theorem free_document
    (registers : recorder.Registers draft)
    {name : String}
    (document : name ∈ recorder.documents.map Prod.fst) :
    draft.contains name = false := by
  have named : name ∈ [ModuleIndex.entryName, Diagnostic.entryName, Manifest.entryName] := document
  rcases List.mem_cons.1 named with rfl | named
  · exact registers.free .moduleIndex id
  rcases List.mem_cons.1 named with rfl | named
  · exact registers.free .diagnostics id
  · rw [List.mem_singleton.1 named]
    exact registers.free .manifest id

/-- There is room for whatever the blob pool does not know. -/
theorem roomForBlobs
    {bench : Workbench}
    (registers : recorder.Registers bench.writer.draft) :
    recorder.blobs.HasRoom bench := by
  refine ⟨registers.unsealed, fun key unknown => ?_⟩
  apply registers.free (.content key)
  rw [Has, unknown]
  exact Bool.false_ne_true

/-- There is room for whatever the module pool does not know. -/
theorem roomForModules
    {bench : Workbench}
    (registers : recorder.Registers bench.writer.draft) :
    recorder.modules.HasRoom bench := by
  refine ⟨registers.unsealed, fun id unknown => ?_⟩
  apply registers.free (.module id)
  rw [Has, ModulePool.contains, unknown]
  exact Bool.false_ne_true

/-! ## Growing -/

/-- A recorder that has more registers the same draft. -/
theorem mono
    (registers : recorder.Registers draft)
    (grows : ∀ entry, recorder.Has entry → after.Has entry) :
    after.Registers draft where
  unsealed := registers.unsealed
  has name taken := by
    rcases registers.has name taken with ⟨entry, has, named⟩
    exact ⟨entry, grows entry has, named⟩

/-- One more name is taken by an entry that the recorder now has. -/
theorem gained
    (registers : recorder.Registers draft)
    {entry : ArchiveEntry}
    (has : recorder.Has entry)
    (data : Octets)
    (form : Octets × UInt16) :
    recorder.Registers (draft.gained entry.name data form) where
  unsealed := registers.unsealed
  has name taken := by
    rw [Draft.contains_gained, Bool.or_eq_true, beq_iff_eq] at taken
    rcases taken with earlier | last
    · exact registers.has name earlier
    · exact ⟨entry, has, last⟩

/-- A content that was stored is registered. -/
theorem content
    (registers : recorder.Registers draft)
    {data : Octets}
    {pool : BlobPool}
    (takes : BlobPool.Takes data recorder.blobs draft pool left)
    (blobs : after.blobs = pool)
    (modules : after.modules = recorder.modules)
    (count : after.recordCount = recorder.recordCount) :
    after.Registers left := by
  have grows :=
    Has.mono (fun known => blobs ▸ takes.grows known)
      (fun known => modules ▸ known) count.ge
  have has : after.Has (.content (.of data)) := by
    rw [Has, blobs]
    exact takes.known
  cases takes with
  | again _ => exact registers.mono grows
  | fresh _ form => exact (registers.mono grows).gained has data form

/-- A module that was stored is registered. -/
theorem module
    (registers : recorder.Registers draft)
    {info : ModuleInfo}
    {pool : ModulePool}
    (takes : ModulePool.Takes info recorder.modules draft pool left)
    (blobs : after.blobs = recorder.blobs)
    (modules : after.modules = pool)
    (count : after.recordCount = recorder.recordCount) :
    after.Registers left := by
  have known {id : ModuleId} (before : recorder.modules.contains id = true) :
      after.modules.contains id = true := by
    rcases Option.isSome_iff_exists.1 before with ⟨other, found⟩
    rw [modules, ModulePool.contains, takes.grows found]
    rfl
  have grows := Has.mono (fun there => blobs ▸ there) known count.ge
  cases takes with
  | again _ => exact registers.mono grows
  | fresh unknown image form =>
    have has : after.Has (.module info.id) := by
      rw [Has, modules, ModulePool.contains, ModulePool.get?_remember, unknown, Option.none_or]
      simp
    exact (registers.mono grows).gained has image form

/-- A record that was written is registered. -/
theorem record
    (registers : recorder.Registers draft)
    {data : Octets}
    {form : Octets × UInt16}
    (blobs : after.blobs = recorder.blobs)
    (modules : after.modules = recorder.modules)
    (count : after.recordCount = recorder.recordCount + 1) :
    after.Registers
      (draft.gained (InvocationRecord.entryName recorder.recordCount) data form) := by
  have longer : recorder.recordCount < after.recordCount :=
    count ▸ Nat.lt_succ_self _
  have grows :=
    Has.mono (fun known => blobs ▸ known) (fun known => modules ▸ known) longer.le
  have has : after.Has (.record recorder.recordCount) := longer
  exact (registers.mono grows).gained has data form

end Registers

end Recorder

end BuildCapture
