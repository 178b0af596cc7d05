import BuildCapture.Proofs.Container.Exhaustion
import BuildCapture.Proofs.Pool.Modules

/-!
# What can stop the pools

As long as the names of unknown keys and identities are free in the container,
storing an input fails only because of the input itself or for want of room,
and the container becomes longer by at most what the input takes.
-/

namespace BuildCapture

open Container

variable [Zstd.Encoder]

namespace BlobPool

variable
  {pool : BlobPool}
  {bench : Workbench}
  {failure : Failure}

/-- The names of unknown contents are free. -/
def HasRoom
    (pool : BlobPool)
    (bench : Workbench) :
    Prop :=
  bench.writer.draft.isSealed = false ∧
    ∀ key, pool.contains key = false → bench.contains key.entryName = false

omit [Zstd.Encoder] in
/-- Where the input did not break off, it is not to blame. -/
theorem blame_of_whole
    {source : Source}
    (whole : source.fault = none)
    (path : String)
    (failure : Failure) :
    blame source path failure = failure := by
  cases failure <;> simp only [blame, whole]

theorem lacks_of_put
    (room : pool.HasRoom bench)
    {data : Octets}
    (putting : pool.put bench data = .error failure) :
    bench.writer.draft.Lacks data failure := by
  unfold put at putting
  simp only at putting
  split at putting
  · cases putting
  next unknown =>
  rw [Bool.not_eq_true] at unknown
  split at putting
  · next writing =>
    rw [Except.error.injEq] at putting
    subst putting
    exact Workbench.lacks_of_write room.1 (room.2 _ unknown) writing
  · cases putting

theorem growsBy_of_put
    {data : Octets}
    {key : ContentKey}
    {left : BlobPool}
    {after : Workbench}
    (putting : pool.put bench data = .ok (key, left, after)) :
    bench.writer.draft.GrowsBy data after.writer.draft := by
  rcases put_eq_ok putting with ⟨-, ⟨-, -, rfl⟩ | ⟨-, -, writing⟩⟩
  · exact .refl _ _
  · exact Workbench.growsBy_of_write writing

theorem error_of_putSource
    (room : pool.HasRoom bench)
    {source : Source}
    (putting : pool.putSource bench source = .error failure) :
    (∃ data, source.readAll = .ok data ∧ bench.writer.draft.Lacks data failure) ∨
      ∃ fault, source.fault = some fault ∧ failure = .file fault := by
  rw [putSource] at putting
  split at putting
  · next streaming =>
    cases putting
    exact Workbench.error_of_stream room.1 streaming
  next pending streamed streaming =>
  simp only at putting
  split at putting
  · rcases Workbench.discard_of_stream room.1 streaming with ⟨shorter, discarding⟩
    rw [discarding] at putting
    cases putting
  · next unknown =>
    rw [Bool.not_eq_true] at unknown
    have committed := Workbench.commit_of_stream streaming (room.2 _ unknown)
    split at putting
    · next committing =>
      rw [committing] at committed
      cases committed
    · cases putting

theorem growsBy_of_putSource
    {source : Source}
    {key : ContentKey}
    {left : BlobPool}
    {after : Workbench}
    (putting : pool.putSource bench source = .ok (key, left, after)) :
    ∃ data, source.readAll = .ok data ∧
      bench.writer.draft.GrowsBy data after.writer.draft := by
  rcases putSource_eq_ok putting with
    ⟨pending, streamed, streaming, -, ⟨-, -, discarding⟩ | ⟨-, -, committing⟩⟩
  · rcases Workbench.draft_of_stream_discard streaming discarding with ⟨data, all, -, same⟩
    rw [same]
    exact ⟨data, all, .refl _ _⟩
  · exact Workbench.growsBy_of_stream_commit streaming committing

/-- Storing a file fails because it can not be read, or for want of room. -/
theorem error_of_putFile
    (room : pool.HasRoom bench)
    {path : String}
    (putting : pool.putFile bench path = .error failure) :
    (∃ data, bench.files.read path = .ok data ∧ bench.writer.draft.Lacks data failure) ∨
      ∃ fault, bench.files.read path = .error fault ∧ failure = .inputUnreadable path fault := by
  rw [putFile] at putting
  split at putting
  · next fault missing =>
    cases putting
    refine Or.inr ⟨fault, ?_, rfl⟩
    rw [FileSystem.read, missing]
  next source opened =>
  split at putting
  · next cause storing =>
    cases putting
    rcases error_of_putSource room storing with ⟨data, all, lacks⟩ | ⟨fault, broken, rfl⟩
    · refine Or.inl ⟨data, FileSystem.read_of_openSource opened all, ?_⟩
      rw [blame_of_whole (Source.fault_of_readAll all)]
      exact lacks
    · refine Or.inr ⟨fault, ?_, ?_⟩
      · rw [FileSystem.read, opened]
        simp only [Source.readAll, broken]
      · simp only [blame, broken]
  · cases putting

theorem growsBy_of_putFile
    {path : String}
    {key : ContentKey}
    {left : BlobPool}
    {after : Workbench}
    (putting : pool.putFile bench path = .ok (key, left, after)) :
    ∃ data, bench.files.read path = .ok data ∧
      bench.writer.draft.GrowsBy data after.writer.draft := by
  rcases putFile_eq_ok putting with ⟨source, opened, storing⟩
  rcases growsBy_of_putSource storing with ⟨data, all, grows⟩
  exact ⟨data, FileSystem.read_of_openSource opened all, grows⟩

end BlobPool

namespace ModulePool

variable
  {pool : ModulePool}
  {bench : Workbench}
  {failure : Failure}

/-- The names of unknown modules are free. -/
def HasRoom
    (pool : ModulePool)
    (bench : Workbench) :
    Prop :=
  bench.writer.draft.isSealed = false ∧
    ∀ id, pool.get? id = none → bench.contains id.entryName = false

/-- Storing what a source yields fails because it breaks off, or for want of room. -/
theorem error_of_putSource
    (room : pool.HasRoom bench)
    {info : ModuleInfo}
    (unknown : pool.get? info.id = none)
    {source : Source}
    (putting : pool.putSource bench info source = .error failure) :
    (source.fault = none ∧ bench.writer.draft.Lacks source.data failure) ∨
      ∃ fault, source.fault = some fault ∧ failure = .file fault := by
  rw [putSource] at putting
  split at putting
  · next streaming =>
    cases putting
    rcases Workbench.error_of_stream room.1 streaming with ⟨data, all, lacks⟩ | broken
    · rw [← Source.data_of_readAll all] at lacks
      exact Or.inl ⟨Source.fault_of_readAll all, lacks⟩
    · exact Or.inr broken
  next pending streamed streaming =>
  have committed := Workbench.commit_of_stream streaming (room.2 _ unknown)
  split at putting
  · next committing =>
    rw [committing] at committed
    cases committed
  · cases putting

/--
Storing a module fails because it can not be opened, because it is none, because
the image of a new one breaks off, or for want of room.
-/
theorem error_of_putFile
    (room : pool.HasRoom bench)
    {path : String}
    (putting : pool.putFile bench path = .error failure) :
    (∃ fault, bench.files.openSource path = .error fault ∧
        failure = .inputUnreadable path fault) ∨
      ∃ source, bench.files.openSource path = .ok source ∧
        ((∃ fault, ModuleInfo.ofSource source = .error fault ∧
            failure = .unsupportedModule path fault) ∨
          ∃ info body, ModuleInfo.ofSource source = .ok (info, body) ∧
            pool.get? info.id = none ∧
              (source.fault = none ∧ bench.writer.draft.Lacks source.data failure ∨
                ∃ fault, source.fault = some fault ∧ failure = .inputUnreadable path fault)) := by
  rw [putFile] at putting
  split at putting
  · next fault missing =>
    cases putting
    exact Or.inl ⟨fault, missing, rfl⟩
  next source opened =>
  refine Or.inr ⟨source, opened, ?_⟩
  split at putting
  · next fault reading =>
    cases putting
    exact Or.inl ⟨fault, reading, rfl⟩
  next info body reading =>
  refine Or.inr ⟨info, body, reading, ?_⟩
  split at putting
  · cases putting
  next unknown =>
  refine ⟨unknown, ?_⟩
  split at putting
  · next cause storing =>
    cases putting
    rcases error_of_putSource room unknown storing with ⟨whole, lacks⟩ | ⟨fault, broken, rfl⟩
    · rw [BlobPool.blame_of_whole whole]
      exact Or.inl ⟨whole, lacks⟩
    · exact Or.inr ⟨fault, broken, by simp only [BlobPool.blame, broken]⟩
  · cases putting

theorem growsBy_of_putFile
    {path : String}
    {info : ModuleInfo}
    {left : ModulePool}
    {after : Workbench}
    (putting : pool.putFile bench path = .ok (info, left, after)) :
    ∃ source, bench.files.openSource path = .ok source ∧
      bench.writer.draft.GrowsBy source.data after.writer.draft := by
  rcases putFile_eq_ok putting with
    ⟨source, found, opened, -, ⟨-, -, rfl⟩ | ⟨-, storing⟩⟩
  · exact ⟨source, opened, .refl _ _⟩
  refine ⟨source, opened, ?_⟩
  rcases putSource_eq_ok storing with ⟨pending, streamed, streaming, committing, -, -⟩
  rcases Workbench.growsBy_of_stream_commit streaming committing with ⟨data, all, grows⟩
  rw [Source.data_of_readAll all]
  exact grows

end ModulePool

end BuildCapture
