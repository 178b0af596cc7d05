import BuildCapture.Pool.Modules
import BuildCapture.Proofs.Module.Image

/-!
# What storing in a pool does

An input that is known leaves a pool as it is, and another gets the entry that
is named by its key or its identity.  Octets of a source are in the container
before their key is known, so known ones are taken back; a module is known
before any of its octets is stored, and then it is not read to its end.
-/

namespace BuildCapture

open Container

/-- Octets that were read from an opened path are the content of its file. -/
theorem FileSystem.read_of_openSource
    {files : FileSystem}
    {path : String}
    {source : Source}
    {data : Octets}
    (opened : files.openSource path = .ok source)
    (all : source.readAll = .ok data) :
    files.read path = .ok data := by
  rw [read, opened]
  exact all

namespace BlobPool

variable
  [Zstd.Encoder]
  {pool left : BlobPool}
  {bench after : Workbench}
  {key : ContentKey}

theorem put_eq_ok
    {data : Octets}
    (putting : pool.put bench data = .ok (key, left, after)) :
    key = .of data ∧
      (pool.contains key = true ∧ left = pool ∧ after = bench ∨
        pool.contains key = false ∧ left = pool.remember key data.length ∧
          bench.write key.entryName data = .ok after) := by
  unfold put at putting
  simp only at putting
  split at putting
  · next known =>
    -- `cases` would compute the key
    rw [Except.ok.injEq, Prod.mk.injEq, Prod.mk.injEq] at putting
    rcases putting with ⟨rfl, rfl, rfl⟩
    exact ⟨rfl, Or.inl ⟨known, rfl, rfl⟩⟩
  next unknown =>
  split at putting
  · cases putting
  next written writing =>
  rw [Except.ok.injEq, Prod.mk.injEq, Prod.mk.injEq] at putting
  rcases putting with ⟨rfl, rfl, rfl⟩
  exact ⟨rfl, Or.inr ⟨Bool.not_eq_true _ ▸ unknown, rfl, writing⟩⟩

theorem putSource_eq_ok
    {source : Source}
    (putting : pool.putSource bench source = .ok (key, left, after)) :
    ∃ pending streamed, bench.stream source = .ok (pending, streamed) ∧ key = ⟨pending.digest⟩ ∧
      (pool.contains key = true ∧ left = pool ∧ streamed.discard pending = .ok after ∨
        pool.contains key = false ∧ left = pool.remember key pending.rawLength ∧
          streamed.commit pending key.entryName = (after, .ok ())) := by
  rw [putSource] at putting
  split at putting
  · cases putting
  next pending streamed streaming =>
  refine ⟨pending, streamed, streaming, ?_⟩
  simp only at putting
  split at putting
  · next known =>
    split at putting
    · cases putting
    next shorter discarding =>
    cases putting
    exact ⟨rfl, Or.inl ⟨known, rfl, discarding⟩⟩
  next unknown =>
  split at putting
  · cases putting
  next committed committing =>
  cases putting
  exact ⟨rfl, Or.inr ⟨Bool.not_eq_true _ ▸ unknown, rfl, committing⟩⟩

theorem putFile_eq_ok
    {path : String}
    (putting : pool.putFile bench path = .ok (key, left, after)) :
    ∃ source, bench.files.openSource path = .ok source ∧
      pool.putSource bench source = .ok (key, left, after) := by
  rw [putFile] at putting
  split at putting
  · cases putting
  next source opened =>
  split at putting
  · cases putting
  next stored storing =>
  cases putting
  exact ⟨source, opened, storing⟩

end BlobPool

namespace ModulePool

variable
  [Zstd.Encoder]
  {pool left : ModulePool}
  {bench after : Workbench}
  {info : ModuleInfo}

theorem putSource_eq_ok
    {source : Source}
    {found : ModuleInfo}
    (putting : pool.putSource bench found source = .ok (info, left, after)) :
    ∃ pending streamed, bench.stream source = .ok (pending, streamed) ∧
      streamed.commit pending found.id.entryName = (after, .ok ()) ∧
      info = found ∧ left = pool.remember found := by
  rw [putSource] at putting
  split at putting
  · cases putting
  next pending streamed streaming =>
  split at putting
  · cases putting
  next committed committing =>
  cases putting
  exact ⟨pending, streamed, streaming, committing, rfl, rfl⟩

theorem putFile_eq_ok
    {path : String}
    (putting : pool.putFile bench path = .ok (info, left, after)) :
    ∃ source found, bench.files.openSource path = .ok source ∧
      ModuleInfo.ofOctets source.data = .ok found ∧
      (pool.get? found.id = some info ∧ left = pool ∧ after = bench ∨
        pool.get? found.id = none ∧
          pool.putSource bench found source = .ok (info, left, after)) := by
  rw [putFile] at putting
  split at putting
  · cases putting
  next source opened =>
  split at putting
  · cases putting
  next found body reading =>
  refine ⟨source, found, opened, ModuleInfo.ofOctets_of_ofSource reading, ?_⟩
  split at putting
  · next first known =>
    cases putting
    exact Or.inl ⟨known, rfl, rfl⟩
  next unknown =>
  split at putting
  · cases putting
  next stored storing =>
  cases putting
  exact Or.inr ⟨unknown, storing⟩

end ModulePool

end BuildCapture
