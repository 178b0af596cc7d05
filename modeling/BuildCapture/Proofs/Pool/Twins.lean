import BuildCapture.Proofs.Container.Twins
import BuildCapture.Proofs.Pool.Modules

/-!
# Pools over writers that write the same

What a pool stores, and whether that succeeds, depends on the octets of the
input and on the draft alone.  An input that is known can be stored again
without a trace: nothing is different afterwards but the stamp of the temporary
file, unless the file has no room for the octets that are taken back.
-/

namespace BuildCapture

open Container

/-- Two pools have stored the same in two containers with the same draft. -/
def StoredAlike {α β : Type} (left right : α × β × Workbench) : Prop :=
  left.1 = right.1 ∧ left.2.1 = right.2.1 ∧ left.2.2.Twins right.2.2

/-- What can be read from a path is what a source of its octets yields. -/
theorem FileSystem.openSource_of_read
    {files : FileSystem}
    {path : String}
    {data : Octets}
    (reading : files.read path = .ok data) :
    files.openSource path = .ok (.ofOctets data) := by
  rw [read] at reading
  split at reading
  · cases reading
  next source opened =>
  rcases source with ⟨octets, fault⟩
  cases fault with
  | some fault => cases reading
  | none =>
    cases reading
    exact opened

variable [Zstd.Encoder]

namespace BlobPool

section Twins

variable
  {left right : Workbench}

theorem put_twins
    (twins : left.Twins right)
    (pool : BlobPool)
    (data : Octets) :
    Agree StoredAlike (pool.put left data) (pool.put right data) := by
  unfold put
  simp only
  split
  · exact .ok ⟨rfl, rfl, twins⟩
  · have written := twins.write (ContentKey.of data).entryName data
    generalize left.write _ _ = here at written ⊢
    generalize right.write _ _ = there at written ⊢
    cases written with
    | error failure => exact .error failure
    | ok same => exact .ok ⟨rfl, rfl, same⟩

theorem putSource_twins
    (twins : left.Twins right)
    (pool : BlobPool)
    (source : Source) :
    Agree StoredAlike (pool.putSource left source) (pool.putSource right source) := by
  unfold putSource
  have streamed := twins.stream source
  generalize left.stream source = here at streamed ⊢
  generalize right.stream source = there at streamed ⊢
  cases streamed with
  | error failure => exact .error failure
  | @ok here there same =>
    rcases here with ⟨pending, bench⟩
    rcases there with ⟨other, otherBench⟩
    rcases same with ⟨rfl, same⟩
    simp only
    split
    · have discarded := same.discard pending
      generalize bench.discard pending = shorter at discarded ⊢
      generalize otherBench.discard pending = otherShorter at discarded ⊢
      cases discarded with
      | error failure => exact .error failure
      | ok alike => exact .ok ⟨rfl, rfl, alike⟩
    · have committed := same.commit pending (ContentKey.entryName ⟨pending.digest⟩)
      generalize bench.commit pending _ = done at committed ⊢
      generalize otherBench.commit pending _ = otherDone at committed ⊢
      rcases done with ⟨bench, outcome⟩
      rcases otherDone with ⟨otherBench, otherOutcome⟩
      rcases committed with ⟨alike, rfl⟩
      cases outcome with
      | error failure => exact .error failure
      | ok _ => exact .ok ⟨rfl, rfl, alike⟩

theorem putFile_twins
    (twins : left.Twins right)
    (pool : BlobPool)
    (path : String) :
    Agree StoredAlike (pool.putFile left path) (pool.putFile right path) := by
  unfold putFile
  rw [twins.openSource_eq path]
  cases right.files.openSource path with
  | error fault => exact .error (Failure.inputUnreadable path fault)
  | ok source =>
    have stored := putSource_twins twins pool source
    simp only
    generalize pool.putSource left source = here at stored ⊢
    generalize pool.putSource right source = there at stored ⊢
    cases stored with
    | error failure => exact .error (blame source path failure)
    | ok same => exact .ok same

end Twins

section Rewriting

variable
  {pool left : BlobPool}
  {bench after : Workbench}
  {key : ContentKey}

theorem rewrites_put
    {data : Octets}
    (putting : pool.put bench data = .ok (key, left, after)) :
    bench.Rewrites after := by
  rcases put_eq_ok putting with ⟨-, ⟨-, -, rfl⟩ | ⟨-, -, writing⟩⟩
  · exact .refl _
  · exact Workbench.rewrites_write writing

theorem rewrites_putSource
    {source : Source}
    (putting : pool.putSource bench source = .ok (key, left, after)) :
    bench.Rewrites after := by
  rcases putSource_eq_ok putting with
    ⟨pending, streamed, streaming, rfl, ⟨-, -, discarding⟩ | ⟨-, -, committing⟩⟩
  · exact (Workbench.rewrites_stream streaming).trans (Workbench.rewrites_discard discarding)
  · exact Workbench.rewrites_stream_commit streaming committing

theorem rewrites_putFile
    {path : String}
    (putting : pool.putFile bench path = .ok (key, left, after)) :
    bench.Rewrites after := by
  rcases putFile_eq_ok putting with ⟨source, -, storing⟩
  exact rewrites_putSource storing

/-- The octets of a content that was stored have a form in which they are stored. -/
theorem packs_of_putFile
    {path : String}
    (putting : pool.putFile bench path = .ok (key, left, after))
    {data : Octets}
    (opened : bench.files.openSource path = .ok (.ofOctets data)) :
    (Draft.packStream? bench.writer.draft.compression data).isSome = true := by
  rw [putFile, opened] at putting
  simp only [putSource] at putting
  cases streaming : bench.stream (.ofOctets data) with
  | error failure =>
    rw [streaming] at putting
    cases putting
  | ok streamed =>
    have all : (Source.ofOctets data).readAll = .ok data := rfl
    exact Workbench.packs_of_stream streaming all

end Rewriting

/-- A content that is known can be stored again without a trace, unless there is no room for it. -/
theorem putFile_again
    {pool : BlobPool}
    {bench : Workbench}
    {path : String}
    {data : Octets}
    (opened : bench.files.openSource path = .ok (.ofOctets data))
    (known : pool.contains (.of data) = true)
    (unsealed : bench.writer.draft.isSealed = false)
    (packs : (Draft.packStream? bench.writer.draft.compression data).isSome = true) :
    pool.putFile bench path = .error (.file .tooLarge) ∨
      ∃ after, pool.putFile bench path = .ok (.of data, pool, after) ∧ bench.Rewrites after ∧
        after.writer.draft = bench.writer.draft := by
  rcases Workbench.rewrites_stream_discard unsealed packs with
    full | ⟨pending, streamed, shorter, streaming, discarding, digest, rewrites, same⟩
  · left
    simp only [putFile, opened, putSource, full]
    rfl
  · right
    have keyed : (⟨pending.digest⟩ : ContentKey) = .of data := congrArg ContentKey.mk digest
    refine ⟨shorter, ?_, rewrites, same⟩
    simp only [putFile, opened, putSource, streaming, keyed, known, discarding, if_true]

end BlobPool

namespace ModulePool

section Twins

variable
  {left right : Workbench}

theorem putSource_twins
    (twins : left.Twins right)
    (pool : ModulePool)
    (info : ModuleInfo)
    (source : Source) :
    Agree StoredAlike (pool.putSource left info source) (pool.putSource right info source) := by
  unfold putSource
  have streamed := twins.stream source
  generalize left.stream source = here at streamed ⊢
  generalize right.stream source = there at streamed ⊢
  cases streamed with
  | error failure => exact .error failure
  | @ok here there same =>
    rcases here with ⟨pending, bench⟩
    rcases there with ⟨other, otherBench⟩
    rcases same with ⟨rfl, same⟩
    have committed := same.commit pending info.id.entryName
    simp only
    generalize bench.commit pending _ = done at committed ⊢
    generalize otherBench.commit pending _ = otherDone at committed ⊢
    rcases done with ⟨bench, outcome⟩
    rcases otherDone with ⟨otherBench, otherOutcome⟩
    rcases committed with ⟨alike, rfl⟩
    cases outcome with
    | error failure => exact .error failure
    | ok _ => exact .ok ⟨rfl, rfl, alike⟩

theorem putFile_twins
    (twins : left.Twins right)
    (pool : ModulePool)
    (path : String) :
    Agree StoredAlike (pool.putFile left path) (pool.putFile right path) := by
  unfold putFile
  rw [twins.openSource_eq path]
  cases right.files.openSource path with
  | error fault => exact .error (Failure.inputUnreadable path fault)
  | ok source =>
    simp only
    cases ModuleInfo.ofSource source with
    | error fault => exact .error (Failure.unsupportedModule path fault)
    | ok described =>
      rcases described with ⟨info, body⟩
      simp only
      cases pool.get? info.id with
      | some known => exact .ok ⟨rfl, rfl, twins⟩
      | none =>
        have stored := putSource_twins twins pool info source
        simp only
        generalize pool.putSource left info source = here at stored ⊢
        generalize pool.putSource right info source = there at stored ⊢
        cases stored with
        | error failure => exact .error (BlobPool.blame source path failure)
        | ok same => exact .ok same

end Twins

section Rewriting

variable
  {pool left : ModulePool}
  {bench after : Workbench}
  {info : ModuleInfo}

theorem rewrites_putSource
    {source : Source}
    {found : ModuleInfo}
    (putting : pool.putSource bench found source = .ok (info, left, after)) :
    bench.Rewrites after ∧ left.get? found.id = (pool.get? found.id).or (some info) := by
  rcases putSource_eq_ok putting with ⟨pending, streamed, streaming, committing, rfl, rfl⟩
  refine ⟨Workbench.rewrites_stream_commit streaming committing, ?_⟩
  rw [get?_remember, if_pos rfl]

/-- Storing the module at a path rewrites the temporary file only, and it is known afterwards. -/
theorem rewrites_putFile
    {path : String}
    (putting : pool.putFile bench path = .ok (info, left, after)) :
    bench.Rewrites after ∧
      ∃ source found, bench.files.openSource path = .ok source ∧
        ModuleInfo.ofOctets source.data = .ok found ∧ left.get? found.id = some info := by
  rcases putFile_eq_ok putting with
    ⟨source, found, opened, described, ⟨known, rfl, rfl⟩ | ⟨unknown, storing⟩⟩
  · exact ⟨.refl _, source, found, opened, described, known⟩
  · rcases rewrites_putSource storing with ⟨rewrites, known⟩
    rw [unknown, Option.none_or] at known
    exact ⟨rewrites, source, found, opened, described, known⟩

end Rewriting

/-- A module that is known is not stored again. -/
theorem putFile_again
    {pool : ModulePool}
    {bench : Workbench}
    {path : String}
    {source : Source}
    {found info : ModuleInfo}
    (opened : bench.files.openSource path = .ok source)
    (described : ModuleInfo.ofOctets source.data = .ok found)
    (known : pool.get? found.id = some info) :
    pool.putFile bench path = .ok (info, pool, bench) := by
  rcases ModuleInfo.ofSource_of_ofOctets described with ⟨body, reading⟩
  simp only [putFile, opened, reading, known]

end ModulePool

end BuildCapture
