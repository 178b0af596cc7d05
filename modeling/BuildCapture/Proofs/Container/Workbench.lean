import BuildCapture.Proofs.Container.Soundness
import BuildCapture.Proofs.FileSystem.Ageing

/-!
# The temporary file of a writer

A workbench is backed if the image of its draft is the content of the temporary
file.  Operations that change the draft change the file in step with it, so a
container that could be finished is found complete at its final path.
-/

namespace BuildCapture.Container

namespace Workbench

/-- The temporary file holds the image of the draft. -/
def Backed (bench : Workbench) : Prop :=
  ∃ location stamp,
    bench.files.find (Writer.temporaryRoute bench.writer.path) =
      .ok (location, .file bench.writer.identity stamp bench.writer.draft.image)

/-- The draft of a workbench is sound and its temporary file holds the image. -/
structure Sound
    (bench : Workbench)
    (accepted : List (String × Octets))
    (held : List (Pending × Octets)) : Prop where
  draft : bench.writer.draft.Sound accepted held
  backed : bench.Backed

/-! ## The file in step with the draft -/

/-- The file follows a draft that has grown. -/
theorem Backed.grow
    {bench : Workbench}
    (backed : bench.Backed)
    {draft : Draft}
    {more : Octets}
    (grown : draft.image = bench.writer.draft.image ++ more) :
    (bench.grow draft).Backed := by
  rcases backed with ⟨location, stamp, found⟩
  have changed :=
    FileSystem.find_edit found
      (FileSystem.overwritten bench.writer.draft.image.length
        (draft.image.drop bench.writer.draft.image.length))
  rw [FileSystem.overwritten_length, grown, List.drop_left, ← grown] at changed
  refine ⟨location, bench.files.clock, ?_⟩
  show (bench.files.writeAt bench.writer.identity bench.writer.draft.image.length
    (draft.image.drop bench.writer.draft.image.length)).find _ = _
  rw [FileSystem.writeAt, grown, List.drop_left]
  exact changed

/-- The file follows a draft that was cut. -/
theorem Backed.shrink
    {bench : Workbench}
    (backed : bench.Backed)
    {draft : Draft}
    {cut : Nat}
    (shorter : draft.image = bench.writer.draft.image.take cut) :
    (bench.shrink draft).Backed := by
  rcases backed with ⟨location, stamp, found⟩
  have changed :=
    FileSystem.find_edit found (FileSystem.resized draft.image.length)
  rw [FileSystem.resized_take shorter] at changed
  exact ⟨location, bench.files.clock, changed⟩

/-- The file need not follow a draft whose image is the same. -/
theorem Backed.keep
    {bench : Workbench}
    (backed : bench.Backed)
    {draft : Draft}
    (same : draft.image = bench.writer.draft.image) :
    ({ bench with writer := { bench.writer with draft } } : Workbench).Backed := by
  rcases backed with ⟨location, stamp, found⟩
  rw [← same] at found
  exact ⟨location, stamp, found⟩

/-! ## Writing, and streaming and settling at once -/

section Streaming

variable [Zstd.Encoder]

/-- Written octets are one more entry. -/
theorem draft_of_bench_write
    {bench written : Workbench}
    {name : String}
    {data : Octets}
    (writing : bench.write name data = .ok written) :
    ∃ form, written.writer.draft = bench.writer.draft.gained name data form := by
  rcases write_eq_ok writing with ⟨draft, drafting, rfl⟩
  rcases Draft.write_eq_ok drafting with ⟨form, -, -, -, -, gained⟩
  exact ⟨form, gained⟩

variable
  {bench streamed : Workbench}
  {source : Source}
  {pending : Pending}

/-- Octets that were streamed are pending behind all others, with their digest. -/
theorem pending_of_stream
    (streaming : bench.stream source = .ok (pending, streamed)) :
    ∃ (data : Octets) (form : Octets × UInt16),
      source.readAll = .ok data ∧
        pending = .ofStored bench.writer.draft.image.length data form.1 form.2 ∧
        streamed.writer.draft =
          { bench.writer.draft with image := bench.writer.draft.image ++ form.1 } := by
  rcases stream_eq_ok streaming with ⟨draft, drafting, rfl⟩
  rcases Draft.stream_eq_ok drafting with ⟨data, form, -, all, -, -, appended⟩
  cases appended
  exact ⟨data, form, all, rfl, rfl⟩

/-- Nothing has been written after octets that were streamed last. -/
theorem latest_of_stream
    (streaming : bench.stream source = .ok (pending, streamed)) :
    streamed.writer.draft.isLatest pending = true := by
  rcases pending_of_stream streaming with ⟨data, form, -, rfl, grown⟩
  rw [grown]
  simp [Draft.isLatest, Pending.storedEnd, Pending.ofStored]

/-- Streamed octets can be taken back. -/
theorem discard_of_stream
    (unsealed : bench.writer.draft.isSealed = false)
    (streaming : bench.stream source = .ok (pending, streamed)) :
    ∃ shorter, streamed.discard pending = .ok shorter := by
  have latest := latest_of_stream streaming
  rcases pending_of_stream streaming with ⟨data, form, -, -, grown⟩
  have still : streamed.writer.draft.isSealed = false := by
    rw [grown]
    exact unsealed
  simp only [discard, Draft.discard, latest, still, Bool.not_true, Bool.false_eq_true, if_false]
  exact ⟨_, rfl⟩

/-- Streamed octets that are committed at once are one more entry. -/
theorem draft_of_stream_commit
    (streaming : bench.stream source = .ok (pending, streamed))
    {committed : Workbench}
    {name : String}
    (committing : streamed.commit pending name = (committed, .ok ())) :
    ∃ data form, source.readAll = .ok data ∧ pending.digest = sha256 data ∧
      pending.rawLength = data.length ∧
      committed.writer.draft = bench.writer.draft.gained name data form := by
  rcases pending_of_stream streaming with ⟨data, form, all, rfl, grown⟩
  refine ⟨data, form, all, rfl, rfl, ?_⟩
  rcases commit_eq_ok committing with ⟨left, drafting, rfl⟩
  show left = _
  rw [(Draft.commit_eq_ok drafting).2.2, grown]
  rfl

/-- Streamed octets that are discarded at once leave the draft as it was. -/
theorem draft_of_stream_discard
    (streaming : bench.stream source = .ok (pending, streamed))
    {shorter : Workbench}
    (discarding : streamed.discard pending = .ok shorter) :
    ∃ data, source.readAll = .ok data ∧ pending.digest = sha256 data ∧
      shorter.writer.draft = bench.writer.draft := by
  rcases pending_of_stream streaming with ⟨data, form, all, rfl, grown⟩
  refine ⟨data, all, rfl, ?_⟩
  rcases discard_eq_ok discarding with ⟨cut, drafting, rfl⟩
  show cut = _
  rw [(Draft.discard_eq_ok drafting).2.2, grown]
  simp [Pending.ofStored]

end Streaming

/-! ## Operations that the file follows -/

theorem Backed.discard
    {bench : Workbench}
    (backed : bench.Backed)
    {pending : Pending}
    {shorter : Workbench}
    (discarding : bench.discard pending = .ok shorter) :
    shorter.Backed := by
  rcases discard_eq_ok discarding with ⟨draft, drafting, rfl⟩
  have cut : draft.image = bench.writer.draft.image.take pending.offset := by
    rw [(Draft.discard_eq_ok drafting).2.2]
  exact backed.shrink cut

theorem Backed.commit
    {bench : Workbench}
    (backed : bench.Backed)
    (pending : Pending)
    (name : String) :
    (bench.commit pending name).1.Backed := by
  rcases committing : bench.commit pending name with ⟨after, outcome⟩
  cases outcome with
  | ok _ =>
    rcases commit_eq_ok committing with ⟨draft, drafting, rfl⟩
    have same : draft.image = bench.writer.draft.image := by
      rw [(Draft.commit_eq_ok drafting).2.2]
    exact backed.keep same
  | error failure =>
    rcases commit_eq_error committing with rfl | discarding
    · exact backed
    · exact backed.discard discarding

section Growing

variable [Zstd.Encoder]

theorem Backed.write
    {bench : Workbench}
    (backed : bench.Backed)
    {name : String}
    {data : Octets}
    {written : Workbench}
    (writing : bench.write name data = .ok written) :
    written.Backed := by
  rcases write_eq_ok writing with ⟨draft, drafting, rfl⟩
  rcases Draft.write_eq_ok drafting with ⟨form, -, -, -, -, rfl⟩
  have longer :
      (bench.writer.draft.gained name data form).image = bench.writer.draft.image ++ form.1 := rfl
  exact backed.grow longer

theorem Backed.stream
    {bench : Workbench}
    (backed : bench.Backed)
    {source : Source}
    {pending : Pending}
    {streamed : Workbench}
    (streaming : bench.stream source = .ok (pending, streamed)) :
    streamed.Backed := by
  rcases stream_eq_ok streaming with ⟨draft, drafting, rfl⟩
  rcases Draft.stream_eq_ok drafting with ⟨_, form, -, -, -, -, appended⟩
  have longer : draft.image = bench.writer.draft.image ++ form.1 := by
    cases appended
    rfl
  exact backed.grow longer

end Growing

/-! ## What operations leave alone -/

/-- A workbench after an operation: the path is the same and files have only been changed. -/
structure Continues (before after : Workbench) : Prop where
  path : after.writer.path = before.writer.path
  files : before.files.Evolves after.files

theorem Continues.trans
    {first second third : Workbench}
    (left : first.Continues second)
    (right : second.Continues third) :
    first.Continues third where
  path := right.path.trans left.path
  files := left.files.trans right.files

theorem continues_shrink
    (bench : Workbench)
    (draft : Draft) :
    bench.Continues (bench.shrink draft) :=
  ⟨rfl, FileSystem.evolves_edit _ _ _⟩

theorem continues_discard
    {bench shorter : Workbench}
    {pending : Pending}
    (discarding : bench.discard pending = .ok shorter) :
    bench.Continues shorter := by
  rcases discard_eq_ok discarding with ⟨draft, -, rfl⟩
  exact continues_shrink bench draft

theorem continues_commit
    (bench : Workbench)
    (pending : Pending)
    (name : String) :
    bench.Continues (bench.commit pending name).1 := by
  rcases committing : bench.commit pending name with ⟨after, outcome⟩
  cases outcome with
  | ok _ =>
    rcases commit_eq_ok committing with ⟨draft, -, rfl⟩
    exact ⟨rfl, .refl _⟩
  | error failure =>
    rcases commit_eq_error committing with rfl | discarding
    · exact ⟨rfl, .refl _⟩
    · exact continues_discard discarding

section Adding

variable [Zstd.Encoder]

theorem continues_write
    {bench written : Workbench}
    {name : String}
    {data : Octets}
    (writing : bench.write name data = .ok written) :
    bench.Continues written := by
  rcases write_eq_ok writing with ⟨draft, -, rfl⟩
  exact ⟨rfl, FileSystem.evolves_edit _ _ _⟩

theorem continues_stream
    {bench streamed : Workbench}
    {source : Source}
    {pending : Pending}
    (streaming : bench.stream source = .ok (pending, streamed)) :
    bench.Continues streamed := by
  rcases stream_eq_ok streaming with ⟨draft, -, rfl⟩
  exact ⟨rfl, FileSystem.evolves_edit _ _ _⟩

end Adding

/-! ## Operations -/

namespace Sound

variable
  {bench : Workbench}
  {accepted : List (String × Octets)}
  {held : List (Pending × Octets)}

section Operations

variable [Zstd.Encoder]

/-- Octets from memory that were written are accepted under their name. -/
theorem write
    (sound : bench.Sound accepted held)
    {name : String}
    {data : Octets}
    {written : Workbench}
    (writing : bench.write name data = .ok written) :
    written.Sound (accepted ++ [(name, data)]) held := by
  have backed := sound.backed.write writing
  rcases write_eq_ok writing with ⟨draft, drafting, rfl⟩
  exact ⟨sound.draft.write drafting, backed⟩

/-- Octets from a source that were written are held. -/
theorem stream
    (sound : bench.Sound accepted held)
    {source : Source}
    {pending : Pending}
    {streamed : Workbench}
    (streaming : bench.stream source = .ok (pending, streamed)) :
    ∃ data, source.readAll = .ok data ∧ streamed.Sound accepted ((pending, data) :: held) := by
  have backed := sound.backed.stream streaming
  rcases stream_eq_ok streaming with ⟨draft, drafting, rfl⟩
  rcases sound.draft.stream drafting with ⟨data, all, holds⟩
  exact ⟨data, all, holds, backed⟩

end Operations

/-- What is held may be forgotten. -/
theorem drop
    {pending : Pending}
    {data : Octets}
    (sound : bench.Sound accepted ((pending, data) :: held)) :
    bench.Sound accepted held :=
  ⟨sound.draft.drop, sound.backed⟩

/-- The order of what is held does not matter. -/
theorem perm
    (sound : bench.Sound accepted held)
    {reordered : List (Pending × Octets)}
    (same : held.Perm reordered) :
    bench.Sound accepted reordered :=
  ⟨sound.draft.perm same, sound.backed⟩

/-- Discarded octets are held no more. -/
theorem discard
    {pending : Pending}
    {data : Octets}
    (sound : bench.Sound accepted ((pending, data) :: held))
    {shorter : Workbench}
    (discarding : bench.discard pending = .ok shorter) :
    shorter.Sound accepted held := by
  have backed := sound.backed.discard discarding
  rcases discard_eq_ok discarding with ⟨draft, drafting, rfl⟩
  exact ⟨sound.draft.discard drafting, backed⟩

/-- Committed octets are accepted under their name. -/
theorem commit_ok
    {pending : Pending}
    {data : Octets}
    (sound : bench.Sound accepted ((pending, data) :: held))
    {name : String}
    {committed : Workbench}
    (committing : bench.commit pending name = (committed, .ok ())) :
    committed.Sound (accepted ++ [(name, data)]) held := by
  have backed := sound.backed.commit pending name
  rw [committing] at backed
  rcases commit_eq_ok committing with ⟨draft, drafting, rfl⟩
  exact ⟨sound.draft.commit_ok drafting, backed⟩

/-- Octets that could not be committed are held no more. -/
theorem commit_error
    {pending : Pending}
    {data : Octets}
    (sound : bench.Sound accepted ((pending, data) :: held))
    {name : String}
    {left : Workbench}
    {failure : Failure}
    (committing : bench.commit pending name = (left, .error failure)) :
    left.Sound accepted held := by
  rcases commit_eq_error committing with rfl | discarding
  · exact sound.drop
  · exact sound.discard discarding

end Sound

/-! ## Starting and finishing -/

/-- A writer starts with an empty draft that its temporary file holds. -/
theorem sound_create
    {files after : FileSystem}
    {path : String}
    {config : WriterConfig}
    {writer : Writer}
    (creating : Writer.create files path config = (after, .ok writer)) :
    (⟨after, writer⟩ : Workbench).Sound [] [] ∧ writer.path = path ∧
      writer.draft = Draft.new config := by
  rcases Writer.create_eq_ok creating with ⟨prepared, -, making⟩
  rcases Writer.createFile_eq_ok making with ⟨identity, created, creatingFile, rfl, rfl⟩
  rcases FileSystem.find_createFile creatingFile with ⟨location, stamp, found⟩
  have changed :=
    FileSystem.find_edit found (FileSystem.overwritten 0 (Draft.new config).image)
  have content :
      FileSystem.overwritten 0 (Draft.new config).image [] = (Draft.new config).image :=
    FileSystem.overwritten_length _ []
  rw [content] at changed
  exact ⟨⟨Draft.sound_new config, location, _, changed⟩, rfl, rfl⟩

/-- A finished container is found complete at its path, and its file is not too long. -/
theorem read_of_finish
    {bench finished : Workbench}
    (backed : bench.Backed)
    (finishing : bench.finish = (finished, .ok ())) :
    finished.files.read bench.writer.path = .ok bench.writer.draft.sealedImage ∧
      bench.writer.draft.sealedImage.length ≤ FileSystem.maximalFile := by
  rcases finish_eq_ok finishing with ⟨published, -, fits, moved, rfl⟩
  rcases backed with ⟨location, stamp, found⟩
  have completed :=
    FileSystem.find_edit found
      (FileSystem.overwritten bench.writer.draft.image.length bench.writer.draft.ending)
  rw [FileSystem.overwritten_length] at completed
  rcases FileSystem.find_rename completed moved with ⟨place, there⟩
  exact ⟨FileSystem.read_of_find there, fits⟩

end Workbench

end BuildCapture.Container
