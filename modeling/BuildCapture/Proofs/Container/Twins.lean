import BuildCapture.Proofs.Container.Workbench
import BuildCapture.Proofs.FileSystem.Twins

/-!
# Writers that write the same

Two workbenches are twins if their drafts are the same and their file systems
look alike.  What an operation yields depends on the draft only, so twins
answer alike and stay twins; they also stay twins when only one of them writes
octets that it takes back.
-/

namespace BuildCapture.Container

/-- What writing to a draft does not change. -/
def Draft.settings
    (draft : Draft) :
    CompressionConfig × Bool :=
  (draft.compression, draft.isSealed)

namespace Workbench

/-! ## The temporary file -/

/-- The temporary file holds the image of the draft, wherever it can be seen. -/
structure Alone (bench : Workbench) : Prop where
  backed : bench.Backed
  sole : bench.files.Sole bench.writer.identity bench.writer.draft.image

/-- In a sane file system all places show a file alike. -/
theorem Backed.alone
    {bench : Workbench}
    (backed : bench.Backed)
    (sane : bench.files.Sane) :
    bench.Alone := by
  refine ⟨backed, fun place stamp content flaw there => ?_⟩
  rcases backed with ⟨location, stamp, found⟩
  exact (sane.single ⟨place, there⟩ (FileSystem.hasFile_of_find found)).2

/-- Any other file may change. -/
theorem Backed.elsewhere
    {bench : Workbench}
    (backed : bench.Backed)
    {files : FileSystem}
    (leaves : FileSystem.Leaves (Writer.temporaryRoute bench.writer.path) bench.files files) :
    ({ bench with files } : Workbench).Backed := by
  rcases backed with ⟨location, stamp, found⟩
  exact leaves found

/-- A workbench after an operation: nothing but its temporary file was rewritten. -/
structure Rewrites (before after : Workbench) : Prop where
  path : after.writer.path = before.writer.path
  identity : after.writer.identity = before.writer.identity
  settings : after.writer.draft.settings = before.writer.draft.settings
  files : before.files.Rewrites before.writer.identity after.files
  alone : before.Alone → after.Alone
  sane : before.files.Sane → after.files.Sane

namespace Rewrites

variable
  {before after third : Workbench}

theorem refl
    (bench : Workbench) :
    bench.Rewrites bench :=
  ⟨rfl, rfl, rfl, .refl _ _, id, id⟩

theorem trans
    (first : before.Rewrites after)
    (second : after.Rewrites third) :
    before.Rewrites third where
  path := second.path.trans first.path
  identity := second.identity.trans first.identity
  settings := second.settings.trans first.settings
  files := first.files.trans (first.identity ▸ second.files)
  alone := second.alone ∘ first.alone
  sane := second.sane ∘ first.sane

end Rewrites

/-- The temporary file follows a draft that has grown. -/
theorem rewrites_grow
    (bench : Workbench)
    {draft : Draft}
    {more : Octets}
    (grown : draft.image = bench.writer.draft.image ++ more)
    (settings : draft.settings = bench.writer.draft.settings) :
    bench.Rewrites (bench.grow draft) where
  path := rfl
  identity := rfl
  settings := settings
  sane sane := (FileSystem.evolves_edit _ _ _ sane).1
  files := FileSystem.rewrites_edit _ _ _
  alone alone := by
    refine ⟨alone.backed.grow grown, ?_⟩
    have sole :=
      alone.sole.edit
        (FileSystem.overwritten bench.writer.draft.image.length
          (draft.image.drop bench.writer.draft.image.length))
    rw [FileSystem.overwritten_length, grown, List.drop_left, ← grown] at sole
    show (bench.files.writeAt bench.writer.identity bench.writer.draft.image.length
      (draft.image.drop bench.writer.draft.image.length)).Sole bench.writer.identity draft.image
    rw [FileSystem.writeAt, grown, List.drop_left, ← grown]
    exact sole

/-- The temporary file follows a draft that was cut. -/
theorem rewrites_shrink
    (bench : Workbench)
    {draft : Draft}
    {cut : Nat}
    (shorter : draft.image = bench.writer.draft.image.take cut)
    (settings : draft.settings = bench.writer.draft.settings) :
    bench.Rewrites (bench.shrink draft) where
  path := rfl
  identity := rfl
  settings := settings
  sane sane := (FileSystem.evolves_edit _ _ _ sane).1
  files := FileSystem.rewrites_edit _ _ _
  alone alone := by
    refine ⟨alone.backed.shrink shorter, ?_⟩
    have sole := alone.sole.edit (FileSystem.resized draft.image.length)
    rw [FileSystem.resized_take shorter] at sole
    exact sole

/-! ## Operations -/

section Operations

variable
  {bench after : Workbench}

theorem rewrites_discard
    {pending : Pending}
    (discarding : bench.discard pending = .ok after) :
    bench.Rewrites after := by
  rcases discard_eq_ok discarding with ⟨draft, drafting, rfl⟩
  have same := (Draft.discard_eq_ok drafting).2.2
  have cut : draft.image = bench.writer.draft.image.take pending.offset := by
    rw [same]
  have settings : draft.settings = bench.writer.draft.settings := by
    rw [same]
    rfl
  exact rewrites_shrink bench cut settings

theorem rewrites_commit
    (bench : Workbench)
    (pending : Pending)
    (name : String) :
    bench.Rewrites (bench.commit pending name).1 := by
  rcases committing : bench.commit pending name with ⟨after, outcome⟩
  cases outcome with
  | ok _ =>
    rcases commit_eq_ok committing with ⟨draft, drafting, rfl⟩
    rcases Draft.commit_eq_ok drafting with ⟨-, -, rfl⟩
    exact ⟨rfl, rfl, rfl, .refl _ _, fun alone => ⟨alone.backed.keep rfl, alone.sole⟩, id⟩
  | error failure =>
    rcases commit_eq_error committing with rfl | discarding
    · exact .refl _
    · exact rewrites_discard discarding

variable [Zstd.Encoder]

theorem rewrites_write
    {name : String}
    {data : Octets}
    (writing : bench.write name data = .ok after) :
    bench.Rewrites after := by
  rcases write_eq_ok writing with ⟨draft, drafting, rfl⟩
  rcases Draft.write_eq_ok drafting with ⟨form, -, -, -, -, rfl⟩
  have longer :
      (bench.writer.draft.gained name data form).image = bench.writer.draft.image ++ form.1 := rfl
  exact rewrites_grow bench longer rfl

theorem rewrites_stream
    {source : Source}
    {pending : Pending}
    (streaming : bench.stream source = .ok (pending, after)) :
    bench.Rewrites after := by
  rcases stream_eq_ok streaming with ⟨draft, drafting, rfl⟩
  rcases Draft.stream_eq_ok drafting with ⟨data, form, -, -, -, -, appended⟩
  cases appended
  have longer :
      (bench.writer.draft.append data form).2.image = bench.writer.draft.image ++ form.1 := rfl
  exact rewrites_grow bench longer rfl

theorem rewrites_stream_commit
    {streamed : Workbench}
    {source : Source}
    {pending : Pending}
    {name : String}
    (streaming : bench.stream source = .ok (pending, streamed))
    (committing : streamed.commit pending name = (after, .ok ())) :
    bench.Rewrites after := by
  have commits := rewrites_commit streamed pending name
  rw [committing] at commits
  exact (rewrites_stream streaming).trans commits

/-- Octets that were streamed have a form in which they are stored. -/
theorem packs_of_stream
    {source : Source}
    {pending : Pending}
    (streaming : bench.stream source = .ok (pending, after))
    {data : Octets}
    (all : source.readAll = .ok data) :
    (Draft.packStream? bench.writer.draft.compression data).isSome = true := by
  rcases stream_eq_ok streaming with ⟨draft, drafting, -⟩
  rcases Draft.stream_eq_ok drafting with ⟨same, form, -, allToo, packing, -, -⟩
  rw [all] at allToo
  cases allToo
  rw [packing]
  rfl

/-- Octets can be streamed and taken back without a trace, unless there is no room for them. -/
theorem rewrites_stream_discard
    {data : Octets}
    (unsealed : bench.writer.draft.isSealed = false)
    (packs : (Draft.packStream? bench.writer.draft.compression data).isSome = true) :
    bench.stream (.ofOctets data) = .error (.file .tooLarge) ∨
      ∃ pending streamed shorter, bench.stream (.ofOctets data) = .ok (pending, streamed) ∧
        streamed.discard pending = .ok shorter ∧ pending.digest = sha256 data ∧
        bench.Rewrites shorter ∧ shorter.writer.draft = bench.writer.draft := by
  rcases Option.isSome_iff_exists.1 packs with ⟨form, packing⟩
  have drafting :
      bench.writer.draft.stream (.ofOctets data) = bench.writer.draft.place data form := by
    simp only [Draft.stream, unsealed, Source.ofOctets, Source.readAll, packing, if_false,
      Bool.false_eq_true]
  by_cases room :
      bench.writer.draft.image.length + form.1.length > FileSystem.maximalFile
  · left
    rw [Draft.place, if_pos room] at drafting
    simp only [Workbench.stream, drafting]
  · right
    rw [Draft.place, if_neg room] at drafting
    have streaming :
        bench.stream (.ofOctets data) =
          .ok ((bench.writer.draft.append data form).1,
            bench.grow (bench.writer.draft.append data form).2) := by
      simp only [Workbench.stream, drafting]
    rcases discard_of_stream unsealed streaming with ⟨shorter, discarding⟩
    rcases draft_of_stream_discard streaming discarding with ⟨_, all, digest, same⟩
    cases all
    exact ⟨_, _, shorter, streaming, discarding, digest,
      (rewrites_stream streaming).trans (rewrites_discard discarding), same⟩

end Operations

/-- A container that was finished keeps its path and takes no more octets. -/
theorem sealed_finish
    {bench finished : Workbench}
    {outcome : Except Failure Unit}
    (finishing : bench.finish = (finished, outcome)) :
    finished.writer.path = bench.writer.path ∧ finished.writer.draft.isSealed = true := by
  rw [finish] at finishing
  split at finishing
  · next isSealed =>
    cases finishing
    exact ⟨rfl, isSealed⟩
  · cases finishing
    exact ⟨rfl, rfl⟩

/-! ## Twins -/

/-- Two workbenches have the same draft, and their file systems look alike. -/
structure Twins (left right : Workbench) : Prop where
  path : right.writer.path = left.writer.path
  identity : right.writer.identity = left.writer.identity
  draft : right.writer.draft = left.writer.draft
  files : left.files.Twins left.writer.identity right.files
  left : left.Alone
  right : right.Alone

namespace Twins

variable
  {left right : Workbench}

/-- Twins stay twins while their drafts stay the same. -/
theorem rewrite
    (twins : left.Twins right)
    {leftAfter rightAfter : Workbench}
    (leftRewrites : left.Rewrites leftAfter)
    (rightRewrites : right.Rewrites rightAfter)
    (draft : rightAfter.writer.draft = leftAfter.writer.draft) :
    leftAfter.Twins rightAfter where
  path := by rw [rightRewrites.path, twins.path, leftRewrites.path]
  identity := by rw [rightRewrites.identity, twins.identity, leftRewrites.identity]
  draft := draft
  files := by
    rw [leftRewrites.identity]
    exact twins.files.rewrite leftRewrites.files (twins.identity ▸ rightRewrites.files)
  left := leftRewrites.alone twins.left
  right := rightRewrites.alone twins.right

theorem refl
    {bench : Workbench}
    (alone : bench.Alone) :
    bench.Twins bench :=
  ⟨rfl, rfl, rfl, .refl _ _, alone, alone⟩

theorem openSource_eq
    (twins : left.Twins right)
    (path : String) :
    left.files.openSource path = right.files.openSource path := by
  have sole := twins.right.sole
  rw [twins.identity, twins.draft] at sole
  exact twins.files.openSource_eq twins.left.sole sole path

theorem discard
    (twins : left.Twins right)
    (pending : Pending) :
    Agree Twins (left.discard pending) (right.discard pending) := by
  cases drafting : left.writer.draft.discard pending with
  | error failure =>
    simp only [Workbench.discard, twins.draft, drafting]
    exact .error failure
  | ok draft =>
    have leftDiscards : left.discard pending = .ok (left.shrink draft) := by
      simp only [Workbench.discard, drafting]
    have rightDiscards : right.discard pending = .ok (right.shrink draft) := by
      simp only [Workbench.discard, twins.draft, drafting]
    rw [leftDiscards, rightDiscards]
    exact .ok (twins.rewrite (rewrites_discard leftDiscards) (rewrites_discard rightDiscards) rfl)

theorem commit
    (twins : left.Twins right)
    (pending : Pending)
    (name : String) :
    (left.commit pending name).1.Twins (right.commit pending name).1 ∧
      (left.commit pending name).2 = (right.commit pending name).2 := by
  have same :
      (right.commit pending name).1.writer.draft = (left.commit pending name).1.writer.draft ∧
        (left.commit pending name).2 = (right.commit pending name).2 := by
    by_cases both :
        left.writer.draft.isLatest pending = true ∧ left.writer.draft.contains name = true
    · cases drafting : left.writer.draft.discard pending with
      | error failure =>
        simp only [Workbench.commit, Workbench.contains, Workbench.discard, twins.draft, drafting,
          if_pos both, and_self]
      | ok shorter =>
        simp only [Workbench.commit, Workbench.contains, Workbench.discard, twins.draft, drafting,
          if_pos both, shrink, and_self]
    · simp only [Workbench.commit, Workbench.contains, twins.draft, both, if_false, and_self]
  exact ⟨twins.rewrite (rewrites_commit _ _ _) (rewrites_commit _ _ _) same.1, same.2⟩

section Adding

variable [Zstd.Encoder]

theorem write
    (twins : left.Twins right)
    (name : String)
    (data : Octets) :
    Agree Twins (left.write name data) (right.write name data) := by
  cases drafting : left.writer.draft.write name data with
  | error failure =>
    simp only [Workbench.write, twins.draft, drafting]
    exact .error failure
  | ok draft =>
    have leftWrites : left.write name data = .ok (left.grow draft) := by
      simp only [Workbench.write, drafting]
    have rightWrites : right.write name data = .ok (right.grow draft) := by
      simp only [Workbench.write, twins.draft, drafting]
    rw [leftWrites, rightWrites]
    exact .ok (twins.rewrite (rewrites_write leftWrites) (rewrites_write rightWrites) rfl)

theorem stream
    (twins : left.Twins right)
    (source : Source) :
    Agree (fun here there => here.1 = there.1 ∧ here.2.Twins there.2) (left.stream source)
      (right.stream source) := by
  cases drafting : left.writer.draft.stream source with
  | error failure =>
    simp only [Workbench.stream, twins.draft, drafting]
    exact .error failure
  | ok streamed =>
    rcases streamed with ⟨pending, draft⟩
    have leftStreams : left.stream source = .ok (pending, left.grow draft) := by
      simp only [Workbench.stream, drafting]
    have rightStreams : right.stream source = .ok (pending, right.grow draft) := by
      simp only [Workbench.stream, twins.draft, drafting]
    rw [leftStreams, rightStreams]
    exact .ok ⟨rfl,
      twins.rewrite (rewrites_stream leftStreams) (rewrites_stream rightStreams) rfl⟩

end Adding

/-! ## Finishing -/

theorem removeTemporary
    {own : Nat}
    {leftFiles rightFiles : FileSystem}
    (files : leftFiles.Twins own rightFiles)
    (path : String) :
    (Writer.removeTemporary leftFiles path).Twins own (Writer.removeTemporary rightFiles path) := by
  unfold Writer.removeTemporary
  have removed := files.removeFile (Writer.temporaryRoute path)
  generalize leftFiles.removeFile _ = here at removed ⊢
  generalize rightFiles.removeFile _ = there at removed ⊢
  cases removed with
  | error fault => exact files
  | ok same => exact same

theorem abandon
    (twins : left.Twins right) :
    left.abandon.Twins left.writer.identity right.abandon := by
  unfold Workbench.abandon
  rw [twins.draft, twins.path]
  split
  · exact twins.files
  · exact removeTemporary twins.files left.writer.path

theorem publish
    (twins : left.Twins right) :
    left.publish.1.Twins left.writer.identity right.publish.1 ∧
      left.publish.2 = right.publish.2 := by
  unfold Workbench.publish
  simp only [twins.draft, twins.path, twins.identity]
  split
  · exact ⟨removeTemporary twins.files left.writer.path, rfl⟩
  · have completed :=
      twins.files.rewrite
        (FileSystem.rewrites_edit left.files left.writer.identity
          (FileSystem.overwritten left.writer.draft.image.length left.writer.draft.ending))
        (FileSystem.rewrites_edit right.files left.writer.identity
          (FileSystem.overwritten left.writer.draft.image.length left.writer.draft.ending))
    have moved :=
      completed.rename (Writer.temporaryRoute left.writer.path) (.ofPath left.writer.path)
    unfold FileSystem.writeAt
    generalize FileSystem.rename _ _ _ = here at moved ⊢
    generalize FileSystem.rename _ _ _ = there at moved ⊢
    cases moved with
    | error fault => exact ⟨removeTemporary completed left.writer.path, rfl⟩
    | ok same => exact ⟨same, rfl⟩

theorem finish
    (twins : left.Twins right) :
    left.finish.1.files.Twins left.writer.identity right.finish.1.files ∧
      left.finish.2 = right.finish.2 := by
  unfold Workbench.finish
  rw [twins.draft]
  split
  · exact ⟨twins.files, rfl⟩
  · exact twins.publish

end Twins

end Workbench

end BuildCapture.Container
