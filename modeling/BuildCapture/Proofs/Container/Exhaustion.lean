import BuildCapture.Proofs.Container.Twins
import Mathlib.Algebra.GroupWithZero.Nat

/-!
# What can stop a writer

A writer that is not sealed, and that is asked for a name that is not taken,
can only fail for want of room: the file would be too long, or there is no
memory for compressing.  It fails only if what is to be stored does not fit
behind what is stored already, and stores at most that.  Publishing can fail in
the same way, or because the directories at the final path do not admit a file.
-/

namespace BuildCapture

/-- A failure for want of room in the file, or of memory for compressing. -/
inductive Failure.OfExhaustion : Failure → Prop
  | tooLarge : OfExhaustion (.file .tooLarge)
  | uncompressed : OfExhaustion (.file .uncompressed)

/-- Want of room concerns the archive, not the invocation. -/
theorem Failure.OfExhaustion.not_scoped
    {failure : Failure}
    (exhaustion : failure.OfExhaustion) :
    failure.isInvocationScoped = false := by
  cases exhaustion <;> rfl

/-! ## Moving files -/

namespace FileSystem

/-- A file could stand at the end of a route. -/
def Admits
    (files : FileSystem)
    (route : Route) :
    Prop :=
  route.endsInDirectory = false ∧
    ∃ location, files.locate route = .ok location ∧ files.isDirectory? location ≠ some true

/-- A file can be moved to where a file could stand, and nowhere else. -/
theorem rename_isOk_iff
    {files : FileSystem}
    {source target : Route} :
    (∃ after, files.rename source target = .ok after) ↔
      (∃ origin identity stamp content flaw,
          files.find source = .ok (origin, .file identity stamp content flaw)) ∧
        files.Admits target := by
  unfold rename Admits isDirectory?
  constructor
  · rintro ⟨after, moved⟩
    split at moved
    · cases moved
    · cases moved
    · cases moved
    · next origin identity stamp content flaw location found located =>
      split at moved
      · cases moved
      next plain =>
      split at moved
      · cases moved
      next free =>
      refine ⟨⟨origin, identity, stamp, content, flaw, found⟩, by simpa using plain, location,
        located, ?_⟩
      intro directory
      rw [Option.map_eq_some_iff] at directory
      rcases directory with ⟨node, standing, kind⟩
      cases node with
      | directory => exact free standing
      | file _ _ _ _ => cases kind
  · rintro ⟨⟨origin, identity, stamp, content, flaw, found⟩, plain, location, located, free⟩
    simp only [found, located, plain, Bool.false_eq_true, if_false]
    split
    · next directory =>
      rw [directory] at free
      exact absurd rfl free
    · exact ⟨_, rfl⟩

/-- Two file systems have the same directories, and files at the same places. -/
structure SameShape (left right : FileSystem) : Prop where
  workingDirectory : right.workingDirectory = left.workingDirectory
  kinds : ∀ location, left.isDirectory? location = right.isDirectory? location

theorem SameShape.symm
    {left right : FileSystem}
    (shape : left.SameShape right) :
    right.SameShape left :=
  ⟨shape.workingDirectory.symm, fun location => (shape.kinds location).symm⟩

theorem Admits.congr
    {left right : FileSystem}
    {route : Route}
    (admits : left.Admits route)
    (shape : left.SameShape right) :
    right.Admits route := by
  rcases admits with ⟨plain, location, located, free⟩
  refine ⟨plain, location, ?_, ?_⟩
  · rw [← locate_congr shape.workingDirectory shape.kinds route]
    exact located
  · rw [← shape.kinds location]
    exact free

theorem Rewrites.sameShape
    {own : Nat}
    {before after : FileSystem}
    (rewrites : before.Rewrites own after) :
    before.SameShape after :=
  ⟨rewrites.workingDirectory, rewrites.isDirectory?_eq⟩

end FileSystem

namespace Container

variable [Zstd.Encoder]

/-! ## Drafts -/

namespace Draft

/-- How many octets a form has, if there is one. -/
def formLength : Option (Octets × UInt16) → Nat
  | none => 0
  | some form => form.1.length

/-- How many octets data takes at most, in whichever form it is stored. -/
def weight
    (compression : CompressionConfig)
    (data : Octets) :
    Nat :=
  max (formLength (pack? compression data)) (formLength (packStream? compression data))

/-- A draft has no room for data, or there is no form in which the data could be stored. -/
inductive Lacks (draft : Draft) (data : Octets) : Failure → Prop
  | tooLarge
    (full : FileSystem.maximalFile <
      draft.image.length + weight draft.compression data) :
    Lacks draft data (.file .tooLarge)
  | uncompressed
    (formless : pack? draft.compression data = none ∨ packStream? draft.compression data = none) :
    Lacks draft data (.file .uncompressed)

/-- All contents have a form and fit behind what a draft has stored, whichever forms they take. -/
def HasRoomFor
    (draft : Draft)
    (contents : List Octets) :
    Prop :=
  (∀ data ∈ contents,
      (pack? draft.compression data).isSome ∧ (packStream? draft.compression data).isSome) ∧
    draft.image.length + (contents.map (weight draft.compression)).sum ≤ FileSystem.maximalFile

instance
    (draft : Draft)
    (contents : List Octets) :
    Decidable (draft.HasRoomFor contents) :=
  inferInstanceAs (Decidable (_ ∧ _))

/-- A draft has become longer by at most what data takes. -/
structure GrowsBy (before : Draft) (data : Octets) (after : Draft) : Prop where
  compression : after.compression = before.compression
  length : after.image.length ≤ before.image.length + weight before.compression data

variable
  {draft after : Draft}
  {data : Octets}
  {form : Octets × UInt16}
  {failure : Failure}

theorem Lacks.ofExhaustion
    (lacks : draft.Lacks data failure) :
    failure.OfExhaustion := by
  cases lacks with
  | tooLarge _ => exact .tooLarge
  | uncompressed _ => exact .uncompressed

namespace HasRoomFor

variable {rest : List Octets}

/-- What there is room for is not lacking any. -/
theorem not_lacks
    (room : draft.HasRoomFor (data :: rest)) :
    ¬ draft.Lacks data failure := by
  rcases room with ⟨formed, short⟩
  rcases formed data List.mem_cons_self with ⟨whole, streamed⟩
  rw [List.map_cons, List.sum_cons] at short
  intro lacks
  cases lacks with
  | tooLarge full => omega
  | uncompressed formless =>
    rcases formless with none | none
    · rw [none] at whole
      cases whole
    · rw [none] at streamed
      cases streamed

/-- After the first of several contents there is room for the others. -/
theorem grown
    (room : draft.HasRoomFor (data :: rest))
    (grows : draft.GrowsBy data after) :
    after.HasRoomFor rest := by
  rcases room with ⟨formed, short⟩
  have longer := grows.length
  rw [List.map_cons, List.sum_cons] at short
  rw [HasRoomFor, grows.compression]
  exact ⟨fun other member => formed other (List.mem_cons_of_mem _ member), by omega⟩

end HasRoomFor

/-- A draft that stays as it is has not become longer. -/
theorem GrowsBy.refl
    (draft : Draft)
    (data : Octets) :
    draft.GrowsBy data draft :=
  ⟨rfl, Nat.le_add_right _ _⟩

theorem length_le_weight_of_pack
    {compression : CompressionConfig}
    (packing : pack? compression data = some form) :
    form.1.length ≤ weight compression data := by
  rw [weight, packing]
  exact Nat.le_max_left _ _

theorem length_le_weight_of_packStream
    {compression : CompressionConfig}
    (packing : packStream? compression data = some form) :
    form.1.length ≤ weight compression data := by
  rw [weight, packing]
  exact Nat.le_max_right _ _

theorem lacks_of_place
    (fits : form.1.length ≤ weight draft.compression data)
    (placing : draft.place data form = .error failure) :
    draft.Lacks data failure := by
  rcases place_eq_error placing with ⟨full, rfl⟩
  exact .tooLarge (by omega)

theorem lacks_of_write
    {name : String}
    (unsealed : draft.isSealed = false)
    (free : draft.contains name = false)
    (writing : draft.write name data = .error failure) :
    draft.Lacks data failure := by
  rcases write_eq_error writing with
    ⟨taken, -⟩ | ⟨formless, rfl⟩ | ⟨isSealed, -⟩ | ⟨form, packing, full, rfl⟩
  · rw [free] at taken
    cases taken
  · exact .uncompressed (Or.inl formless)
  · rw [unsealed] at isSealed
    cases isSealed
  · have fits := length_le_weight_of_pack packing
    exact .tooLarge (by omega)

theorem growsBy_of_write
    {name : String}
    (writing : draft.write name data = .ok after) :
    draft.GrowsBy data after := by
  rcases write_eq_ok writing with ⟨form, -, packing, -, -, rfl⟩
  refine ⟨rfl, ?_⟩
  show (draft.image ++ form.1).length ≤ _
  rw [List.length_append]
  exact Nat.add_le_add_left (length_le_weight_of_pack packing) _

theorem error_of_stream
    {source : Source}
    (unsealed : draft.isSealed = false)
    (streaming : draft.stream source = .error failure) :
    (∃ data, source.readAll = .ok data ∧ draft.Lacks data failure) ∨
      ∃ fault, source.fault = some fault ∧ failure = .file fault := by
  simp only [stream, unsealed, Source.readAll, Bool.false_eq_true, if_false] at streaming
  cases broken : source.fault with
  | some fault =>
    rw [broken] at streaming
    cases streaming
    exact Or.inr ⟨fault, rfl, rfl⟩
  | none =>
    rw [broken] at streaming
    refine Or.inl ⟨source.data, by rw [Source.readAll, broken], ?_⟩
    simp only at streaming
    split at streaming
    · next formless =>
      cases streaming
      exact .uncompressed (Or.inr formless)
    · next form packing =>
      exact lacks_of_place (length_le_weight_of_packStream packing) streaming

theorem growsBy_of_stream
    {source : Source}
    {pending : Pending}
    (streaming : draft.stream source = .ok (pending, after)) :
    ∃ data, source.readAll = .ok data ∧ draft.GrowsBy data after := by
  rcases stream_eq_ok streaming with ⟨data, form, -, all, packing, -, appended⟩
  cases appended
  refine ⟨data, all, rfl, ?_⟩
  show (draft.image ++ form.1).length ≤ _
  rw [List.length_append]
  exact Nat.add_le_add_left (length_le_weight_of_packStream packing) _

end Draft

/-! ## Writers -/

namespace Workbench

variable
  {bench streamed : Workbench}
  {source : Source}
  {pending : Pending}
  {failure : Failure}

theorem lacks_of_write
    {name : String}
    {data : Octets}
    (unsealed : bench.writer.draft.isSealed = false)
    (free : bench.contains name = false)
    (writing : bench.write name data = .error failure) :
    bench.writer.draft.Lacks data failure :=
  Draft.lacks_of_write unsealed free (write_eq_error writing)

theorem growsBy_of_write
    {name : String}
    {data : Octets}
    {written : Workbench}
    (writing : bench.write name data = .ok written) :
    bench.writer.draft.GrowsBy data written.writer.draft := by
  rcases write_eq_ok writing with ⟨draft, drafting, rfl⟩
  exact Draft.growsBy_of_write drafting

theorem error_of_stream
    (unsealed : bench.writer.draft.isSealed = false)
    (streaming : bench.stream source = .error failure) :
    (∃ data, source.readAll = .ok data ∧ bench.writer.draft.Lacks data failure) ∨
      ∃ fault, source.fault = some fault ∧ failure = .file fault :=
  Draft.error_of_stream unsealed (stream_eq_error streaming)

/-- Octets that are streamed and get a name take no more than they take in some form. -/
theorem growsBy_of_stream_commit
    (streaming : bench.stream source = .ok (pending, streamed))
    {committed : Workbench}
    {name : String}
    (committing : streamed.commit pending name = (committed, .ok ())) :
    ∃ data, source.readAll = .ok data ∧
      bench.writer.draft.GrowsBy data committed.writer.draft := by
  rcases stream_eq_ok streaming with ⟨draft, drafting, rfl⟩
  rcases commit_eq_ok committing with ⟨left, naming, rfl⟩
  rcases Draft.commit_eq_ok naming with ⟨-, -, rfl⟩
  rcases Draft.growsBy_of_stream drafting with ⟨data, all, grows⟩
  exact ⟨data, all, grows.compression, grows.length⟩

/-- Streamed octets get a name that is not taken. -/
theorem commit_of_stream
    (streaming : bench.stream source = .ok (pending, streamed))
    {name : String}
    (free : bench.contains name = false) :
    (streamed.commit pending name).2 = .ok () := by
  rcases pending_of_stream streaming with ⟨data, form, -, rfl, grown⟩
  have still : streamed.writer.draft.contains name = false := by
    rw [grown]
    exact free
  have latest := latest_of_stream streaming
  simp only [commit, contains, still, Draft.commit, latest, Bool.false_eq_true, and_false, if_false,
    Bool.not_true]

/-! ## Publishing -/

omit [Zstd.Encoder] in
/-- A container can be published where a file could stand. -/
theorem admits_of_finish
    {finished : Workbench}
    (finishing : bench.finish = (finished, .ok ())) :
    bench.files.Admits (.ofPath bench.writer.path) := by
  rcases finish_eq_ok finishing with ⟨published, -, -, moved, -⟩
  have completed :=
    FileSystem.rewrites_edit bench.files bench.writer.identity
      (FileSystem.overwritten bench.writer.draft.image.length bench.writer.draft.ending)
  exact (FileSystem.rename_isOk_iff.1 ⟨published, moved⟩).2.congr completed.sameShape.symm

omit [Zstd.Encoder] in
/-- Where a file could stand, a container can only fail to be published for want of room. -/
theorem error_of_finish
    {finished : Workbench}
    (backed : bench.Backed)
    (unsealed : bench.writer.draft.isSealed = false)
    (admits : bench.files.Admits (.ofPath bench.writer.path))
    (finishing : bench.finish = (finished, .error failure)) :
    failure = .file .tooLarge ∧
      FileSystem.maximalFile < bench.writer.draft.sealedImage.length := by
  simp only [finish, unsealed, Bool.false_eq_true, if_false, Prod.mk.injEq] at finishing
  have publishing := finishing.2
  rw [publish] at publishing
  simp only at publishing
  split at publishing
  · next full =>
    cases publishing
    exact ⟨rfl, full⟩
  rcases backed with ⟨location, stamp, found⟩
  let change := FileSystem.overwritten bench.writer.draft.image.length bench.writer.draft.ending
  have completed := FileSystem.rewrites_edit bench.files bench.writer.identity change
  have still := FileSystem.find_edit found change
  rcases
      FileSystem.rename_isOk_iff.2
        ⟨⟨_, _, _, _, _, still⟩, admits.congr completed.sameShape⟩ with
    ⟨published, moved⟩
  simp only [FileSystem.writeAt, change] at publishing moved
  rw [moved] at publishing
  cases publishing

end Workbench

end Container

end BuildCapture
