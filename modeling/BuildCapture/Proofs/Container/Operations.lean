import BuildCapture.Container.Writer

/-!
# What operations on a container in the making do

An operation that succeeds has done one thing, under the conditions that it
checks: octets are appended, entries get names, or the latest octets are taken
back.  The temporary file follows the draft.  This is said here once for each
operation, so that nothing else has to look into the operations.
-/

namespace BuildCapture.Container

/-! ## Drafts -/

namespace Draft

/-- The draft with one more entry, which is stored behind all others in some form. -/
def gained
    (draft : Draft)
    (name : String)
    (data : Octets)
    (form : Octets × UInt16) :
    Draft :=
  { draft with
    image := draft.image ++ form.1
    entries := draft.entries ++
      [(Pending.ofStored draft.image.length data form.1 form.2).named name] }

/-- One more entry takes its own name and no other. -/
theorem contains_gained
    (draft : Draft)
    (name other : String)
    (data : Octets)
    (form : Octets × UInt16) :
    (draft.gained name data form).contains other = (draft.contains other || name == other) := by
  rw [contains, gained, List.any_append, List.any_cons, List.any_nil, Bool.or_false]
  rfl

variable
  {draft after : Draft}
  {name : String}
  {data : Octets}
  {form : Octets × UInt16}
  {pending : Pending}
  {failure : Failure}

/-- What was placed was appended, and the file can hold it. -/
theorem place_eq_ok_iff
    {placed : Pending × Draft} :
    draft.place data form = .ok placed ↔
      draft.image.length + form.1.length ≤ FileSystem.maximalFile ∧
        placed = draft.append data form := by
  rw [place]
  split
  · next tooLong =>
    constructor
    · intro failed
      cases failed
    · intro facts
      exact absurd facts.1 (Nat.not_le.2 tooLong)
  · next fits =>
    constructor
    · intro result
      exact ⟨Nat.le_of_not_lt fits, (Except.ok.inj result).symm⟩
    · intro facts
      rw [facts.2]

theorem place_eq_error
    (placing : draft.place data form = .error failure) :
    FileSystem.maximalFile < draft.image.length + form.1.length ∧
      failure = .file .tooLarge := by
  rw [place] at placing
  split at placing
  · next tooLong =>
    cases placing
    exact ⟨tooLong, rfl⟩
  · cases placing

section Adding

variable [Zstd.Encoder]

/-- Octets from memory get a name that is free, in their form, behind all others. -/
theorem write_eq_ok
    (writing : draft.write name data = .ok after) :
    ∃ form, draft.contains name = false ∧ pack? draft.compression data = some form ∧
      draft.isSealed = false ∧
      draft.image.length + form.1.length ≤ FileSystem.maximalFile ∧
      after = draft.gained name data form := by
  rw [write] at writing
  split at writing
  · cases writing
  next free =>
  split at writing
  · cases writing
  next form packing =>
  split at writing
  · cases writing
  next unsealed =>
  split at writing
  · cases writing
  next placed grown placing =>
  cases writing
  rcases place_eq_ok_iff.1 placing with ⟨fits, appended⟩
  cases appended
  exact ⟨form, Bool.not_eq_true _ ▸ free, packing, Bool.not_eq_true _ ▸ unsealed, fits, rfl⟩

/-- Octets from memory are refused for their name, for want of a form or of room, or too late. -/
theorem write_eq_error
    (writing : draft.write name data = .error failure) :
    draft.contains name = true ∧ failure = .unsupported .duplicateEntry ∨
      pack? draft.compression data = none ∧ failure = .file .uncompressed ∨
      draft.isSealed = true ∧ failure = .alreadySealed ∨
      ∃ form, pack? draft.compression data = some form ∧
        FileSystem.maximalFile < draft.image.length + form.1.length ∧
        failure = .file .tooLarge := by
  rw [write] at writing
  split at writing
  · next taken =>
    cases writing
    exact Or.inl ⟨taken, rfl⟩
  refine Or.inr ?_
  split at writing
  · next formless =>
    cases writing
    exact Or.inl ⟨formless, rfl⟩
  next form packing =>
  refine Or.inr ?_
  split at writing
  · next isSealed =>
    cases writing
    exact Or.inl ⟨isSealed, rfl⟩
  split at writing
  · next cause placing =>
    cases writing
    exact Or.inr ⟨form, packing, place_eq_error placing⟩
  · cases writing

/-- All octets of a source are pending, in their form, behind all others. -/
theorem stream_eq_ok
    {source : Source}
    (streaming : draft.stream source = .ok (pending, after)) :
    ∃ data form, draft.isSealed = false ∧ source.readAll = .ok data ∧
      packStream? draft.compression data = some form ∧
      draft.image.length + form.1.length ≤ FileSystem.maximalFile ∧
      (pending, after) = draft.append data form := by
  rw [stream] at streaming
  split at streaming
  · cases streaming
  next unsealed =>
  split at streaming
  · cases streaming
  next data all =>
  split at streaming
  · cases streaming
  next form packing =>
  rcases place_eq_ok_iff.1 streaming with ⟨fits, appended⟩
  exact ⟨data, form, Bool.not_eq_true _ ▸ unsealed, all, packing, fits, appended⟩

end Adding

/-- The latest octets are taken back. -/
theorem discard_eq_ok
    (discarding : draft.discard pending = .ok after) :
    draft.isLatest pending = true ∧ draft.isSealed = false ∧
      after = { draft with image := draft.image.take pending.offset } := by
  rw [discard] at discarding
  split at discarding
  · cases discarding
  next latest =>
  split at discarding
  · cases discarding
  next unsealed =>
  cases discarding
  exact ⟨by simpa using latest, Bool.not_eq_true _ ▸ unsealed, rfl⟩

/-- The latest octets get a name that is free. -/
theorem commit_eq_ok
    (committing : draft.commit pending name = (after, .ok ())) :
    draft.isLatest pending = true ∧ draft.contains name = false ∧
      after = { draft with entries := draft.entries ++ [pending.named name] } := by
  rw [commit] at committing
  split at committing
  · cases committing
  next latest =>
  split at committing
  · split at committing
    · cases committing
    · cases committing
  next free =>
  cases committing
  exact ⟨by simpa using latest, Bool.not_eq_true _ ▸ free, rfl⟩

/-- Octets that get no name stay pending, or they are taken back because the name is taken. -/
theorem commit_eq_error
    (committing : draft.commit pending name = (after, .error failure)) :
    after = draft ∨
      draft.contains name = true ∧ draft.discard pending = .ok after ∧
        failure = .unsupported .duplicateEntry := by
  rw [commit] at committing
  split at committing
  · cases committing
    exact Or.inl rfl
  split at committing
  · next taken =>
    split at committing
    · cases committing
      exact Or.inl rfl
    · next shorter discarding =>
      cases committing
      exact Or.inr ⟨taken, discarding, rfl⟩
  · cases committing

end Draft

/-! ## Writers -/

namespace Writer

variable
  {files prepared after : FileSystem}
  {path : String}
  {config : WriterConfig}
  {writer : Writer}

/-- Once the directories above a container are there, its file is made. -/
theorem create_eq_ok
    (creating : Writer.create files path config = (after, .ok writer)) :
    ∃ prepared, files.createDirectories (Route.ofPath path).parent = (prepared, .ok ()) ∧
      Writer.createFile prepared path config = (after, .ok writer) := by
  rw [create] at creating
  split at creating
  · cases creating
  next prepared making => exact ⟨prepared, making, creating⟩

/-- A new temporary file gets the image of an empty draft. -/
theorem createFile_eq_ok
    (creating : Writer.createFile prepared path config = (after, .ok writer)) :
    ∃ identity created,
      (removeTemporary prepared path).createFile (temporaryRoute path) =
        .ok (identity, created) ∧
      after = created.writeAt identity 0 (Draft.new config).image ∧
      writer = { path, draft := Draft.new config, identity } := by
  rw [createFile] at creating
  simp only at creating
  split at creating
  · cases creating
  next identity created making =>
  cases creating
  exact ⟨identity, created, making, rfl, rfl⟩

end Writer

/-! ## Workbenches -/

namespace Workbench

variable
  {bench after : Workbench}
  {name : String}
  {data : Octets}
  {pending : Pending}
  {failure : Failure}

section Adding

variable [Zstd.Encoder]

theorem write_eq_ok
    (writing : bench.write name data = .ok after) :
    ∃ draft, bench.writer.draft.write name data = .ok draft ∧ after = bench.grow draft := by
  rw [write] at writing
  split at writing
  · cases writing
  next draft drafting =>
  cases writing
  exact ⟨draft, drafting, rfl⟩

theorem write_eq_error
    (writing : bench.write name data = .error failure) :
    bench.writer.draft.write name data = .error failure := by
  rw [write] at writing
  split at writing
  · next drafting =>
    cases writing
    exact drafting
  · cases writing

theorem stream_eq_ok
    {source : Source}
    (streaming : bench.stream source = .ok (pending, after)) :
    ∃ draft, bench.writer.draft.stream source = .ok (pending, draft) ∧
      after = bench.grow draft := by
  rw [stream] at streaming
  split at streaming
  · cases streaming
  next latest draft drafting =>
  cases streaming
  exact ⟨draft, drafting, rfl⟩

theorem stream_eq_error
    {source : Source}
    (streaming : bench.stream source = .error failure) :
    bench.writer.draft.stream source = .error failure := by
  rw [stream] at streaming
  split at streaming
  · next drafting =>
    cases streaming
    exact drafting
  · cases streaming

end Adding

theorem discard_eq_ok
    (discarding : bench.discard pending = .ok after) :
    ∃ draft, bench.writer.draft.discard pending = .ok draft ∧ after = bench.shrink draft := by
  rw [discard] at discarding
  split at discarding
  · cases discarding
  next draft drafting =>
  cases discarding
  exact ⟨draft, drafting, rfl⟩

/-- The draft gets an entry, and the file stays as it is. -/
theorem commit_eq_ok
    (committing : bench.commit pending name = (after, .ok ())) :
    ∃ draft, bench.writer.draft.commit pending name = (draft, .ok ()) ∧
      after = { bench with writer := { bench.writer with draft } } := by
  rw [commit] at committing
  split at committing
  · split at committing
    · cases committing
    · cases committing
  split at committing
  next draft outcome drafting =>
  cases committing
  exact ⟨draft, drafting, rfl⟩

/-- Everything stays as it is, or the octets are taken back because the name is taken. -/
theorem commit_eq_error
    (committing : bench.commit pending name = (after, .error failure)) :
    after = bench ∨ bench.discard pending = .ok after := by
  rw [commit] at committing
  split at committing
  · split at committing
    · cases committing
      exact Or.inl rfl
    · next shorter discarding =>
      cases committing
      exact Or.inr discarding
  next notBoth =>
  split at committing
  next draft outcome drafting =>
  cases committing
  rcases Draft.commit_eq_error drafting with rfl | ⟨taken, discarding, -⟩
  · exact Or.inl rfl
  · exact absurd ⟨(Draft.discard_eq_ok discarding).1, taken⟩ notBoth

/--
A container is published by completing its file, which is not too long, and
moving it to the final path.
-/
theorem finish_eq_ok
    (finishing : bench.finish = (after, .ok ())) :
    ∃ files, bench.writer.draft.isSealed = false ∧
      bench.writer.draft.sealedImage.length ≤ FileSystem.maximalFile ∧
      (bench.files.writeAt bench.writer.identity bench.writer.draft.image.length
          bench.writer.draft.ending).rename (Writer.temporaryRoute bench.writer.path)
          (.ofPath bench.writer.path) = .ok files ∧
      after = { files, writer := { bench.writer with draft := bench.writer.draft.sealed } } := by
  rw [finish] at finishing
  split at finishing
  · cases finishing
  next unsealed =>
  split at finishing
  next files outcome publishing =>
  cases finishing
  rw [publish] at publishing
  simp only at publishing
  split at publishing
  · cases publishing
  next fits =>
  split at publishing
  · cases publishing
  next published moved =>
  cases publishing
  exact ⟨_, Bool.not_eq_true _ ▸ unsealed, Nat.le_of_not_lt fits, moved, rfl⟩

end Workbench

end BuildCapture.Container
