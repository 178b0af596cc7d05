import BuildCapture.Proofs.Pool.Blobs

/-!
# What the module pool keeps

Of all images that were added under one identity the pool keeps the first, with
the description that is read from it.
-/

namespace BuildCapture

open Container

namespace ModulePool

/--
A pool keeps, of the images that were added with their identities, the first
with each identity: it is stored, and the pool has its description.
-/
structure Kept
    (pool : ModulePool)
    (accepted : List (String × Octets))
    (images : List (ModuleId × Octets)) : Prop where
  stored : ∀ {id info}, pool.get? id = some info →
    info.id = id ∧ id ∈ pool.order ∧
      ∃ image, List.lookup id images = some image ∧ ModuleInfo.ofOctets image = .ok info ∧
        (id.entryName, image) ∈ accepted
  absent : ∀ {id}, pool.get? id = none → List.lookup id images = none

theorem lookup_append_singleton
    {α : Type}
    (entries : List (ModuleId × α))
    (id other : ModuleId)
    (value : α) :
    List.lookup other (entries ++ [(id, value)]) =
      (List.lookup other entries).or (if other = id then some value else none) := by
  rw [List.lookup_append]
  congr 1
  rw [List.lookup_cons]
  by_cases same : other = id
  · rw [if_pos same, beq_iff_eq.2 same]
  · rw [if_neg same, beq_false_of_ne same]
    rfl

theorem get?_remember
    (pool : ModulePool)
    (info : ModuleInfo)
    (id : ModuleId) :
    (pool.remember info).get? id =
      (pool.get? id).or (if id = info.id then some info else none) :=
  lookup_append_singleton pool.known info.id id info

namespace Kept

variable
  {pool : ModulePool}
  {accepted : List (String × Octets)}
  {images : List (ModuleId × Octets)}

theorem empty : Kept {} [] [] where
  stored known := nomatch known
  absent _ := rfl

/-- More entries of the container do not matter. -/
theorem append
    (kept : pool.Kept accepted images)
    (more : List (String × Octets)) :
    pool.Kept (accepted ++ more) images where
  stored known := by
    rcases kept.stored known with ⟨same, listed, image, first, described, there⟩
    exact ⟨same, listed, image, first, described, List.mem_append_left more there⟩
  absent := kept.absent

/-- Another image with an identity that is known is not kept. -/
theorem again
    (kept : pool.Kept accepted images)
    {id : ModuleId}
    {info : ModuleInfo}
    (known : pool.get? id = some info)
    (image : Octets) :
    pool.Kept accepted (images ++ [(id, image)]) where
  stored knownOther := by
    rcases kept.stored knownOther with ⟨same, listed, found, first, facts⟩
    refine ⟨same, listed, found, ?_, facts⟩
    rw [lookup_append_singleton, first, Option.some_or]
  absent {other} unknown := by
    have different : other ≠ id := by
      rintro rfl
      rw [known] at unknown
      cases unknown
    rw [lookup_append_singleton, kept.absent unknown, if_neg different, Option.none_or]

/-- The known identities are those of the images. -/
theorem get?_eq_none_iff
    (kept : pool.Kept accepted images)
    {id : ModuleId} :
    pool.get? id = none ↔ List.lookup id images = none := by
  refine ⟨kept.absent, fun unlisted => ?_⟩
  cases known : pool.get? id with
  | none => rfl
  | some info =>
    rcases kept.stored known with ⟨-, -, image, first, -⟩
    rw [unlisted] at first
    cases first

/-- The first image with an identity is kept once it has been stored. -/
theorem remember
    (kept : pool.Kept accepted images)
    {image : Octets}
    {info : ModuleInfo}
    (described : ModuleInfo.ofOctets image = .ok info)
    (unknown : pool.get? info.id = none) :
    (pool.remember info).Kept (accepted ++ [(info.id.entryName, image)])
      (images ++ [(info.id, image)]) where
  stored {id found} known := by
    rw [get?_remember] at known
    cases before : pool.get? id with
    | some earlier =>
      rw [before, Option.some_or] at known
      cases known
      rcases kept.stored before with ⟨same, listed, first, lookup, facts, there⟩
      refine ⟨same, List.mem_append_left _ listed, first, ?_, facts,
        List.mem_append_left _ there⟩
      rw [lookup_append_singleton, lookup, Option.some_or]
    | none =>
      rw [before, Option.none_or] at known
      split at known
      · next same =>
        cases known
        subst same
        refine ⟨rfl, ?_, image, ?_, described, ?_⟩
        · exact List.mem_append_right pool.order List.mem_cons_self
        · rw [lookup_append_singleton, kept.absent unknown, if_pos rfl, Option.none_or]
        · exact List.mem_append_right accepted List.mem_cons_self
      · cases known
  absent {id} unknownAfter := by
    rw [get?_remember, Option.or_eq_none_iff] at unknownAfter
    rcases unknownAfter with ⟨before, notNew⟩
    have different : id ≠ info.id := by
      intro same
      rw [if_pos same] at notNew
      cases notNew
    rw [lookup_append_singleton, kept.absent before, if_neg different, Option.none_or]

/-- Descriptions that a pool has it still has when more images are kept. -/
theorem grows
    (kept : pool.Kept accepted images)
    {more : ModulePool}
    {acceptedMore : List (String × Octets)}
    {imagesMore : List (ModuleId × Octets)}
    (keptMore : more.Kept acceptedMore imagesMore)
    (first : ∀ id image, List.lookup id images = some image →
      List.lookup id imagesMore = some image)
    {id : ModuleId}
    {info : ModuleInfo}
    (known : pool.get? id = some info) :
    more.get? id = some info := by
  rcases kept.stored known with ⟨-, -, image, lookup, described, -⟩
  have lookupMore := first id image lookup
  cases found : more.get? id with
  | none =>
    rw [keptMore.absent found] at lookupMore
    cases lookupMore
  | some other =>
    rcases keptMore.stored found with ⟨-, -, otherImage, otherLookup, otherDescribed, -⟩
    rw [lookupMore] at otherLookup
    cases otherLookup
    rw [described] at otherDescribed
    cases otherDescribed
    rfl

end Kept

/-! ## Storing -/

/--
What storing a module leads to: the description that the pool has under its
identity is returned, the pool keeps the image if it is the first, and the
container has at most one more entry, named by the identity.
-/
structure Stored
    (image : Octets)
    (bench : Workbench)
    (accepted : List (String × Octets))
    (images : List (ModuleId × Octets))
    (info : ModuleInfo)
    (pool : ModulePool)
    (after : Workbench)
    (added : List (String × Octets)) : Prop where
  described : ∃ found, ModuleInfo.ofOctets image = .ok found ∧ found.id = info.id
  known : pool.get? info.id = some info
  named : ∀ item ∈ added, item.1 = info.id.entryName
  settled : after.Settled (accepted ++ added)
  continues : bench.Continues after
  kept : pool.Kept (accepted ++ added) (images ++ [(info.id, image)])

variable
  {pool left : ModulePool}
  {bench after : Workbench}
  {accepted : List (String × Octets)}
  {images : List (ModuleId × Octets)}
  {info : ModuleInfo}

/-- A module whose identity is known is stored already. -/
theorem Stored.again
    (kept : pool.Kept accepted images)
    {image : Octets}
    {found : ModuleInfo}
    (described : ModuleInfo.ofOctets image = .ok found)
    (known : pool.get? found.id = some info)
    (settled : bench.Settled accepted) :
    Stored image bench accepted images info pool bench [] := by
  have same := (kept.stored known).1
  constructor
  case described => exact ⟨found, described, same.symm⟩
  case known =>
    rw [same]
    exact known
  case named => exact fun item member => absurd member List.not_mem_nil
  case settled =>
    rw [List.append_nil]
    exact settled
  case continues => exact ⟨rfl, .refl _⟩
  case kept =>
    rw [List.append_nil, same]
    exact kept.again known image

/-- A module that was accepted under its name is stored. -/
theorem Stored.fresh
    (kept : pool.Kept accepted images)
    {image : Octets}
    (described : ModuleInfo.ofOctets image = .ok info)
    (unknown : pool.get? info.id = none)
    (settled : after.Settled (accepted ++ [(info.id.entryName, image)]))
    (continues : bench.Continues after) :
    Stored image bench accepted images info (pool.remember info) after
      [(info.id.entryName, image)] := by
  constructor
  case described => exact ⟨info, described, rfl⟩
  case known => rw [get?_remember, unknown, if_pos rfl, Option.none_or]
  case named =>
    intro item member
    rw [List.mem_singleton.1 member]
  case settled => exact settled
  case continues => exact continues
  case kept => exact kept.remember described unknown

variable [Zstd.Encoder]

/-- The module that a source yields is stored under the description that was read from it. -/
theorem stored_of_putSource
    (kept : pool.Kept accepted images)
    (settled : bench.Settled accepted)
    {source : Source}
    {found : ModuleInfo}
    (described : ModuleInfo.ofOctets source.data = .ok found)
    (unknown : pool.get? found.id = none)
    (putting : pool.putSource bench found source = .ok (info, left, after)) :
    source.fault = none ∧
      ∃ added, Stored source.data bench accepted images info left after added := by
  rcases putSource_eq_ok putting with ⟨pending, streamed, streaming, committing, rfl, rfl⟩
  rcases settled.stream_commit streaming committing with ⟨data, all, -, settledAfter, continues⟩
  rw [← Source.data_of_readAll all] at settledAfter
  exact ⟨Source.fault_of_readAll all, _, .fresh kept described unknown settledAfter continues⟩

/-- The module at a path is stored, and its file was read to its end if its identity is new. -/
theorem stored_of_putFile
    (kept : pool.Kept accepted images)
    (settled : bench.Settled accepted)
    {path : String}
    (putting : pool.putFile bench path = .ok (info, left, after)) :
    ∃ source added,
      bench.files.openSource path = .ok source ∧
        (pool.get? info.id = none → source.fault = none) ∧
        Stored source.data bench accepted images info left after added := by
  rcases putFile_eq_ok putting with
    ⟨source, found, opened, described, ⟨known, rfl, rfl⟩ | ⟨unknown, storing⟩⟩
  · have again := Stored.again kept described known settled
    exact ⟨source, _, opened, fun unknown => absurd (unknown.symm.trans again.known) nofun, again⟩
  · rcases stored_of_putSource kept settled described unknown storing with ⟨whole, added, facts⟩
    exact ⟨source, added, opened, fun _ => whole, facts⟩

/-! ## What storing takes -/

/-- Storing a module takes nothing if its identity is known, and else one entry of the container. -/
inductive Takes (info : ModuleInfo) (pool : ModulePool) (draft : Draft) :
    ModulePool → Draft → Prop
  | again {id : ModuleId} (known : pool.get? id = some info) : Takes info pool draft pool draft
  | fresh (unknown : pool.get? info.id = none) (image : Octets) (form : Octets × UInt16) :
    Takes info pool draft (pool.remember info) (draft.gained info.id.entryName image form)

omit [Zstd.Encoder] in
/-- A description that was known before is known afterwards. -/
theorem Takes.grows
    {draft more : Draft}
    (takes : Takes info pool draft left more)
    {id : ModuleId}
    {other : ModuleInfo}
    (known : pool.get? id = some other) :
    left.get? id = some other := by
  cases takes with
  | again _ => exact known
  | fresh unknown image form => rw [get?_remember, known, Option.some_or]

theorem takes_of_putSource
    {source : Source}
    {found : ModuleInfo}
    (unknown : pool.get? found.id = none)
    (putting : pool.putSource bench found source = .ok (info, left, after)) :
    Takes info pool bench.writer.draft left after.writer.draft := by
  rcases putSource_eq_ok putting with ⟨pending, streamed, streaming, committing, rfl, rfl⟩
  rcases Workbench.draft_of_stream_commit streaming committing with ⟨image, form, -, -, -, draft⟩
  rw [draft]
  exact .fresh unknown image form

theorem takes_of_putFile
    {path : String}
    (putting : pool.putFile bench path = .ok (info, left, after)) :
    Takes info pool bench.writer.draft left after.writer.draft := by
  rcases putFile_eq_ok putting with
    ⟨source, found, -, -, ⟨known, rfl, rfl⟩ | ⟨unknown, storing⟩⟩
  · exact .again known
  · exact takes_of_putSource unknown storing

end ModulePool

end BuildCapture
