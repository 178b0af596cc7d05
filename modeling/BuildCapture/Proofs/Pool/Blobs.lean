import BuildCapture.Proofs.Container.Settled
import BuildCapture.Proofs.Pool.Operations

/-!
# What the blob pool keeps

The pool knows exactly the keys of the contents that were added, and under each
key the container has one of these contents.  A content that is added from
memory and one that is read from a file keep this up alike.
-/

namespace BuildCapture

open Container

namespace BlobPool

/-- The keys of a pool are those of the added contents, and each names one of them. -/
structure Kept
    (pool : BlobPool)
    (accepted : List (String × Octets))
    (contents : List Octets) : Prop where
  stored : ∀ {key}, pool.contains key = true →
    ∃ data ∈ contents, ContentKey.of data = key ∧ (key.entryName, data) ∈ accepted
  added : ∀ {data}, data ∈ contents → pool.contains (.of data) = true

theorem contains_remember
    (pool : BlobPool)
    (key other : ContentKey)
    (length : Nat) :
    (pool.remember key length).contains other = (pool.contains other || key == other) := by
  simp [contains, remember]

namespace Kept

variable
  {pool : BlobPool}
  {accepted : List (String × Octets)}
  {contents : List Octets}

theorem empty : Kept {} [] [] where
  stored known := nomatch known
  added inside := nomatch inside

/-- More entries of the container do not matter. -/
theorem append
    (kept : pool.Kept accepted contents)
    (more : List (String × Octets)) :
    pool.Kept (accepted ++ more) contents where
  stored known := by
    rcases kept.stored known with ⟨data, inside, keyed, there⟩
    exact ⟨data, inside, keyed, List.mem_append_left more there⟩
  added := kept.added

/-- A content whose key is known is kept already. -/
theorem again
    (kept : pool.Kept accepted contents)
    {data : Octets}
    (known : pool.contains (.of data) = true) :
    pool.Kept accepted (contents ++ [data]) where
  stored knownKey := by
    rcases kept.stored knownKey with ⟨first, inside, keyed, there⟩
    exact ⟨first, List.mem_append_left [data] inside, keyed, there⟩
  added inside := by
    rcases List.mem_append.1 inside with earlier | last
    · exact kept.added earlier
    · rw [List.mem_singleton.1 last]
      exact known

/-- A content that was stored under its key is kept. -/
theorem remember
    (kept : pool.Kept accepted contents)
    (data : Octets)
    (length : Nat) :
    (pool.remember (.of data) length).Kept
      (accepted ++ [((ContentKey.of data).entryName, data)]) (contents ++ [data]) where
  stored {key} known := by
    rw [contains_remember, Bool.or_eq_true, beq_iff_eq] at known
    rcases known with earlier | rfl
    · rcases kept.stored earlier with ⟨first, inside, keyed, there⟩
      exact ⟨first, List.mem_append_left _ inside, keyed, List.mem_append_left _ there⟩
    · refine ⟨data, ?_, rfl, ?_⟩
      · exact List.mem_append_right contents List.mem_cons_self
      · exact List.mem_append_right accepted List.mem_cons_self
  added {content} inside := by
    rw [contains_remember, Bool.or_eq_true, beq_iff_eq]
    rcases List.mem_append.1 inside with earlier | last
    · exact Or.inl (kept.added earlier)
    · rw [List.mem_singleton.1 last]
      exact Or.inr rfl

/-- Keys that a pool has it still has when more contents are kept. -/
theorem grows
    (kept : pool.Kept accepted contents)
    {more : BlobPool}
    {acceptedMore : List (String × Octets)}
    {contentsMore : List Octets}
    (keptMore : more.Kept acceptedMore contentsMore)
    (inside : ∀ data ∈ contents, data ∈ contentsMore)
    {key : ContentKey}
    (known : pool.contains key = true) :
    more.contains key = true := by
  rcases kept.stored known with ⟨data, there, rfl, -⟩
  exact keptMore.added (inside data there)

end Kept

/-! ## Storing -/

/--
What storing a content leads to: its key is returned, the pool keeps it, and
the container has at most one more entry, named by the key.
-/
structure Stored
    (data : Octets)
    (bench : Workbench)
    (accepted : List (String × Octets))
    (contents : List Octets)
    (key : ContentKey)
    (pool : BlobPool)
    (after : Workbench)
    (added : List (String × Octets)) : Prop where
  keyed : key = .of data
  named : ∀ item ∈ added, item.1 = key.entryName
  settled : after.Settled (accepted ++ added)
  continues : bench.Continues after
  kept : pool.Kept (accepted ++ added) (contents ++ [data])

variable
  {pool left : BlobPool}
  {bench after : Workbench}
  {accepted : List (String × Octets)}
  {contents : List Octets}
  {key : ContentKey}

/-- A content that is known is stored already. -/
theorem Stored.again
    (kept : pool.Kept accepted contents)
    {data : Octets}
    (known : pool.contains (.of data) = true)
    (settled : after.Settled accepted)
    (continues : bench.Continues after) :
    Stored data bench accepted contents (.of data) pool after [] where
  keyed := rfl
  named _ member := absurd member List.not_mem_nil
  settled := by
    rw [List.append_nil]
    exact settled
  continues := continues
  kept := by
    rw [List.append_nil]
    exact kept.again known

/-- A content that was accepted under its name is stored. -/
theorem Stored.fresh
    (kept : pool.Kept accepted contents)
    {data : Octets}
    (settled : after.Settled (accepted ++ [((ContentKey.of data).entryName, data)]))
    (continues : bench.Continues after)
    (length : Nat) :
    Stored data bench accepted contents (.of data) (pool.remember (.of data) length) after
      [((ContentKey.of data).entryName, data)] where
  keyed := rfl
  named item member := by
    rw [List.mem_singleton.1 member]
  settled := settled
  continues := continues
  kept := kept.remember data length

variable [Zstd.Encoder]

/-- Octets from memory are stored. -/
theorem stored_of_put
    (kept : pool.Kept accepted contents)
    (settled : bench.Settled accepted)
    {data : Octets}
    (putting : pool.put bench data = .ok (key, left, after)) :
    ∃ added, Stored data bench accepted contents key left after added := by
  rcases put_eq_ok putting with ⟨rfl, ⟨known, rfl, rfl⟩ | ⟨-, rfl, writing⟩⟩
  · exact ⟨_, .again kept known settled ⟨rfl, .refl _⟩⟩
  · exact ⟨_, .fresh kept (settled.write writing) (Workbench.continues_write writing) data.length⟩

/-- All octets of a source are stored. -/
theorem stored_of_putSource
    (kept : pool.Kept accepted contents)
    (settled : bench.Settled accepted)
    {source : Source}
    (putting : pool.putSource bench source = .ok (key, left, after)) :
    ∃ data added,
      source.readAll = .ok data ∧ Stored data bench accepted contents key left after added := by
  rcases putSource_eq_ok putting with
    ⟨pending, streamed, streaming, rfl, ⟨known, rfl, discarding⟩ | ⟨-, rfl, committing⟩⟩
  · rcases settled.stream_discard streaming discarding with ⟨data, all, digest, back, continues⟩
    have keyed : (⟨pending.digest⟩ : ContentKey) = .of data := congrArg ContentKey.mk digest
    rw [keyed] at known ⊢
    exact ⟨data, _, all, .again kept known back continues⟩
  · rcases settled.stream_commit streaming committing with
      ⟨data, all, digest, settledAfter, continues⟩
    have keyed : (⟨pending.digest⟩ : ContentKey) = .of data := congrArg ContentKey.mk digest
    rw [keyed] at settledAfter ⊢
    exact ⟨data, _, all, .fresh kept settledAfter continues pending.rawLength⟩

/-- The content of a file is stored. -/
theorem stored_of_putFile
    (kept : pool.Kept accepted contents)
    (settled : bench.Settled accepted)
    {path : String}
    (putting : pool.putFile bench path = .ok (key, left, after)) :
    ∃ data added,
      bench.files.read path = .ok data ∧
        Stored data bench accepted contents key left after added := by
  rcases putFile_eq_ok putting with ⟨source, opened, storing⟩
  rcases stored_of_putSource kept settled storing with ⟨data, added, all, facts⟩
  exact ⟨data, added, FileSystem.read_of_openSource opened all, facts⟩

/-! ## What storing takes -/

/-- Storing a content takes nothing if its key is known, and else one entry of the container. -/
inductive Takes (data : Octets) (pool : BlobPool) (draft : Draft) : BlobPool → Draft → Prop
  | again (known : pool.contains (.of data) = true) : Takes data pool draft pool draft
  | fresh (unknown : pool.contains (.of data) = false) (form : Octets × UInt16) :
    Takes data pool draft (pool.remember (.of data) data.length)
      (draft.gained (ContentKey.of data).entryName data form)

namespace Takes

omit [Zstd.Encoder]

variable
  {data : Octets}
  {draft more : Draft}

/-- A content that was stored is known. -/
theorem known
    (takes : Takes data pool draft left more) :
    left.contains (.of data) = true := by
  cases takes with
  | again known => exact known
  | fresh unknown form => rw [contains_remember, beq_self_eq_true, Bool.or_true]

/-- What was known before is known afterwards. -/
theorem grows
    (takes : Takes data pool draft left more)
    (known : pool.contains key = true) :
    left.contains key = true := by
  cases takes with
  | again _ => exact known
  | fresh unknown form => rw [contains_remember, known, Bool.true_or]

end Takes

theorem takes_of_put
    {data : Octets}
    (putting : pool.put bench data = .ok (key, left, after)) :
    key = .of data ∧ Takes data pool bench.writer.draft left after.writer.draft := by
  rcases put_eq_ok putting with ⟨rfl, ⟨known, rfl, rfl⟩ | ⟨unknown, rfl, writing⟩⟩
  · exact ⟨rfl, .again known⟩
  · rcases Workbench.draft_of_bench_write writing with ⟨form, draft⟩
    rw [draft]
    exact ⟨rfl, .fresh unknown form⟩

theorem takes_of_putSource
    {source : Source}
    (putting : pool.putSource bench source = .ok (key, left, after)) :
    ∃ data, source.readAll = .ok data ∧ key = .of data ∧
      Takes data pool bench.writer.draft left after.writer.draft := by
  rcases putSource_eq_ok putting with
    ⟨pending, streamed, streaming, rfl, ⟨known, rfl, discarding⟩ | ⟨unknown, rfl, committing⟩⟩
  · rcases Workbench.draft_of_stream_discard streaming discarding with ⟨data, all, digest, draft⟩
    have keyed : (⟨pending.digest⟩ : ContentKey) = .of data := congrArg ContentKey.mk digest
    rw [keyed] at known
    rw [draft]
    exact ⟨data, all, keyed, .again known⟩
  · rcases Workbench.draft_of_stream_commit streaming committing with
      ⟨data, form, all, digest, rawLength, draft⟩
    have keyed : (⟨pending.digest⟩ : ContentKey) = .of data := congrArg ContentKey.mk digest
    rw [keyed] at unknown draft ⊢
    rw [draft, rawLength]
    exact ⟨data, all, rfl, .fresh unknown form⟩

theorem takes_of_putFile
    {path : String}
    (putting : pool.putFile bench path = .ok (key, left, after)) :
    ∃ data, bench.files.read path = .ok data ∧ key = .of data ∧
      Takes data pool bench.writer.draft left after.writer.draft := by
  rcases putFile_eq_ok putting with ⟨source, opened, storing⟩
  rcases takes_of_putSource storing with ⟨data, all, keyed, takes⟩
  exact ⟨data, FileSystem.read_of_openSource opened all, keyed, takes⟩

end BlobPool

end BuildCapture
