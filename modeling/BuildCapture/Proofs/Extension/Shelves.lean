import BuildCapture.Extension.Shelves
import BuildCapture.Proofs.Extension.Resolution
import BuildCapture.Proofs.Record.OrderedMap

/-!
# Resolving meets its specification

Where a requested module comes from is determined by the host and by what a
session keeps.  The host decides alone wherever it has the name; otherwise the
best module that is kept under the name serves the request, if it is new enough.

It does not matter whether the session keeps its modules in one list, of which the
best is chosen, or on shelves.  A shelf is ascending after every offer, so the
first module that is found from its end is the best.
-/

namespace BuildCapture

/-! ## Shelves -/

namespace Offer

theorem mayPrecede_iff
    {left right : Offer} :
    left.mayPrecede right = true ↔ left.AtMost right := by
  rw [mayPrecede, Bool.not_eq_true', yieldsTo_eq_false_iff]

/-- Sorted offers ascend. -/
theorem pairwise_sorted
    (offers : List Offer) :
    (offers.mergeSort mayPrecede).Pairwise AtMost := by
  have transitive : ∀ first second third : Offer,
      first.mayPrecede second = true → second.mayPrecede third = true →
        first.mayPrecede third = true := by
    intro first second third lower upper
    exact mayPrecede_iff.2 ((mayPrecede_iff.1 lower).trans (mayPrecede_iff.1 upper))
  have total : ∀ left right : Offer, (left.mayPrecede right || right.mayPrecede left) = true := by
    intro left right
    rw [Bool.or_eq_true, mayPrecede_iff, mayPrecede_iff]
    exact atMost_total left right
  exact (List.pairwise_mergeSort transitive total offers).imp mayPrecede_iff.1

/-- What is found first from the end of ascending offers is the best of those that qualify. -/
theorem atMost_of_find?_reverse
    {offers : List Offer}
    {qualifies : Offer → Bool}
    {found other : Offer}
    (ascending : offers.Pairwise AtMost)
    (search : offers.reverse.find? qualifies = some found)
    (member : other ∈ offers)
    (fits : qualifies other = true) :
    other.AtMost found := by
  rcases (List.find?_eq_some_iff_append.1 search).2 with ⟨behind, before, split, unfit⟩
  have descending := List.pairwise_reverse.2 ascending
  rw [split, List.pairwise_append] at descending
  have inside : other ∈ behind ++ found :: before := split ▸ List.mem_reverse.2 member
  rcases List.mem_append.1 inside with early | late
  · have doesNot := unfit other early
    rw [fits] at doesNot
    cases doesNot
  · rcases List.mem_cons.1 late with rfl | lower
    · exact .refl other
    · exact (List.pairwise_cons.1 descending.2.1).1 other lower

end Offer

namespace Shelves

/-- Shelves as they are after offering several modules. -/
def ofSession
    (host : HostModules)
    (infos : List ModuleInfo) :
    Shelves :=
  infos.foldl offer { host }

/-- Offering a module changes the shelf of its name only, which is sorted again. -/
theorem shelf_offer
    (shelves : Shelves)
    (info : ModuleInfo)
    (name : String) :
    (shelves.offer info).shelf name =
      if name = info.name ∧ ∀ known ∈ shelves.shelf info.name, known.id ≠ info.id then
        (shelves.shelf name ++ [info.offer]).mergeSort Offer.mayPrecede
      else
        shelves.shelf name := by
  have fresh : ((shelves.shelf info.name).any fun known => known.id == info.id) = true ↔
      ¬ ∀ known ∈ shelves.shelf info.name, known.id ≠ info.id := by
    simp
  rw [offer]
  by_cases known : (shelves.shelf info.name).any fun known => known.id == info.id
  · rw [if_pos known, if_neg fun both => fresh.1 known both.2]
  · rw [if_neg known, shelf, OrderedMap.get?_insert]
    have notKnown := Decidable.not_not.1 fun known' => known (fresh.2 known')
    by_cases same : name = info.name
    · rw [if_pos same, if_pos ⟨same, notKnown⟩, same, Option.getD_some]
    · rw [if_neg same, if_neg fun both => same both.1]
      rfl

/--
Shelves hold what a context offers: on the shelf of each name, in ascending order,
just the offers of this name.
-/
structure Arranges (shelves : Shelves) (context : LoadContext) : Prop where
  host : shelves.host = context.host
  ascending : ∀ name, (shelves.shelf name).Pairwise Offer.AtMost
  holds : ∀ name offered,
    offered ∈ shelves.shelf name ↔ offered ∈ context.offers ∧ offered.name = name

/-- Offering one more module to both keeps the arrangement. -/
theorem Arranges.offer
    {shelves : Shelves}
    {context : LoadContext}
    (arranged : Arranges shelves context)
    (info : ModuleInfo) :
    Arranges (shelves.offer info) (context.offer info) where
  host := by
    rw [(context.offer_grows info).1, ← arranged.host, Shelves.offer]
    split <;> rfl
  ascending name := by
    rw [shelf_offer]
    split
    · exact Offer.pairwise_sorted _
    · exact arranged.ascending name
  holds name offered := by
    have sameFresh : (∀ known ∈ shelves.shelf info.name, known.id ≠ info.id) ↔
        ∀ known ∈ context.offers, known.name = info.name → known.id ≠ info.id := by
      simp only [arranged.holds, and_imp]
    rw [shelf_offer, LoadContext.mem_offers_offer, ← sameFresh]
    split
    · next both =>
      rw [List.mem_mergeSort, List.mem_append, List.mem_singleton, arranged.holds, both.1]
      constructor
      · rintro (earlier | rfl)
        · exact ⟨Or.inl earlier.1, earlier.2⟩
        · exact ⟨Or.inr ⟨rfl, both.2⟩, rfl⟩
      · rintro ⟨earlier | last, named⟩
        · exact Or.inl ⟨earlier, named⟩
        · exact Or.inr last.1
    · next notBoth =>
      rw [arranged.holds]
      constructor
      · exact fun earlier => ⟨Or.inl earlier.1, earlier.2⟩
      · rintro ⟨earlier | ⟨rfl, fresh⟩, named⟩
        · exact ⟨earlier, named⟩
        · exact absurd ⟨named.symm, fresh⟩ notBoth

theorem Arranges.foldl_offer
    {shelves : Shelves}
    {context : LoadContext}
    (arranged : Arranges shelves context)
    (infos : List ModuleInfo) :
    Arranges (infos.foldl Shelves.offer shelves) (infos.foldl LoadContext.offer context) := by
  induction infos generalizing shelves context with
  | nil => exact arranged
  | cons info rest ih => exact ih (arranged.offer info)

theorem arranges_ofSession
    (host : HostModules)
    (infos : List ModuleInfo) :
    Arranges (ofSession host infos) (.ofSession host infos) := by
  apply Arranges.foldl_offer
  refine ⟨rfl, fun _ => .nil, fun name offered => ?_⟩
  simp [shelf, OrderedMap.get?, OrderedMap.empty]

variable
  {shelves : Shelves}
  {context : LoadContext}
  {name : String}
  {requested : ModuleVersion}

/-- A shelf offers its best, provided that it is new enough. -/
theorem Arranges.offered?_eq_some_iff
    (arranged : Arranges shelves context)
    {best : Offer} :
    shelves.offered? name requested = some best ↔
      Offer.Best (· ∈ shelves.shelf name) name best ∧ best.version.covers requested = true := by
  have named : ∀ offered ∈ shelves.shelf name, offered.name = name := fun offered member =>
    ((arranged.holds name offered).1 member).2
  apply Offer.search_eq_some_iff
  · intro found search
    have member : found ∈ shelves.shelf name :=
      List.mem_reverse.1 (List.mem_of_find?_eq_some search)
    have covers : found.version.covers requested = true :=
      List.find?_some (p := fun offer : Offer => offer.version.covers requested) search
    refine ⟨Offer.best_of_covering member (named found member) covers ?_, covers⟩
    intro other memberToo _ coversToo
    exact Offer.atMost_of_find?_reverse (arranged.ascending name) search memberToo coversToo
  · intro offered member _ covers
    have isSome : ((shelves.shelf name).reverse.find? fun offer =>
        offer.version.covers requested).isSome = true :=
      List.find?_isSome.2 ⟨offered, List.mem_reverse.2 member, covers⟩
    exact Option.isSome_iff_exists.1 isSome

/-- Shelves resolve as the context that they arrange. -/
theorem Arranges.resolve_eq
    (arranged : Arranges shelves context) :
    shelves.resolve name requested = context.resolve name requested := by
  have sameOffered : shelves.offered? name requested = context.offered? name requested := by
    apply Option.ext
    intro offered
    rw [arranged.offered?_eq_some_iff, LoadContext.offered?_eq_some_iff, Offer.best_congr]
    intro offer named
    rw [arranged.holds, and_iff_left named]
  rw [resolve, arranged.host, sameOffered]
  cases provided : context.host.get? name with
  | some available => rw [LoadContext.resolve_of_host provided]
  | none =>
    cases found : context.offered? name requested with
    | some best => rw [LoadContext.resolve_of_session provided found]
    | none => rw [LoadContext.resolve_of_nothing provided found]

end Shelves

/-! ## The specification -/

/--
What answers a request: the host, if it has the name in a version that is new
enough, a conflict if it has an older one, and otherwise the best of what is kept
under the name, if anything that is kept under it is new enough.
-/
structure Specified
    (host : HostModules)
    (kept : Offer → Prop)
    (name : String)
    (requested : ModuleVersion)
    (answer : Except Failure Resolution) : Prop where
  provided : ∀ version, answer = .ok (.host version) ↔
    host.get? name = some version ∧ requested.number ≤ version.number
  conflict : ∀ version, answer = .error (.versionConflict name requested version) ↔
    host.get? name = some version ∧ version.number < requested.number
  served : ∀ id, answer = .ok (.session id) ↔
    host.get? name = none ∧
      (∃ offered, kept offered ∧ offered.name = name ∧
        requested.number ≤ offered.version.number) ∧
      ∃ best, Offer.Best kept name best ∧ best.id = id
  notFound : answer = .error (.notFound (name ++ " >= " ++ requested.text)) ↔
    host.get? name = none ∧
      ∀ offered, kept offered → offered.name = name → offered.version.number < requested.number

namespace LoadContext

variable
  {host : HostModules}
  {infos : List ModuleInfo}
  {name : String}
  {requested : ModuleVersion}

/-- Where the host has a name, its version decides, whatever the session keeps. -/
theorem specified_of_provided
    {available : ModuleVersion}
    (provided : host.get? name = some available) :
    Specified host (Kept infos) name requested ((ofSession host infos).resolve name requested) := by
  have notAbsent : host.get? name ≠ none := by
    rw [provided]
    exact Option.some_ne_none available
  rw [resolve_of_host ((get?_ofSession host infos name).trans provided)]
  by_cases newEnough : requested.number ≤ available.number
  · rw [if_pos (ModuleVersion.covers_iff.2 newEnough)]
    constructor
    case provided =>
      intro version
      rw [provided, Except.ok.injEq, Resolution.host.injEq, Option.some.injEq]
      exact ⟨fun same => ⟨same, same ▸ newEnough⟩, And.left⟩
    case conflict =>
      refine fun version => iff_of_false nofun ?_
      rintro ⟨providedToo, older⟩
      cases provided.symm.trans providedToo
      exact absurd newEnough (Nat.not_le.2 older)
    case served => exact fun id => iff_of_false nofun fun absent => notAbsent absent.1
    case notFound => exact iff_of_false nofun fun absent => notAbsent absent.1
  · rw [if_neg fun covers => newEnough (ModuleVersion.covers_iff.1 covers)]
    constructor
    case provided =>
      refine fun version => iff_of_false nofun ?_
      rintro ⟨providedToo, newEnoughToo⟩
      cases provided.symm.trans providedToo
      exact absurd newEnoughToo newEnough
    case conflict =>
      intro version
      rw [provided, Except.error.injEq, Failure.versionConflict.injEq, Option.some.injEq]
      exact ⟨fun same => ⟨same.2.2, same.2.2 ▸ Nat.not_le.1 newEnough⟩,
        fun same => ⟨rfl, rfl, same.1⟩⟩
    case served => exact fun id => iff_of_false nofun fun absent => notAbsent absent.1
    case notFound => exact iff_of_false nofun fun absent => notAbsent absent.1

/-- What a session offers is the best that is kept, provided that it is new enough. -/
theorem offered?_ofSession_eq_some_iff
    {best : Offer} :
    (ofSession host infos).offered? name requested = some best ↔
      Offer.Best (Kept infos) name best ∧ requested.number ≤ best.version.number := by
  rw [offered?_eq_some_iff, ModuleVersion.covers_iff,
    Offer.best_congr fun offered _ => mem_offers_iff_kept host infos offered]

/-- Where the host has no such name, the best that is kept under it is served or nothing is. -/
theorem specified_of_absent
    (absent : host.get? name = none) :
    Specified host (Kept infos) name requested ((ofSession host infos).resolve name requested) := by
  have absentToo := (get?_ofSession host infos name).trans absent
  have notProvided : ∀ version, host.get? name ≠ some version := by
    intro version
    rw [absent]
    exact (Option.some_ne_none version).symm
  cases found : (ofSession host infos).offered? name requested with
  | some best =>
    rcases offered?_ofSession_eq_some_iff.1 found with ⟨isBest, newEnough⟩
    rw [resolve_of_session absentToo found]
    constructor
    case provided => exact fun version => iff_of_false nofun fun both => notProvided _ both.1
    case conflict => exact fun version => iff_of_false nofun fun both => notProvided _ both.1
    case served =>
      intro id
      rw [Except.ok.injEq, Resolution.session.injEq]
      constructor
      · rintro rfl
        exact ⟨absent, ⟨best, isBest.member, isBest.named, newEnough⟩, best, isBest, rfl⟩
      · rintro ⟨-, -, other, isBestToo, rfl⟩
        rw [isBest.unique isBestToo]
    case notFound =>
      refine iff_of_false nofun ?_
      rintro ⟨-, older⟩
      exact absurd (older best isBest.member isBest.named) (Nat.not_lt.2 newEnough)
  | none =>
    have older : ∀ offered, Kept infos offered → offered.name = name →
        offered.version.number < requested.number := by
      intro offered kept named
      rw [← Nat.not_le, ← ModuleVersion.covers_iff]
      intro covers
      have member := (mem_offers_iff_kept host infos offered).2 kept
      rcases offered?_isSome_iff.2 ⟨offered, member, named, covers⟩ with ⟨other, foundToo⟩
      cases found.symm.trans foundToo
    rw [resolve_of_nothing absentToo found]
    constructor
    case provided => exact fun version => iff_of_false nofun fun both => notProvided _ both.1
    case conflict => exact fun version => iff_of_false nofun fun both => notProvided _ both.1
    case served =>
      refine fun id => iff_of_false nofun ?_
      rintro ⟨-, ⟨offered, kept, named, newEnough⟩, -⟩
      exact absurd (older offered kept named) (Nat.not_lt.2 newEnough)
    case notFound => exact iff_of_true rfl ⟨absent, older⟩

theorem specified_resolve
    (host : HostModules)
    (infos : List ModuleInfo)
    (name : String)
    (requested : ModuleVersion) :
    Specified host (Kept infos) name requested ((ofSession host infos).resolve name requested) := by
  cases provided : host.get? name with
  | some available => exact specified_of_provided provided
  | none => exact specified_of_absent provided

/-- Modules with different identities are resolved alike in every order. -/
theorem resolve_ofSession_of_perm
    {others : List ModuleInfo}
    (distinct : (infos.map ModuleInfo.id).Nodup)
    (reordered : others.Perm infos) :
    (ofSession host others).resolve name requested =
      (ofSession host infos).resolve name requested := by
  have unique : ∀ left ∈ infos, ∀ right ∈ infos, left.id = right.id → left = right :=
    fun left member right memberToo => List.inj_on_of_nodup_map distinct member memberToo
  have uniqueToo : ∀ left ∈ others, ∀ right ∈ others, left.id = right.id → left = right :=
    fun left member right memberToo =>
      unique left (reordered.mem_iff.1 member) right (reordered.mem_iff.1 memberToo)
  apply resolve_congr
  · rw [host_ofSession, host_ofSession]
  · intro offered
    rw [mem_offers_ofSession unique, mem_offers_ofSession uniqueToo]
    simp only [reordered.mem_iff]

/-- Of modules with different identities everything is kept. -/
theorem kept_iff_of_distinct
    (distinct : (infos.map ModuleInfo.id).Nodup)
    (offered : Offer) :
    Kept infos offered ↔ ∃ info ∈ infos, offered = info.offer := by
  rw [← mem_offers_iff_kept {}]
  exact mem_offers_ofSession fun left member right memberToo =>
    List.inj_on_of_nodup_map distinct member memberToo

/--
Every request is answered as it is specified, for every host and all modules that a
session is offered, with names, versions and identities repeated at will.  Keeping
the modules on shelves gives the same answers.  If their identities are different,
all of them are kept, and the order in which they are offered does not matter.
-/
theorem resolution_meets_its_specification
    (host : HostModules)
    (infos : List ModuleInfo) :
    (∀ name requested,
      Specified host (Kept infos) name requested ((ofSession host infos).resolve name requested) ∧
        (Shelves.ofSession host infos).resolve name requested =
          (ofSession host infos).resolve name requested) ∧
      ((infos.map ModuleInfo.id).Nodup →
        (∀ offered, Kept infos offered ↔ ∃ info ∈ infos, offered = info.offer) ∧
          ∀ others : List ModuleInfo, others.Perm infos → ∀ name requested,
            (ofSession host others).resolve name requested =
              (ofSession host infos).resolve name requested) := by
  refine ⟨fun name requested => ⟨specified_resolve host infos name requested, ?_⟩,
    fun distinct => ⟨kept_iff_of_distinct distinct, ?_⟩⟩
  · exact (Shelves.arranges_ofSession host infos).resolve_eq
  · exact fun others reordered name requested => resolve_ofSession_of_perm distinct reordered

/-! ### Repeated versions and identities -/

namespace Repeated

/-- A module in one of its versions. -/
def module
    (octet : UInt8)
    (major : UInt16) :
    ModuleInfo :=
  .plain octet "Json" major

/-- Three modules, two of them equally new. -/
def equallyNew : List ModuleInfo :=
  [module 3 13, module 1 12, module 2 13]

/-- Of the two newest modules, the one with the greater identity is served in both orders. -/
theorem equally_new_are_resolved_alike :
    (equallyNew.map ModuleInfo.id).Nodup ∧ equallyNew.reverse.Perm equallyNew ∧
      (∃ best, Offer.Best (Kept equallyNew) "Json" best ∧ best.id = (module 3 13).id) ∧
      (ofSession {} equallyNew).resolve "Json" (.ofMajor 12) =
        .ok (.session (module 3 13).id) ∧
      (ofSession {} equallyNew.reverse).resolve "Json" (.ofMajor 12) =
        .ok (.session (module 3 13).id) := by
  have distinct : (equallyNew.map ModuleInfo.id).Nodup := by
    decide
  have answer : (ofSession {} equallyNew).resolve "Json" (.ofMajor 12) =
      .ok (.session (module 3 13).id) := by
    decide
  have laws := resolution_meets_its_specification {} equallyNew
  have reordered := List.reverse_perm equallyNew
  refine ⟨distinct, reordered, ?_, answer, ?_⟩
  · exact (((laws.1 "Json" (.ofMajor 12)).1.served _).1 answer).2.2
  · exact ((laws.2 distinct).2 _ reordered "Json" (.ofMajor 12)).trans answer

/-- A module, and a newer one with the same identity. -/
def renewed : List ModuleInfo :=
  [module 1 12, module 1 13]

/--
The newer of two modules with one identity is not kept.  So a request for its
version is not met, although a module in this version was offered.
-/
theorem renewed_module_is_not_found :
    (ofSession {} renewed).resolve "Json" (.ofMajor 13) = .error (.notFound "Json >= 13.0.0.0") ∧
      ¬ ((ofSession {} renewed).resolve "Json" (.ofMajor 13) = .ok (.session (module 1 12).id) ↔
        HostModules.get? {} "Json" = none ∧
          (∃ info ∈ renewed, info.name = "Json" ∧
            (ModuleVersion.ofMajor 13).number ≤ info.version.number) ∧
          ∃ best, Offer.Best (Kept renewed) "Json" best ∧ best.id = (module 1 12).id) := by
  have offers : (ofSession {} renewed).offers = [(module 1 12).offer] := by
    decide
  have answer : (ofSession {} renewed).resolve "Json" (.ofMajor 13) =
      .error (.notFound "Json >= 13.0.0.0") := by
    decide +kernel
  have kept : ∀ offered, Kept renewed offered ↔ offered = (module 1 12).offer := by
    intro offered
    rw [← mem_offers_iff_kept {}, offers, List.mem_singleton]
  have best : Offer.Best (Kept renewed) "Json" (module 1 12).offer := by
    refine ⟨(kept _).2 rfl, rfl, fun other member _ => ?_⟩
    rw [(kept other).1 member]
    exact .refl _
  refine ⟨answer, fun claimed => ?_⟩
  have served := claimed.2
    ⟨rfl, ⟨module 1 13, by decide, rfl, Nat.le_refl _⟩, (module 1 12).offer, best, rfl⟩
  rw [answer] at served
  cases served

end Repeated

end LoadContext

end BuildCapture
