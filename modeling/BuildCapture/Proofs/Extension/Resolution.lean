import BuildCapture.Extension.Resolution
import BuildCapture.Proofs.Module.Version
import BuildCapture.Proofs.Record.Parts
import Mathlib.Data.List.Perm.Basic

/-!
# The best offer

Offers under one name are ordered by their versions and, among equal versions, by
their identities.  This order is total, and of two different offers under a name
one is better than the other.  So there is one best offer under a name, and as
every version is covered by all later ones, a request is met exactly if the best
offer under its name is new enough.

Of each identity under a name a session keeps what is offered first.  Later
modules with this identity are left out, even if they are newer.
-/

namespace BuildCapture

/-! ## Plain modules -/

/-- A version with one part. -/
def ModuleVersion.ofMajor
    (major : UInt16) :
    ModuleVersion :=
  ⟨major, 0, 0, 0⟩

/-- A module that exports nothing, with an identity that repeats one octet. -/
def ModuleInfo.plain
    (octet : UInt8)
    (name : String)
    (major : UInt16)
    (dependencies : List ModuleRef := []) :
    ModuleInfo where
  id := .repeating octet
  name := name
  version := .ofMajor major
  dependencies := dependencies

/-! ## Offers -/

namespace Offer

/-- Of two offers, the better is one of them. -/
theorem better_eq_or
    (left right : Offer) :
    left.better right = left ∨ left.better right = right := by
  rw [better]
  split
  · exact Or.inr rfl
  · exact Or.inl rfl

theorem foldl_better_mem
    (offers : List Offer)
    (first : Offer) :
    offers.foldl better first ∈ first :: offers := by
  induction offers generalizing first with
  | nil => exact List.mem_singleton_self first
  | cons next rest ih =>
    rw [List.foldl_cons]
    rcases List.mem_cons.1 (ih (first.better next)) with same | later
    · rw [same]
      rcases first.better_eq_or next with left | right
      · rw [left]
        exact List.mem_cons_self
      · rw [right]
        exact List.mem_cons_of_mem _ List.mem_cons_self
    · exact List.mem_cons_of_mem _ (List.mem_cons_of_mem _ later)

/-- The best of several offers is one of them. -/
theorem mem_of_best?
    {offers : List Offer}
    {best : Offer}
    (found : best? offers = some best) :
    best ∈ offers := by
  cases offers with
  | nil => cases found
  | cons first rest =>
    cases found
    exact foldl_better_mem rest first

/-- Of several offers one is the best. -/
theorem best?_isSome_iff
    {offers : List Offer} :
    (∃ best, best? offers = some best) ↔ ∃ offer, offer ∈ offers := by
  constructor
  · rintro ⟨best, found⟩
    exact ⟨best, mem_of_best? found⟩
  · rintro ⟨offer, member⟩
    cases offers with
    | nil => exact absurd member List.not_mem_nil
    | cons first rest => exact ⟨_, rfl⟩

/-! ### Order -/

/-- An offer is no better than another: older, or equally old with an identity not greater. -/
def AtMost (left right : Offer) : Prop :=
  left.version.number < right.version.number ∨
    left.version = right.version ∧ left.id.octets ≤ right.id.octets

theorem yieldsTo_iff
    {left right : Offer} :
    left.yieldsTo right = true ↔
      left.version.number < right.version.number ∨
        left.version = right.version ∧ left.id.octets < right.id.octets := by
  rw [yieldsTo, Bool.or_eq_true, Bool.and_eq_true, ModuleVersion.precedes_iff, beq_iff_eq,
    decide_eq_true_eq]

/-- An offer gives way exactly to those that are better. -/
theorem yieldsTo_eq_false_iff
    {left right : Offer} :
    left.yieldsTo right = false ↔ right.AtMost left := by
  rw [← Bool.not_eq_true, yieldsTo_iff, not_or, not_and, Nat.not_lt, AtMost]
  constructor
  · rintro ⟨notOlder, tie⟩
    rcases Nat.lt_or_eq_of_le notOlder with newer | equallyOld
    · exact Or.inl newer
    · have same := ModuleVersion.number_injective equallyOld
      exact Or.inr ⟨same, List.not_lt.1 (tie same.symm)⟩
  · rintro (newer | ⟨same, notGreater⟩)
    · refine ⟨Nat.le_of_lt newer, fun equal => ?_⟩
      rw [equal] at newer
      exact absurd newer (Nat.lt_irrefl _)
    · exact ⟨Nat.le_of_eq (congrArg _ same), fun _ => List.not_lt.2 notGreater⟩

theorem AtMost.refl (offer : Offer) : offer.AtMost offer :=
  Or.inr ⟨rfl, List.le_refl _⟩

theorem AtMost.trans
    {first second third : Offer}
    (lower : first.AtMost second)
    (upper : second.AtMost third) :
    first.AtMost third := by
  rcases lower with older | ⟨same, notGreater⟩
  · rcases upper with olderToo | ⟨sameToo, -⟩
    · exact Or.inl (Nat.lt_trans older olderToo)
    · exact Or.inl (sameToo ▸ older)
  · rcases upper with olderToo | ⟨sameToo, notGreaterToo⟩
    · exact Or.inl (same ▸ olderToo)
    · exact Or.inr ⟨same.trans sameToo, List.le_trans notGreater notGreaterToo⟩

theorem atMost_of_yieldsTo
    {left right : Offer}
    (yields : left.yieldsTo right = true) :
    left.AtMost right := by
  rcases yieldsTo_iff.1 yields with older | ⟨same, smaller⟩
  · exact Or.inl older
  · exact Or.inr ⟨same, List.le_of_lt smaller⟩

theorem atMost_total
    (left right : Offer) :
    left.AtMost right ∨ right.AtMost left := by
  cases yields : left.yieldsTo right with
  | true => exact Or.inl (atMost_of_yieldsTo yields)
  | false => exact Or.inr (yieldsTo_eq_false_iff.1 yields)

theorem AtMost.number_le
    {left right : Offer}
    (atMost : left.AtMost right) :
    left.version.number ≤ right.version.number := by
  rcases atMost with older | ⟨same, -⟩
  · exact Nat.le_of_lt older
  · exact Nat.le_of_eq (congrArg _ same)

/-- Of two offers under one name that are both not better, there is but one. -/
theorem AtMost.antisymm
    {left right : Offer}
    (sameName : left.name = right.name)
    (lower : left.AtMost right)
    (upper : right.AtMost left) :
    left = right := by
  rcases lower with older | ⟨sameVersion, notGreater⟩
  · exact absurd older (Nat.not_lt.2 upper.number_le)
  · rcases upper with older | ⟨-, notSmaller⟩
    · exact absurd (congrArg ModuleVersion.number sameVersion) (Nat.ne_of_gt older)
    · have sameOctets := List.le_antisymm notGreater notSmaller
      rcases left with ⟨name, version, ⟨value⟩⟩
      rcases right with ⟨nameToo, versionToo, ⟨valueToo⟩⟩
      cases sameName
      cases sameVersion
      cases Vector.toList_inj.1 sameOctets
      rfl

theorem atMost_better
    (left right : Offer) :
    left.AtMost (left.better right) ∧ right.AtMost (left.better right) := by
  rw [better]
  split
  · next yields => exact ⟨atMost_of_yieldsTo yields, .refl right⟩
  · next stays =>
    have notBetter := yieldsTo_eq_false_iff.1 (Bool.eq_false_of_not_eq_true stays)
    exact ⟨.refl left, notBetter⟩

theorem atMost_foldl_better
    (offers : List Offer)
    (first : Offer) :
    ∀ other ∈ first :: offers, other.AtMost (offers.foldl better first) := by
  induction offers generalizing first with
  | nil =>
    intro other member
    rw [List.mem_singleton.1 member]
    exact .refl first
  | cons next rest ih =>
    intro other member
    have grown := ih (first.better next) _ List.mem_cons_self
    rw [List.foldl_cons]
    rcases List.mem_cons.1 member with rfl | member
    · exact (other.atMost_better next).1.trans grown
    rcases List.mem_cons.1 member with rfl | member
    · exact (first.atMost_better other).2.trans grown
    · exact ih _ other (List.mem_cons_of_mem _ member)

/-- No offer is better than the best. -/
theorem atMost_best?
    {offers : List Offer}
    {best other : Offer}
    (found : best? offers = some best)
    (member : other ∈ offers) :
    other.AtMost best := by
  cases offers with
  | nil => cases found
  | cons first rest =>
    cases found
    exact atMost_foldl_better rest first other member

/-! ### The best under a name -/

/-- The best of some offers under a name: it is one of them, and no other is better. -/
structure Best (among : Offer → Prop) (name : String) (best : Offer) : Prop where
  member : among best
  named : best.name = name
  highest : ∀ other, among other → other.name = name → other.AtMost best

section Best

variable
  {among : Offer → Prop}
  {name : String}
  {requested : ModuleVersion}
  {best : Offer}

theorem Best.unique
    {left right : Offer}
    (isBest : Best among name left)
    (isBestToo : Best among name right) :
    left = right :=
  AtMost.antisymm (isBest.named.trans isBestToo.named.symm)
    (isBestToo.highest left isBest.member isBest.named)
    (isBest.highest right isBestToo.member isBestToo.named)

theorem best_congr
    {left right : Offer → Prop}
    (same : ∀ offer, offer.name = name → (left offer ↔ right offer)) :
    Best left name best ↔ Best right name best := by
  constructor
  · rintro ⟨member, named, highest⟩
    exact ⟨(same best named).1 member, named, fun other memberToo namedToo =>
      highest other ((same other namedToo).2 memberToo) namedToo⟩
  · rintro ⟨member, named, highest⟩
    exact ⟨(same best named).2 member, named, fun other memberToo namedToo =>
      highest other ((same other namedToo).1 memberToo) namedToo⟩

/-- The best of the offers that are new enough is the best of all. -/
theorem best_of_covering
    (member : among best)
    (named : best.name = name)
    (covers : best.version.covers requested = true)
    (highest : ∀ other, among other → other.name = name →
      other.version.covers requested = true → other.AtMost best) :
    Best among name best where
  member := member
  named := named
  highest other memberToo namedToo := by
    by_cases coversToo : other.version.covers requested = true
    · exact highest other memberToo namedToo coversToo
    · rw [ModuleVersion.covers_iff, Nat.not_le] at coversToo
      exact Or.inl (Nat.lt_of_lt_of_le coversToo (ModuleVersion.covers_iff.1 covers))

/-- Where any offer under a name is new enough, the best is. -/
theorem Best.covers
    {other : Offer}
    (isBest : Best among name best)
    (member : among other)
    (named : other.name = name)
    (covers : other.version.covers requested = true) :
    best.version.covers requested = true := by
  have newer := (isBest.highest other member named).number_le
  exact ModuleVersion.covers_iff.2 (Nat.le_trans (ModuleVersion.covers_iff.1 covers) newer)

/-- However it goes about it, a search that finds the best of what is new enough finds this only. -/
theorem search_eq_some_iff
    {search : Option Offer}
    (sound : ∀ found, search = some found →
      Best among name found ∧ found.version.covers requested = true)
    (complete : ∀ offer, among offer → offer.name = name →
      offer.version.covers requested = true → ∃ found, search = some found) :
    search = some best ↔ Best among name best ∧ best.version.covers requested = true := by
  constructor
  · exact sound best
  · rintro ⟨isBest, covers⟩
    rcases complete best isBest.member isBest.named covers with ⟨found, searched⟩
    rw [searched, (sound found searched).1.unique isBest]

end Best

end Offer

namespace LoadContext

/-- Offering a module leaves the host and all earlier offers. -/
theorem offer_grows
    (context : LoadContext)
    (info : ModuleInfo) :
    (context.offer info).host = context.host ∧
      context.offers ⊆ (context.offer info).offers ∧
      (∀ offer ∈ (context.offer info).offers, offer ∈ context.offers ∨ offer = info.offer) ∧
      ∃ offer ∈ (context.offer info).offers, offer.name = info.name ∧ offer.id = info.id := by
  rw [offer]
  split
  · next known =>
    rcases List.any_eq_true.1 known with ⟨offer, member, same⟩
    rw [Bool.and_eq_true, beq_iff_eq, beq_iff_eq] at same
    exact ⟨rfl, List.Subset.refl _, fun _ => Or.inl, offer, member, same⟩
  · refine ⟨rfl, List.subset_append_left _ _, ?_, info.offer, ?_, rfl, rfl⟩
    · intro offer member
      rcases List.mem_append.1 member with earlier | last
      · exact Or.inl earlier
      · exact Or.inr (List.mem_singleton.1 last)
    · exact List.mem_append_right _ (List.mem_singleton_self _)

/-- What several modules offer, and what was offered before. -/
theorem foldl_offer_grows
    (infos : List ModuleInfo)
    (context : LoadContext) :
    (infos.foldl offer context).host = context.host ∧
      context.offers ⊆ (infos.foldl offer context).offers ∧
      (∀ offered ∈ (infos.foldl offer context).offers,
        offered ∈ context.offers ∨ ∃ info ∈ infos, offered = info.offer) ∧
      ∀ info ∈ infos, ∃ offered ∈ (infos.foldl offer context).offers,
        offered.name = info.name ∧ offered.id = info.id := by
  induction infos generalizing context with
  | nil => exact ⟨rfl, List.Subset.refl _, fun _ => Or.inl, nofun⟩
  | cons first rest ih =>
    rcases context.offer_grows first with ⟨host, grows, origin, present⟩
    rcases ih (context.offer first) with ⟨hostLater, growsLater, originLater, presentLater⟩
    rw [List.foldl_cons]
    refine ⟨hostLater.trans host, fun _ member => growsLater (grows member), ?_, ?_⟩
    · intro offered member
      rcases originLater offered member with earlier | ⟨info, later, same⟩
      · rcases origin offered earlier with before | here
        · exact Or.inl before
        · exact Or.inr ⟨first, List.mem_cons_self, here⟩
      · exact Or.inr ⟨info, List.mem_cons_of_mem _ later, same⟩
    · intro info member
      rcases List.mem_cons.1 member with rfl | later
      · rcases present with ⟨offered, there, facts⟩
        exact ⟨offered, growsLater there, facts⟩
      · exact presentLater info later

/-- The context that the modules of a session make up. -/
def ofSession
    (host : HostModules)
    (infos : List ModuleInfo) :
    LoadContext :=
  infos.foldl offer { host }

theorem host_ofSession
    (host : HostModules)
    (infos : List ModuleInfo) :
    (ofSession host infos).host = host :=
  (foldl_offer_grows infos { host }).1

/-- What the host has does not depend on the session. -/
theorem get?_ofSession
    (host : HostModules)
    (infos : List ModuleInfo)
    (name : String) :
    (ofSession host infos).host.get? name = host.get? name := by
  rw [host_ofSession]

/-- A session offers exactly its modules, if no two of them have one identity. -/
theorem mem_offers_ofSession
    {host : HostModules}
    {infos : List ModuleInfo}
    (unique : ∀ left ∈ infos, ∀ right ∈ infos, left.id = right.id → left = right)
    {offered : Offer} :
    offered ∈ (ofSession host infos).offers ↔ ∃ info ∈ infos, offered = info.offer := by
  rcases foldl_offer_grows infos { host } with ⟨-, -, origin, present⟩
  constructor
  · intro member
    exact (origin offered member).resolve_left List.not_mem_nil
  · rintro ⟨info, member, rfl⟩
    rcases present info member with ⟨known, there, -, id⟩
    rcases origin known there with nothing | ⟨other, memberToo, rfl⟩
    · exact absurd nothing List.not_mem_nil
    · rw [← unique other memberToo info member id]
      exact there

/-! ## What a session keeps -/

/-- What is kept of the modules of a session: under a name, the first of each identity. -/
def Kept (infos : List ModuleInfo) (kept : Offer) : Prop :=
  ∃ before info after, infos = before ++ info :: after ∧ kept = info.offer ∧
    ∀ earlier ∈ before, earlier.name = info.name → earlier.id ≠ info.id

/-- A further module is kept unless its name has its identity already. -/
theorem kept_append_singleton
    {infos : List ModuleInfo}
    {info : ModuleInfo}
    {kept : Offer} :
    Kept (infos ++ [info]) kept ↔
      Kept infos kept ∨
        kept = info.offer ∧ ∀ earlier ∈ infos, earlier.name = info.name → earlier.id ≠ info.id := by
  constructor
  · rintro ⟨before, first, after, split, same, fresh⟩
    rcases after.eq_nil_or_concat with rfl | ⟨others, last, rfl⟩
    · rcases List.append_inj' split rfl with ⟨rfl, only⟩
      cases only
      exact Or.inr ⟨same, fresh⟩
    · rw [List.concat_eq_append, ← List.cons_append, ← List.append_assoc] at split
      exact Or.inl ⟨before, first, others, (List.append_inj' split rfl).1, same, fresh⟩
  · rintro (⟨before, first, after, rfl, same, fresh⟩ | ⟨same, fresh⟩)
    · exact ⟨before, first, after ++ [info], by simp, same, fresh⟩
    · exact ⟨infos, info, [], rfl, same, fresh⟩

theorem mem_offers_offer
    {context : LoadContext}
    {info : ModuleInfo}
    {offered : Offer} :
    offered ∈ (context.offer info).offers ↔
      offered ∈ context.offers ∨
        offered = info.offer ∧
          ∀ known ∈ context.offers, known.name = info.name → known.id ≠ info.id := by
  rw [offer]
  split
  · next known =>
    rw [List.any_eq_true] at known
    simp only [Bool.and_eq_true, beq_iff_eq] at known
    rcases known with ⟨other, member, sameName, sameId⟩
    refine ⟨Or.inl, fun either => either.resolve_right ?_⟩
    rintro ⟨-, fresh⟩
    exact fresh other member sameName sameId
  · next fresh =>
    rw [List.any_eq_true] at fresh
    simp only [Bool.and_eq_true, beq_iff_eq, not_exists, not_and] at fresh
    rw [List.mem_append, List.mem_singleton]
    exact or_congr_right ⟨fun same => ⟨same, fresh⟩, And.left⟩

/-- A session offers what is kept of its modules. -/
theorem mem_offers_iff_kept
    (host : HostModules)
    (infos : List ModuleInfo)
    (offered : Offer) :
    offered ∈ (ofSession host infos).offers ↔ Kept infos offered := by
  induction infos using List.reverseRecOn generalizing offered with
  | nil =>
    refine ⟨fun member => absurd member List.not_mem_nil, ?_⟩
    rintro ⟨before, info, after, split, -⟩
    exact absurd split.symm (by simp)
  | append_singleton infos info ih =>
    have known : (∀ known ∈ (ofSession host infos).offers,
          known.name = info.name → known.id ≠ info.id) ↔
        ∀ earlier ∈ infos, earlier.name = info.name → earlier.id ≠ info.id := by
      rcases foldl_offer_grows infos { host } with ⟨-, -, origin, present⟩
      constructor
      · intro fresh earlier member sameName sameId
        rcases present earlier member with ⟨other, there, nameToo, idToo⟩
        exact fresh other there (nameToo.trans sameName) (idToo.trans sameId)
      · intro fresh other there
        rcases origin other there with nothing | ⟨earlier, member, rfl⟩
        · exact absurd nothing List.not_mem_nil
        · exact fresh earlier member
    have appended : ofSession host (infos ++ [info]) = (ofSession host infos).offer info :=
      List.foldl_append
    rw [appended, mem_offers_offer, ih, known, kept_append_singleton]

/-! ## Resolving -/

variable
  {context : LoadContext}
  {name : String}
  {requested : ModuleVersion}

/-- The best offer has the name that is asked for, in a version that is new enough. -/
theorem of_offered?
    {offered : Offer}
    (found : context.offered? name requested = some offered) :
    offered ∈ context.offers ∧ offered.name = name ∧
      offered.version.covers requested = true := by
  have member := Offer.mem_of_best? found
  rw [List.mem_filter, Bool.and_eq_true, beq_iff_eq] at member
  exact member

/-- Something is offered exactly if there is an offer of this name that is new enough. -/
theorem offered?_isSome_iff :
    (∃ offered, context.offered? name requested = some offered) ↔
      ∃ offered ∈ context.offers, offered.name = name ∧
        offered.version.covers requested = true := by
  rw [offered?, Offer.best?_isSome_iff]
  simp only [List.mem_filter, Bool.and_eq_true, beq_iff_eq]

/-- Where the host has a module, its version decides. -/
theorem resolve_of_host
    {available : ModuleVersion}
    (provided : context.host.get? name = some available) :
    context.resolve name requested =
      if available.covers requested then .ok (.host available)
      else .error (.versionConflict name requested available) := by
  rw [resolve, provided]

/-- Where the host has none, the session serves the best that it offers. -/
theorem resolve_of_session
    {offered : Offer}
    (absent : context.host.get? name = none)
    (found : context.offered? name requested = some offered) :
    context.resolve name requested = .ok (.session offered.id) := by
  rw [resolve, absent]
  simp only [found]

/-- Where neither has any, the module is not found. -/
theorem resolve_of_nothing
    (absent : context.host.get? name = none)
    (nothing : context.offered? name requested = none) :
    context.resolve name requested = .error (.notFound (name ++ " >= " ++ requested.text)) := by
  rw [resolve, absent]
  simp only [nothing]

/-- What is offered is the best under a name, provided that it is new enough. -/
theorem offered?_eq_some_iff
    {best : Offer} :
    context.offered? name requested = some best ↔
      Offer.Best (· ∈ context.offers) name best ∧ best.version.covers requested = true := by
  apply Offer.search_eq_some_iff
  · intro found searched
    rcases of_offered? searched with ⟨member, named, covers⟩
    refine ⟨Offer.best_of_covering member named covers ?_, covers⟩
    intro other memberToo namedToo coversToo
    apply Offer.atMost_best? searched
    rw [List.mem_filter, Bool.and_eq_true, beq_iff_eq]
    exact ⟨memberToo, namedToo, coversToo⟩
  · intro offer member named covers
    exact offered?_isSome_iff.2 ⟨offer, member, named, covers⟩

/-- Contexts with the same offers under a name, and the same host, resolve it alike. -/
theorem resolve_congr
    {other : LoadContext}
    (sameHost : other.host = context.host)
    (sameOffers : ∀ offer, offer ∈ other.offers ↔ offer ∈ context.offers) :
    other.resolve name requested = context.resolve name requested := by
  have sameOffered : other.offered? name requested = context.offered? name requested := by
    apply Option.ext
    intro offer
    rw [offered?_eq_some_iff, offered?_eq_some_iff,
      Offer.best_congr fun offer _ => sameOffers offer]
  rw [resolve, resolve, sameHost, sameOffered]

/-- Several requests are all met or the first that is not fails. -/
theorem resolveAll_isOk_iff
    {references : List ModuleRef} :
    (∃ resolutions, context.resolveAll references = .ok resolutions) ↔
      ∀ reference ∈ references, ∃ resolution,
        context.resolve reference.name reference.version = .ok resolution := by
  induction references with
  | nil => exact ⟨fun _ => nofun, fun _ => ⟨[], rfl⟩⟩
  | cons first rest ih =>
    rw [List.forall_mem_cons, ← ih, resolveAll]
    cases context.resolve first.name first.version with
    | error failure => simp
    | ok resolution => cases context.resolveAll rest <;> simp

end LoadContext

end BuildCapture
