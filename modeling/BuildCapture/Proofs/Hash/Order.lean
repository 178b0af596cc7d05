import BuildCapture.Proofs.Hash.Collections
import BuildCapture.Proofs.Hash.Documents
import Mathlib.Data.Finset.Dedup

/-!
# Which orders the identity hash knows

The compiler cares about the order of the sources and of the references, and
about no other order.  So does the identity hash: rearranging anything else,
and repeating aliases, leaves the identity view as it is, while two sources or
references that differ in their views can not change places unnoticed.
-/

open scoped List

namespace BuildCapture

/-! ## Sort keys -/

theorem ContentKey.octets_injective : Function.Injective ContentKey.octets := by
  rintro ⟨digest⟩ ⟨other⟩ same
  exact congrArg ContentKey.mk (Vector.toList_inj.1 same)

theorem ModuleId.octets_injective : Function.Injective ModuleId.octets := by
  rintro ⟨value⟩ ⟨other⟩ same
  exact congrArg ModuleId.mk (Vector.toList_inj.1 same)

/-- The place of a kind among all kinds tells which one it is. -/
theorem ContentKind.named_rank
    (kind : ContentKind) :
    (ContentKind.named.map Prod.snd)[(UInt8.ofNat kind.rank).toNat]? = some kind := by
  cases kind <;> rfl

namespace IdentityView

theorem contentSortKey_injective : Function.Injective contentSortKey := by
  rintro ⟨kind, key, path⟩ ⟨otherKind, otherKey, otherPath⟩ same
  simp only [contentSortKey, List.cons.injEq, and_true] at same
  rcases same with ⟨rank, octets, text⟩
  have sameKind : kind = otherKind := by
    apply Option.some.inj
    rw [← kind.named_rank, ← otherKind.named_rank, rank]
  rw [sameKind, ContentKey.octets_injective octets, Octets.ofText_injective text]

theorem resourceSortKey_injective : Function.Injective resourceSortKey := by
  rintro ⟨key, name, isPublic⟩ ⟨otherKey, otherName, otherPublic⟩ same
  simp only [resourceSortKey, List.cons.injEq, and_true] at same
  rcases same with ⟨octets, text, visibility⟩
  have samePublic : isPublic = otherPublic := by
    cases isPublic with
    | false =>
      cases otherPublic with
      | false => rfl
      | true => cases visibility
    | true =>
      cases otherPublic with
      | false => cases visibility
      | true => rfl
  rw [samePublic, ContentKey.octets_injective octets, Octets.ofText_injective text]

theorem generatedSortKey_injective : Function.Injective generatedSortKey := by
  rintro ⟨key, path⟩ ⟨otherKey, otherPath⟩ same
  simp only [generatedSortKey, List.cons.injEq, and_true] at same
  rw [ContentKey.octets_injective same.1, Octets.ofText_injective same.2]

theorem analyzerSortKey_injective :
    Function.Injective fun id : ModuleId => [id.octets] :=
  fun _ _ same => ModuleId.octets_injective (List.cons.inj same).1

theorem aliasSortKey_injective :
    Function.Injective fun name : String => [Octets.ofText name] :=
  fun _ _ same => Octets.ofText_injective (List.cons.inj same).1

/-! ## Arrangements -/

/-- Contents are arranged alike if the sources keep their order. -/
theorem arrangeContents_congr
    {left right : List (ContentKind × ContentKey × String)}
    (same : left ~ right)
    (sources :
      left.filter (fun content => content.1.isOrderSensitive) =
        right.filter fun content => content.1.isOrderSensitive) :
    arrangeContents left = arrangeContents right := by
  rw [arrangeContents, arrangeContents, sources,
    sortedBy_congr contentSortKey_injective (same.filter _)]

/-- Arranging contents leaves the sources in stored order. -/
theorem filter_arrangeContents
    (contents : List (ContentKind × ContentKey × String)) :
    (arrangeContents contents).filter (fun content => content.1.isOrderSensitive) =
      contents.filter fun content => content.1.isOrderSensitive := by
  have noOthers :
      (sortedBy contentSortKey
        (contents.filter fun content => !content.1.isOrderSensitive)).filter
          (fun content => content.1.isOrderSensitive) = [] := by
    rw [List.filter_eq_nil_iff]
    intro content member
    rw [(perm_sortedBy _).mem_iff, List.mem_filter, Bool.not_eq_true'] at member
    rw [member.2]
    exact Bool.false_ne_true
  rw [arrangeContents, List.filter_append, noOthers, List.append_nil, List.filter_filter]
  simp only [Bool.and_self]

/-- Aliases are arranged alike if they have the same members. -/
theorem arrangeAliases_congr
    {left right : List String}
    (same : ∀ name, name ∈ left ↔ name ∈ right)
    (root : String) :
    arrangeAliases root left = arrangeAliases root right := by
  apply eraseReps_sortedBy_congr aliasSortKey_injective
  intro name
  rw [List.mem_map, List.mem_map]
  simp only [same]

/-- Arranging aliases loses none of them. -/
theorem mem_arrangeAliases
    {root name : String}
    {aliases : List String} :
    name ∈ arrangeAliases root aliases ↔
      ∃ spelled ∈ aliases, SourcePath.canonicalText spelled root = name := by
  rw [arrangeAliases, mem_eraseReps, (perm_sortedBy _).mem_iff, List.mem_map]

end IdentityView

/-! ## Orders that do not matter -/

namespace InvocationRecord

/-- The same record with another order wherever order does not matter. -/
structure Rearranged (record other : InvocationRecord) : Prop where
  contents : record.contents ~ other.contents
  /-- The sources keep their order. -/
  sources :
    record.contents.filter (fun entry => entry.kind == .source) =
      other.contents.filter fun entry => entry.kind == .source
  resources : record.resources ~ other.resources
  /-- The references keep their order, and each has the same aliases in any order and number. -/
  references :
    List.Forall₂
      (fun entry again => { again with aliases := entry.aliases } = entry ∧
        ∀ name, name ∈ entry.aliases ↔ name ∈ again.aliases)
      record.references other.references
  analyzers : record.analyzers ~ other.analyzers
  generated : Option.Rel (· ~ ·) record.generated other.generated
  /-- Everything else is the same. -/
  rest :
    other =
      { record with
        contents := other.contents
        resources := other.resources
        references := other.references
        analyzers := other.analyzers
        generated := other.generated }

/-- Orders that do not matter leave the identity view as it is. -/
theorem Rearranged.view_eq
    {record other : InvocationRecord}
    (rearranged : record.Rearranged other) :
    IdentityView.ofRecord record = IdentityView.ofRecord other := by
  rw [rearranged.rest, IdentityView.ofRecord, IdentityView.ofRecord]
  simp only
  generalize SourcePath.parent record.projectPath = root
  congr 1
  case e_contents =>
    apply IdentityView.arrangeContents_congr (rearranged.contents.map _)
    rw [List.filter_map, List.filter_map]
    exact congrArg _ rearranged.sources
  case e_resources =>
    exact sortedBy_congr IdentityView.resourceSortKey_injective (rearranged.resources.map _)
  case e_references =>
    apply map_eq_of_forall₂ _ rearranged.references
    rintro entry again ⟨same, aliases⟩
    rw [IdentityView.arrangeAliases_congr aliases, ← same]
  case e_analyzers =>
    exact sortedBy_congr IdentityView.analyzerSortKey_injective (rearranged.analyzers.map _)
  case e_generated =>
    apply map_eq_of_rel _ rearranged.generated
    intro entries again same
    exact sortedBy_congr IdentityView.generatedSortKey_injective (same.map _)

/-! ## Orders that matter -/

/-- What the identity view holds of a source. -/
def canonicalSource
    (record : InvocationRecord)
    (entry : ContentEntry) :
    ContentKey × String :=
  (entry.key, SourcePath.relativize entry.path (SourcePath.parent record.projectPath))

/-- What the identity view holds of a reference, the aliases as a set. -/
def canonicalReference
    (record : InvocationRecord)
    (entry : ReferenceEntry) :
    ModuleId × ReferenceKind × Bool × Finset String :=
  (entry.module, entry.kind, entry.embedInteropTypes,
    (entry.aliases.map fun name =>
      SourcePath.canonicalText name (SourcePath.parent record.projectPath)).toFinset)

/-- Two different sources or two different references have changed places. -/
inductive Reordered (record : InvocationRecord) : InvocationRecord → Prop
  | sources {front middle back : List ContentEntry} {first second : ContentEntry}
      (stored : record.contents = front ++ first :: (middle ++ second :: back))
      (firstKind : first.kind = .source)
      (secondKind : second.kind = .source)
      (different : record.canonicalSource first ≠ record.canonicalSource second) :
      Reordered record
        { record with contents := front ++ second :: (middle ++ first :: back) }
  | references {front middle back : List ReferenceEntry} {first second : ReferenceEntry}
      (stored : record.references = front ++ first :: (middle ++ second :: back))
      (different : record.canonicalReference first ≠ record.canonicalReference second) :
      Reordered record
        { record with references := front ++ second :: (middle ++ first :: back) }

/-- Where lists with a common front are equal, the next elements are. -/
theorem eq_of_append_cons
    {α : Type}
    {front back otherBack : List α}
    {first other : α}
    (same : front ++ first :: back = front ++ other :: otherBack) :
    first = other :=
  (List.cons.inj (List.append_cancel_left same)).1

/-- Orders that matter are seen in the identity view. -/
theorem Reordered.view_ne
    {record other : InvocationRecord}
    (reordered : record.Reordered other) :
    IdentityView.ofRecord record ≠ IdentityView.ofRecord other := by
  intro same
  cases reordered with
  | @sources front middle back first second stored firstKind secondKind different =>
    have contents := congrArg IdentityView.contents same
    simp only [IdentityView.ofRecord, stored, List.map_append, List.map_cons] at contents
    have sources :=
      congrArg (List.filter fun content => content.1.isOrderSensitive) contents
    have sensitive : ContentKind.source.isOrderSensitive = true := rfl
    simp only [IdentityView.filter_arrangeContents, List.filter_append, List.filter_cons,
      firstKind, secondKind, sensitive, if_true] at sources
    have equal := eq_of_append_cons sources
    rw [Prod.mk.injEq] at equal
    exact different equal.2
  | @references front middle back first second stored different =>
    have references := congrArg IdentityView.references same
    simp only [IdentityView.ofRecord, stored, List.map_append, List.map_cons] at references
    have equal := eq_of_append_cons references
    simp only [Prod.mk.injEq] at equal
    rcases equal with ⟨module, kind, embeds, aliases⟩
    apply different
    rw [canonicalReference, canonicalReference, module, kind, embeds]
    congr 3
    apply Finset.ext
    intro name
    rw [List.mem_toFinset, List.mem_toFinset, List.mem_map, List.mem_map,
      ← IdentityView.mem_arrangeAliases, ← IdentityView.mem_arrangeAliases, aliases]

/--
The identity hash knows the order of the sources and of the references, and no
other order.  Rearranging everything else, and repeating aliases, leaves it as
it is; when two sources or references that the view tells apart change places,
it changes, unless their documents are a collision of the hash function.
-/
theorem identityHash_order_laws
    (record : InvocationRecord) :
    (∀ other, record.Rearranged other → record.identityHash = other.identityHash) ∧
      ∀ other, record.Reordered other →
        record.identityHash ≠ other.identityHash ∨
          Collide (IdentityView.ofRecord record).document
            (IdentityView.ofRecord other).document := by
  constructor
  · intro other rearranged
    rw [identityHash, identityHash, rearranged.view_eq]
  · intro other reordered
    exact identityHash_ne_or_collide reordered.view_ne

end InvocationRecord

/-! ## A library in other orders -/

namespace Library

/-- A key that all contents of the library share. -/
def key : ContentKey := .repeating 1

/-- The module that the library references twice. -/
def moduleId : ModuleId := .repeating 7

/-- Two sources with notes between them, and two references to one module. -/
def library : InvocationRecord where
  projectPath := "/p/library.csproj"
  language := .csharp
  kind := .regular
  contents := [⟨.source, key, "/p/a.cs"⟩, ⟨.additionalText, key, "/p/notes"⟩,
    ⟨.source, key, "/p/b.cs"⟩]
  references := [⟨moduleId, .assembly, false, ["x", "y"], "/sdk/core.dll"⟩,
    ⟨moduleId, .assembly, true, [], "/sdk/core.dll"⟩]
  generated := some [⟨key, "/p/c.cs"⟩, ⟨key, "/p/d.cs"⟩]

/-- The notes come first, generated texts have changed places, and an alias is repeated. -/
def shuffled : InvocationRecord :=
  { library with
    contents := [⟨.additionalText, key, "/p/notes"⟩, ⟨.source, key, "/p/a.cs"⟩,
      ⟨.source, key, "/p/b.cs"⟩]
    references := [⟨moduleId, .assembly, false, ["y", "x", "y"], "/sdk/core.dll"⟩,
      ⟨moduleId, .assembly, true, [], "/sdk/core.dll"⟩]
    generated := some [⟨key, "/p/d.cs"⟩, ⟨key, "/p/c.cs"⟩] }

/-- The sources have changed places. -/
def sourcesSwapped : InvocationRecord :=
  { library with
    contents := [⟨.source, key, "/p/b.cs"⟩, ⟨.additionalText, key, "/p/notes"⟩,
      ⟨.source, key, "/p/a.cs"⟩] }

/-- The references have changed places. -/
def referencesSwapped : InvocationRecord :=
  { library with
    references := [⟨moduleId, .assembly, true, [], "/sdk/core.dll"⟩,
      ⟨moduleId, .assembly, false, ["x", "y"], "/sdk/core.dll"⟩] }

theorem rearranged_shuffled : library.Rearranged shuffled where
  contents := .swap _ _ _
  sources := rfl
  resources := .refl _
  references := by
    refine .cons ⟨rfl, ?_⟩ (.cons ⟨rfl, fun _ => Iff.rfl⟩ .nil)
    intro name
    simp only [List.mem_cons, List.not_mem_nil, or_false]
    tauto
  analyzers := .refl _
  generated := .some (.swap _ _ _)
  rest := rfl

theorem reordered_sourcesSwapped : library.Reordered sourcesSwapped := by
  have stored :
      library.contents =
        [] ++ ⟨.source, key, "/p/a.cs"⟩ ::
          ([⟨.additionalText, key, "/p/notes"⟩] ++ ⟨.source, key, "/p/b.cs"⟩ :: []) :=
    rfl
  exact .sources stored rfl rfl (by decide)

theorem reordered_referencesSwapped : library.Reordered referencesSwapped := by
  have stored :
      library.references =
        [] ++ ⟨moduleId, .assembly, false, ["x", "y"], "/sdk/core.dll"⟩ ::
          ([] ++ ⟨moduleId, .assembly, true, [], "/sdk/core.dll"⟩ :: []) :=
    rfl
  exact .references stored (by decide)

/-- The library has one hash in all orders that do not matter, and others in those that do. -/
theorem order_laws_of_library :
    library.identityHash = shuffled.identityHash ∧
      (library.identityHash ≠ sourcesSwapped.identityHash ∨
        Collide (IdentityView.ofRecord library).document
          (IdentityView.ofRecord sourcesSwapped).document) ∧
      (library.identityHash ≠ referencesSwapped.identityHash ∨
        Collide (IdentityView.ofRecord library).document
          (IdentityView.ofRecord referencesSwapped).document) := by
  have laws := library.identityHash_order_laws
  exact ⟨laws.1 shuffled rearranged_shuffled, laws.2 sourcesSwapped reordered_sourcesSwapped,
    laws.2 referencesSwapped reordered_referencesSwapped⟩

end Library

end BuildCapture
