import BuildCapture.Proofs.Json.Reading
import BuildCapture.Proofs.Json.Schema
import BuildCapture.Record.OrderedMap
import Mathlib.Data.Finset.Card
import Mathlib.Data.List.Nodup

/-!
# What an ordered map holds

A map is built by giving names their values one after the other.  A new name goes
to the end, and a known name gets its new value where it stands.  So the names of
a map are those of the pairs in the order in which they come first, the value of
a name is the one that comes last, and these two determine the map.

A map is written as its entries, which are pairs with different names, so giving
these names their values yields the map again.
-/

namespace BuildCapture

open Json Json.Tree

/-- One more item is added behind the first occurrences if it is new. -/
theorem eraseDups_append_singleton
    {Item : Type}
    [DecidableEq Item]
    (items : List Item)
    (item : Item) :
    (items ++ [item]).eraseDups =
      if item ∈ items then items.eraseDups else items.eraseDups ++ [item] := by
  rw [List.eraseDups_append, List.removeAll]
  split
  · next known => simp [known]
  · next fresh =>
    have kept : [item].filter (fun other => !items.elem other) = [item] := by simp [fresh]
    rw [kept]
    rfl

namespace OrderedMap

variable {α : Type}

/-! ## Entries -/

theorem ext_entries
    {left right : OrderedMap α}
    (same : left.entries = right.entries) :
    left = right := by
  cases left with
  | mk entries distinct =>
    cases same
    rfl

/-- A new name goes to the end. -/
theorem put_of_not_mem
    {key : String}
    {entries : List (String × α)}
    (fresh : key ∉ entries.map Prod.fst)
    (value : α) :
    put key value entries = entries ++ [(key, value)] := by
  induction entries with
  | nil => rfl
  | cons entry rest ih =>
    rcases entry with ⟨name, old⟩
    rw [List.map_cons, List.mem_cons, not_or] at fresh
    have different : ¬ name = key := fun same => fresh.1 same.symm
    rw [put, if_neg different, ih fresh.2]
    rfl

/-- A known name gets its value where it stands. -/
theorem put_of_mem
    {key : String}
    {entries : List (String × α)}
    (distinct : (entries.map Prod.fst).Nodup)
    (known : key ∈ entries.map Prod.fst)
    (value : α) :
    put key value entries =
      entries.map fun entry => if entry.1 = key then (entry.1, value) else entry := by
  induction entries with
  | nil => cases known
  | cons entry rest ih =>
    rcases entry with ⟨name, old⟩
    rw [List.map_cons, List.nodup_cons] at distinct
    rw [put, List.map_cons]
    by_cases same : name = key
    · have others :
          (rest.map fun entry => if entry.1 = key then (entry.1, value) else entry) =
            rest.map id := by
        apply List.map_congr_left
        intro entry member
        have different : entry.1 ≠ key := by
          intro equal
          have known : entry.1 ∈ rest.map Prod.fst := List.mem_map_of_mem member
          rw [equal, ← same] at known
          exact distinct.1 known
        exact if_neg different
      rw [if_pos same, others, if_pos same, List.map_id]
    · rw [List.map_cons, List.mem_cons] at known
      have later := known.resolve_left fun equal => same equal.symm
      rw [if_neg same, ih distinct.2 later, if_neg same]

theorem lookup_put
    (key other : String)
    (value : α)
    (entries : List (String × α)) :
    List.lookup other (put key value entries) =
      if other = key then some value else List.lookup other entries := by
  induction entries with
  | nil =>
    rw [put, List.lookup_cons]
    split <;> simp_all
  | cons entry rest ih =>
    rcases entry with ⟨name, old⟩
    rw [put]
    split
    · next same =>
      subst same
      rw [List.lookup_cons, List.lookup_cons]
      split <;> simp_all
    · next different =>
      rw [List.lookup_cons, List.lookup_cons, ih]
      by_cases same : other = name
      · subst same
        simp [different]
      · simp [beq_false_of_ne same]

/-- Where the names are different, they and their values determine the entries. -/
theorem entries_eq_of_lookup
    {left right : List (String × α)}
    (distinct : (left.map Prod.fst).Nodup)
    (names : left.map Prod.fst = right.map Prod.fst)
    (values : ∀ key, List.lookup key left = List.lookup key right) :
    left = right := by
  induction left generalizing right with
  | nil => exact (List.map_eq_nil_iff.1 names.symm).symm
  | cons entry rest ih =>
    rcases entry with ⟨name, value⟩
    rw [List.map_cons, List.nodup_cons] at distinct
    rcases List.map_eq_cons_iff.1 names.symm with ⟨⟨other, valueToo⟩, others, rfl, rfl, later⟩
    have first := values other
    rw [List.lookup_cons_self, List.lookup_cons_self, Option.some.injEq] at first
    have laterValues : ∀ key, List.lookup key rest = List.lookup key others := by
      intro key
      by_cases same : key = other
      · subst same
        rw [lookup_of_absent distinct.1, lookup_of_absent (later ▸ distinct.1)]
      · have both := values key
        simpa [List.lookup_cons, beq_false_of_ne same] using both
    rw [first, ih distinct.2 later.symm laterValues]

/-! ## Names and values -/

/-- A map is determined by its names, in their order, and their values. -/
theorem ext_get?
    {left right : OrderedMap α}
    (names : left.keys = right.keys)
    (values : ∀ key, left.get? key = right.get? key) :
    left = right :=
  ext_entries (entries_eq_of_lookup left.distinct names values)

theorem keys_insert
    (map : OrderedMap α)
    (key : String)
    (value : α) :
    (map.insert key value).keys =
      if key ∈ map.keys then map.keys else map.keys ++ [key] :=
  keys_put key value map.entries

theorem get?_insert
    (map : OrderedMap α)
    (key other : String)
    (value : α) :
    (map.insert key value).get? other = if other = key then some value else map.get? other :=
  lookup_put key other value map.entries

/-- A further value replaces that of its name, or is appended with its name. -/
theorem entries_insert
    (map : OrderedMap α)
    (key : String)
    (value : α) :
    (map.insert key value).entries =
      if key ∈ map.keys then
        map.entries.map fun entry => if entry.1 = key then (entry.1, value) else entry
      else
        map.entries ++ [(key, value)] := by
  split
  · next known => exact put_of_mem map.distinct known value
  · next fresh => exact put_of_not_mem fresh value

/-! ## Maps of pairs -/

/-- The pairs that were given, one after the other, to build a map. -/
inductive Built : List (String × α) → OrderedMap α → Prop
  | empty : Built [] empty
  | insert {pairs : List (String × α)} {map : OrderedMap α}
      (built : Built pairs map) (key : String) (value : α) :
      Built (pairs ++ [(key, value)]) (map.insert key value)

/-- The names and values that pairs amount to: of a name its first place and its last value. -/
structure Holds (pairs : List (String × α)) (map : OrderedMap α) : Prop where
  names : map.keys = (pairs.map Prod.fst).eraseDups
  values : ∀ key, map.get? key = List.lookup key pairs.reverse

/-- One more pair adds its name if it is new, and gives it its value. -/
theorem Holds.insert
    {pairs : List (String × α)}
    {map : OrderedMap α}
    (holds : Holds pairs map)
    (key : String)
    (value : α) :
    Holds (pairs ++ [(key, value)]) (map.insert key value) where
  names := by
    have known : key ∈ map.keys ↔ key ∈ pairs.map Prod.fst := by
      rw [holds.names, List.mem_eraseDups]
    rw [keys_insert, List.map_append, List.map_singleton, eraseDups_append_singleton, holds.names]
    simp only [← holds.names, known]
  values other := by
    rw [get?_insert, holds.values, List.reverse_append, List.reverse_singleton,
      List.singleton_append, List.lookup_cons]
    by_cases same : other = key
    · simp [same]
    · simp [same, beq_false_of_ne same]

theorem Built.holds
    {pairs : List (String × α)}
    {map : OrderedMap α}
    (built : Built pairs map) :
    Holds pairs map := by
  induction built with
  | empty => exact ⟨rfl, fun _ => rfl⟩
  | insert _ key value ih => exact ih.insert key value

/-- Pairs amount to one map only. -/
theorem Holds.unique
    {pairs : List (String × α)}
    {left right : OrderedMap α}
    (holds : Holds pairs left)
    (holdsToo : Holds pairs right) :
    left = right :=
  ext_get? (holds.names.trans holdsToo.names.symm) fun key =>
    (holds.values key).trans (holdsToo.values key).symm

/-- Pairs build the map that they give at once. -/
theorem built_ofList
    (pairs : List (String × α)) :
    Built pairs (ofList pairs) := by
  induction pairs using List.reverseRecOn with
  | nil => exact .empty
  | append_singleton pairs pair ih =>
    rw [ofList, List.foldl_append]
    exact ih.insert pair.1 pair.2

theorem size_of_holds
    {pairs : List (String × α)}
    {map : OrderedMap α}
    (holds : Holds pairs map) :
    map.size = (pairs.map Prod.fst).toFinset.card := by
  have sameNames : (pairs.map Prod.fst).toFinset = map.keys.toFinset := by
    ext name
    rw [List.mem_toFinset, List.mem_toFinset, holds.names, List.mem_eraseDups]
  have distinct : map.keys.Nodup := map.distinct
  rw [sameNames, List.toFinset_card_of_nodup distinct, keys, List.length_map, size]

/-! ## Documents -/

/-- Giving new names their values appends them. -/
theorem entries_foldl_insert
    (map : OrderedMap α)
    {pairs : List (String × α)}
    (distinct : ((map.entries ++ pairs).map Prod.fst).Nodup) :
    (pairs.foldl (fun map pair => map.insert pair.1 pair.2) map).entries =
      map.entries ++ pairs := by
  induction pairs generalizing map with
  | nil => exact (List.append_nil _).symm
  | cons pair rest ih =>
    rcases pair with ⟨key, value⟩
    have fresh : key ∉ map.entries.map Prod.fst := by
      intro known
      rw [List.map_append, List.nodup_append] at distinct
      exact distinct.2.2 key known key List.mem_cons_self rfl
    have grown : (map.insert key value).entries = map.entries ++ [(key, value)] :=
      put_of_not_mem fresh value
    have distinctGrown : (((map.insert key value).entries ++ rest).map Prod.fst).Nodup := by
      rw [grown, List.append_assoc]
      exact distinct
    rw [List.foldl_cons, ih _ distinctGrown, grown, List.append_assoc]
    rfl

/-- A map is what its entries give. -/
theorem ofList_entries
    (map : OrderedMap α) :
    ofList map.entries = map := by
  apply ext_entries
  have distinct : ((empty.entries ++ map.entries).map Prod.fst).Nodup := map.distinct
  exact entries_foldl_insert empty distinct

section Documents

variable
  {height : Nat}
  {write : α → Tree}
  {read? : Tree → Option α}

/-- Pairs as an array, whether or not names are repeated. -/
def pairsTree
    (write : α → Tree)
    (pairs : List (String × α)) :
    Tree :=
  .ofList (fun pair => .array [.ofText pair.1, write pair.2]) pairs

/-- A pair is read back. -/
theorem pair_roundTrips
    (trips : RoundTrips height write read?) :
    RoundTrips (height + 1) (fun pair : String × α => .array [.ofText pair.1, write pair.2])
      (pair? read?) where
  reads pair := by
    rw [pair?, roundTrips_text.reads, trips.reads]
    rfl
  tidy pair := by
    apply tidyFrom_array
    intro part inside
    rcases List.mem_pair.1 inside with rfl | rfl
    · exact roundTrips_text.within pair.1
    · exact trips.tidy pair.2
  present _ := nofun

/-- An array of pairs is read as the map that the pairs give. -/
theorem ofTree?_pairsTree
    (trips : RoundTrips height write read?)
    (pairs : List (String × α)) :
    ofTree? read? (pairsTree write pairs) = some (ofList pairs) := by
  rw [ofTree?, pairsTree, (pair_roundTrips trips).list.reads, Option.map_some]

theorem roundTrips
    (trips : RoundTrips height write read?) :
    RoundTrips (height + 2) (toTree write) (ofTree? read?) where
  reads map := (ofTree?_pairsTree trips map.entries).trans (congrArg some map.ofList_entries)
  tidy map := (pair_roundTrips trips).list.tidy map.entries
  present _ := nofun

/-- The document of an array of pairs is read as that array. -/
theorem read?_pairsTree
    (trips : RoundTrips height write read?)
    (pairs : List (String × α)) :
    Tree.read? (pairsTree write pairs).render = some (pairsTree write pairs) := by
  have tidy : (pairsTree write pairs).Tidy (height + 1 + 1) :=
    (pair_roundTrips trips).list.tidy pairs _ (Nat.le_refl _)
  exact tidy.read? tidy.prints

/-- A document of an array of pairs, however it is spelled, stores the map that they give. -/
theorem decode_of_pairsTree
    (trips : RoundTrips height write read?)
    {pairs : List (String × α)}
    {data : Octets}
    (spells : Tree.read? data = some (pairsTree write pairs)) :
    decode read? data = some (ofList pairs) := by
  rw [decode, spells, Option.bind_some]
  exact ofTree?_pairsTree trips pairs

/-- A map is read back from its document. -/
theorem decode_encode
    (trips : RoundTrips height write read?)
    (map : OrderedMap α) :
    decode read? (map.encode write) = some map :=
  (decode_of_pairsTree trips (read?_pairsTree trips map.entries)).trans
    (congrArg some map.ofList_entries)

end Documents

/-! ## What pairs amount to -/

/--
Pairs amount to one map, whether their names are given their values one after the
other, or the map is made of all pairs at once, or it is read from the array of
the pairs.  Its names are those of the pairs, each once, in the order in which
they come first; the value of a name is the one that comes last.  A further value
replaces that of its name where it stands, or is appended with its name.  The map
is read back from its own document.
-/
theorem pairs_amount_to_one_map
    {height : Nat}
    {write : α → Tree}
    {read? : Tree → Option α}
    (trips : RoundTrips height write read?)
    (pairs : List (String × α)) :
    (∀ map, Built pairs map ↔ map = ofList pairs) ∧
      Tree.read? (pairsTree write pairs).render = some (pairsTree write pairs) ∧
      (∀ data, Tree.read? data = some (pairsTree write pairs) →
        decode read? data = some (ofList pairs)) ∧
      (ofList pairs).keys.Nodup ∧
      (ofList pairs).keys = (pairs.map Prod.fst).eraseDups ∧
      (∀ key, (ofList pairs).get? key = List.lookup key pairs.reverse) ∧
      (ofList pairs).size = (pairs.map Prod.fst).toFinset.card ∧
      (∀ key value, ((ofList pairs).insert key value).entries =
        if key ∈ (ofList pairs).keys then
          (ofList pairs).entries.map fun entry => if entry.1 = key then (entry.1, value) else entry
        else
          (ofList pairs).entries ++ [(key, value)]) ∧
      decode read? ((ofList pairs).encode write) = some (ofList pairs) := by
  have holds : Holds pairs (ofList pairs) := (built_ofList pairs).holds
  refine ⟨fun map => ⟨?_, ?_⟩, read?_pairsTree trips pairs, fun _ => decode_of_pairsTree trips,
    (ofList pairs).distinct, holds.names, holds.values, size_of_holds holds,
    (ofList pairs).entries_insert, decode_encode trips _⟩
  · exact fun built => built.holds.unique holds
  · rintro rfl
    exact built_ofList pairs

/-! ## A map with a repeated name -/

/-- Severities of diagnostics, that of the first given twice. -/
def severities : List (String × UInt8) :=
  [("CS1591", 0), ("CS0618", 2), ("CS1591", 3)]

/-- Severities as an array of pairs. -/
def severitiesTree : Tree :=
  pairsTree (fun value => ofNat value.toNat) severities

/-- The name that is given twice stays first and has its last value. -/
theorem severities_amount_to_two :
    RoundTrips 0 (fun value : UInt8 => ofNat value.toNat) uint8? ∧
      Tree.read? severitiesTree.render = some severitiesTree ∧
      decode uint8? severitiesTree.render = some (ofList severities) ∧
      (ofList severities).keys = ["CS1591", "CS0618"] ∧
      (ofList severities).get? "CS1591" = some 3 ∧ (ofList severities).size = 2 := by
  rcases pairs_amount_to_one_map roundTrips_uint8 severities with
    ⟨-, spells, reads, -, names, values, size, -⟩
  exact ⟨roundTrips_uint8, spells, reads _ spells, names, values "CS1591", size⟩

end OrderedMap

end BuildCapture
