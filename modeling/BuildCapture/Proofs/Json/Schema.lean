import BuildCapture.Json.Schema
import BuildCapture.Proofs.Json.Printing
import Mathlib.Data.List.Nodup

/-!
# Reading back typed values

A way of writing values as trees round-trips if every tree that is written is
tidy and read back as its value.  Scalars do, lists and optional values of what
does, and structures: the fields of a structure are found again because their
names are different, whether or not some of them are left out.
-/

namespace BuildCapture.Json.Tree

/-- A tree that is tidy wherever there is room for this height. -/
def TidyFrom (height : Nat) (tree : Tree) : Prop :=
  ∀ room, height ≤ room → tree.Tidy room

/-- Values are written as trees of some height, tidy and never null, and read back. -/
structure RoundTrips
    {α : Type}
    (height : Nat)
    (write : α → Tree)
    (read? : Tree → Option α) : Prop where
  reads : ∀ value, read? (write value) = some value
  tidy : ∀ value, (write value).TidyFrom height
  present : ∀ value, write value ≠ .null

/-! ## Heights -/

section Heights

variable {height extra : Nat}

/-- What is tidy from some height is tidy from any greater one. -/
theorem TidyFrom.higher
    {tree : Tree}
    (tidy : tree.TidyFrom height) :
    tree.TidyFrom (extra + height) :=
  fun room enough => tidy room (Nat.le_of_add_left_le enough)

theorem tidyFrom_succ
    {tree : Tree}
    (tidy : ∀ room, height ≤ room → tree.Tidy (room + 1)) :
    tree.TidyFrom (height + 1) := by
  intro room enough
  rcases Nat.exists_eq_succ_of_ne_zero (Nat.ne_of_gt (Nat.zero_lt_of_lt enough)) with ⟨room, rfl⟩
  exact tidy room (Nat.le_of_succ_le_succ enough)

/-- An array is one higher than its items. -/
theorem tidyFrom_array
    {items : List Tree}
    (tidy : ∀ item ∈ items, item.TidyFrom height) :
    (array items).TidyFrom (height + 1) := by
  apply tidyFrom_succ
  intro room enough
  exact .array fun item member => tidy item member room enough

theorem tidyFrom_ofOption
    {α : Type}
    {write : α → Tree}
    (tidy : ∀ value, (write value).TidyFrom height)
    (value : Option α) :
    (ofOption write value).TidyFrom height := by
  cases value with
  | none => exact fun _ _ => .null
  | some present => exact tidy present

end Heights

theorem RoundTrips.within
    {α : Type}
    {height extra : Nat}
    {write : α → Tree}
    {read? : Tree → Option α}
    (trips : RoundTrips height write read?)
    (value : α) :
    (write value).TidyFrom (extra + height) :=
  (trips.tidy value).higher

/-! ## Scalars -/

theorem natural?_ofNat
    {limit value : Nat}
    (small : value < limit) :
    (ofNat value).natural? limit = some value := by
  rw [ofNat, natural?, if_pos small]

theorem tidy_ofNat
    {room value : Nat}
    (small : value < Octets.bound 8) :
    (ofNat value).Tidy room :=
  .natural small

theorem roundTrips_text : RoundTrips 0 ofText text? where
  reads := Octets.text?_ofText
  tidy value _ _ := .text value
  present _ := nofun

theorem roundTrips_bool : RoundTrips 0 .bool bool? where
  reads _ := rfl
  tidy value _ _ := .bool value
  present _ := nofun

/-- Words of a width of at most eight octets are read back as numbers of that width. -/
theorem roundTrips_word
    {α : Type}
    {width : Nat}
    (narrow : Octets.bound width ≤ Octets.bound 8)
    {toNat : α → Nat}
    {word : Nat → α}
    (small : ∀ value, toNat value < Octets.bound width)
    (inverse : ∀ value, word (toNat value) = value) :
    RoundTrips 0 (fun value => ofNat (toNat value))
      (fun tree => (tree.natural? (Octets.bound width)).map word) where
  reads value := by
    rw [natural?_ofNat (small value), Option.map_some, inverse]
  tidy value _ _ := tidy_ofNat (Nat.lt_of_lt_of_le (small value) narrow)
  present _ := nofun

theorem roundTrips_uint8 : RoundTrips 0 (fun value : UInt8 => ofNat value.toNat) uint8? :=
  roundTrips_word (by decide) UInt8.toNat_lt fun _ => UInt8.ofNat_toNat

theorem roundTrips_uint16 : RoundTrips 0 (fun value : UInt16 => ofNat value.toNat) uint16? :=
  roundTrips_word (by decide) UInt16.toNat_lt fun _ => UInt16.ofNat_toNat

theorem roundTrips_uint32 : RoundTrips 0 (fun value : UInt32 => ofNat value.toNat) uint32? :=
  roundTrips_word (by decide) UInt32.toNat_lt fun _ => UInt32.ofNat_toNat

theorem roundTrips_uint64 : RoundTrips 0 (fun value : UInt64 => ofNat value.toNat) uint64? :=
  roundTrips_word (by decide) UInt64.toNat_lt fun _ => UInt64.ofNat_toNat

/-- A choice is read back by its name if each name is listed with its choice. -/
theorem roundTrips_choice
    {α : Type}
    {name : α → String}
    {choices : List (String × α)}
    (listed : ∀ value, List.lookup (name value) choices = some value) :
    RoundTrips 0 (fun value => ofText (name value)) (choice? choices) where
  reads value := by
    show (Octets.text? (Octets.ofText (name value))).bind _ = _
    rw [Octets.text?_ofText, Option.bind_some]
    exact listed value
  tidy value _ _ := .text (name value)
  present _ := nofun

/-! ## Lists and null -/

theorem mapM_map
    {α : Type}
    {write : α → Tree}
    {read? : Tree → Option α}
    (reads : ∀ value, read? (write value) = some value)
    (values : List α) :
    (values.map write).mapM read? = some values := by
  induction values with
  | nil => rfl
  | cons value rest ih =>
    rw [List.map_cons, List.mapM_cons, reads, ih]
    rfl

theorem RoundTrips.list
    {α : Type}
    {height : Nat}
    {write : α → Tree}
    {read? : Tree → Option α}
    (trips : RoundTrips height write read?) :
    RoundTrips (height + 1) (ofList write) (list? read?) where
  reads := mapM_map trips.reads
  tidy values := by
    apply tidyFrom_array
    intro item member
    rcases List.mem_map.1 member with ⟨value, -, rfl⟩
    exact trips.tidy value
  present _ := nofun

/-- What is present is read as present. -/
theorem RoundTrips.option?
    {α : Type}
    {height : Nat}
    {write : α → Tree}
    {read? : Tree → Option α}
    (trips : RoundTrips height write read?)
    (value : α) :
    Tree.option? read? (write value) = some (some value) := by
  have present := trips.present value
  have reads := trips.reads value
  unfold Tree.option?
  split
  · next null => exact absurd null present
  · rw [reads]
    rfl

/-- A value or null is read back. -/
theorem RoundTrips.ofOption
    {α : Type}
    {height : Nat}
    {write : α → Tree}
    {read? : Tree → Option α}
    (trips : RoundTrips height write read?)
    (value : Option α) :
    Tree.option? read? (Tree.ofOption write value) = some value := by
  cases value with
  | none => rfl
  | some present => exact trips.option? present

theorem RoundTrips.optionWithin
    {α : Type}
    {height extra : Nat}
    {write : α → Tree}
    {read? : Tree → Option α}
    (trips : RoundTrips height write read?)
    (value : Option α) :
    (Tree.ofOption write value).TidyFrom (extra + height) :=
  (tidyFrom_ofOption trips.tidy value).higher

/-! ## Structures -/

theorem knownMembers?_map
    {names : List String}
    {fields : Fields}
    (known : ∀ field ∈ fields, field.1 ∈ names) :
    knownMembers? names (fields.map fun (name, value) => (Octets.ofText name, value)) =
      some fields := by
  induction fields with
  | nil => rfl
  | cons field rest ih =>
    rcases field with ⟨name, value⟩
    have others := ih fun other later => known other (List.mem_cons_of_mem _ later)
    have listed : names.contains name = true :=
      List.contains_iff_mem.2 (known (name, value) List.mem_cons_self)
    rw [List.map_cons, knownMembers?, Octets.text?_ofText, others]
    show some (if names.contains name then _ else _) = _
    rw [if_pos listed]

theorem hasRepeats_of_nodup
    {fields : Fields}
    (distinct : (fields.map Prod.fst).Nodup) :
    hasRepeats fields = false := by
  induction fields with
  | nil => rfl
  | cons field rest ih =>
    rcases field with ⟨name, value⟩
    rw [List.map_cons, List.nodup_cons] at distinct
    have noneLater : (rest.any fun other => other.1 == name) = false := by
      rw [List.any_eq_false]
      intro other later same
      have inside : other.1 ∈ rest.map Prod.fst := List.mem_map_of_mem later
      rw [beq_iff_eq.1 same] at inside
      exact distinct.1 inside
    rw [hasRepeats, noneLater, ih distinct.2]
    rfl

/-- The fields of a structure, given the value of each or that it is left out. -/
def Fields.present : List (String × Option Tree) → Fields
  | [] => []
  | (name, slot) :: rest => Fields.whenSome name id slot ++ Fields.present rest

theorem whenSome_map
    {α : Type}
    (name : String)
    (write : α → Tree)
    (value : Option α) :
    Fields.whenSome name write value = Fields.whenSome name id (value.map write) := by
  cases value with
  | none => rfl
  | some present => rfl

theorem sublist_present
    (slots : List (String × Option Tree)) :
    ((Fields.present slots).map Prod.fst).Sublist (slots.map Prod.fst) := by
  induction slots with
  | nil => exact List.Sublist.refl _
  | cons slot rest ih =>
    rcases slot with ⟨name, value⟩
    cases value with
    | none => exact ih.cons name
    | some tree => exact ih.cons_cons name

/-- A name that nothing has is not found. -/
theorem lookup_of_absent
    {α : Type}
    {name : String}
    {entries : List (String × α)}
    (absent : name ∉ entries.map Prod.fst) :
    List.lookup name entries = none := by
  rw [List.lookup_eq_none_iff]
  intro entry member
  apply bne_iff_ne.2
  intro equal
  exact absent (equal ▸ List.mem_map_of_mem member)

theorem lookup_present
    {slots : List (String × Option Tree)}
    (distinct : (slots.map Prod.fst).Nodup) :
    ∀ slot ∈ slots, List.lookup slot.1 (Fields.present slots) = slot.2 := by
  induction slots with
  | nil => exact fun slot member => absurd member List.not_mem_nil
  | cons first rest ih =>
    rcases first with ⟨name, value⟩
    rw [List.map_cons, List.nodup_cons] at distinct
    have absent : List.lookup name (Fields.present rest) = none :=
      lookup_of_absent fun inside => distinct.1 ((sublist_present rest).subset inside)
    intro slot member
    rw [Fields.present, List.lookup_append]
    rcases List.mem_cons.1 member with rfl | later
    · cases value with
      | none =>
        show Option.or none (List.lookup name (Fields.present rest)) = none
        rw [absent, Option.or_none]
      | some tree =>
        show Option.or (List.lookup name [(name, tree)]) _ = some tree
        rw [List.lookup_cons_self, Option.some_or]
    · have different : (slot.1 == name) = false := by
        apply beq_false_of_ne
        intro same
        have inside : slot.1 ∈ rest.map Prod.fst := List.mem_map_of_mem later
        exact distinct.1 (same ▸ inside)
      have notFirst : List.lookup slot.1 (Fields.whenSome name id value) = none := by
        cases value with
        | none => rfl
        | some tree =>
          rw [Fields.whenSome, List.lookup_cons, different]
          rfl
      rw [notFirst, Option.none_or]
      exact ih distinct.2 slot later

theorem tidyFrom_present
    {slots : List (String × Option Tree)}
    {height : Nat}
    (tidy : ∀ slot ∈ slots, ∀ tree ∈ slot.2, tree.TidyFrom height) :
    ∀ field ∈ Fields.present slots, field.2.TidyFrom height := by
  induction slots with
  | nil => exact fun field member => absurd member List.not_mem_nil
  | cons slot rest ih =>
    rcases slot with ⟨name, value⟩
    have others := ih fun other later => tidy other (List.mem_cons_of_mem _ later)
    have first := tidy (name, value) List.mem_cons_self
    intro field member
    rcases List.mem_append.1 member with here | later
    · cases value with
      | none => exact absurd here List.not_mem_nil
      | some tree =>
        rw [List.mem_singleton.1 here]
        exact first tree rfl
    · exact others field later

/-- An object of values under different names is one higher than its values. -/
theorem tidyFrom_ofFields
    {fields : Fields}
    (distinct : (fields.map Prod.fst).Nodup)
    {height : Nat}
    (tidy : ∀ field ∈ fields, field.2.TidyFrom height) :
    (ofFields fields).TidyFrom (height + 1) := by
  apply tidyFrom_succ
  intro room enough
  apply Tidy.object
  · have keys :
        (fields.map fun (name, value) => (Octets.ofText name, value)).map Prod.fst =
          (fields.map Prod.fst).map Octets.ofText := by
      rw [List.map_map, List.map_map]
      rfl
    rw [keys]
    exact distinct.map fun _ _ same => Octets.ofText_injective same
  · intro member inside
    rcases List.mem_map.1 inside with ⟨field, -, rfl⟩
    exact ⟨field.1, rfl⟩
  · intro member inside
    rcases List.mem_map.1 inside with ⟨field, there, rfl⟩
    exact tidy field there room enough

/--
A structure round-trips if its values are tidy and it can be put together from
the value of each field, or from the knowledge that the field was left out.
-/
theorem roundTrips_slots
    {α : Type}
    {height : Nat}
    {names : List String}
    (distinct : names.Nodup)
    {slots : α → List (String × Option Tree)}
    (aligned : ∀ value, (slots value).map Prod.fst = names)
    (tidy : ∀ value, ∀ slot ∈ slots value, ∀ tree ∈ slot.2, tree.TidyFrom height)
    {assemble : Fields → Option α}
    (assembles :
      ∀ value fields,
        (∀ slot ∈ slots value, List.lookup slot.1 fields = slot.2) →
          assemble fields = some value) :
    RoundTrips (height + 1) (fun value => ofFields (Fields.present (slots value)))
      (fun tree => (tree.fields? names).bind assemble) where
  reads value := by
    have distinctSlots : ((slots value).map Prod.fst).Nodup := (aligned value).symm ▸ distinct
    have listed : ∀ field ∈ Fields.present (slots value), field.1 ∈ names := by
      intro field member
      rw [← aligned value]
      exact (sublist_present (slots value)).subset (List.mem_map_of_mem member)
    have found :
        (ofFields (Fields.present (slots value))).fields? names =
          some (Fields.present (slots value)) := by
      rw [ofFields, fields?, knownMembers?_map listed]
      show (if hasRepeats (Fields.present (slots value)) then none else some _) = _
      rw [hasRepeats_of_nodup (distinctSlots.sublist (sublist_present _))]
      rfl
    show ((ofFields (Fields.present (slots value))).fields? names).bind assemble = _
    rw [found, Option.bind_some]
    exact assembles value _ (lookup_present distinctSlots)
  tidy value := by
    have distinctSlots : ((slots value).map Prod.fst).Nodup := (aligned value).symm ▸ distinct
    apply tidyFrom_ofFields (distinctSlots.sublist (sublist_present _))
    exact tidyFrom_present (tidy value)
  present _ := nofun

theorem present_map_some
    (fields : Fields) :
    Fields.present (fields.map fun field => (field.1, some field.2)) = fields := by
  induction fields with
  | nil => rfl
  | cons field rest ih =>
    rw [List.map_cons, Fields.present, ih]
    rfl

/-- A structure that leaves no field out round-trips if its values do. -/
theorem roundTrips_fields
    {α : Type}
    {height : Nat}
    {names : List String}
    (distinct : names.Nodup)
    {fields : α → Fields}
    (aligned : ∀ value, (fields value).map Prod.fst = names)
    (tidy : ∀ value, ∀ field ∈ fields value, field.2.TidyFrom height)
    {assemble : Fields → Option α}
    (assembles :
      ∀ value found,
        (∀ field ∈ fields value, List.lookup field.1 found = some field.2) →
          assemble found = some value) :
    RoundTrips (height + 1) (fun value => ofFields (fields value))
      (fun tree => (tree.fields? names).bind assemble) := by
  have slotted :=
    @roundTrips_slots α height names distinct
      (fun value => (fields value).map fun field => (field.1, some field.2))
      (fun value => by
        rw [List.map_map]
        exact aligned value)
      (fun value slot member tree there => by
        rcases List.mem_map.1 member with ⟨field, inside, rfl⟩
        cases there
        exact tidy value field inside)
      assemble
      (fun value found lookups => assembles value found fun field inside =>
        lookups (field.1, some field.2) (List.mem_map_of_mem inside))
  simp only [present_map_some] at slotted
  exact slotted

theorem Fields.required_of_lookup
    {α : Type}
    {fields : Fields}
    {name : String}
    {tree : Tree}
    (there : List.lookup name fields = some tree)
    (read? : Tree → Option α) :
    fields.required name read? = read? tree := by
  rw [Fields.required, there, Option.bind_some]

theorem Fields.defaulted_of_lookup
    {α : Type}
    {fields : Fields}
    {name : String}
    {tree : Tree}
    (there : List.lookup name fields = some tree)
    (read? : Tree → Option α)
    (absent : α) :
    fields.defaulted name read? absent = read? tree := by
  rw [Fields.defaulted, there]

/-- A field that is left out where it has no value is read back. -/
theorem RoundTrips.defaulted
    {α : Type}
    {height : Nat}
    {write : α → Tree}
    {read? : Tree → Option α}
    (trips : RoundTrips height write read?)
    {fields : Fields}
    {name : String}
    {value : Option α}
    (there : List.lookup name fields = value.map write) :
    fields.defaulted name (Tree.option? read?) none = some value := by
  cases value with
  | none =>
    rw [Option.map_none] at there
    rw [Fields.defaulted, there]
  | some present =>
    rw [Option.map_some] at there
    rw [Fields.defaulted_of_lookup there, trips.option?]

end BuildCapture.Json.Tree
