import BuildCapture.Json.Schema
import BuildCapture.Proofs.Json.Schema

/-!
# Structures that evolve

Later versions of a program add fields to the structures that it stores.  Each
addition is a member with a name that earlier readers do not know, and each
reader has defaults for what earlier writers left out.  This module says what
such changes of a tree do to the value that is read from it: a layout names the
fields of a structure, those that may be missing, and the structures within its
fields.  A lawful layout follows every change of a tree.
-/

namespace BuildCapture.Json.Tree

/-! ## Readings that follow each other -/

section Follows

variable {α β γ : Type}

/-- Where the one reading gives a value, the other gives it changed. -/
def Follows (left : Option α) (right : Option β) (change : α → β) : Prop :=
  ∀ value, left = some value → right = some (change value)

theorem follows_same
    (reading : Option α) :
    Follows reading reading id :=
  fun _ found => found

theorem follows_pure
    {value : α}
    {other : β}
    {change : α → β}
    (same : change value = other) :
    Follows (pure value : Option α) (pure other : Option β) change := by
  intro found reading
  cases reading
  exact congrArg some same.symm

/-- Readings that go on with what they have read follow each other step by step. -/
theorem Follows.bind
    {δ : Type}
    {left : Option α}
    {right : Option β}
    {change : α → β}
    (follows : Follows left right change)
    {next : α → Option γ}
    {nextRight : β → Option δ}
    {changeNext : γ → δ}
    (goesOn : ∀ value, Follows (next value) (nextRight (change value)) changeNext) :
    Follows (left.bind next) (right.bind nextRight) changeNext := by
  intro value reading
  rcases Option.bind_eq_some_iff.1 reading with ⟨first, found, later⟩
  exact Option.bind_eq_some_iff.2 ⟨change first, follows first found, goesOn first value later⟩

/-- Readings that have found something follow each other as they do from there. -/
theorem Follows.found
    {left right : Option α}
    {first other : α}
    (here : left = some first)
    (there : right = some other)
    {next : α → Option β}
    {change : β → β}
    (goesOn : Follows (next first) (next other) change) :
    Follows (left.bind next) (right.bind next) change := by
  rw [here, there]
  exact goesOn

theorem Follows.map
    {δ : Type}
    {left : Option α}
    {right : Option β}
    {change : α → β}
    (follows : Follows left right change)
    {wrap : α → γ}
    {wrapRight : β → δ}
    {changeWrapped : γ → δ}
    (same : ∀ value, changeWrapped (wrap value) = wrapRight (change value)) :
    Follows (left.map wrap) (right.map wrapRight) changeWrapped := by
  intro value reading
  rcases Option.map_eq_some_iff.1 reading with ⟨first, found, rfl⟩
  rw [follows first found, Option.map_some, same]

end Follows

/-! ## Members -/

section Members

variable
  {names : List String}
  {front back : List (Octets × Tree)}
  {name : String}

theorem knownMembers?_cons
    (name : String)
    (value : Tree)
    (rest : List (Octets × Tree)) :
    knownMembers? names ((Octets.ofText name, value) :: rest) =
      (knownMembers? names rest).map fun others =>
        if names.contains name then (name, value) :: others else others := by
  rw [knownMembers?, Octets.text?_ofText]
  cases knownMembers? names rest <;> rfl

theorem knownMembers?_append :
    knownMembers? names (front ++ back) =
      (knownMembers? names front).bind fun left =>
        (knownMembers? names back).map (left ++ ·) := by
  induction front with
  | nil =>
    rw [List.nil_append, knownMembers?, Option.bind_some]
    cases knownMembers? names back <;> rfl
  | cons member rest ih =>
    rcases member with ⟨key, value⟩
    rw [List.cons_append, knownMembers?, knownMembers?, ih]
    cases Octets.text? key with
    | none => rfl
    | some text =>
      cases knownMembers? names rest with
      | none => rfl
      | some left =>
        cases knownMembers? names back with
        | none => rfl
        | some right =>
          show some (if names.contains text then _ else _) = some (_ ++ right)
          split <;> rfl

/-- A member whose key is no field does not matter. -/
theorem knownMembers?_insert
    (unknown : name ∉ names)
    (value : Tree) :
    knownMembers? names (front ++ (Octets.ofText name, value) :: back) =
      knownMembers? names (front ++ back) := by
  have skipped : names.contains name = false := by
    rw [← Bool.not_eq_true, List.contains_iff_mem]
    exact unknown
  rw [knownMembers?_append, knownMembers?_append, knownMembers?_cons, skipped]
  cases knownMembers? names back <;> rfl

/-- A member whose key is a field is among the fields, between those before and those behind. -/
theorem knownMembers?_known
    (known : name ∈ names)
    {value : Tree}
    {fields : Fields}
    (reading : knownMembers? names (front ++ (Octets.ofText name, value) :: back) = some fields) :
    ∃ left right, fields = left ++ (name, value) :: right ∧
      knownMembers? names (front ++ back) = some (left ++ right) ∧
      ∀ other, knownMembers? names (front ++ (Octets.ofText name, other) :: back) =
        some (left ++ (name, other) :: right) := by
  have listed : names.contains name = true := List.contains_iff_mem.2 known
  rw [knownMembers?_append] at reading
  rcases Option.bind_eq_some_iff.1 reading with ⟨left, before, rest⟩
  rcases Option.map_eq_some_iff.1 rest with ⟨fieldsBack, behind, rfl⟩
  rw [knownMembers?_cons] at behind
  rcases Option.map_eq_some_iff.1 behind with ⟨right, later, rfl⟩
  refine ⟨left, right, by rw [if_pos listed], ?_, fun other => ?_⟩
  · rw [knownMembers?_append, before, later]
    rfl
  · rw [knownMembers?_append, before, knownMembers?_cons, later, Option.map_some, if_pos listed]
    rfl

end Members

/-! ## Fields -/

namespace Fields

variable
  {left right : Fields}
  {name other : String}
  {before after : Tree}

/-- Fields without repeats have different names. -/
theorem nodup_of_hasRepeats
    {fields : Fields}
    (single : hasRepeats fields = false) :
    (fields.map Prod.fst).Nodup := by
  induction fields with
  | nil => exact List.nodup_nil
  | cons field rest ih =>
    rw [hasRepeats, Bool.or_eq_false_iff] at single
    rw [List.map_cons, List.nodup_cons]
    refine ⟨?_, ih single.2⟩
    intro inside
    rcases List.mem_map.1 inside with ⟨twin, later, same⟩
    have different := List.any_eq_false.1 single.1 twin later
    exact different (beq_iff_eq.2 same)

/-- Exactly one field is missing in other fields. -/
def Lost (name : String) (fields later : Fields) : Prop :=
  ∀ other, List.lookup other later = if name = other then none else List.lookup other fields

/-- Exactly one field has another value in other fields. -/
def Replaced (name : String) (before after : Tree) (fields later : Fields) : Prop :=
  List.lookup name fields = some before ∧
    ∀ other, List.lookup other later =
      if name = other then some after else List.lookup other fields

theorem lookup_middle
    (absent : name ∉ left.map Prod.fst)
    (other : String) :
    List.lookup other (left ++ (name, before) :: right) =
      if name = other then some before else List.lookup other (left ++ right) := by
  rw [List.lookup_append, List.lookup_append]
  by_cases same : name = other
  · subst same
    rw [if_pos rfl, lookup_of_absent absent, Option.none_or, List.lookup_cons_self]
  · have skipped : (other == name) = false := beq_false_of_ne (Ne.symm same)
    rw [if_neg same, List.lookup_cons, skipped]

theorem not_mem_of_nodup_middle
    (distinct : ((left ++ (name, before) :: right).map Prod.fst).Nodup) :
    name ∉ left.map Prod.fst ∧ name ∉ right.map Prod.fst := by
  rw [List.map_append, List.map_cons, List.nodup_append] at distinct
  rcases distinct with ⟨-, behind, apart⟩
  refine ⟨fun inside => ?_, (List.nodup_cons.1 behind).1⟩
  exact apart name inside name List.mem_cons_self rfl

/-- A field that is taken out of fields with different names is lost. -/
theorem lost_of_nodup
    (distinct : ((left ++ (name, before) :: right).map Prod.fst).Nodup) :
    Lost name (left ++ (name, before) :: right) (left ++ right) := by
  rcases not_mem_of_nodup_middle distinct with ⟨absent, absentBehind⟩
  intro other
  rw [lookup_middle absent]
  by_cases same : name = other
  · subst same
    rw [if_pos rfl, List.lookup_append, lookup_of_absent absent, lookup_of_absent absentBehind]
    rfl
  · rw [if_neg same, if_neg same]

/-- A field that gets another value among fields with different names is replaced. -/
theorem replaced_of_nodup
    (distinct : ((left ++ (name, before) :: right).map Prod.fst).Nodup)
    (after : Tree) :
    Replaced name before after
      (left ++ (name, before) :: right) (left ++ (name, after) :: right) := by
  rcases not_mem_of_nodup_middle distinct with ⟨absent, -⟩
  refine ⟨?_, fun other => ?_⟩
  · rw [lookup_middle absent, if_pos rfl]
  · rw [lookup_middle absent, lookup_middle absent]
    by_cases same : name = other
    · rw [if_pos same, if_pos same]
    · rw [if_neg same, if_neg same, if_neg same]

theorem Lost.elsewhere
    {fields later : Fields}
    (lost : Lost name fields later)
    (different : name ≠ other) :
    List.lookup other later = List.lookup other fields := by
  rw [lost other, if_neg different]

theorem Replaced.elsewhere
    {fields later : Fields}
    (replaced : Replaced name before after fields later)
    (different : name ≠ other) :
    List.lookup other later = List.lookup other fields := by
  rw [replaced.2 other, if_neg different]

section Reading

variable
  {α : Type}
  {fields later : Fields}
  {value? : Tree → Option α}
  {absent : α}

/-- A field that has the same value is read the same. -/
theorem required_same
    (same : List.lookup other later = List.lookup other fields) :
    Follows (fields.required other value?) (later.required other value?) id := by
  rw [Fields.required, Fields.required, same]
  exact follows_same _

theorem defaulted_same
    (same : List.lookup other later = List.lookup other fields) :
    Follows (fields.defaulted other value? absent) (later.defaulted other value? absent) id := by
  rw [Fields.defaulted, Fields.defaulted, same]
  exact follows_same _

theorem Lost.required_other
    (lost : Lost name fields later)
    (different : name ≠ other) :
    Follows (fields.required other value?) (later.required other value?) id :=
  required_same (lost.elsewhere different)

theorem Replaced.required_other
    (replaced : Replaced name before after fields later)
    (different : name ≠ other) :
    Follows (fields.required other value?) (later.required other value?) id :=
  required_same (replaced.elsewhere different)

theorem Replaced.defaulted_other
    (replaced : Replaced name before after fields later)
    (different : name ≠ other) :
    Follows (fields.defaulted other value? absent) (later.defaulted other value? absent) id :=
  defaulted_same (replaced.elsewhere different)

/-- A field that is lost is read as its default, and no other one changes. -/
theorem Lost.defaulted
    (lost : Lost name fields later) :
    Follows (fields.defaulted other value? absent) (later.defaulted other value? absent)
      fun value => if name = other then absent else value := by
  by_cases here : name = other
  · intro value _
    simp only [Fields.defaulted, lost other, if_pos here]
  · simp only [if_neg here]
    exact defaulted_same (lost.elsewhere here)

/-- A field that is replaced is read from its new value. -/
theorem Replaced.defaulted
    (replaced : Replaced name before after fields later)
    {change : α → α}
    (follows : Follows (value? before) (value? after) change) :
    Follows (fields.defaulted name value? absent) (later.defaulted name value? absent) change := by
  intro value reading
  unfold Fields.defaulted at reading ⊢
  rw [replaced.1] at reading
  rw [replaced.2 name, if_pos rfl]
  exact follows value reading

theorem Replaced.required
    (replaced : Replaced name before after fields later)
    {change : α → α}
    (follows : Follows (value? before) (value? after) change) :
    Follows (fields.required name value?) (later.required name value?) change := by
  intro value reading
  rw [Fields.required, replaced.1] at reading
  rw [Fields.required, replaced.2 name, if_pos rfl]
  exact follows value reading

end Reading

end Fields

/-! ## Layouts -/

/-- What a change does to a structure: it adds a member, or it takes a field away. -/
inductive Alteration where
  | addition
  | removal
deriving DecidableEq, Repr

/-- How values of a type are laid out as structures with named fields. -/
structure Layout (α : Type) where
  /-- The names of the fields, in order. -/
  names : List String
  ofTree? : Tree → Option α
  /-- The names of the fields that may be missing. -/
  removable : List String
  /-- A value with one of these fields at its default. -/
  without : String → α → α
  /-- The changes of the value of a field, with what they do to the whole. -/
  inside : Alteration → String → Tree → Tree → (α → α) → Prop

namespace Layout

variable {α : Type}

/--
One change of a structure, in itself or within one of its fields, with what it
does to the value.
-/
inductive Evolves (layout : Layout α) : Alteration → Tree → Tree → (α → α) → Prop
  /-- A member is added whose key is no field. -/
  | insert {front back : List (Octets × Tree)} {key : String}
      (unknown : key ∉ layout.names) (value : Tree) :
      Evolves layout .addition
        (.object (front ++ back)) (.object (front ++ (Octets.ofText key, value) :: back)) id
  /-- A member is taken away whose field may be missing. -/
  | remove {front back : List (Octets × Tree)} {name : String} {value : Tree}
      (removable : name ∈ layout.removable) :
      Evolves layout .removal
        (.object (front ++ (Octets.ofText name, value) :: back)) (.object (front ++ back))
        (layout.without name)
  /-- The value of a field changes within. -/
  | member {kind : Alteration} {front back : List (Octets × Tree)} {name : String}
      {before after : Tree} {change : α → α}
      (known : name ∈ layout.names) (within : layout.inside kind name before after change) :
      Evolves layout kind
        (.object (front ++ (Octets.ofText name, before) :: back))
        (.object (front ++ (Octets.ofText name, after) :: back)) change
  /-- The value of a field that is given by its position changes within. -/
  | item {kind : Alteration} {front back : List Tree} {name : String}
      {before after : Tree} {change : α → α}
      (place : layout.names[front.length]? = some name)
      (within : layout.inside kind name before after change) :
      Evolves layout kind
        (.array (front ++ before :: back)) (.array (front ++ after :: back)) change

/-- A layout whose values are read from their fields alone, each of them for itself. -/
structure Lawful (layout : Layout α) : Prop where
  distinct : layout.names.Nodup
  listed : ∀ name ∈ layout.removable, name ∈ layout.names
  reads : ∃ ofFields? : Fields → Option α,
    ∀ tree, layout.ofTree? tree = (tree.fields? layout.names).bind ofFields?
  /-- A field that is missing is at its default. -/
  lost : ∀ {before after : Tree} {fields later : Fields} {name : String},
    before.fields? layout.names = some fields → after.fields? layout.names = some later →
      name ∈ layout.removable → fields.Lost name later →
        Follows (layout.ofTree? before) (layout.ofTree? after) (layout.without name)
  /-- What happens within a field happens to the value. -/
  replaced : ∀ {before after : Tree} {fields later : Fields} {kind : Alteration} {name : String}
      {old new : Tree} {change : α → α},
    before.fields? layout.names = some fields → after.fields? layout.names = some later →
      layout.inside kind name old new change → fields.Replaced name old new later →
        Follows (layout.ofTree? before) (layout.ofTree? after) change
  /-- Additions within a field do nothing. -/
  quiet : ∀ {name : String} {old new : Tree} {change : α → α},
    layout.inside .addition name old new change → ∀ value, change value = value

/-- A layout without structures within its fields. -/
def flat
    (names : List String)
    (ofTree? : Tree → Option α)
    (removable : List String)
    (without : String → α → α) :
    Layout α where
  names := names
  ofTree? := ofTree?
  removable := removable
  without := without
  inside _ _ _ _ _ := False

/-- Without structures within, a layout need only have defaults. -/
theorem lawful_flat
    {names : List String}
    {ofTree? : Tree → Option α}
    {removable : List String}
    {without : String → α → α}
    (distinct : names.Nodup)
    (listed : ∀ name ∈ removable, name ∈ names)
    (reads : ∃ ofFields? : Fields → Option α,
      ∀ tree, ofTree? tree = (tree.fields? names).bind ofFields?)
    (lost : ∀ {before after : Tree} {fields later : Fields} {name : String},
      before.fields? names = some fields → after.fields? names = some later →
        name ∈ removable → fields.Lost name later →
          Follows (ofTree? before) (ofTree? after) (without name)) :
    (flat names ofTree? removable without).Lawful where
  distinct := distinct
  listed := listed
  reads := reads
  lost := lost
  replaced _ _ nothing _ := nothing.elim
  quiet nothing := nothing.elim

/-! ## Steps -/

theorem fields?_object_eq_some_iff
    {names : List String}
    {members : List (Octets × Tree)}
    {fields : Fields} :
    (object members).fields? names = some fields ↔
      knownMembers? names members = some fields ∧ (fields.map Prod.fst).Nodup := by
  constructor
  · intro reading
    rcases Option.bind_eq_some_iff.1 reading with ⟨known, found, single⟩
    cases repeats : hasRepeats known with
    | true =>
      rw [repeats] at single
      cases single
    | false =>
      rw [repeats] at single
      cases single
      exact ⟨found, Fields.nodup_of_hasRepeats repeats⟩
  · rintro ⟨found, distinct⟩
    refine Option.bind_eq_some_iff.2 ⟨fields, found, ?_⟩
    rw [hasRepeats_of_nodup distinct]
    rfl

/-- Names with items have the item of a position behind the name of the position. -/
theorem zip_middle
    {names : List String}
    {front back : List Tree}
    {name : String}
    (place : names[front.length]? = some name) :
    ∃ left right, ∀ value, names.zip (front ++ value :: back) = left ++ (name, value) :: right := by
  induction front generalizing names with
  | nil =>
    cases names with
    | nil => cases place
    | cons first rest =>
      cases place
      exact ⟨[], rest.zip back, fun _ => rfl⟩
  | cons item rest ih =>
    cases names with
    | nil => cases place
    | cons first others =>
      rcases @ih others place with ⟨left, right, zipped⟩
      refine ⟨(first, item) :: left, right, fun value => ?_⟩
      rw [List.cons_append, List.zip_cons_cons, zipped, List.cons_append]

theorem sublist_zip
    (names : List String)
    (items : List Tree) :
    ((names.zip items).map Prod.fst).Sublist names := by
  induction names generalizing items with
  | nil => exact List.nil_sublist []
  | cons first rest ih =>
    cases items with
    | nil => exact List.nil_sublist _
    | cons item others => exact (ih others).cons_cons first

/-- What a change does to a structure, it does to the value that is read. -/
theorem Lawful.follows
    {layout : Layout α}
    (lawful : layout.Lawful)
    {kind : Alteration}
    {before after : Tree}
    {change : α → α}
    (evolves : layout.Evolves kind before after change) :
    Follows (layout.ofTree? before) (layout.ofTree? after) change := by
  intro value reading
  rcases lawful.reads with ⟨ofFields?, reads⟩
  obtain ⟨fields, structured⟩ : ∃ fields, before.fields? layout.names = some fields := by
    rw [reads] at reading
    rcases Option.bind_eq_some_iff.1 reading with ⟨fields, found, -⟩
    exact ⟨fields, found⟩
  cases evolves with
  | insert unknown added =>
    rw [reads] at reading ⊢
    rw [fields?, knownMembers?_insert unknown]
    exact reading
  | remove removable =>
    rcases fields?_object_eq_some_iff.1 structured with ⟨known, distinct⟩
    rcases knownMembers?_known (lawful.listed _ removable) known with ⟨left, right, rfl, rest, -⟩
    have fewer : ((left ++ right).map Prod.fst).Nodup := by
      refine distinct.sublist (List.Sublist.map _ ?_)
      exact (List.sublist_cons_self _ _).append_left left
    exact lawful.lost structured (fields?_object_eq_some_iff.2 ⟨rest, fewer⟩) removable
      (Fields.lost_of_nodup distinct) value reading
  | @member _ front back name old new _ listed within =>
    rcases fields?_object_eq_some_iff.1 structured with ⟨known, distinct⟩
    rcases knownMembers?_known listed known with ⟨left, right, rfl, -, others⟩
    have sameNames : ((left ++ (name, new) :: right).map Prod.fst).Nodup := by
      rw [List.map_append, List.map_cons] at distinct ⊢
      exact distinct
    exact lawful.replaced structured (fields?_object_eq_some_iff.2 ⟨others new, sameNames⟩) within
      (Fields.replaced_of_nodup distinct new) value reading
  | @item _ front back name old new _ place within =>
    rcases zip_middle place with ⟨left, right, zipped⟩
    rw [fields?] at structured
    split at structured
    · next fits =>
      cases structured
      have distinct := lawful.distinct.sublist (sublist_zip layout.names (front ++ old :: back))
      rw [zipped] at distinct
      have before : (array (front ++ old :: back)).fields? layout.names =
          some (left ++ (name, old) :: right) := by
        rw [fields?, if_pos fits, zipped]
      have after : (array (front ++ new :: back)).fields? layout.names =
          some (left ++ (name, new) :: right) := by
        rw [fields?, if_pos (by simpa using fits), zipped]
      exact lawful.replaced before after within (Fields.replaced_of_nodup distinct new) value reading
    · cases structured

/-- Additions do nothing. -/
theorem Lawful.eq_of_addition
    {layout : Layout α}
    (lawful : layout.Lawful)
    {before after : Tree}
    {change : α → α}
    (evolves : layout.Evolves .addition before after change)
    (value : α) :
    change value = value := by
  cases evolves with
  | insert => rfl
  | member listed within => exact lawful.quiet within value
  | item place within => exact lawful.quiet within value

/-- Any number of changes one after the other, with what they do to the value. -/
inductive Run (layout : Layout α) : List Alteration → Tree → Tree → (α → α) → Prop
  | start (tree : Tree) :
      Run layout [] tree tree id
  | step {kinds : List Alteration} {kind : Alteration} {first second third : Tree}
      {change later : α → α}
      (run : Run layout kinds first second change)
      (evolves : layout.Evolves kind second third later) :
      Run layout (kinds ++ [kind]) first third (later ∘ change)

/-- Any number of additions do nothing. -/
theorem Lawful.eq_of_additions
    {layout : Layout α}
    (lawful : layout.Lawful)
    {kinds : List Alteration}
    {before after : Tree}
    {change : α → α}
    (run : layout.Run kinds before after change)
    (additions : ∀ kind ∈ kinds, kind = .addition)
    (value : α) :
    change value = value := by
  induction run with
  | start tree => rfl
  | @step kinds kind _ _ _ change later run evolves ih =>
    have last : kind = .addition :=
      additions kind (List.mem_append_right _ (List.mem_singleton_self kind))
    subst last
    have earlier := ih fun other member => additions other (List.mem_append_left _ member)
    rw [Function.comp_apply, earlier]
    exact lawful.eq_of_addition evolves value

end Layout

/-! ## Lists and null -/

/-- One item of an array changes, and with it one of the values. -/
inductive ItemEvolves
    {α : Type}
    (step : Alteration → Tree → Tree → (α → α) → Prop) :
    Alteration → Tree → Tree → (List α → List α) → Prop
  | item {kind : Alteration} {front back : List Tree} {before after : Tree} {change : α → α}
      (within : step kind before after change) :
      ItemEvolves step kind (.array (front ++ before :: back)) (.array (front ++ after :: back))
        fun values => values.modify front.length change

namespace ItemEvolves

variable
  {α : Type}
  {step : Alteration → Tree → Tree → (α → α) → Prop}
  {kind : Alteration}
  {before after : Tree}
  {change : List α → List α}

theorem follows
    (evolves : ItemEvolves step kind before after change)
    {item? : Tree → Option α}
    (each : ∀ {kind before after change},
      step kind before after change → Follows (item? before) (item? after) change) :
    Follows (before.list? item?) (after.list? item?) change := by
  cases evolves with
  | @item front back old new change within =>
    show Follows ((front ++ old :: back).mapM item?) ((front ++ new :: back).mapM item?) _
    induction front with
    | nil =>
      rw [List.nil_append, List.nil_append, List.mapM_cons, List.mapM_cons]
      refine (each within).bind fun first => ?_
      exact (follows_same _).bind fun others => follows_pure rfl
    | cons item rest ih =>
      rw [List.cons_append, List.cons_append, List.mapM_cons, List.mapM_cons]
      refine (follows_same _).bind fun first => ?_
      exact ih.bind fun others => follows_pure rfl

/-- An array is not null. -/
theorem option
    (evolves : ItemEvolves step kind before after change)
    {item? : Tree → Option α}
    (each : ∀ {kind before after change},
      step kind before after change → Follows (item? before) (item? after) change) :
    Follows (before.option? (list? item?)) (after.option? (list? item?)) (Option.map change) := by
  have follows := evolves.follows each
  cases evolves with
  | item within => exact follows.map fun _ => rfl

theorem eq_of_addition
    (evolves : ItemEvolves step .addition before after change)
    (each : ∀ {before after change},
      step .addition before after change → ∀ value, change value = value)
    (values : List α) :
    change values = values := by
  cases evolves with
  | @item front back old new change within =>
    have nothing : change = id := funext (each within)
    rw [nothing]
    exact List.modify_id _ _

end ItemEvolves

end BuildCapture.Json.Tree
