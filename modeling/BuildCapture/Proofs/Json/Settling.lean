import BuildCapture.Proofs.Json.Exactness
import BuildCapture.Record.Codec
import Mathlib.Data.List.Forall2

/-!
# What settled documents state

A document may repeat a key, and a settled tree has only the last member with
each.  A number that such a tree has under a name is therefore the value of the
last member with this name in the document as it was written.  There is none in
an array, where the member is missing, or where its value is anything but a
natural number of 64 bits.
-/

namespace BuildCapture.Json.Tree

/-! ## The last member with a name -/

/-- The value of the last member with a name, if a tree is an object that has one. -/
def lastMember?
    (name : String) : Tree → Option Tree
  | .object members => List.lookup (Octets.ofText name) members.reverse
  | _ => none

theorem lookup_isSome_iff
    {key : Octets}
    {members : List (Octets × Tree)} :
    (List.lookup key members).isSome = members.any fun member => member.1 == key := by
  induction members with
  | nil => rfl
  | cons member rest ih =>
    rcases member with ⟨other, value⟩
    rw [List.lookup_cons, List.any_cons]
    cases same : key == other with
    | true =>
      rw [beq_iff_eq.1 same]
      simp
    | false =>
      have different : (other == key) = false :=
        beq_false_of_ne fun equal => beq_eq_false_iff_ne.1 same equal.symm
      rw [different, Bool.false_or]
      exact ih

/-- Another member does not matter to a lookup. -/
theorem lookup_single_of_ne
    {key other : Octets}
    (different : key ≠ other)
    (value : Tree) :
    List.lookup key [(other, value)] = none := by
  rw [List.lookup_cons, beq_false_of_ne different]
  rfl

/-- What is kept under a key is the last that was there. -/
theorem lookup_lastMembers
    (key : Octets)
    (members : List (Octets × Tree)) :
    List.lookup key (lastMembers members) = List.lookup key members.reverse := by
  induction members with
  | nil => rfl
  | cons member rest ih =>
    rcases member with ⟨other, value⟩
    have known := @lookup_isSome_iff other rest.reverse
    rw [List.any_reverse] at known
    rw [List.reverse_cons, List.lookup_append, lastMembers]
    split
    · next repeated =>
      rw [repeated] at known
      rw [ih]
      by_cases same : key = other
      · rcases Option.isSome_iff_exists.1 known with ⟨last, found⟩
        rw [same, found, Option.some_or]
      · rw [lookup_single_of_ne same, Option.or_none]
    · next alone =>
      rw [Bool.not_eq_true] at alone
      rw [alone] at known
      rw [List.lookup_cons, ih]
      by_cases same : key = other
      · rw [same, Option.not_isSome_iff_eq_none.1 (Bool.eq_false_iff.1 known)]
        simp
      · rw [lookup_single_of_ne same, Option.or_none, beq_false_of_ne same]

/-! ## Settling members -/

/-- Members keep their keys when their values are settled. -/
theorem forall₂_settleMembers?
    {members settled : List (Octets × Tree)}
    (settling : settleMembers? members = some settled) :
    List.Forall₂ (fun before after => before.1 = after.1 ∧ before.2.settle? = some after.2)
      members settled := by
  induction members generalizing settled with
  | nil =>
    cases settling
    exact .nil
  | cons member rest ih =>
    rcases member with ⟨key, value⟩
    rw [settleMembers?] at settling
    rcases Option.bind_eq_some_iff.1 settling with ⟨name, -, settling⟩
    rcases Option.bind_eq_some_iff.1 settling with ⟨after, settlesValue, settling⟩
    rcases Option.bind_eq_some_iff.1 settling with ⟨others, settlesRest, same⟩
    cases same
    exact .cons ⟨rfl, settlesValue⟩ (ih settlesRest)

/-- The value under a key is settled like the value that was there. -/
theorem lookup_of_forall₂
    {members settled : List (Octets × Tree)}
    (settles : List.Forall₂
      (fun before after => before.1 = after.1 ∧ before.2.settle? = some after.2) members settled)
    (key : Octets) :
    List.lookup key settled = (List.lookup key members).bind settle? := by
  induction settles with
  | nil => rfl
  | @cons before after _ _ pair _ ih =>
    rcases before with ⟨name, before⟩
    rcases after with ⟨other, after⟩
    rcases pair with ⟨rfl, settlesValue⟩
    rw [List.lookup_cons, List.lookup_cons, ih]
    cases key == name with
    | true => exact settlesValue.symm
    | false => rfl

/-- Only a natural number is settled as one. -/
theorem settle?_eq_natural_iff
    {tree : Tree}
    {value : Nat} :
    tree.settle? = some (.number (.natural value)) ↔ tree = .number (.natural value) := by
  constructor
  · intro settling
    cases tree with
    | null => cases settling
    | bool _ => cases settling
    | number number =>
      cases number with
      | unbounded _ => cases settling
      | _ => exact Option.some.inj settling
    | text data =>
      rcases Option.map_eq_some_iff.1 settling with ⟨_, -, same⟩
      cases same
    | array items =>
      rw [settle?] at settling
      rcases Option.map_eq_some_iff.1 settling with ⟨_, -, same⟩
      cases same
    | object members =>
      rw [settle?] at settling
      rcases Option.map_eq_some_iff.1 settling with ⟨_, -, same⟩
      cases same
  · rintro rfl
    rfl

theorem memberNumber?_object_eq_some_iff
    {name : String}
    {members : List (Octets × Tree)}
    {value : Nat} :
    (Tree.object members).memberNumber? name = some value ↔
      List.lookup (Octets.ofText name) members = some (.number (.natural value)) := by
  rw [memberNumber?]
  split
  · next other found =>
    rw [found]
    simp
  · next others =>
    constructor
    · intro impossible
      cases impossible
    · intro found
      exact absurd found (others value)

/-- A settled tree has the number that the last member with its name is. -/
theorem memberNumber?_of_settle?
    {tree settled : Tree}
    (settling : tree.settle? = some settled)
    {name : String}
    {value : Nat} :
    settled.memberNumber? name = some value ↔
      tree.lastMember? name = some (.number (.natural value)) := by
  cases tree with
  | null => cases settling; simp [memberNumber?, lastMember?]
  | bool _ => cases settling; simp [memberNumber?, lastMember?]
  | number number => cases number <;> cases settling <;> simp [memberNumber?, lastMember?]
  | text data =>
    rcases Option.map_eq_some_iff.1 settling with ⟨_, -, rfl⟩
    simp [memberNumber?, lastMember?]
  | array items =>
    rw [settle?] at settling
    rcases Option.map_eq_some_iff.1 settling with ⟨_, -, rfl⟩
    simp [memberNumber?, lastMember?]
  | object members =>
    rw [settle?] at settling
    rcases Option.map_eq_some_iff.1 settling with ⟨others, settles, rfl⟩
    have reversed := List.rel_reverse (forall₂_settleMembers? settles)
    rw [memberNumber?_object_eq_some_iff, lookup_lastMembers, lookup_of_forall₂ reversed,
      lastMember?, Option.bind_eq_some_iff]
    simp only [settle?_eq_natural_iff, exists_eq_right]

/-! ## Documents -/

/-- A readable document is an object whose last member with a name is a natural number. -/
structure States (document : Octets) (name : String) (value : Nat) : Prop where
  readable : ∃ settled, readSettled? document = some settled
  stated : ∃ tree, read? document = some tree ∧
    tree.lastMember? name = some (.number (.natural value))

section Documents

variable
    {document : Octets}
    {name : String}
    {value : Nat}

/-- A settled tree is what the tree of its document is settled as. -/
theorem read?_of_readSettled?
    {settled : Tree}
    (reading : readSettled? document = some settled) :
    ∃ tree, read? document = some tree ∧ tree.settle? = some settled := by
  rcases Option.bind_eq_some_iff.1 reading with ⟨front, tokens, reading⟩
  split at reading
  · rcases Option.bind_eq_some_iff.1 reading with ⟨tree, built, settling⟩
    exact ⟨tree, Option.bind_eq_some_iff.2 ⟨front, tokens, built⟩, settling⟩
  · cases reading

/-- What a document states is the number that its settled tree has. -/
theorem states_iff
    {settled : Tree}
    (reading : readSettled? document = some settled) :
    States document name value ↔ settled.memberNumber? name = some value := by
  rcases read?_of_readSettled? reading with ⟨tree, read, settling⟩
  rw [memberNumber?_of_settle? settling]
  constructor
  · rintro ⟨-, other, readOther, last⟩
    cases Option.some.inj (read.symm.trans readOther)
    exact last
  · intro last
    exact ⟨⟨settled, reading⟩, tree, read, last⟩

/-- A document states only numbers of 64 bits. -/
theorem States.lt
    (states : States document name value) :
    value < Octets.bound 8 := by
  rcases states.stated with ⟨tree, read, last⟩
  rcases Option.bind_eq_some_iff.1 read with ⟨front, tokens, built⟩
  cases tree with
  | object members =>
    have member : (Octets.ofText name, Tree.number (.natural value)) ∈ members := by
      rcases List.lookup_eq_some_iff.1 last with ⟨before, behind, split, -⟩
      rw [← List.mem_reverse, split]
      exact List.mem_append_right _ List.mem_cons_self
    have written : Token.number (.natural value) ∈ front := by
      rw [← tokens_of_ofTokens? built]
      cases members with
      | nil => cases member
      | cons first rest =>
        rcases List.mem_cons.1 member with rfl | later
        · simp [Tree.tokens]
        · simp only [Tree.tokens, memberTokens_eq, List.mem_cons, List.mem_append,
            List.mem_flatMap]
          exact .inr (.inr (.inr (.inr (.inl ⟨_, later, by simp [Tree.tokens]⟩))))
    exact Token.isSized_of_ofOctets? tokens _ written
  | _ => cases last

end Documents

end BuildCapture.Json.Tree
