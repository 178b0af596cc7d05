import BuildCapture.Hash.Sorting
import Mathlib.Data.List.Forall2
import Mathlib.Data.List.Nodup
import Mathlib.Data.List.Perm.Basic

/-!
# Collections in canonical form

Sorting by keys that tell the elements apart gives one list for all
permutations, and one list for all lists with the same members once repeated
neighbours are erased.  Lists whose elements are pairwise alike are alike.
-/

open scoped List

namespace BuildCapture

/-! ## Related elements -/

theorem map_eq_of_forall₂
    {α β γ : Type}
    {related : α → β → Prop}
    {first : α → γ}
    {second : β → γ}
    (same : ∀ left right, related left right → first left = second right)
    {left : List α}
    {right : List β}
    (pairwise : List.Forall₂ related left right) :
    left.map first = right.map second := by
  induction pairwise with
  | nil => rfl
  | cons head _ ih => rw [List.map_cons, List.map_cons, same _ _ head, ih]

theorem map_eq_of_rel
    {α β γ : Type}
    {related : α → β → Prop}
    {first : α → γ}
    {second : β → γ}
    (same : ∀ left right, related left right → first left = second right)
    {left : Option α}
    {right : Option β}
    (pairwise : Option.Rel related left right) :
    left.map first = right.map second := by
  cases pairwise with
  | none => rfl
  | some both => exact congrArg some (same _ _ both)

/-! ## Sorting -/

section Sorting

variable {α : Type} {key : α → List Octets} {left right : List α}

theorem perm_sortedBy
    (elements : List α) :
    sortedBy key elements ~ elements :=
  List.mergeSort_perm _ _

theorem pairwise_sortedBy
    (elements : List α) :
    (sortedBy key elements).Pairwise fun first second => key first ≤ key second := by
  have ordered :
      (sortedBy key elements).Pairwise fun first second =>
        keyAtMost (key first) (key second) = true := by
    apply List.pairwise_mergeSort
    · intro first second third below above
      exact decide_eq_true (Std.le_trans (of_decide_eq_true below) (of_decide_eq_true above))
    · intro first second
      rw [keyAtMost, keyAtMost, Bool.or_eq_true, decide_eq_true_iff, decide_eq_true_iff]
      exact Std.le_total
  exact ordered.imp of_decide_eq_true

/-- Elements with different keys are sorted into one list, however they are permuted. -/
theorem sortedBy_congr
    (injective : Function.Injective key)
    (same : left ~ right) :
    sortedBy key left = sortedBy key right := by
  have permuted : sortedBy key left ~ sortedBy key right :=
    (perm_sortedBy left).trans (same.trans (perm_sortedBy right).symm)
  exact permuted.eq_of_pairwise
    (fun _ _ _ _ below above => injective (Std.le_antisymm below above))
    (pairwise_sortedBy left) (pairwise_sortedBy right)

end Sorting

/-! ## Repeated neighbours -/

section Repeats

variable {α : Type}

theorem eraseReps_loop
    (same : α → α → Bool)
    (first : α)
    (rest done : List α) :
    List.eraseRepsBy.loop same first rest done =
      done.reverse ++ List.eraseRepsBy.loop same first rest [] := by
  induction rest generalizing first done with
  | nil => simp [List.eraseRepsBy.loop]
  | cons next rest ih =>
    rw [List.eraseRepsBy.loop, List.eraseRepsBy.loop]
    split
    · exact ih first done
    · rw [ih next (first :: done), ih next [first], List.reverse_cons, List.append_assoc]
      rfl

variable [DecidableEq α]

/-- Of two equal neighbours one is erased. -/
theorem eraseReps_cons_cons
    (first second : α)
    (rest : List α) :
    (first :: second :: rest).eraseReps =
      if first = second then (second :: rest).eraseReps
      else first :: (second :: rest).eraseReps := by
  rw [List.eraseReps, List.eraseRepsBy, List.eraseRepsBy.loop]
  split
  · next equal =>
    rw [beq_iff_eq] at equal
    rw [if_pos equal, equal]
    rfl
  · next different =>
    rw [beq_eq_false_iff_ne] at different
    rw [if_neg different, eraseReps_loop]
    rfl

/-- Erasing repeated neighbours loses no member. -/
theorem mem_eraseReps
    {elements : List α}
    {element : α} :
    element ∈ elements.eraseReps ↔ element ∈ elements := by
  induction elements with
  | nil => rfl
  | cons first rest ih =>
    cases rest with
    | nil => rfl
    | cons second others =>
      rw [eraseReps_cons_cons]
      split
      · next equal =>
        rw [ih, equal]
        constructor
        · exact List.mem_cons_of_mem second
        · intro member
          rcases List.mem_cons.1 member with rfl | behind
          · exact List.mem_cons_self
          · exact behind
      · rw [List.mem_cons, ih, ← List.mem_cons]

/-- In an ordered list, equal members are neighbours, so no repetition is left. -/
theorem pairwise_eraseReps
    {ordered : α → α → Prop}
    (antisymm : ∀ first second, ordered first second → ordered second first → first = second)
    {elements : List α}
    (pairwise : elements.Pairwise ordered) :
    elements.eraseReps.Pairwise fun first second => ordered first second ∧ first ≠ second := by
  induction elements with
  | nil => exact .nil
  | cons first rest ih =>
    cases rest with
    | nil => exact List.pairwise_singleton _ _
    | cons second others =>
      have later := ih pairwise.of_cons
      rw [eraseReps_cons_cons]
      split
      · exact later
      · next different =>
        refine List.pairwise_cons.2 ⟨?_, later⟩
        intro other member
        rw [mem_eraseReps] at member
        refine ⟨List.rel_of_pairwise_cons pairwise member, ?_⟩
        rintro rfl
        rcases List.mem_cons.1 member with same | behind
        · exact different same
        · exact different (antisymm _ _ (List.rel_of_pairwise_cons pairwise List.mem_cons_self)
            (List.rel_of_pairwise_cons pairwise.of_cons behind))

variable {key : α → List Octets} {left right : List α}

/-- Lists with the same members have one sorted list without repetitions. -/
theorem eraseReps_sortedBy_congr
    (injective : Function.Injective key)
    (same : ∀ element, element ∈ left ↔ element ∈ right) :
    (sortedBy key left).eraseReps = (sortedBy key right).eraseReps := by
  have antisymm :
      ∀ first second : α, key first ≤ key second → key second ≤ key first → first = second :=
    fun _ _ below above => injective (Std.le_antisymm below above)
  have leftStrict := pairwise_eraseReps antisymm (pairwise_sortedBy left)
  have rightStrict := pairwise_eraseReps antisymm (pairwise_sortedBy right)
  have permuted : (sortedBy key left).eraseReps ~ (sortedBy key right).eraseReps := by
    rw [List.perm_ext_iff_of_nodup (leftStrict.imp And.right) (rightStrict.imp And.right)]
    intro element
    rw [mem_eraseReps, mem_eraseReps, (perm_sortedBy left).mem_iff, (perm_sortedBy right).mem_iff]
    exact same element
  exact permuted.eq_of_pairwise
    (fun first second _ _ below above => antisymm first second below.1 above.1)
    leftStrict rightStrict

end Repeats

end BuildCapture
