import BuildCapture.Decimal
import BuildCapture.Proofs.Octets.Text

/-!
# Reading back decimal numerals

The digits of a number are ASCII digits without a leading zero, and their value
is the number.  Their number grows with the logarithm of the number.
-/

namespace BuildCapture.Decimal

/-- The octet of the digit of a value below ten. -/
def digitOctet
    (value : Nat) :
    UInt8 :=
  UInt8.ofNat (digit value).toNat

theorem digitOctet_facts
    {value : Nat}
    (small : value < 10) :
    isDigit (digitOctet value) = true ∧ digitValue (digitOctet value) = value ∧
      (digitOctet value = 0x30 → value = 0) := by
  have every :
      ∀ number : Fin 10,
        isDigit (digitOctet number) = true ∧ digitValue (digitOctet number) = number ∧
          (digitOctet number = 0x30 → number.val = 0) := by
    decide
  exact every ⟨value, small⟩

/-- A number below ten is its only digit. -/
theorem octets_of_lt
    {value : Nat}
    (small : value < 10) :
    octets value = [digitOctet value] := by
  rw [octets, digits, if_pos small]
  rfl

/-- The last digit of a number follows the digits of its tenth. -/
theorem octets_of_ge
    {value : Nat}
    (large : 10 ≤ value) :
    octets value = octets (value / 10) ++ [digitOctet (value % 10)] := by
  rw [octets, digits, if_neg (Nat.not_lt.2 large), List.map_append]
  rfl

/-- Every octet of a numeral is a digit. -/
theorem isDigit_of_mem_octets
    (number : Nat) :
    ∀ octet ∈ octets number, isDigit octet = true := by
  induction number using Nat.strongRecOn with
  | ind number ih =>
    intro octet member
    by_cases small : number < 10
    · rw [octets_of_lt small] at member
      rw [List.mem_singleton.1 member]
      exact (digitOctet_facts small).1
    · have large := Nat.le_of_not_lt small
      rw [octets_of_ge large] at member
      rcases List.mem_append.1 member with front | last
      · exact ih (number / 10) (by omega) octet front
      · rw [List.mem_singleton.1 last]
        exact (digitOctet_facts (Nat.mod_lt _ (by decide))).1

/-- The value of a numeral is the number. -/
theorem value_octets
    (number : Nat) :
    value (octets number) = number := by
  induction number using Nat.strongRecOn with
  | ind number ih =>
    by_cases small : number < 10
    · rw [octets_of_lt small]
      show 10 * 0 + digitValue (digitOctet number) = number
      rw [(digitOctet_facts small).2.1]
      omega
    · have large := Nat.le_of_not_lt small
      have front := ih (number / 10) (by omega)
      have last := (digitOctet_facts (Nat.mod_lt number (by decide : 0 < 10))).2.1
      rw [octets_of_ge large, value, List.foldl_append]
      show 10 * value (octets (number / 10)) + digitValue (digitOctet (number % 10)) = number
      rw [front, last]
      omega

/-- A numeral is not empty, and it starts with a zero only where that is all of it. -/
theorem octets_eq_cons
    (number : Nat) :
    ∃ first rest, octets number = first :: rest ∧ (first = 0x30 → number = 0 ∧ rest = []) := by
  induction number using Nat.strongRecOn with
  | ind number ih =>
    by_cases small : number < 10
    · refine ⟨digitOctet number, [], octets_of_lt small, ?_⟩
      intro zero
      exact ⟨(digitOctet_facts small).2.2 zero, rfl⟩
    · have large := Nat.le_of_not_lt small
      obtain ⟨first, rest, spelled, leading⟩ := ih (number / 10) (by omega)
      refine ⟨first, rest ++ [digitOctet (number % 10)], ?_, ?_⟩
      · rw [octets_of_ge large, spelled, List.cons_append]
      · intro zero
        have tenth := (leading zero).1
        omega

/-! ## As text -/

theorem toNat_digit_lt
    {value : Nat}
    (small : value < 10) :
    (digit value).toNat < 128 := by
  have every : ∀ number : Fin 10, (digit number).toNat < 128 := by
    decide
  exact every ⟨value, small⟩

theorem toNat_lt_of_mem_digits
    (number : Nat) :
    ∀ symbol ∈ digits number, symbol.toNat < 128 := by
  induction number using Nat.strongRecOn with
  | ind number ih =>
    intro symbol member
    by_cases small : number < 10
    · rw [digits, if_pos small] at member
      rw [List.mem_singleton.1 member]
      exact toNat_digit_lt small
    · rw [digits, if_neg small] at member
      rcases List.mem_append.1 member with front | last
      · exact ih (number / 10) (by omega) symbol front
      · rw [List.mem_singleton.1 last]
        exact toNat_digit_lt (Nat.mod_lt _ (by decide))

/-- The octets of a numeral as text are its digits. -/
theorem ofText_text
    (number : Nat) :
    Octets.ofText (text number) = octets number :=
  Octets.ofText_ofList_of_lt (toNat_lt_of_mem_digits number)

/-- A number below a power of ten has at most so many digits. -/
theorem length_octets_le
    {number width : Nat}
    (small : number < Nat.pow 10 (width + 1)) :
    (octets number).length ≤ width + 1 := by
  induction width generalizing number with
  | zero =>
    rw [octets_of_lt small]
    exact Nat.le_refl 1
  | succ width ih =>
    by_cases single : number < 10
    · rw [octets_of_lt single]
      exact Nat.le_add_left 1 _
    · rw [octets_of_ge (Nat.le_of_not_lt single), List.length_append]
      apply Nat.succ_le_succ
      apply ih
      exact Nat.div_lt_of_lt_mul (by rw [Nat.mul_comm]; exact small)

end BuildCapture.Decimal
