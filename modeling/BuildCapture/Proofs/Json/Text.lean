import BuildCapture.Json.Text
import Mathlib.Data.Fintype.Basic
import Mathlib.Tactic.ByContra
import Mathlib.Tactic.FinCases

/-!
# Reading back string literals

Reading undoes the escape of each octet, so what follows a literal's octets is
read as if the octets had been known before.
-/

namespace BuildCapture.Json.Text

/-- The octets that are written as they are. -/
def IsPlain (octet : UInt8) : Prop :=
  octet ≠ 0x22 ∧ octet ≠ 0x5C ∧ ¬ octet < 0x20

theorem escape_of_isPlain
    {octet : UInt8}
    (plain : IsPlain octet) :
    escape octet = [octet] := by
  rcases plain with ⟨notQuote, notBackslash, notControl⟩
  have above : 0x20 ≤ octet := UInt8.not_lt.1 notControl
  rw [escape, if_neg notQuote, if_neg notBackslash]
  repeat rw [if_neg (by rintro rfl; exact notControl (by decide))]
  rw [if_neg notControl]

/-- An octet that is written as it is is read as it is. -/
theorem takeRest?_of_isPlain
    {octet : UInt8}
    (plain : IsPlain octet)
    (known rest : Octets) :
    takeRest? known none (octet :: rest) = takeRest? (octet :: known) none rest := by
  rcases plain with ⟨notQuote, notBackslash, notControl⟩
  have allowed : ¬ (octet < 0x20 ∨ octet = 0x5C) := not_or.2 ⟨notControl, notBackslash⟩
  rw [takeRest?.eq_def]
  split
  · next nothing => cases nothing
  · next same =>
    cases same
    exact absurd rfl notQuote
  · next same =>
    cases same
    exact absurd rfl notBackslash
  · next same =>
    cases same
    exact absurd rfl notBackslash
  · next same =>
    cases same
    rw [if_neg allowed]
    rfl

/-- The escape of an octet is read as the octet. -/
theorem takeRest?_escape
    (octet : UInt8)
    (known rest : Octets) :
    takeRest? known none (escape octet ++ rest) = takeRest? (octet :: known) none rest := by
  by_cases plain : IsPlain octet
  · rw [escape_of_isPlain plain]
    exact takeRest?_of_isPlain plain known rest
  · have special : octet = 0x22 ∨ octet = 0x5C ∨ octet < 0x20 := by
      by_contra others
      rw [not_or, not_or] at others
      exact plain others
    rcases special with rfl | rfl | control
    · rfl
    · rfl
    · have every :
          ∀ number : Fin 32,
            takeRest? known none (escape (UInt8.ofNat number) ++ rest) =
              takeRest? (UInt8.ofNat number :: known) none rest := by
        intro number
        fin_cases number <;> rfl
      have again := every ⟨octet.toNat, control⟩
      rw [UInt8.ofNat_toNat] at again
      exact again

/-- The octets between the quotes of a literal are read back. -/
theorem takeRest?_flatMap_escape
    (data known rest : Octets) :
    takeRest? known none (data.flatMap escape ++ 0x22 :: rest) =
      some (known.reverse ++ data, rest) := by
  induction data generalizing known with
  | nil =>
    rw [List.append_nil]
    rfl
  | cons octet others ih =>
    rw [List.flatMap_cons, List.append_assoc, takeRest?_escape, ih, List.reverse_cons,
      List.append_assoc]
    rfl

end BuildCapture.Json.Text
