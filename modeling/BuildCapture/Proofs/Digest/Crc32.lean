import BuildCapture.Digest.Crc32
import Mathlib.Logic.Function.Basic

/-!
# Error detection of CRC-32

Division by the polynomial loses nothing: the bit that is shifted out decides
whether the polynomial is added, and the polynomial has the highest bit set,
so the highest bit of the result tells which it was.  Taking in one octet is
therefore injective in the register, and in the octet as well.  A message with
one octet changed reaches a different register at that octet and keeps it
different up to its end.
-/

namespace BuildCapture.Crc32

/-! ## One division step -/

/-- The division step on the bits of the register. -/
theorem shift_toBitVec
    (register : UInt32) :
    (shift register).toBitVec =
      if register.toBitVec.getLsbD 0 then
        (register.toBitVec >>> 1) ^^^ 0xEDB88320#32
      else
        register.toBitVec >>> 1 := by
  have lowest :
      register &&& 1 = 1 ↔ register.toBitVec.getLsbD 0 = true := by
    rw [← UInt32.toBitVec_inj, UInt32.toBitVec_and]
    change register.toBitVec &&& 1#32 = 1#32 ↔ _
    rw [BitVec.and_one_eq_setWidth_ofBool_getLsbD]
    cases register.toBitVec.getLsbD 0 <;> decide
  rw [shift]
  by_cases odd : register &&& 1 = 1
  · rw [if_pos odd, if_pos (lowest.1 odd)]
    rfl
  · have even : ¬ register.toBitVec.getLsbD 0 = true := fun low => odd (lowest.2 low)
    rw [if_neg odd, if_neg even]
    rfl

/-- The highest bit after a step is the lowest bit before it. -/
theorem highest_shift
    (register : UInt32) :
    (shift register).toBitVec.getLsbD 31 = register.toBitVec.getLsbD 0 := by
  rw [shift_toBitVec]
  split
  · next odd =>
    rw [odd]
    simp
  · next even =>
    rw [Bool.not_eq_true] at even
    rw [even]
    simp

/-- A step can be undone. -/
theorem shift_injective :
    Function.Injective shift := by
  intro left right same
  have lowest : left.toBitVec.getLsbD 0 = right.toBitVec.getLsbD 0 := by
    rw [← highest_shift, ← highest_shift, same]
  have steps := congrArg UInt32.toBitVec same
  rw [shift_toBitVec, shift_toBitVec, lowest] at steps
  have shifted : left.toBitVec >>> 1 = right.toBitVec >>> 1 := by
    split at steps
    · exact (BitVec.xor_left_inj _).1 steps
    · exact steps
  apply UInt32.toBitVec_inj.1
  apply BitVec.eq_of_getLsbD_eq
  intro index inside
  cases index with
  | zero => exact lowest
  | succ index =>
    have bit := congrArg (fun bits => bits.getLsbD index) shifted
    simpa [Nat.add_comm] using bit

theorem shifts_injective
    (count : Nat) :
    Function.Injective (shifts count) := by
  induction count with
  | zero => exact fun _ _ same => same
  | succ count ih => exact fun _ _ same => shift_injective (ih same)

/-! ## One octet -/

/-- Different registers stay different when both take in the same octet. -/
theorem absorb_injective_register
    (octet : UInt8) :
    Function.Injective fun register => absorb register octet := by
  intro left right same
  exact (UInt32.xor_left_inj _).1 (shifts_injective 8 same)

/-- One register takes in different octets with different results. -/
theorem absorb_injective_octet
    (register : UInt32) :
    Function.Injective (absorb register) := by
  intro left right same
  have widened : left.toUInt32 = right.toUInt32 :=
    (UInt32.xor_right_inj _).1 (shifts_injective 8 same)
  simpa using congrArg UInt32.toUInt8 widened

/-! ## Whole messages -/

/-- Different registers stay different through the rest of a message. -/
theorem foldl_absorb_injective
    (data : Octets) :
    Function.Injective (data.foldl absorb) := by
  induction data with
  | nil => exact fun _ _ same => same
  | cons octet rest ih =>
    exact fun _ _ same => absorb_injective_register octet (ih same)

end Crc32

/-- Messages that differ in exactly one octet have different checksums. -/
theorem crc32_ne_of_one_octet
    (before after : Octets)
    {left right : UInt8}
    (different : left ≠ right) :
    crc32 (before ++ left :: after) ≠ crc32 (before ++ right :: after) := by
  intro same
  unfold crc32 at same
  rw [List.foldl_append, List.foldl_append, List.foldl_cons, List.foldl_cons] at same
  have registers := Crc32.foldl_absorb_injective after (UInt32.not_inj.1 same)
  exact different (Crc32.absorb_injective_octet _ registers)

end BuildCapture
