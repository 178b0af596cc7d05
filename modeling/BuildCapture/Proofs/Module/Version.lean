import BuildCapture.Module.Version
import BuildCapture.Proofs.Decimal
import BuildCapture.Proofs.Json.Schema
import Mathlib.Algebra.Group.Nat.Defs

/-!
# Comparing and reading back module versions

Comparing versions part by part is comparing them as numbers with four digits to
the base of the parts.

The text of a version has a point between its parts and none within them, so it
falls into the numerals of the four parts, and each of them is read back.
-/

namespace BuildCapture.ModuleVersion

/-! ## Order -/

/-- A version as one number, in which each part has 16 bits and the first counts most. -/
def number
    (version : ModuleVersion) :
    Nat :=
  version.major.toNat * 2 ^ 48 + version.minor.toNat * 2 ^ 32 + version.build.toNat * 2 ^ 16 +
    version.revision.toNat

/-- Versions come one before the other as their numbers do. -/
theorem precedes_iff
    {left right : ModuleVersion} :
    left.precedes right = true ↔ left.number < right.number := by
  have minorLeft := left.minor.toNat_lt
  have buildLeft := left.build.toNat_lt
  have revisionLeft := left.revision.toNat_lt
  have minorRight := right.minor.toNat_lt
  have buildRight := right.build.toNat_lt
  have revisionRight := right.revision.toNat_lt
  simp only [precedes, number, Bool.or_eq_true, Bool.and_eq_true, decide_eq_true_eq, beq_iff_eq,
    UInt16.lt_iff_toNat_lt, ← UInt16.toNat_inj]
  omega

theorem covers_iff
    {available requested : ModuleVersion} :
    available.covers requested = true ↔ requested.number ≤ available.number := by
  rw [covers, Bool.not_eq_true', ← Bool.not_eq_true, precedes_iff, Nat.not_lt]

/-- A version is its number. -/
theorem number_injective
    {left right : ModuleVersion}
    (same : left.number = right.number) :
    left = right := by
  have minorLeft := left.minor.toNat_lt
  have buildLeft := left.build.toNat_lt
  have revisionLeft := left.revision.toNat_lt
  have minorRight := right.minor.toNat_lt
  have buildRight := right.build.toNat_lt
  have revisionRight := right.revision.toNat_lt
  cases left
  cases right
  simp only [number] at *
  simp only [mk.injEq, ← UInt16.toNat_inj]
  omega

/-! ## Pieces -/

theorem pointPieces_of_noPoint
    {piece : Octets}
    (noPoint : (0x2E : UInt8) ∉ piece) :
    pointPieces piece = [piece] := by
  induction piece with
  | nil => rfl
  | cons octet rest ih =>
    rw [List.mem_cons, not_or] at noPoint
    rw [pointPieces, if_neg (Ne.symm noPoint.1), ih noPoint.2]

/-- A piece without a point ends at the first point. -/
theorem pointPieces_append
    {piece : Octets}
    (noPoint : (0x2E : UInt8) ∉ piece)
    (rest : Octets) :
    pointPieces (piece ++ 0x2E :: rest) = piece :: pointPieces rest := by
  induction piece with
  | nil => rfl
  | cons octet others ih =>
    rw [List.mem_cons, not_or] at noPoint
    rw [List.cons_append, pointPieces, if_neg (Ne.symm noPoint.1), ih noPoint.2]

theorem noPoint_octets
    (number : Nat) :
    (0x2E : UInt8) ∉ Decimal.octets number := by
  intro member
  have digit := Decimal.isDigit_of_mem_octets number _ member
  exact absurd digit (by decide)

/-! ## Parts -/

/-- Digits have no plus sign before them. -/
theorem withoutPlus_of_digits
    {numeral : Octets}
    (digits : numeral.all Decimal.isDigit = true) :
    withoutPlus numeral = numeral := by
  unfold withoutPlus
  split
  · rw [List.all_cons, Bool.and_eq_true] at digits
    exact absurd digits.1 (by decide)
  · rfl

/-- The numeral of a part is read as the part. -/
theorem part?_octets
    (part : UInt16) :
    part? (Decimal.octets part.toNat) = some part := by
  have spelled : Decimal.octets part.toNat ≠ [] := by
    rcases Decimal.octets_eq_cons part.toNat with ⟨first, rest, spelled, -⟩
    rw [spelled]
    exact List.cons_ne_nil first rest
  have digits : (Decimal.octets part.toNat).all Decimal.isDigit = true :=
    List.all_eq_true.2 (Decimal.isDigit_of_mem_octets part.toNat)
  have small : part.toNat < Octets.bound 2 := part.toNat_lt
  simp only [part?, withoutPlus_of_digits digits, Decimal.value_octets]
  rw [if_pos ⟨spelled, digits, small⟩, UInt16.ofNat_toNat]

/-! ## Versions -/

theorem ofText_text
    (version : ModuleVersion) :
    Octets.ofText version.text =
      Decimal.octets version.major.toNat ++ 0x2E :: (Decimal.octets version.minor.toNat ++
        0x2E :: (Decimal.octets version.build.toNat ++
          0x2E :: Decimal.octets version.revision.toNat)) := by
  have point : Octets.ofText "." = [0x2E] := by
    decide
  simp only [text, Octets.ofText_append, Decimal.ofText_text, point, List.append_assoc,
    List.cons_append, List.nil_append]

/-- The text of a version is read as the version. -/
theorem ofText?_text
    (version : ModuleVersion) :
    ofText? version.text = some version := by
  rw [ofText?, ofText_text, pointPieces_append (noPoint_octets _),
    pointPieces_append (noPoint_octets _), pointPieces_append (noPoint_octets _),
    pointPieces_of_noPoint (noPoint_octets _)]
  simp only [List.mapM_cons, List.mapM_nil, part?_octets]
  rfl

open Json.Tree in
theorem roundTrips : RoundTrips 0 toTree ofTree? where
  reads version := by
    show (Octets.text? (Octets.ofText version.text)).bind ofText? = some version
    rw [Octets.text?_ofText, Option.bind_some, ofText?_text]
  tidy version _ _ := .text version.text
  present _ := nofun

end BuildCapture.ModuleVersion
