import BuildCapture.Proofs.Module.Version
import Mathlib.Data.Nat.Digits.Defs

/-!
# Which texts are versions

A text is read as a version exactly if it joins one to four numerals of 16 bits
with points.  It is read as the values of its numerals, with zeros for those
that are missing.  `IsNumeral` and `IsText` say this of the characters of a
text; the reader takes octets.
-/

namespace BuildCapture

/-! ## Digits -/

namespace Decimal

/-- Digits, at least one of them, that write a number. -/
structure Writes
    (symbols : List Char)
    (number : Nat) : Prop where
  nonempty : symbols ≠ []
  digits : ∀ symbol ∈ symbols, symbol.isDigit = true
  value : Nat.ofDigits 10 (symbols.reverse.map fun symbol => symbol.toNat - '0'.toNat) = number

theorem isDigit_symbol_iff
    {symbol : Char} :
    symbol.isDigit = true ↔ 0x30 ≤ symbol.toNat ∧ symbol.toNat ≤ 0x39 := by
  simp only [Char.isDigit, Bool.and_eq_true, decide_eq_true_eq, ge_iff_le, UInt32.le_iff_toNat_le]
  rfl

/-- The octets of digits. -/
def symbolOctets
    (symbols : List Char) :
    Octets :=
  symbols.map fun symbol => UInt8.ofNat symbol.toNat

/-- The octet of a digit is a digit, with the same value. -/
theorem octet_of_symbol
    {symbol : Char}
    (digit : symbol.isDigit = true) :
    isDigit (UInt8.ofNat symbol.toNat) = true ∧
      digitValue (UInt8.ofNat symbol.toNat) = symbol.toNat - '0'.toNat := by
  rcases isDigit_symbol_iff.1 digit with ⟨low, high⟩
  have every :
      ∀ number : Fin 0x40, 0x30 ≤ number.val → number.val ≤ 0x39 →
        isDigit (UInt8.ofNat number) = true ∧
          digitValue (UInt8.ofNat number) = number - '0'.toNat := by
    decide
  exact every ⟨symbol.toNat, by omega⟩ low high

/-- A digit octet is the octet of a digit. -/
theorem symbol_of_octet
    {octet : UInt8}
    (digit : isDigit octet = true) :
    (Char.ofNat octet.toNat).isDigit = true ∧
      UInt8.ofNat (Char.ofNat octet.toNat).toNat = octet := by
  rw [isDigit, Bool.and_eq_true, decide_eq_true_eq, decide_eq_true_eq, UInt8.le_iff_toNat_le,
    UInt8.le_iff_toNat_le] at digit
  have low : 0x30 ≤ octet.toNat := digit.1
  have high : octet.toNat ≤ 0x39 := digit.2
  have every :
      ∀ number : Fin 0x40, 0x30 ≤ number.val → number.val ≤ 0x39 →
        (Char.ofNat number).isDigit = true ∧ (Char.ofNat number).toNat = number := by
    decide
  rcases every ⟨octet.toNat, by omega⟩ low high with ⟨symbol, same⟩
  exact ⟨symbol, by rw [same, UInt8.ofNat_toNat]⟩

theorem ofText_symbols
    {symbols : List Char}
    (digits : ∀ symbol ∈ symbols, symbol.isDigit = true) :
    Octets.ofText (String.ofList symbols) = symbolOctets symbols := by
  apply Octets.ofText_ofList_of_lt
  intro symbol member
  have high := (isDigit_symbol_iff.1 (digits symbol member)).2
  omega

theorem all_isDigit_symbolOctets
    {symbols : List Char}
    (digits : ∀ symbol ∈ symbols, symbol.isDigit = true) :
    (symbolOctets symbols).all isDigit = true := by
  rw [symbolOctets, List.all_map, List.all_eq_true]
  exact fun symbol member => (octet_of_symbol (digits symbol member)).1

/-- The value of a numeral is that of its digits by their places. -/
theorem value_symbolOctets
    {symbols : List Char}
    (digits : ∀ symbol ∈ symbols, symbol.isDigit = true) :
    value (symbolOctets symbols) =
      Nat.ofDigits 10 (symbols.reverse.map fun symbol => symbol.toNat - '0'.toNat) := by
  induction symbols using List.reverseRecOn with
  | nil => rfl
  | append_singleton front last ih =>
    have before := ih fun symbol member => digits symbol (List.mem_append_left [last] member)
    have digit := digits last (List.mem_append_right front List.mem_cons_self)
    rw [List.reverse_append, List.reverse_singleton, List.singleton_append, List.map_cons,
      Nat.ofDigits_cons, ← before, ← (octet_of_symbol digit).2, symbolOctets, List.map_append,
      value, List.foldl_append]
    exact Nat.add_comm _ _

/-- Digit octets are the octets of digits. -/
theorem exists_symbols
    {numeral : Octets}
    (digits : numeral.all isDigit = true) :
    ∃ symbols : List Char,
      (∀ symbol ∈ symbols, symbol.isDigit = true) ∧ symbolOctets symbols = numeral := by
  rw [List.all_eq_true] at digits
  refine ⟨numeral.map fun octet => Char.ofNat octet.toNat, ?_, ?_⟩
  · intro symbol member
    rcases List.mem_map.1 member with ⟨octet, inside, rfl⟩
    exact (symbol_of_octet (digits octet inside)).1
  · rw [symbolOctets, List.map_map]
    exact (List.map_congr_left fun octet inside =>
      (symbol_of_octet (digits octet inside)).2).trans (List.map_id numeral)

/-- Digit octets write a number exactly if it is their value. -/
theorem writes_iff
    {symbols : List Char}
    (digits : ∀ symbol ∈ symbols, symbol.isDigit = true)
    {number : Nat} :
    Writes symbols number ↔
      symbolOctets symbols ≠ [] ∧ value (symbolOctets symbols) = number := by
  rw [value_symbolOctets digits, symbolOctets, Ne, List.map_eq_nil_iff]
  constructor
  · exact fun writes => ⟨writes.nonempty, writes.value⟩
  · exact fun facts => ⟨facts.1, digits, facts.2⟩

end Decimal

namespace ModuleVersion

/-! ## Parts -/

/-- A text is a numeral of a number: its digits, with an optional plus sign before them. -/
inductive IsNumeral (number : Nat) : String → Prop
  | unsigned {symbols : List Char}
    (writes : Decimal.Writes symbols number) :
    IsNumeral number (String.ofList symbols)
  | signed {symbols : List Char}
    (writes : Decimal.Writes symbols number) :
    IsNumeral number (String.ofList ('+' :: symbols))

/-- What is read as a part are digits, apart from a plus sign. -/
theorem part?_eq_some
    {data : Octets}
    {part : UInt16} :
    part? data = some part ↔
      withoutPlus data ≠ [] ∧ (withoutPlus data).all Decimal.isDigit = true ∧
        Decimal.value (withoutPlus data) = part.toNat := by
  have bound : part.toNat < Octets.bound 2 := part.toNat_lt
  unfold part?
  simp only
  split
  · next fits =>
    rw [Option.some.injEq]
    constructor
    · rintro rfl
      exact ⟨fits.1, fits.2.1, (UInt16.toNat_ofNat_of_lt' fits.2.2).symm⟩
    · rintro ⟨-, -, valued⟩
      rw [valued, UInt16.ofNat_toNat]
  · next fails =>
    refine iff_of_false nofun ?_
    rintro ⟨some, digits, valued⟩
    exact fails ⟨some, digits, valued ▸ bound⟩

/-- The octets of digits behind a plus sign. -/
theorem ofText_signed
    {symbols : List Char}
    (digits : ∀ symbol ∈ symbols, symbol.isDigit = true) :
    Octets.ofText (String.ofList ('+' :: symbols)) = 0x2B :: Decimal.symbolOctets symbols := by
  have plus : Octets.ofText "+" = [0x2B] := by
    decide
  rw [← Decimal.ofText_symbols digits, ← List.singleton_append, String.ofList_append,
    Octets.ofText_append]
  exact congrArg (· ++ _) plus

/-- Octets are read as a part exactly if they are a numeral of it. -/
theorem part?_eq_some_iff
    {data : Octets}
    {part : UInt16} :
    part? data = some part ↔
      ∃ text, Octets.ofText text = data ∧ IsNumeral part.toNat text := by
  rw [part?_eq_some]
  constructor
  · rintro ⟨some, digits, valued⟩
    rcases Decimal.exists_symbols digits with ⟨symbols, decimal, same⟩
    have writes : Decimal.Writes symbols part.toNat := by
      rw [Decimal.writes_iff decimal, same]
      exact ⟨some, valued⟩
    unfold withoutPlus at same
    split at same
    · exact ⟨_, by rw [ofText_signed decimal, same], .signed writes⟩
    · exact ⟨_, by rw [Decimal.ofText_symbols decimal, same], .unsigned writes⟩
  · rintro ⟨text, rfl, numeral⟩
    cases numeral with
    | unsigned writes =>
      have digits := Decimal.all_isDigit_symbolOctets writes.digits
      rw [Decimal.ofText_symbols writes.digits, withoutPlus_of_digits digits]
      rcases (Decimal.writes_iff writes.digits).1 writes with ⟨some, valued⟩
      exact ⟨some, digits, valued⟩
    | signed writes =>
      have digits := Decimal.all_isDigit_symbolOctets writes.digits
      rw [ofText_signed writes.digits, withoutPlus]
      rcases (Decimal.writes_iff writes.digits).1 writes with ⟨some, valued⟩
      exact ⟨some, digits, valued⟩

/-- Neither the digits of a part nor its sign are points. -/
theorem noPoint_of_part?
    {data : Octets}
    {part : UInt16}
    (reads : part? data = some part) :
    (0x2E : UInt8) ∉ data := by
  have digits := (part?_eq_some.1 reads).2.1
  rw [List.all_eq_true] at digits
  have inside : (0x2E : UInt8) ∈ data → (0x2E : UInt8) ∈ withoutPlus data := by
    unfold withoutPlus
    split
    · exact List.mem_of_ne_of_mem (by decide)
    · exact id
  intro member
  exact absurd (digits _ (inside member)) (by decide)

theorem noPoint_of_numerals
    {parts : List UInt16}
    {numerals : List String}
    (writes : List.Forall₂ IsNumeral (parts.map UInt16.toNat) numerals) :
    ∀ numeral ∈ numerals, (0x2E : UInt8) ∉ Octets.ofText numeral := by
  induction parts generalizing numerals with
  | nil =>
    cases writes
    exact List.forall_mem_nil _
  | cons part rest ih =>
    cases writes with
    | cons numeral others =>
      exact List.forall_mem_cons.2
        ⟨noPoint_of_part? (part?_eq_some_iff.2 ⟨_, rfl, numeral⟩), ih others⟩

/-- All pieces are read as parts exactly if they are numerals of them. -/
theorem mapM_part?_eq_some_iff
    {pieces : List Octets}
    {parts : List UInt16} :
    pieces.mapM part? = some parts ↔
      ∃ numerals : List String, numerals.map Octets.ofText = pieces ∧
        List.Forall₂ IsNumeral (parts.map UInt16.toNat) numerals := by
  induction pieces generalizing parts with
  | nil =>
    rw [List.mapM_nil]
    constructor
    · intro none
      cases none
      exact ⟨[], rfl, .nil⟩
    · rintro ⟨numerals, nothing, numbers⟩
      rw [List.map_eq_nil_iff.1 nothing, List.forall₂_nil_right_iff, List.map_eq_nil_iff] at numbers
      rw [numbers]
      rfl
  | cons piece rest ih =>
    simp only [List.mapM_cons, Option.bind_eq_bind, Option.bind_eq_some_iff, Option.pure_def,
      Option.some.injEq]
    constructor
    · rintro ⟨part, reads, later, readsLater, rfl⟩
      rcases part?_eq_some_iff.1 reads with ⟨text, rfl, numeral⟩
      rcases ih.1 readsLater with ⟨texts, rfl, numerals⟩
      exact ⟨text :: texts, rfl, .cons numeral numerals⟩
    · rintro ⟨numerals, same, numbers⟩
      rcases List.map_eq_cons_iff.1 same with ⟨text, texts, rfl, rfl, rfl⟩
      cases parts with
      | nil => cases numbers
      | cons part later =>
        cases numbers with
        | cons numeral others =>
          exact ⟨part, part?_eq_some_iff.2 ⟨text, rfl, numeral⟩, later,
            ih.2 ⟨texts, rfl, others⟩, rfl⟩

/-! ## Pieces -/

/-- Dividing at points is dividing a list. -/
theorem pointPieces_eq_splitOn
    (data : Octets) :
    pointPieces data = data.splitOn 0x2E := by
  induction data with
  | nil => rfl
  | cons octet rest ih =>
    rw [List.splitOn_eq_splitOnP, List.splitOnP_cons_eq_if_modifyHead,
      ← List.splitOn_eq_splitOnP, ← ih, pointPieces]
    by_cases point : octet = 0x2E
    · rw [if_pos point, if_pos (beq_iff_eq.2 point)]
    · rw [if_neg point, if_neg (by simpa using point)]
      cases pieces : pointPieces rest with
      | nil =>
        rw [ih] at pieces
        exact absurd pieces (List.splitOnP_ne_nil _ _)
      | cons first others => rfl

/-- The octets of joined texts are those of the texts, joined. -/
theorem ofText_intercalate
    (texts : List String) :
    Octets.ofText (".".intercalate texts) = [0x2E].intercalate (texts.map Octets.ofText) := by
  have point : Octets.ofText "." = [0x2E] := by
    decide
  induction texts with
  | nil => rfl
  | cons text rest ih =>
    cases rest with
    | nil =>
      rw [String.intercalate_singleton, List.map_singleton, List.intercalate_singleton]
    | cons next others =>
      rw [String.intercalate_cons_cons, Octets.ofText_append, Octets.ofText_append, ih, point]
      exact List.intercalate_cons_cons.symm

/-- Pieces without points are divided where they were joined, and division loses nothing. -/
theorem pointPieces_ofText_iff
    {text : String}
    {numerals : List String}
    (some : numerals ≠ [])
    (noPoint : ∀ numeral ∈ numerals, (0x2E : UInt8) ∉ Octets.ofText numeral) :
    numerals.map Octets.ofText = pointPieces (Octets.ofText text) ↔
      text = ".".intercalate numerals := by
  rw [pointPieces_eq_splitOn]
  constructor
  · intro same
    apply Octets.ofText_injective
    rw [ofText_intercalate, same, List.intercalate_splitOn]
  · rintro rfl
    rw [ofText_intercalate, List.splitOn_intercalate]
    · exact List.forall_mem_map.2 noPoint
    · simpa using some

/-! ## Versions -/

/-- The parts of a version as numbers. -/
def parts
    (version : ModuleVersion) :
    List Nat :=
  [version.major.toNat, version.minor.toNat, version.build.toNat, version.revision.toNat]

/-- A text joins numerals of one to four numbers of 16 bits with points. -/
structure IsText
    (text : String)
    (numbers : List Nat) : Prop where
  some : 1 ≤ numbers.length
  few : numbers.length ≤ 4
  small : ∀ number ∈ numbers, number ≤ 65535
  joined : ∃ numerals, List.Forall₂ IsNumeral numbers numerals ∧ text = ".".intercalate numerals

/-- The parts that are given come first, and those that are missing are zero. -/
theorem ofParts?_eq_some_iff
    {given : List UInt16}
    {version : ModuleVersion} :
    ofParts? given = some version ↔
      (1 ≤ given.length ∧ given.length ≤ 4) ∧
        version.parts = given.map UInt16.toNat ++ List.replicate (4 - given.length) 0 := by
  have zero {part : UInt16} : 0 = part ↔ 0 = part.toNat :=
    UInt16.toNat_inj.symm
  rw [eq_comm (a := version.parts)]
  rcases version with ⟨major, minor, build, revision⟩
  rcases given with _ | ⟨first, _ | ⟨second, _ | ⟨third, _ | ⟨fourth, _ | ⟨fifth, rest⟩⟩⟩⟩⟩ <;>
    simp [ofParts?, parts, ← UInt16.toNat_inj, zero, List.replicate_succ]

/-- A text is read as the parts that it gives, and as nothing else. -/
theorem ofText?_eq_some_iff
    {text : String}
    {version : ModuleVersion} :
    ofText? text = some version ↔
      ∃ numbers, IsText text numbers ∧
        version.parts = numbers ++ List.replicate (4 - numbers.length) 0 := by
  simp only [ofText?, Option.bind_eq_some_iff, mapM_part?_eq_some_iff, ofParts?_eq_some_iff]
  constructor
  · rintro ⟨given, ⟨numerals, pieces, numbers⟩, ⟨some, few⟩, version⟩
    have length : (given.map UInt16.toNat).length = given.length := List.length_map _
    refine ⟨given.map UInt16.toNat, ⟨by omega, by omega, ?_, numerals, numbers, ?_⟩, ?_⟩
    · exact List.forall_mem_map.2 fun part _ => Nat.le_of_lt_succ part.toNat_lt
    · refine (pointPieces_ofText_iff ?_ (noPoint_of_numerals numbers)).1 pieces
      exact List.ne_nil_of_length_pos (numbers.length_eq ▸ length ▸ some)
    · rw [length]
      exact version
  · rintro ⟨numbers, ⟨some, few, small, numerals, writes, joined⟩, version⟩
    have given : (numbers.map UInt16.ofNat).map UInt16.toNat = numbers := by
      rw [List.map_map]
      refine (List.map_congr_left fun number member => ?_).trans (List.map_id numbers)
      exact UInt16.toNat_ofNat_of_lt' (Nat.lt_succ_of_le (small number member))
    have length : (numbers.map UInt16.ofNat).length = numbers.length := List.length_map _
    refine ⟨numbers.map UInt16.ofNat, ⟨numerals, ?_, given.symm ▸ writes⟩, ?_, ?_⟩
    · have nonempty : numerals ≠ [] :=
        List.ne_nil_of_length_pos (writes.length_eq ▸ some)
      rw [← given] at writes
      exact (pointPieces_ofText_iff nonempty (noPoint_of_numerals writes)).2 joined
    · rw [length]
      exact ⟨some, few⟩
    · rw [given, length]
      exact version

example :
    ofText? "+4.08" = some ⟨4, 8, 0, 0⟩ ∧ ofText? "1..2" = none ∧ ofText? "1.2.3.4.5" = none := by
  decide

/--
Versions and their texts.  A text is read exactly if it joins one to four
numerals of at most 65535 with points, each being decimal digits with an
optional plus sign before them; the parts that are missing are zero.  The text
of a version is read as the version.  Versions are ordered as the numbers whose
digits to the base of 16 bits are their parts.
-/
theorem texts_and_order_are_exact :
    (∀ text version, parse text = .ok version ↔
      ∃ numbers, IsText text numbers ∧
        version.parts = numbers ++ List.replicate (4 - numbers.length) 0) ∧
      (∀ version : ModuleVersion, parse version.text = .ok version) ∧
      ∀ left right : ModuleVersion,
        (left.precedes right = true ↔ left.number < right.number) ∧
          (left = right ↔ left.number = right.number) ∧
          (left.covers right = true ↔ right.number ≤ left.number) := by
  refine ⟨?_, ?_, fun left right => ⟨precedes_iff, ?_, covers_iff⟩⟩
  · intro text version
    rw [← ofText?_eq_some_iff, parse]
    cases ofText? text <;> simp
  · intro version
    rw [parse, ofText?_text]
  · exact ⟨congrArg number, number_injective⟩

end ModuleVersion

end BuildCapture
