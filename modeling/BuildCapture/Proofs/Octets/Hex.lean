import BuildCapture.Octets.Hex
import BuildCapture.Proofs.Octets.Text

/-!
# Reading back hexadecimal text

An octet is sixteen times its high half plus its low half, and either half is
read back from its digit.  A text is read exactly if it is a hexadecimal one but
for the case of its digits.
-/

namespace BuildCapture.Octets

/-- A digit is read back as its value. -/
theorem hexValue?_hexDigit
    {value : Nat}
    (small : value < 16) :
    hexValue? (hexDigit value) = some value := by
  have every : ∀ number : Fin 16, hexValue? (hexDigit number) = some number.val := by
    decide
  exact every ⟨value, small⟩

theorem ofHexDigits?_flatMap_hexPair
    (known data : Octets) :
    ofHexDigits? known (data.flatMap hexPair) = some (known.reverse ++ data) := by
  induction data generalizing known with
  | nil =>
    rw [List.append_nil]
    rfl
  | cons octet rest ih =>
    have bound : octet.toNat < 256 := octet.toNat_lt
    have high : hexValue? (hexDigit (octet.toNat / 16)) = some (octet.toNat / 16) :=
      hexValue?_hexDigit (by omega)
    have low : hexValue? (hexDigit (octet.toNat % 16)) = some (octet.toNat % 16) :=
      hexValue?_hexDigit (by omega)
    have whole : 16 * (octet.toNat / 16) + octet.toNat % 16 = octet.toNat :=
      Nat.div_add_mod octet.toNat 16
    rw [List.flatMap_cons, hexPair, List.cons_append, List.cons_append, List.nil_append,
      ofHexDigits?]
    simp only [high, low]
    rw [whole, UInt8.ofNat_toNat, ih, List.reverse_cons, List.append_assoc]
    rfl

/-- Hexadecimal text is read back as the octets it was written for. -/
@[simp]
theorem ofHex?_hex
    (data : Octets) :
    ofHex? (hex data) = some data := by
  rw [ofHex?, hex, String.toList_ofList, ofHexDigits?_flatMap_hexPair]
  rfl

/-- A vector is read back from its octets. -/
@[simp]
theorem toVector?_toList
    {size : Nat}
    (vector : Vector UInt8 size) :
    toVector? size vector.toList = some vector := by
  simp [toVector?, Vector.toList]

/-- Two digits are written for an octet. -/
theorem length_flatMap_hexPair
    (data : Octets) :
    (data.flatMap hexPair).length = 2 * data.length := by
  induction data with
  | nil => rfl
  | cons octet rest ih =>
    rw [List.flatMap_cons, List.length_append, ih, List.length_cons]
    show 2 + 2 * rest.length = _
    omega

/-- Hexadecimal text has at most eight octets for each octet. -/
theorem length_ofText_hex_le
    (data : Octets) :
    (ofText (hex data)).length ≤ 8 * data.length := by
  have bound := length_ofText_ofList_le (data.flatMap hexPair)
  rw [length_flatMap_hexPair] at bound
  rw [hex]
  omega

/-! ## What can be read -/

/-- A hexadecimal digit of either case. -/
def IsHexDigit
    (symbol : Char) :
    Prop :=
  ('0' ≤ symbol ∧ symbol ≤ '9') ∨ ('a' ≤ symbol ∧ symbol ≤ 'f') ∨ ('A' ≤ symbol ∧ symbol ≤ 'F')

instance
    (symbol : Char) :
    Decidable (IsHexDigit symbol) :=
  inferInstanceAs (Decidable (_ ∨ _ ∨ _))

/-- A text is that many hexadecimal digits. -/
def IsHexText
    (length : Nat)
    (text : String) :
    Prop :=
  text.length = length ∧ ∀ symbol ∈ text.toList, IsHexDigit symbol

/-- What has a value are the hexadecimal digits. -/
theorem isSome_hexValue?_iff
    {symbol : Char} :
    (hexValue? symbol).isSome = true ↔ IsHexDigit symbol := by
  unfold hexValue? IsHexDigit
  split
  · next decimal => exact iff_of_true rfl (Or.inl decimal)
  next noDecimal =>
  split
  · next lower => exact iff_of_true rfl (Or.inr (Or.inl lower))
  next noLower =>
  split
  · next upper => exact iff_of_true rfl (Or.inr (Or.inr upper))
  · next noUpper => exact iff_of_false nofun (by simp only [*, or_self, not_false_eq_true])

/-- A value below sixteen is written as the lower-case form of the digit it was read from. -/
theorem hexDigit_of_hexValue?
    {symbol : Char}
    {value : Nat}
    (reads : hexValue? symbol = some value) :
    value < 16 ∧ hexDigit value = symbol.toLower := by
  have every :
      ∀ number : Fin 128, ∀ value ∈ hexValue? (Char.ofNat number),
        value < 16 ∧ hexDigit value = (Char.ofNat number).toLower := by
    decide
  have ascii : symbol.toNat < 128 := by
    have digit := isSome_hexValue?_iff.1 (Option.isSome_of_eq_some reads)
    simp only [IsHexDigit, Char.le_def, UInt32.le_iff_toNat_le] at digit
    show symbol.val.toNat < 128
    rcases digit with ⟨-, high⟩ | ⟨-, high⟩ | ⟨-, high⟩ <;> exact Nat.lt_of_le_of_lt high (by decide)
  have facts := every ⟨symbol.toNat, ascii⟩
  rw [Char.ofNat_toNat] at facts
  exact facts value reads

/-- Two digits are read as the octet that is written as their lower-case forms. -/
theorem hexPair_of_hexValue?
    {high low : Char}
    {highValue lowValue : Nat}
    (readsHigh : hexValue? high = some highValue)
    (readsLow : hexValue? low = some lowValue) :
    hexPair (UInt8.ofNat (16 * highValue + lowValue)) = [high.toLower, low.toLower] := by
  rcases hexDigit_of_hexValue? readsHigh with ⟨smallHigh, writesHigh⟩
  rcases hexDigit_of_hexValue? readsLow with ⟨smallLow, writesLow⟩
  have whole : (UInt8.ofNat (16 * highValue + lowValue)).toNat = 16 * highValue + lowValue :=
    UInt8.toNat_ofNat_of_lt' (by show _ < 256; omega)
  have front : (16 * highValue + lowValue) / 16 = highValue := by omega
  have back : (16 * highValue + lowValue) % 16 = lowValue := by omega
  rw [hexPair, whole, front, back, writesHigh, writesLow]

/-- Digits are read as octets that are written as the lower-case forms of the digits. -/
theorem flatMap_hexPair_of_ofHexDigits?
    {known data : Octets}
    {symbols : List Char}
    (reads : ofHexDigits? known symbols = some data) :
    (∀ symbol ∈ symbols, IsHexDigit symbol) ∧
      ∃ rest, data = known.reverse ++ rest ∧
        rest.flatMap hexPair = symbols.map Char.toLower := by
  fun_induction ofHexDigits? known symbols with
  | case1 known =>
    cases reads
    exact ⟨List.forall_mem_nil _, [], (List.append_nil _).symm, rfl⟩
  | case2 => cases reads
  | case3 known high low rest highValue lowValue readsLow readsHigh ih =>
    rcases ih reads with ⟨digits, others, rfl, written⟩
    have first := isSome_hexValue?_iff.1 (Option.isSome_of_eq_some readsHigh)
    have second := isSome_hexValue?_iff.1 (Option.isSome_of_eq_some readsLow)
    refine ⟨List.forall_mem_cons.2 ⟨first, List.forall_mem_cons.2 ⟨second, digits⟩⟩,
      UInt8.ofNat (16 * highValue + lowValue) :: others, ?_, ?_⟩
    · rw [List.reverse_cons, List.append_assoc, List.singleton_append]
    · rw [List.flatMap_cons, hexPair_of_hexValue? readsHigh readsLow, written]
      rfl
  | case4 => cases reads

/-- An even number of digits can be read. -/
theorem exists_ofHexDigits?
    (known : Octets)
    {symbols : List Char}
    (even : symbols.length % 2 = 0)
    (digits : ∀ symbol ∈ symbols, IsHexDigit symbol) :
    ∃ data, ofHexDigits? known symbols = some data := by
  fun_induction ofHexDigits? known symbols with
  | case1 known => exact ⟨_, rfl⟩
  | case2 => cases even
  | case3 known high low rest highValue lowValue readsLow readsHigh ih =>
    rw [List.length_cons, List.length_cons] at even
    apply ih (by omega)
    exact fun symbol member => digits symbol (List.mem_cons_of_mem _ (List.mem_cons_of_mem _ member))
  | case4 known high low rest unread =>
    rcases Option.isSome_iff_exists.1 (isSome_hexValue?_iff.2 (digits high List.mem_cons_self)) with
      ⟨highValue, readsHigh⟩
    rcases Option.isSome_iff_exists.1 (isSome_hexValue?_iff.2
      (digits low (List.mem_cons_of_mem _ List.mem_cons_self))) with ⟨lowValue, readsLow⟩
    exact absurd readsLow (unread highValue lowValue readsHigh)

/-- A text that is read is made of digits, and its lower-case form is written for what is read. -/
theorem hex_of_ofHex?
    {text : String}
    {data : Octets}
    (reads : ofHex? text = some data) :
    IsHexText (2 * data.length) text ∧ hex data = text.toLower := by
  rcases flatMap_hexPair_of_ofHexDigits? reads with ⟨digits, rest, rfl, written⟩
  have length := congrArg List.length written
  rw [length_flatMap_hexPair, List.length_map, String.length_toList] at length
  refine ⟨⟨length.symm, digits⟩, ?_⟩
  have lower : text.toLower = text.map Char.toLower := rfl
  rw [lower, ← String.toList_inj, String.toList_map, ← written, hex, String.toList_ofList]

theorem toVector?_eq_some_iff
    {size : Nat}
    {data : Octets}
    {vector : Vector UInt8 size} :
    toVector? size data = some vector ↔ vector.toList = data := by
  constructor
  · intro whole
    rw [toVector?] at whole
    split at whole
    · cases whole
      rfl
    · cases whole
  · rintro rfl
    exact toVector?_toList vector

/-- So many octets can be read exactly from twice as many digits. -/
theorem exists_vector_iff
    {size : Nat}
    {text : String} :
    (∃ vector, (ofHex? text).bind (toVector? size) = some vector) ↔ IsHexText (2 * size) text := by
  simp only [Option.bind_eq_some_iff, toVector?_eq_some_iff]
  constructor
  · rintro ⟨vector, data, reads, rfl⟩
    have digits := (hex_of_ofHex? reads).1
    rwa [Vector.length_toList] at digits
  · rintro ⟨length, digits⟩
    rw [← String.length_toList] at length
    rcases exists_ofHexDigits? [] (by omega) digits with ⟨data, reads⟩
    have counted := (hex_of_ofHex? reads).1.1
    rw [← String.length_toList] at counted
    have exact : data.length = size := by omega
    exact ⟨⟨data.toArray, by simpa using exact⟩, data, reads, rfl⟩

/--
Values are written as so many lower-case hexadecimal digits, and read from just
the texts that are so many digits of either case.
-/
structure HexCoded
    {ε α : Type}
    (length : Nat)
    (hex : α → String)
    (parse : String → Except ε α) : Prop where
  parse_hex : ∀ value, parse (hex value) = .ok value
  accepts : ∀ text, (∃ value, parse text = .ok value) ↔ IsHexText length text
  hex_of_parse : ∀ text value, parse text = .ok value → hex value = text.toLower

/-- What is made of so many octets has a hexadecimal text of twice as many digits. -/
theorem hexCoded_of_vector
    {ε α : Type}
    {size : Nat}
    (ofVector : Vector UInt8 size → α)
    (made : Function.Surjective ofVector)
    {hex : α → String}
    (written : ∀ vector, hex (ofVector vector) = Octets.hex vector.toList)
    {parse : String → Except ε α}
    (read : ∀ text value, parse text = .ok value ↔
      ((ofHex? text).bind (toVector? size)).map ofVector = some value) :
    HexCoded (2 * size) hex parse where
  parse_hex value := by
    rcases made value with ⟨vector, rfl⟩
    rw [read, written, ofHex?_hex, Option.bind_some, toVector?_toList, Option.map_some]
  accepts text := by
    simp only [read, Option.map_eq_some_iff, ← exists_vector_iff]
    constructor
    · exact fun ⟨_, vector, reads, _⟩ => ⟨vector, reads⟩
    · exact fun ⟨vector, reads⟩ => ⟨_, vector, reads, rfl⟩
  hex_of_parse text value reads := by
    simp only [read, Option.map_eq_some_iff, Option.bind_eq_some_iff, toVector?_eq_some_iff] at reads
    rcases reads with ⟨vector, ⟨data, reads, rfl⟩, rfl⟩
    rw [written]
    exact (hex_of_ofHex? reads).2

end BuildCapture.Octets
