import BuildCapture.Octets
import Mathlib.Tactic.Basic

/-!
# Octets of texts

The octets of a text are those of its characters in turn, and an ASCII
character is one octet.
-/

namespace BuildCapture.Octets

theorem ofText_append
    (left right : String) :
    ofText (left ++ right) = ofText left ++ ofText right := by
  simp [ofText, String.toUTF8]

/-- The octets of a text are those of its characters in turn. -/
theorem ofText_ofList
    (symbols : List Char) :
    ofText (String.ofList symbols) = symbols.flatMap String.utf8EncodeChar := by
  simp [ofText, String.toUTF8, List.utf8Encode]

theorem utf8EncodeChar_of_lt
    {symbol : Char}
    (small : symbol.toNat < 128) :
    String.utf8EncodeChar symbol = [UInt8.ofNat symbol.toNat] := by
  have low : symbol.val ≤ 0x7F := by
    rw [UInt32.le_iff_toNat_le]
    exact Nat.le_of_lt_succ small
  have narrow : symbol.utf8Size = 1 := if_pos low
  rw [String.utf8EncodeChar_eq_singleton narrow]
  rfl

/-- The octets of a text of ASCII characters are the numbers of these. -/
theorem ofText_ofList_of_lt
    {symbols : List Char}
    (small : ∀ symbol ∈ symbols, symbol.toNat < 128) :
    ofText (String.ofList symbols) = symbols.map fun symbol => UInt8.ofNat symbol.toNat := by
  rw [ofText_ofList]
  induction symbols with
  | nil => rfl
  | cons symbol rest ih =>
    rw [List.flatMap_cons, List.map_cons, utf8EncodeChar_of_lt (small symbol List.mem_cons_self),
      ih fun other later => small other (List.mem_cons_of_mem _ later)]
    rfl

/-- A character takes at most four octets. -/
theorem length_ofText_ofList_le
    (symbols : List Char) :
    (ofText (String.ofList symbols)).length ≤ 4 * symbols.length := by
  rw [ofText_ofList]
  induction symbols with
  | nil => exact Nat.le_refl 0
  | cons symbol rest ih =>
    have narrow : (String.utf8EncodeChar symbol).length ≤ 4 := by
      rw [String.length_utf8EncodeChar]
      exact Char.utf8Size_le_four symbol
    rw [List.flatMap_cons, List.length_append, List.length_cons]
    omega

/-! ## Starts of texts -/

/-- The octets of a character tell where they end, and which character it is. -/
theorem utf8EncodeChar_prefix_inj
    {left right : Char}
    {leftRest rightRest : Octets}
    (starts :
      String.utf8EncodeChar left ++ leftRest <+: String.utf8EncodeChar right ++ rightRest) :
    left = right := by
  rcases starts with ⟨more, same⟩
  rw [List.append_assoc] at same
  have decoded := congrArg (fun data => data.toByteArray.utf8DecodeChar? 0) same
  simp only [List.toByteArray_append, ByteArray.utf8DecodeChar?_utf8EncodeChar_append] at decoded
  exact Option.some.inj decoded

theorem flatMap_utf8EncodeChar_prefix_iff
    {left right : List Char} :
    left.flatMap String.utf8EncodeChar <+: right.flatMap String.utf8EncodeChar ↔
      left <+: right := by
  induction left generalizing right with
  | nil => exact iff_of_true List.nil_prefix List.nil_prefix
  | cons symbol rest ih =>
    cases right with
    | nil =>
      rw [List.flatMap_nil, List.prefix_nil, List.prefix_nil, List.flatMap_cons,
        List.append_eq_nil_iff]
      exact iff_of_false (fun nothing => String.utf8EncodeChar_ne_nil nothing.1)
        (List.cons_ne_nil symbol rest)
    | cons other others =>
      rw [List.flatMap_cons, List.flatMap_cons, List.cons_prefix_cons]
      constructor
      · intro starts
        have same := utf8EncodeChar_prefix_inj starts
        subst same
        exact ⟨rfl, ih.1 ((List.prefix_append_right_inj _).1 starts)⟩
      · rintro ⟨rfl, starts⟩
        exact (List.prefix_append_right_inj _).2 (ih.2 starts)

/-- Octet by octet a text starts with another exactly if it does so character by character. -/
theorem ofText_prefix_iff
    {start text : String} :
    ofText start <+: ofText text ↔ start.toList <+: text.toList := by
  have octets (other : String) : ofText other = other.toList.flatMap String.utf8EncodeChar := by
    rw [← ofText_ofList, String.ofList_toList]
  rw [octets, octets, flatMap_utf8EncodeChar_prefix_iff]

end BuildCapture.Octets
