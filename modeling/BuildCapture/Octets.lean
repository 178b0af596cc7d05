/-!
# Octet sequences

Files, container entries and JSON documents are finite sequences of octets.
This module holds the operations every format in the library shares: the
octets of a text and the text of octets, unsigned integers written with the
least significant octet first, slices, and division into blocks of one size.
-/

namespace BuildCapture

/-- A finite sequence of octets. -/
abbrev Octets := List UInt8

namespace Octets

/-! ## Text -/

/-- The UTF-8 octets of a text. -/
def ofText (text : String) : Octets :=
  text.toUTF8.data.toList

/-- The text whose UTF-8 octets these are, if they are UTF-8 at all. -/
def text? (data : Octets) : Option String :=
  String.fromUTF8? ⟨data.toArray⟩

/-- The octets of a text read back as that text. -/
@[simp]
theorem text?_ofText
    (text : String) :
    text? (ofText text) = some text := by
  simp [text?, ofText, String.fromUTF8?, String.toUTF8, text.isValidUTF8,
    String.fromUTF8]

/-- Different texts have different octets. -/
theorem ofText_injective
    {left right : String}
    (same : ofText left = ofText right) :
    left = right := by
  simpa using congrArg text? same

/-- Whether a text comes before another, octet by octet. -/
def textBefore
    (left right : String) :
    Bool :=
  ofText left < ofText right

/-! ## Integers -/

/-- The low `width` octets of a number, least significant first. -/
def littleEndian : (width : Nat) → (value : Nat) → Octets
  | 0, _ => []
  | width + 1, value => UInt8.ofNat value :: littleEndian width (value / 256)

/-- The least number that does not fit into `width` octets. -/
def bound (width : Nat) : Nat :=
  Nat.pow 256 width

/-- The number whose octets these are, least significant first. -/
def toNat : Octets → Nat
  | [] => 0
  | octet :: rest => octet.toNat + 256 * toNat rest

/-- A number takes exactly as many octets as were asked for. -/
@[simp]
theorem length_littleEndian
    (width value : Nat) :
    (littleEndian width value).length = width := by
  induction width generalizing value with
  | zero => rfl
  | succ width ih => simp [littleEndian, ih]

/-- A number that fits in its octets reads back. -/
theorem toNat_littleEndian
    (width value : Nat)
    (fits : value < bound width) :
    toNat (littleEndian width value) = value := by
  induction width generalizing value with
  | zero =>
    have nothing : value = 0 := Nat.lt_one_iff.1 fits
    simp [littleEndian, toNat, nothing]
  | succ width ih =>
    have smaller : value / 256 < bound width :=
      Nat.div_lt_of_lt_mul (by rw [Nat.mul_comm]; exact fits)
    simp only [littleEndian, toNat, ih _ smaller, UInt8.toNat_ofNat']
    omega

/-! ## Slices and blocks -/

/-- The `length` octets from `offset` on, or as many of them as there are. -/
def slice
    (data : Octets)
    (offset length : Nat) :
    Octets :=
  (data.drop offset).take length

/-- Consecutive blocks of `size` octets; only the last one may be shorter. -/
def blocks
    (size : Nat) :
    Octets → List Octets
  | [] => []
  | octet :: rest =>
    (octet :: rest.take (size - 1)) :: blocks size (rest.drop (size - 1))
  termination_by data => data.length
  decreasing_by
    rw [List.length_drop, List.length_cons]
    omega

/-- The blocks of the data make up the data. -/
theorem flatten_blocks
    (size : Nat)
    (data : Octets) :
    (blocks size data).flatten = data := by
  fun_induction blocks size data with
  | case1 => rfl
  | case2 octet rest ih => simp [ih, List.take_append_drop]

/-- No block is longer than asked for. -/
theorem length_le_of_mem_blocks
    {size : Nat}
    (positive : 0 < size)
    {data block : Octets}
    (member : block ∈ blocks size data) :
    block.length ≤ size := by
  fun_induction blocks size data with
  | case1 => exact absurd member List.not_mem_nil
  | case2 octet rest ih =>
    rcases List.mem_cons.1 member with first | later
    · rw [first, List.length_cons, List.length_take]
      omega
    · exact ih later

end Octets

end BuildCapture
