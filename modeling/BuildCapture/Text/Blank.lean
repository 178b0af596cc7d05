/-!
# Blanks

The characters with the Unicode property `White_Space`: the places at which
free text falls into words.
-/

namespace BuildCapture.Text

/-- The ranges of code points that are blank, each with both its ends. -/
def blankRanges : List (Nat × Nat) := [
  (0x0009, 0x000D), (0x0020, 0x0020), (0x0085, 0x0085), (0x00A0, 0x00A0), (0x1680, 0x1680),
  (0x2000, 0x200A), (0x2028, 0x2029), (0x202F, 0x202F), (0x205F, 0x205F), (0x3000, 0x3000)]

/-- Whether a character is blank. -/
def isBlank
    (symbol : Char) :
    Bool :=
  blankRanges.any fun range => range.1 ≤ symbol.toNat && symbol.toNat ≤ range.2

/-- The pieces of a text between separators; a separator at an end leaves an empty piece. -/
def pieces
    (isSeparator : Char → Bool) : List Char → List (List Char)
  | [] => [[]]
  | symbol :: rest =>
    if isSeparator symbol then
      [] :: pieces isSeparator rest
    else
      match pieces isSeparator rest with
      | [] => [[symbol]]
      | first :: others => (symbol :: first) :: others

end BuildCapture.Text
