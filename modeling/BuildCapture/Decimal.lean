import BuildCapture.Octets

/-!
# Decimal numerals

Counts, indices and version parts are written in decimal without leading
zeros.  Reading takes the value of any sequence of digit octets.
-/

namespace BuildCapture.Decimal

/-- The digit of a value below ten. -/
def digit
    (value : Nat) :
    Char :=
  Char.ofNat (0x30 + value)

/-- The digits of a number, most significant first. -/
def digits
    (value : Nat) :
    List Char :=
  if value < 10 then
    [digit value]
  else
    digits (value / 10) ++ [digit (value % 10)]

/-- A number as text. -/
def text
    (value : Nat) :
    String :=
  String.ofList (digits value)

/-- A number as ASCII octets. -/
def octets
    (value : Nat) :
    Octets :=
  (digits value).map fun symbol => UInt8.ofNat symbol.toNat

/-- Whether an octet is an ASCII digit. -/
def isDigit
    (octet : UInt8) :
    Bool :=
  0x30 ≤ octet && octet ≤ 0x39

/-- The value of a digit octet. -/
def digitValue
    (octet : UInt8) :
    Nat :=
  octet.toNat - 0x30

/-- The number that digit octets write. -/
def value
    (numeral : Octets) :
    Nat :=
  numeral.foldl (fun total octet => 10 * total + digitValue octet) 0

end BuildCapture.Decimal
