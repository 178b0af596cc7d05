import BuildCapture.Octets

/-!
# Hexadecimal text

Identities are written as two lower-case hexadecimal digits an octet, high
half first.  Reading accepts either case and insists on whole octets.
-/

namespace BuildCapture.Octets

/-- The lower-case digit of a value below sixteen. -/
def hexDigit
    (value : Nat) :
    Char :=
  if value < 10 then
    Char.ofNat (0x30 + value)
  else
    Char.ofNat (0x57 + value)

/-- The value of a hexadecimal digit of either case. -/
def hexValue?
    (digit : Char) :
    Option Nat :=
  if '0' ≤ digit ∧ digit ≤ '9' then
    some (digit.toNat - 0x30)
  else if 'a' ≤ digit ∧ digit ≤ 'f' then
    some (digit.toNat - 0x57)
  else if 'A' ≤ digit ∧ digit ≤ 'F' then
    some (digit.toNat - 0x37)
  else
    none

/-- The two digits of an octet. -/
def hexPair
    (octet : UInt8) :
    List Char :=
  [hexDigit (octet.toNat / 16), hexDigit (octet.toNat % 16)]

/-- Octets as hexadecimal text. -/
def hex
    (data : Octets) :
    String :=
  String.ofList (data.flatMap hexPair)

/-- Pairs of hexadecimal digits read as octets, after those already known, newest first. -/
def ofHexDigits?
    (known : Octets) : List Char → Option Octets
  | [] => some known.reverse
  | [_] => none
  | high :: low :: rest =>
    match hexValue? high, hexValue? low with
    | some highValue, some lowValue =>
      ofHexDigits? (UInt8.ofNat (16 * highValue + lowValue) :: known) rest
    | _, _ => none

/-- The octets a hexadecimal text writes. -/
def ofHex?
    (text : String) :
    Option Octets :=
  ofHexDigits? [] text.toList

/-- Exactly `size` octets, as a vector. -/
def toVector?
    (size : Nat)
    (data : Octets) :
    Option (Vector UInt8 size) :=
  if exact : data.length = size then
    some ⟨data.toArray, by simpa using exact⟩
  else
    none

end BuildCapture.Octets
