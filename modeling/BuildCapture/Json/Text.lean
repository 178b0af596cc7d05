import BuildCapture.Octets.Hex

/-!
# JSON string literals

A string literal stands for a sequence of octets.  Writing escapes the quote,
the backslash and the control characters and leaves every other octet alone.
Reading undoes each escape; an escaped surrogate without its partner becomes
the three octets of its code point, which no UTF-8 text contains, so that a
literal denotes text exactly when its octets are UTF-8.
-/

namespace BuildCapture.Json.Text

/-! ## Writing -/

/-- How one octet is written inside a string literal. -/
def escape
    (octet : UInt8) :
    Octets :=
  if octet = 0x22 then [0x5C, 0x22]
  else if octet = 0x5C then [0x5C, 0x5C]
  else if octet = 0x08 then [0x5C, 0x62]
  else if octet = 0x09 then [0x5C, 0x74]
  else if octet = 0x0A then [0x5C, 0x6E]
  else if octet = 0x0C then [0x5C, 0x66]
  else if octet = 0x0D then [0x5C, 0x72]
  else if octet < 0x20 then
    [0x5C, 0x75, 0x30, 0x30] ++
      (Octets.hexPair octet).map fun digit => UInt8.ofNat digit.toNat
  else [octet]

/-- A string literal with its quotes. -/
def render
    (data : Octets) :
    Octets :=
  0x22 :: (data.flatMap escape ++ [0x22])

/-! ## Reading -/

/-- The octets of a code point, by the UTF-8 bit layout. -/
def codePoint
    (code : Nat) :
    Octets :=
  if code < 0x80 then
    [UInt8.ofNat code]
  else if code < 0x800 then
    [UInt8.ofNat (0xC0 + code / 0x40), UInt8.ofNat (0x80 + code % 0x40)]
  else if code < 0x10000 then
    [UInt8.ofNat (0xE0 + code / 0x1000), UInt8.ofNat (0x80 + code / 0x40 % 0x40),
      UInt8.ofNat (0x80 + code % 0x40)]
  else
    [UInt8.ofNat (0xF0 + code / 0x40000), UInt8.ofNat (0x80 + code / 0x1000 % 0x40),
      UInt8.ofNat (0x80 + code / 0x40 % 0x40), UInt8.ofNat (0x80 + code % 0x40)]

/-- The value of four hexadecimal digit octets. -/
def unit?
    (a b c d : UInt8) :
    Option Nat := do
  let value (octet : UInt8) := Octets.hexValue? (Char.ofNat octet.toNat)
  return (((← value a) * 16 + (← value b)) * 16 + (← value c)) * 16 + (← value d)

/-- The octet that a one-letter escape stands for. -/
def simpleEscape?
    (letter : UInt8) :
    Option UInt8 :=
  if letter = 0x22 then some 0x22
  else if letter = 0x5C then some 0x5C
  else if letter = 0x2F then some 0x2F
  else if letter = 0x62 then some 0x08
  else if letter = 0x66 then some 0x0C
  else if letter = 0x6E then some 0x0A
  else if letter = 0x72 then some 0x0D
  else if letter = 0x74 then some 0x09
  else none

/-- Whether a code unit is the first half of a surrogate pair. -/
def isHighSurrogate
    (unit : Nat) :
    Bool :=
  0xD800 ≤ unit && unit < 0xDC00

/-- Whether a code unit is the second half of a surrogate pair. -/
def isLowSurrogate
    (unit : Nat) :
    Bool :=
  0xDC00 ≤ unit && unit < 0xE000

/-- The code point of a surrogate pair. -/
def pairedCode
    (high low : Nat) :
    Nat :=
  0x10000 + (high - 0xD800) * 0x400 + (low - 0xDC00)

/-- The octets read so far, newest first, with a surrogate that found no partner spelled out. -/
def flush
    (known : Octets) : Option Nat → Octets
  | none => known
  | some high => (codePoint high).reverse ++ known

/-- Takes in a code unit that completes no pair. -/
def startUnit
    (known : Octets)
    (unit : Nat) :
    Octets × Option Nat :=
  if isHighSurrogate unit then
    (known, some unit)
  else
    ((codePoint unit).reverse ++ known, none)

/-- Takes in the code unit of an escape, which may complete a pending surrogate. -/
def absorbUnit
    (known : Octets)
    (pending : Option Nat)
    (unit : Nat) :
    Octets × Option Nat :=
  match pending with
  | none => startUnit known unit
  | some high =>
    if isLowSurrogate unit then
      ((codePoint (pairedCode high unit)).reverse ++ known, none)
    else
      startUnit (flush known pending) unit

/--
The octets of a string literal whose opening quote has been taken, and what
follows its closing quote.  `known` holds the octets read so far, newest
first, and `pending` a high surrogate whose partner may come next.
-/
def takeRest?
    (known : Octets)
    (pending : Option Nat) :
    Octets → Option (Octets × Octets)
  | [] => none
  | 0x22 :: rest => some ((flush known pending).reverse, rest)
  | 0x5C :: 0x75 :: a :: b :: c :: d :: rest =>
    match unit? a b c d with
    | none => none
    | some unit =>
      let next := absorbUnit known pending unit
      takeRest? next.1 next.2 rest
  | 0x5C :: letter :: rest =>
    match simpleEscape? letter with
    | none => none
    | some octet => takeRest? (octet :: flush known pending) none rest
  | octet :: rest =>
    if octet < 0x20 ∨ octet = 0x5C then
      none
    else
      takeRest? (octet :: flush known pending) none rest

end BuildCapture.Json.Text
