import BuildCapture.Decimal

/-!
# JSON numbers

A number literal is an optional minus sign, digits without a leading zero, an
optional fraction and an optional exponent.  Integers of 64 bits keep their
value.  Every other literal is only classified: whether the nearest double is
finite.  That depends on the leading digits that fit in 64 bits, on the
decimal exponent, and on two roundings to 53 binary digits.
-/

namespace BuildCapture.Json

/-- What a number literal denotes. -/
inductive Number where
  /-- An integer from zero to `2 ^ 64 - 1`. -/
  | natural (value : Nat)
  /-- The integer `-magnitude`, from `-1` down to `-2 ^ 63`. -/
  | negative (magnitude : Nat)
  /-- Any other literal whose nearest double is finite. -/
  | approximate (literal : Octets)
  /-- A literal too large for a finite double. -/
  | unbounded (literal : Octets)
deriving DecidableEq, Repr

namespace Number

/-! ## Literals -/

/-- The parts of a number literal; `exponent` holds whether it is positive, and its digits. -/
structure Literal where
  isNegative : Bool
  whole : Octets
  fraction : Octets
  exponent : Option (Bool × Octets)

/-- The sign, if there is one, and what follows it. -/
def takeSign : Octets → Bool × Octets
  | 0x2D :: rest => (true, rest)
  | data => (false, data)

/-- The whole part: digits, with a leading zero only when it stands alone. -/
def takeWhole?
    (data : Octets) :
    Option (Octets × Octets) :=
  match data.span Decimal.isDigit with
  | ([], _) => none
  | (0x30 :: _ :: _, _) => none
  | (whole, rest) => some (whole, rest)

/-- The digits after a point, or none when no point follows. -/
def takeFraction? : Octets → Option (Octets × Octets)
  | 0x2E :: rest =>
    match rest.span Decimal.isDigit with
    | ([], _) => none
    | (fraction, rest) => some (fraction, rest)
  | data => some ([], data)

/-- The sign of an exponent, positive when none is written. -/
def takeExponentSign : Octets → Bool × Octets
  | 0x2B :: rest => (true, rest)
  | 0x2D :: rest => (false, rest)
  | data => (true, data)

/-- The exponent after `e` or `E`, or none when neither follows. -/
def takeExponent?
    (data : Octets) :
    Option (Option (Bool × Octets) × Octets) :=
  match data with
  | octet :: rest =>
    if octet = 0x65 ∨ octet = 0x45 then
      let (isPositive, rest) := takeExponentSign rest
      match rest.span Decimal.isDigit with
      | ([], _) => none
      | (exponent, rest) => some (some (isPositive, exponent), rest)
    else
      some (none, data)
  | [] => some (none, [])

/-- A number literal and what follows it. -/
def takeLiteral?
    (data : Octets) :
    Option (Literal × Octets) := do
  let (isNegative, rest) := takeSign data
  let (whole, rest) ← takeWhole? rest
  let (fraction, rest) ← takeFraction? rest
  let (exponent, rest) ← takeExponent? rest
  return (⟨isNegative, whole, fraction, exponent⟩, rest)

/-! ## Magnitude -/

/-- Extends a significand by digits as long as 64 bits hold it; also counts the digits taken. -/
def gather
    (significand taken : Nat) :
    Octets → Nat × Nat
  | [] => (significand, taken)
  | octet :: rest =>
    let next := 10 * significand + Decimal.digitValue octet
    if next < Octets.bound 8 then
      gather next (taken + 1) rest
    else
      (significand, taken)

/-- Rounds to 53 significant binary digits, a tie to the even neighbour. -/
def roundBinary
    (value : Nat) :
    Nat :=
  let excess := Nat.log2 value - 52
  let unit := Nat.pow 2 excess
  let quotient := value / unit
  let remainder := value % unit
  let upward := 2 * remainder > unit || (2 * remainder == unit && quotient % 2 == 1)
  (if upward then quotient + 1 else quotient) * unit

/-- Whether a significand times a power of ten exceeds every finite double. -/
def exceedsDoubles
    (significand : Nat)
    (exponent : Int) :
    Bool :=
  match exponent with
  | .negSucc _ => false
  | .ofNat exponent =>
    if significand = 0 then
      false
    else if exponent > 308 then
      true
    else
      Nat.pow 2 1024 ≤ roundBinary (roundBinary significand * roundBinary (Nat.pow 10 exponent))

/-- Whether a literal's value is too large for a finite double. -/
def Literal.exceedsDoubles
    (literal : Literal) :
    Bool :=
  let (whole, wholeTaken) := gather 0 0 literal.whole
  let (significand, fractionTaken) := gather whole 0 literal.fraction
  let point : Int := (literal.whole.length : Int) - wholeTaken - fractionTaken
  match literal.exponent with
  | none => Number.exceedsDoubles significand point
  | some (isPositive, digits) =>
    let exponent : Int := Decimal.value digits
    if exponent ≥ Octets.bound 4 / 2 then
      isPositive && significand != 0
    else
      Number.exceedsDoubles significand (if isPositive then point + exponent else point - exponent)

/-- The integer a literal without fraction and exponent writes, when 64 bits hold it. -/
def Literal.integer?
    (literal : Literal) :
    Option Number :=
  if literal.fraction = [] ∧ literal.exponent = none then
    let magnitude := Decimal.value literal.whole
    if literal.isNegative then
      if 0 < magnitude ∧ magnitude ≤ Octets.bound 8 / 2 then some (.negative magnitude) else none
    else
      if magnitude < Octets.bound 8 then some (.natural magnitude) else none
  else
    none

/-- What a literal, spelled by these octets, denotes. -/
def ofLiteral
    (literal : Literal)
    (spelling : Octets) :
    Number :=
  match literal.integer? with
  | some number => number
  | none => if literal.exceedsDoubles then .unbounded spelling else .approximate spelling

/-- The number at the start of the data, and what follows it. -/
def take?
    (data : Octets) :
    Option (Number × Octets) := do
  let (literal, rest) ← takeLiteral? data
  return (ofLiteral literal (data.take (data.length - rest.length)), rest)

/-- The octets that write a number. -/
def render : Number → Octets
  | .natural value => Decimal.octets value
  | .negative magnitude => 0x2D :: Decimal.octets magnitude
  | .approximate literal => literal
  | .unbounded literal => literal

end Number

end BuildCapture.Json
