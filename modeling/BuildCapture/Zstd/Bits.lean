import BuildCapture.Octets

/-!
# Bit streams

Compressed blocks hold two kinds of bit streams.  A forward stream starts with
the lowest bit of its first octet.  A backward stream is read from its end:
its last octet carries, above the first bit to be read, a marker bit and
zeros.
-/

namespace BuildCapture.Zstd

/-- Bits in the order in which they are read. -/
abbrev Bits := List Bool

namespace Bits

/-- The bits of an octet, lowest first. -/
def lowFirst
    (octet : UInt8) :
    Bits :=
  (List.range 8).map fun index => octet.toNat.testBit index

/-- The bits of an octet, highest first. -/
def highFirst
    (octet : UInt8) :
    Bits :=
  (lowFirst octet).reverse

/-- The bits of a forward stream. -/
def forward
    (data : Octets) :
    Bits :=
  data.flatMap lowFirst

/-- The bits of a backward stream below its marker; the last octet must hold the marker. -/
def backward?
    (data : Octets) :
    Option Bits :=
  match data.reverse with
  | [] => none
  | last :: before =>
    match (highFirst last).dropWhile not with
    | [] => none
    | _ :: marked => some (marked ++ before.flatMap highFirst)

/-- Reads a number whose highest bit comes first, below the bits already known. -/
def takeHigh?
    (known : Nat) :
    (count : Nat) → Bits → Option (Nat × Bits)
  | 0, bits => some (known, bits)
  | _ + 1, [] => none
  | count + 1, bit :: bits => takeHigh? (2 * known + bit.toNat) count bits

/-- Reads a number whose lowest bit comes first. -/
def takeLow? : (count : Nat) → Bits → Option (Nat × Bits)
  | 0, bits => some (0, bits)
  | _ + 1, [] => none
  | count + 1, bit :: bits => do
    let (higher, rest) ← takeLow? count bits
    return (2 * higher + bit.toNat, rest)

/-- The number that the next bits write, highest first, as if zeros followed the stream. -/
def peekHigh
    (known : Nat) :
    (count : Nat) → Bits → Nat
  | 0, _ => known
  | count + 1, [] => peekHigh (2 * known) count []
  | count + 1, bit :: bits => peekHigh (2 * known + bit.toNat) count bits

/-- Drops bits that have to be there. -/
def drop? : (count : Nat) → Bits → Option Bits
  | 0, bits => some bits
  | _ + 1, [] => none
  | count + 1, _ :: bits => drop? count bits

end Bits

end BuildCapture.Zstd
