import BuildCapture.Octets

/-!
# CRC-32

The reflected cyclic redundancy check with polynomial `0xEDB88320`: the
register starts with all bits set, takes in one octet at a time, and is
complemented at the end.  Containers guard their directory and every stored
entry with it, module images their metadata.
-/

namespace BuildCapture

namespace Crc32

/-- One division step: shift out the low bit and, if it was set, add the polynomial. -/
def shift
    (register : UInt32) :
    UInt32 :=
  if register &&& 1 = 1 then
    (register >>> 1) ^^^ 0xEDB88320
  else
    register >>> 1

/-- The register after `count` division steps. -/
def shifts : (count : Nat) → (register : UInt32) → UInt32
  | 0, register => register
  | count + 1, register => shifts count (shift register)

/-- The register after one more octet. -/
def absorb
    (register : UInt32)
    (octet : UInt8) :
    UInt32 :=
  shifts 8 (register ^^^ octet.toUInt32)

end Crc32

/-- The CRC-32 of a sequence of octets. -/
def crc32
    (data : Octets) :
    UInt32 :=
  ~~~ (data.foldl Crc32.absorb 0xFFFFFFFF)

end BuildCapture
