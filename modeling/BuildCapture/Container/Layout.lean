import BuildCapture.Failure.Corruption
import BuildCapture.Failure.Malformation
import BuildCapture.SourcePath

/-!
# The frame of a container

A container file starts with a header and ends with a trailer, 64 octets each,
all integers with the least significant octet first:

| offset | size | header  | trailer                 |
|--------|------|---------|-------------------------|
| 0      | 4    | magic   | magic                   |
| 4      | 4    | version | version                 |
| 8      | 4    | flags   | offset of the directory |
| 16     | 8    |         | length of the directory |
| 24     | 8    |         | number of entries       |
| 32     | 4    |         | CRC-32 of the directory |

The offset of the directory takes eight octets; everything else is zero.
-/

namespace BuildCapture.Container

/-- The first word of every container. -/
def magic : UInt32 := 0x474F4C43

/-- The first word of every trailer. -/
def trailerMagic : UInt32 := 0x45474C43

/-- The newest layout version, which is also the one that is written. -/
def layoutVersion : UInt32 := 1

/-- The length of the header. -/
def headerLength : Nat := 64

/-- The length of the trailer. -/
def trailerLength : Nat := 64

/-- The word that starts at an offset. -/
def wordAt
    (data : Octets)
    (offset : Nat) :
    UInt32 :=
  UInt32.ofNat (Octets.toNat (Octets.slice data offset 4))

/-- The eight-octet number that starts at an offset. -/
def numberAt
    (data : Octets)
    (offset : Nat) :
    Nat :=
  Octets.toNat (Octets.slice data offset 8)

/-! ## Header -/

/-- The header of a container with the given flags. -/
def header
    (flags : UInt32) :
    Octets :=
  Octets.littleEndian 4 magic.toNat ++ Octets.littleEndian 4 layoutVersion.toNat ++
    Octets.littleEndian 4 flags.toNat ++ List.replicate 52 0

/-- The flags of the header that an image starts with. -/
def readHeader
    (image : Octets) :
    Except Malformation UInt32 :=
  if image.isEmpty then
    .error .emptyContainer
  else if image.length < headerLength then
    .error .shortHeader
  else if wordAt image 0 ≠ magic then
    .error (.foreignContainer (wordAt image 0))
  else if wordAt image 4 > layoutVersion then
    .error (.newerContainer (wordAt image 4))
  else
    .ok (wordAt image 8)

/-! ## Trailer -/

/-- Where the directory of a container is and what it has to be. -/
structure Trailer where
  directoryOffset : Nat
  directoryLength : Nat
  entryCount : Nat
  directoryChecksum : UInt32
deriving DecidableEq, Repr

namespace Trailer

/-- The octets of a trailer. -/
def octets
    (trailer : Trailer) :
    Octets :=
  Octets.littleEndian 4 trailerMagic.toNat ++ Octets.littleEndian 4 layoutVersion.toNat ++
    Octets.littleEndian 8 trailer.directoryOffset ++
    Octets.littleEndian 8 trailer.directoryLength ++ Octets.littleEndian 8 trailer.entryCount ++
    Octets.littleEndian 4 trailer.directoryChecksum.toNat ++ List.replicate 28 0

/-- The trailer that these octets are. -/
def ofOctets
    (data : Octets) :
    Except Corruption Trailer :=
  if wordAt data 0 ≠ trailerMagic then
    .error .unsealed
  else
    .ok {
      directoryOffset := numberAt data 8
      directoryLength := numberAt data 16
      entryCount := numberAt data 24
      directoryChecksum := wordAt data 32 }

end Trailer

end BuildCapture.Container
