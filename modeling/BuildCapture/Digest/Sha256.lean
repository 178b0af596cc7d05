import BuildCapture.Octets

/-!
# SHA-256

The 256-bit digest that names a blob.  A message is padded to whole blocks of
64 octets; each block is stretched to 64 words and folded into eight chaining
words by 64 rounds.
-/

namespace BuildCapture

/-- A 256-bit digest. -/
abbrev Digest := Vector UInt8 32

namespace Sha256

/-- One additive constant for each round. -/
def roundConstants : List UInt32 := [
  0x428a2f98, 0x71374491, 0xb5c0fbcf, 0xe9b5dba5, 0x3956c25b, 0x59f111f1, 0x923f82a4, 0xab1c5ed5,
  0xd807aa98, 0x12835b01, 0x243185be, 0x550c7dc3, 0x72be5d74, 0x80deb1fe, 0x9bdc06a7, 0xc19bf174,
  0xe49b69c1, 0xefbe4786, 0x0fc19dc6, 0x240ca1cc, 0x2de92c6f, 0x4a7484aa, 0x5cb0a9dc, 0x76f988da,
  0x983e5152, 0xa831c66d, 0xb00327c8, 0xbf597fc7, 0xc6e00bf3, 0xd5a79147, 0x06ca6351, 0x14292967,
  0x27b70a85, 0x2e1b2138, 0x4d2c6dfc, 0x53380d13, 0x650a7354, 0x766a0abb, 0x81c2c92e, 0x92722c85,
  0xa2bfe8a1, 0xa81a664b, 0xc24b8b70, 0xc76c51a3, 0xd192e819, 0xd6990624, 0xf40e3585, 0x106aa070,
  0x19a4c116, 0x1e376c08, 0x2748774c, 0x34b0bcb5, 0x391c0cb3, 0x4ed8aa4a, 0x5b9cca4f, 0x682e6ff3,
  0x748f82ee, 0x78a5636f, 0x84c87814, 0x8cc70208, 0x90befffa, 0xa4506ceb, 0xbef9a3f7, 0xc67178f2]

/-- The eight chaining words. -/
structure State where
  a : UInt32
  b : UInt32
  c : UInt32
  d : UInt32
  e : UInt32
  f : UInt32
  g : UInt32
  h : UInt32

/-- The chaining words before the first block. -/
def initial : State where
  a := 0x6a09e667
  b := 0xbb67ae85
  c := 0x3c6ef372
  d := 0xa54ff53a
  e := 0x510e527f
  f := 0x9b05688c
  g := 0x1f83d9ab
  h := 0x5be0cd19

/-- Rotation of a word toward its low end. -/
def rotate
    (word : UInt32)
    (amount : UInt32) :
    UInt32 :=
  (word >>> amount) ||| (word <<< (32 - amount))

/-- The word four octets write, most significant first. -/
def word
    (b0 b1 b2 b3 : UInt8) :
    UInt32 :=
  (b0.toUInt32 <<< 24) ||| (b1.toUInt32 <<< 16) ||| (b2.toUInt32 <<< 8) ||| b3.toUInt32

/-- The words of a block. -/
def words : Octets → List UInt32
  | b0 :: b1 :: b2 :: b3 :: rest => word b0 b1 b2 b3 :: words rest
  | _ => []

/-- The word that follows at least sixteen scheduled ones. -/
def nextWord
    (schedule : Array UInt32) :
    UInt32 :=
  let back (distance : Nat) := schedule.getD (schedule.size - distance) 0
  let s0 := rotate (back 15) 7 ^^^ rotate (back 15) 18 ^^^ (back 15 >>> 3)
  let s1 := rotate (back 2) 17 ^^^ rotate (back 2) 19 ^^^ (back 2 >>> 10)
  back 16 + s0 + back 7 + s1

/-- The words of a block stretched to one for each round. -/
def schedule
    (block : Octets) :
    List UInt32 :=
  (Nat.fold 48 (fun _ _ known => known.push (nextWord known)) (words block).toArray).toList

/-- One round with its scheduled word and its constant. -/
def round
    (state : State)
    (input : UInt32 × UInt32) :
    State :=
  let s1 := rotate state.e 6 ^^^ rotate state.e 11 ^^^ rotate state.e 25
  let choice := (state.e &&& state.f) ^^^ (~~~ state.e &&& state.g)
  let first := state.h + s1 + choice + input.2 + input.1
  let s0 := rotate state.a 2 ^^^ rotate state.a 13 ^^^ rotate state.a 22
  let majority := (state.a &&& state.b) ^^^ (state.a &&& state.c) ^^^ (state.b &&& state.c)
  { a := first + s0 + majority
    b := state.a
    c := state.b
    d := state.c
    e := state.d + first
    f := state.e
    g := state.f
    h := state.g }

/-- The chaining words after one more block. -/
def absorb
    (state : State)
    (block : Octets) :
    State :=
  let mixed := ((schedule block).zip roundConstants).foldl round state
  { a := state.a + mixed.a
    b := state.b + mixed.b
    c := state.c + mixed.c
    d := state.d + mixed.d
    e := state.e + mixed.e
    f := state.f + mixed.f
    g := state.g + mixed.g
    h := state.h + mixed.h }

/-- The message, a one bit, zeros, and the message's bit length in the last eight octets. -/
def pad
    (data : Octets) :
    Octets :=
  let length := data.length
  let zeros := (119 - length % 64) % 64
  data ++ (0x80 :: List.replicate zeros 0) ++ (Octets.littleEndian 8 (8 * length)).reverse

/-- The digest the chaining words stand for, each word most significant octet first. -/
def State.digest
    (state : State) :
    Digest :=
  let chain := #[state.a, state.b, state.c, state.d, state.e, state.f, state.g, state.h]
  Vector.ofFn fun index =>
    (chain.getD (index.val / 4) 0 >>> (24 - 8 * (index.val % 4)).toUInt32).toUInt8

end Sha256

/-- The SHA-256 digest of a sequence of octets. -/
def sha256
    (data : Octets) :
    Digest :=
  (((Sha256.pad data).blocks 64).foldl Sha256.absorb Sha256.initial).digest

end BuildCapture
