import BuildCapture.Octets

/-!
# XXH64

The 64-bit digest whose low half closes a compressed frame.  Stripes of 32
octets are mixed into four lanes; what is left is taken in words of eight,
then four, then single octets.
-/

namespace BuildCapture

namespace XxHash64

def prime1 : UInt64 := 11400714785074694791
def prime2 : UInt64 := 14029467366897019727
def prime3 : UInt64 := 1609587929392839161
def prime4 : UInt64 := 9650029242287828579
def prime5 : UInt64 := 2870177450012600261

/-- Rotation of a word toward its high end. -/
def rotate
    (word amount : UInt64) :
    UInt64 :=
  (word <<< amount) ||| (word >>> (64 - amount))

/-- Mixes a word of input into a lane. -/
def mix
    (lane input : UInt64) :
    UInt64 :=
  rotate (lane + input * prime2) 31 * prime1

/-- The word that octets write, least significant first. -/
def word
    (data : Octets) :
    UInt64 :=
  UInt64.ofNat (Octets.toNat data)

/-- The four lanes. -/
structure Lanes where
  first : UInt64
  second : UInt64
  third : UInt64
  fourth : UInt64

/-- The lanes before the first stripe. -/
def Lanes.initial : Lanes where
  first := prime1 + prime2
  second := prime2
  third := 0
  fourth := 0 - prime1

/-- The lanes after one more stripe. -/
def Lanes.absorb
    (lanes : Lanes)
    (stripe : Octets) :
    Lanes where
  first := mix lanes.first (word (stripe.slice 0 8))
  second := mix lanes.second (word (stripe.slice 8 8))
  third := mix lanes.third (word (stripe.slice 16 8))
  fourth := mix lanes.fourth (word (stripe.slice 24 8))

/-- Folds a lane into the digest. -/
def fold
    (digest lane : UInt64) :
    UInt64 :=
  (digest ^^^ mix 0 lane) * prime1 + prime4

/-- The digest of the lanes. -/
def Lanes.digest
    (lanes : Lanes) :
    UInt64 :=
  let sum := rotate lanes.first 1 + rotate lanes.second 7 + rotate lanes.third 12 +
    rotate lanes.fourth 18
  fold (fold (fold (fold sum lanes.first) lanes.second) lanes.third) lanes.fourth

/-- Takes in what the stripes left, less than 32 octets. -/
def absorbTail
    (digest : UInt64) : Octets → UInt64
  | a :: b :: c :: d :: e :: f :: g :: h :: rest =>
    let mixed := digest ^^^ mix 0 (word [a, b, c, d, e, f, g, h])
    absorbTail (rotate mixed 27 * prime1 + prime4) rest
  | a :: b :: c :: d :: rest =>
    let mixed := digest ^^^ (word [a, b, c, d] * prime1)
    absorbTail (rotate mixed 23 * prime2 + prime3) rest
  | octet :: rest =>
    let mixed := digest ^^^ (octet.toUInt64 * prime5)
    absorbTail (rotate mixed 11 * prime1) rest
  | [] => digest

/-- Spreads every bit over the whole digest. -/
def avalanche
    (digest : UInt64) :
    UInt64 :=
  let digest := (digest ^^^ (digest >>> 33)) * prime2
  let digest := (digest ^^^ (digest >>> 29)) * prime3
  digest ^^^ (digest >>> 32)

end XxHash64

/-- The XXH64 digest of a sequence of octets, with seed zero. -/
def xxHash64
    (data : Octets) :
    UInt64 :=
  let length := data.length
  let striped := length - length % 32
  let start :=
    if length < 32 then
      XxHash64.prime5
    else
      ((Octets.blocks 32 (data.take striped)).foldl XxHash64.Lanes.absorb .initial).digest
  XxHash64.avalanche (XxHash64.absorbTail (start + UInt64.ofNat length) (data.drop striped))

end BuildCapture
