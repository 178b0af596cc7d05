import BuildCapture.Zstd.Fse

/-!
# Huffman tables

A complete binary prefix code over octets.  A symbol of weight `w` takes
`2 ^ (w - 1)` places of a table with `2 ^ log` places, so it is coded with
`log + 1 - w` bits; symbols of lower weight come first, equal weights in the
order of the symbols.  The weight of the last symbol is not written: it fills
the table up.
-/

namespace BuildCapture.Zstd

/-- One place of a table: the symbol and the length of its code. -/
structure HuffmanEntry where
  symbol : UInt8
  bits : Nat
deriving Inhabited, Repr

/-- A decoding table, indexed by the next `log` bits. -/
structure HuffmanTable where
  log : Nat
  entries : Array HuffmanEntry
deriving Inhabited, Repr

namespace HuffmanTable

/-! ## Weights -/

/-- Weights given as half octets, high half first. -/
def directWeights
    (count : Nat)
    (data : Octets) :
    List Nat :=
  (data.flatMap fun octet => [octet.toNat / 16, octet.toNat % 16]).take count

/-- Weights given as a stream of two alternating states. -/
def streamWeights?
    (data : Octets) :
    Option (List Nat) := do
  let (table, rest) ← FseTable.take? 6 255 data
  let bits ← Bits.backward? rest
  let (first, bits) ← table.start? bits
  let (second, bits) ← table.start? bits
  let weights ← FseTable.decodePair? 255 table [] first second bits
  if weights.length ≤ 255 then some weights else none

/-- Reads the weights of all symbols but the last, and what follows them. -/
def takeWeights? : Octets → Option (List Nat × Octets)
  | [] => none
  | header :: rest =>
    if header.toNat ≥ 128 then
      let count := header.toNat - 127
      let length := (count + 1) / 2
      let stored := rest.take length
      if stored.length < length then none
      else some (directWeights count stored, rest.drop length)
    else do
      let stored := rest.take header.toNat
      if stored.length < header.toNat then none
      else return (← streamWeights? stored, rest.drop header.toNat)

/-! ## Construction -/

/-- The places that a weight takes. -/
def places
    (weight : Nat) :
    Nat :=
  Nat.pow 2 weight / 2

/-- All weights with the last one added, and the table's size in bits. -/
def complete?
    (weights : List Nat) :
    Option (List Nat × Nat) :=
  let total := weights.foldl (fun total weight => total + places weight) 0
  if total = 0 ∨ weights.any (fun weight => weight > 12) then
    none
  else
    let log := Nat.log2 total + 1
    let missing := Nat.pow 2 log - total
    let last := Nat.log2 missing + 1
    let all := weights ++ [last]
    let smallest := all.countP fun weight => weight == 1
    if log > 12 ∨ Nat.pow 2 (last - 1) ≠ missing ∨ smallest < 2 ∨ smallest % 2 = 1 then
      none
    else
      some (all, log)

/-- The places of all symbols of one weight. -/
def entriesOf
    (log : Nat)
    (weights : List Nat)
    (weight : Nat) :
    List HuffmanEntry :=
  weights.zipIdx.flatMap fun (other, symbol) =>
    if other = weight then
      List.replicate (places weight) ⟨UInt8.ofNat symbol, log + 1 - weight⟩
    else
      []

/-- The table of the given weights. -/
def ofWeights?
    (weights : List Nat) :
    Option HuffmanTable := do
  let (all, log) ← complete? weights
  return {
    log := log
    entries := ((List.range (log + 1)).flatMap fun index => entriesOf log all (index + 1)).toArray }

/-- Reads a table, and what follows its description. -/
def take?
    (data : Octets) :
    Option (HuffmanTable × Octets) := do
  let (weights, rest) ← takeWeights? data
  return (← ofWeights? weights, rest)

/-! ## Decoding -/

/-- Decodes `count` symbols, which have to use up the stream; `known` is kept newest first. -/
def decodeBits?
    (table : HuffmanTable)
    (known : Octets) :
    (count : Nat) → Bits → Option Octets
  | 0, [] => some known.reverse
  | 0, _ :: _ => none
  | count + 1, bits =>
    match table.entries[Bits.peekHigh 0 table.log bits]? with
    | none => none
    | some entry =>
      match Bits.drop? entry.bits bits with
      | none => none
      | some bits => decodeBits? table (entry.symbol :: known) count bits

/-- Decodes a backward stream of `count` symbols. -/
def decode?
    (table : HuffmanTable)
    (count : Nat)
    (data : Octets) :
    Option Octets :=
  (Bits.backward? data).bind (table.decodeBits? [] count)

/-- Decodes four streams, each but the last for a quarter of the symbols rounded up. -/
def decodeFour?
    (table : HuffmanTable)
    (count : Nat)
    (data : Octets) :
    Option Octets := do
  let length (index : Nat) := Octets.toNat (data.slice (2 * index) 2)
  let quarter := (count + 3) / 4
  let start2 := 6 + length 0
  let start3 := start2 + length 1
  let start4 := start3 + length 2
  if data.length < 10 ∨ count < 6 ∨ start4 > data.length ∨ 3 * quarter > count then
    none
  else
    let first ← table.decode? quarter (data.slice 6 (length 0))
    let second ← table.decode? quarter (data.slice start2 (length 1))
    let third ← table.decode? quarter (data.slice start3 (length 2))
    let fourth ← table.decode? (count - 3 * quarter) (data.drop start4)
    return first ++ second ++ third ++ fourth

end HuffmanTable

end BuildCapture.Zstd
