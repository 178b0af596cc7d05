import BuildCapture.Zstd.Huffman

/-!
# Literals

A compressed block starts with its literals: octets stored as they are, one
octet repeated, or a Huffman code in one or four streams, with a table of its
own or the previous one.
-/

namespace BuildCapture.Zstd

/-- The literals of a block, the table that later blocks may use again, and what follows. -/
structure Literals where
  data : Octets
  table : Option HuffmanTable
  rest : Octets

namespace Literals

/-- The greatest length that a block may have, stored or decoded: 128 KiB. -/
def maximalBlock : Nat := 128 * 1024

/-- How the length of plain literals is written: the octets it takes, and its value. -/
def plainLength?
    (data : Octets) :
    Option (Nat × Nat) :=
  let value (width : Nat) := Octets.toNat (data.take width)
  match value 1 / 4 % 4 with
  | 1 => if data.length < 2 then none else some (2, value 2 / 16)
  | 3 => if data.length < 3 then none else some (3, value 3 / 16)
  | _ => some (1, value 1 / 8)

/-- The header of coded literals. -/
structure CodedHeader where
  width : Nat
  streams : Nat
  length : Nat
  stored : Nat

/-- How the lengths of coded literals are written. -/
def codedHeader?
    (data : Octets) :
    Option CodedHeader :=
  let value := Octets.toNat (data.take 5)
  let sized (width streams bits : Nat) : CodedHeader :=
    ⟨width, streams, value / 16 % Nat.pow 2 bits, value / Nat.pow 2 (4 + bits) % Nat.pow 2 bits⟩
  if data.length < 5 then
    none
  else
    match value / 4 % 4 with
    | 0 => some (sized 3 1 10)
    | 1 => some (sized 3 4 10)
    | 2 => some (sized 4 4 14)
    | _ => some (sized 5 4 18)

/-- Literals that are stored as they are, or as one octet to repeat. -/
def takePlain?
    (previous : Option HuffmanTable)
    (repeated : Bool)
    (data : Octets) :
    Option Literals := do
  let (width, length) ← plainLength? data
  let rest := data.drop width
  if length > maximalBlock then
    none
  else if repeated then
    match rest with
    | [] => none
    | octet :: rest => some ⟨List.replicate length octet, previous, rest⟩
  else
    let literals := rest.take length
    if literals.length < length then none
    else some ⟨literals, previous, rest.drop length⟩

/-- Literals that are Huffman coded. -/
def takeCoded?
    (previous : Option HuffmanTable)
    (reuses : Bool)
    (data : Octets) :
    Option Literals := do
  let header ← codedHeader? data
  let rest := data.drop header.width
  let stored := rest.take header.stored
  if header.length > maximalBlock ∨ stored.length < header.stored then
    none
  else
    let (table, streams) ←
      if reuses then previous.map fun table => (table, stored) else HuffmanTable.take? stored
    let literals ←
      if header.streams = 1 then table.decode? header.length streams
      else table.decodeFour? header.length streams
    return ⟨literals, some table, rest.drop header.stored⟩

/-- Reads the literals at the start of a block. -/
def take?
    (previous : Option HuffmanTable) : Octets → Option Literals
  | [] => none
  | first :: rest =>
    let data := first :: rest
    match first.toNat % 4 with
    | 0 => takePlain? previous false data
    | 1 => takePlain? previous true data
    | 2 => takeCoded? previous false data
    | _ => takeCoded? previous true data

end Literals

end BuildCapture.Zstd
