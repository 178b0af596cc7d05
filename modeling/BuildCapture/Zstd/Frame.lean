import BuildCapture.Digest.XxHash64
import BuildCapture.Zstd.Literals
import BuildCapture.Zstd.Sequence

/-!
# Frames

Compressed data is a sequence of frames.  A frame has a header, blocks up to
the one marked as last, and possibly a checksum.  A block holds its octets as
they are, one octet to repeat, or a compressed section.  Skippable frames hold
nothing.

`decompressWhole?` decodes data that has to fit a given capacity;
`decompressStream?` decodes data of any size, but only with moderate windows
and at least one frame.
-/

namespace BuildCapture.Zstd

/-! ## Headers -/

/-- The word at the start of a frame. -/
def frameMagic : Nat := 0xFD2FB528

/-- What the header of a frame promises. -/
structure FrameHeader where
  window : Nat
  contentSize : Option Nat
  hasChecksum : Bool
  /-- A header names a dictionary, and there are none. -/
  needsDictionary : Bool

namespace FrameHeader

/-- The window that a window descriptor stands for. -/
def windowOf
    (descriptor : Nat) :
    Nat :=
  let base := Nat.pow 2 (descriptor / 8 + 10)
  base + base / 8 * (descriptor % 8)

/-- The width of the content size field. -/
def sizeWidth
    (code : Nat)
    (isSingle : Bool) :
    Nat :=
  match code with
  | 0 => if isSingle then 1 else 0
  | 1 => 2
  | 2 => 4
  | _ => 8

/-- The width of the dictionary field. -/
def dictionaryWidth
    (code : Nat) :
    Nat :=
  match code with
  | 3 => 4
  | code => code

/-- The content size that a field of this width writes. -/
def contentSizeOf
    (width value : Nat) :
    Option Nat :=
  match width with
  | 0 => none
  | 2 => some (value + 256)
  | _ => some value

/-- Reads the header after the magic word, and what follows it. -/
def take? : Octets → Option (FrameHeader × Octets)
  | [] => none
  | descriptor :: rest =>
    let code := descriptor.toNat
    let isSingle := code / 32 % 2 = 1
    let windowWidth := if isSingle then 0 else 1
    let dictionaryWidth := dictionaryWidth (code % 4)
    let sizeWidth := sizeWidth (code / 64) isSingle
    let total := windowWidth + dictionaryWidth + sizeWidth
    let fields := rest.take total
    let windowDescriptor := Octets.toNat (fields.take windowWidth)
    let dictionary := Octets.toNat (Octets.slice fields windowWidth dictionaryWidth)
    let size := contentSizeOf sizeWidth (Octets.toNat (fields.drop (windowWidth + dictionaryWidth)))
    if fields.length < total ∨ code / 8 % 2 = 1 ∨ windowDescriptor / 8 > 21 then
      none
    else
      some ({
        window := if isSingle then size.getD 0 else windowOf windowDescriptor
        contentSize := size
        hasChecksum := code / 4 % 2 = 1
        needsDictionary := dictionary ≠ 0 }, rest.drop total)

end FrameHeader

/-! ## Blocks -/

/-- What decoding the blocks of a frame carries from one to the next. -/
structure FrameState where
  output : Array UInt8 := #[]
  huffman : Option HuffmanTable := none
  tables : Option SequenceTables := none
  recent : RecentOffsets := {}

namespace FrameState

/-- Decodes a compressed block. -/
def addCompressed?
    (state : FrameState)
    (data : Octets) :
    Option FrameState := do
  let literals ← Literals.take? state.huffman data
  let (tables, execution) ←
    executeSection? state.tables ⟨state.output, literals.data, state.recent⟩ literals.rest
  return {
    output := execution.output
    huffman := literals.table
    tables := tables
    recent := execution.recent }

/--
Decodes one block of the given kind and size, neither stored nor decoded
longer than `limit`, and returns what follows it.
-/
def addBlock?
    (state : FrameState)
    (limit kind size : Nat)
    (data : Octets) :
    Option (FrameState × Octets) :=
  if size > limit then
    none
  else
    match kind with
    | 0 =>
      let stored := data.take size
      if stored.length < size then none
      else some ({ state with output := appendAll state.output stored }, data.drop size)
    | 1 =>
      match data with
      | [] => none
      | octet :: rest =>
        some ({ state with output := appendAll state.output (List.replicate size octet) }, rest)
    | 2 =>
      let stored := data.take size
      if stored.length < size then
        none
      else
        match state.addCompressed? stored with
        | none => none
        | some next =>
          if next.output.size > state.output.size + limit then none
          else some (next, data.drop size)
    | _ => none

/-- Decodes blocks up to the last, and returns what follows it. -/
def addBlocks?
    (limit : Nat) :
    (fuel : Nat) → FrameState → Octets → Option (FrameState × Octets)
  | 0, _, _ => none
  | fuel + 1, state, b0 :: b1 :: b2 :: rest =>
    let header := Octets.toNat [b0, b1, b2]
    match state.addBlock? limit (header / 2 % 4) (header / 8) rest with
    | none => none
    | some (state, rest) =>
      if header % 2 = 1 then some (state, rest) else addBlocks? limit fuel state rest
  | _ + 1, _, _ => none

end FrameState

/-! ## Frames -/

/-- Checks and drops the checksum of a frame's content. -/
def dropChecksum?
    (content data : Octets) :
    Option Octets :=
  let stored := data.take 4
  if stored.length = 4 ∧ Octets.toNat stored = (xxHash64 content).toNat % Octets.bound 4 then
    some (data.drop 4)
  else
    none

/-- Decodes a frame after its magic word; returns its content and what follows it. -/
def takeFrame?
    (windowLimit : Nat)
    (data : Octets) :
    Option (Octets × Octets) := do
  let (header, rest) ← FrameHeader.take? data
  if header.needsDictionary ∨ header.window > windowLimit then
    none
  else
    let limit := min header.window Literals.maximalBlock
    let (state, rest) ← FrameState.addBlocks? limit (rest.length + 1) {} rest
    let content := state.output.toList
    if header.contentSize.any fun size => size ≠ content.length then
      none
    else
      let rest ← if header.hasChecksum then dropChecksum? content rest else some rest
      return (content, rest)

/-- Drops a skippable frame after its magic word. -/
def dropSkippable?
    (data : Octets) :
    Option Octets :=
  let size := Octets.toNat (data.take 4)
  let rest := data.drop 4
  if data.length < 4 ∨ rest.length < size then none else some (rest.drop size)

/-- Decodes frames up to the end of the data; `known` holds the contents so far, newest first. -/
def takeFrames?
    (windowLimit : Nat) :
    (fuel : Nat) → (known : List Octets) → Octets → Option (List Octets)
  | 0, _, _ => none
  | _ + 1, known, [] => some known.reverse
  | fuel + 1, known, b0 :: b1 :: b2 :: b3 :: rest =>
    let magic := Octets.toNat [b0, b1, b2, b3]
    if magic = frameMagic then
      match takeFrame? windowLimit rest with
      | none => none
      | some (content, rest) => takeFrames? windowLimit fuel (content :: known) rest
    else if magic / 16 = 0x184D2A5 then
      match dropSkippable? rest with
      | none => none
      | some rest => takeFrames? windowLimit fuel known rest
    else
      none
  | _ + 1, _, _ => none

/-- The joined contents of all frames of the data. -/
def decompress?
    (windowLimit : Nat)
    (data : Octets) :
    Option Octets :=
  (takeFrames? windowLimit (data.length + 1) [] data).map List.flatten

/-- The content of the data, if it takes at most `capacity` octets. -/
def decompressWhole?
    (capacity : Nat)
    (data : Octets) :
    Option Octets :=
  match decompress? (Nat.pow 2 42) data with
  | none => none
  | some content => if content.length ≤ capacity then some content else none

/-- The greatest window of a frame that a stream decodes. -/
def streamWindow : Nat := Nat.pow 2 27 + 1

/-- The content of the data, read as a stream of at least one frame. -/
def decompressStream? : Octets → Option Octets
  | [] => none
  | octet :: rest => decompress? streamWindow (octet :: rest)

end BuildCapture.Zstd
