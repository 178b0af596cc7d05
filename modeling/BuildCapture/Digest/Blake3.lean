import BuildCapture.Digest.Sha256

/-!
# BLAKE3

The 256-bit digest of an invocation's canonical view.  A message is cut into
chunks of 1024 octets, each chunk into blocks of 64; the chunks' chaining
values are the leaves of a binary tree whose left subtree always holds the
largest power of two of chunks that leaves something for the right.
-/

namespace BuildCapture

namespace Blake3

/-- Eight words passed from one compression to the next. -/
abbrev Chain := Array UInt32

/-- The chaining value every chunk starts from. -/
def initial : Chain := #[
  0x6a09e667, 0xbb67ae85, 0x3c6ef372, 0xa54ff53a, 0x510e527f, 0x9b05688c, 0x1f83d9ab, 0x5be0cd19]

/-- The order in which a round hands its message words to the next one. -/
def permutation : List Nat :=
  [2, 6, 3, 10, 7, 0, 4, 13, 1, 11, 12, 5, 9, 14, 15, 8]

/-- Marks the first block of a chunk. -/
def chunkStart : UInt32 := 1

/-- Marks the last block of a chunk. -/
def chunkEnd : UInt32 := 2

/-- Marks a node above two subtrees. -/
def parent : UInt32 := 4

/-- Marks the node whose output is the digest. -/
def root : UInt32 := 8

/-- The word four octets write, least significant first; missing octets are zero. -/
def word
    (data : Octets) :
    UInt32 :=
  UInt32.ofNat (Octets.toNat data)

/-- The sixteen words of a block, filled up with zeros. -/
def words
    (block : Octets) :
    Array UInt32 :=
  let known := (block.blocks 4).map word
  (known ++ List.replicate (16 - known.length) 0).toArray

/-- Mixes two message words into one column or diagonal of the state. -/
def mix
    (state : Array UInt32)
    (a b c d : Nat)
    (first second : UInt32) :
    Array UInt32 :=
  let va := state.getD a 0
  let vb := state.getD b 0
  let vc := state.getD c 0
  let vd := state.getD d 0
  let va := va + vb + first
  let vd := Sha256.rotate (vd ^^^ va) 16
  let vc := vc + vd
  let vb := Sha256.rotate (vb ^^^ vc) 12
  let va := va + vb + second
  let vd := Sha256.rotate (vd ^^^ va) 8
  let vc := vc + vd
  let vb := Sha256.rotate (vb ^^^ vc) 7
  (((state.setIfInBounds a va).setIfInBounds b vb).setIfInBounds c vc).setIfInBounds d vd

/-- One round: the four columns, then the four diagonals. -/
def round
    (state message : Array UInt32) :
    Array UInt32 :=
  let input (index : Nat) := message.getD index 0
  let state := mix state 0 4 8 12 (input 0) (input 1)
  let state := mix state 1 5 9 13 (input 2) (input 3)
  let state := mix state 2 6 10 14 (input 4) (input 5)
  let state := mix state 3 7 11 15 (input 6) (input 7)
  let state := mix state 0 5 10 15 (input 8) (input 9)
  let state := mix state 1 6 11 12 (input 10) (input 11)
  let state := mix state 2 7 8 13 (input 12) (input 13)
  mix state 3 4 9 14 (input 14) (input 15)

/-- `count` rounds, permuting the message words after each. -/
def rounds : (count : Nat) → (state message : Array UInt32) → Array UInt32
  | 0, state, _ => state
  | count + 1, state, message =>
    rounds count (round state message)
      (permutation.map fun index => message.getD index 0).toArray

/-- One compression: the chaining value that follows `chain` and a block. -/
def compress
    (chain : Chain)
    (message : Array UInt32)
    (counter : Nat)
    (length flags : UInt32) :
    Chain :=
  let state := chain ++ initial.take 4 ++
    #[UInt32.ofNat counter, UInt32.ofNat (counter / Octets.bound 4), length, flags]
  let mixed := rounds 7 state message
  ((List.range 8).map fun index => mixed.getD index 0 ^^^ mixed.getD (index + 8) 0).toArray

/-- Compresses the blocks of one chunk; `finish` is added to the flags of the last. -/
def chunkFrom
    (counter : Nat)
    (finish : UInt32)
    (chain : Chain)
    (start : UInt32) :
    List Octets → Chain
  | [] => compress chain (words []) counter 0 (start ||| chunkEnd ||| finish)
  | [block] =>
    compress chain (words block) counter block.length.toUInt32 (start ||| chunkEnd ||| finish)
  | block :: rest =>
    chunkFrom counter finish (compress chain (words block) counter 64 start) 0 rest

/-- The chaining value of a chunk. -/
def chunk
    (counter : Nat)
    (finish : UInt32)
    (data : Octets) :
    Chain :=
  chunkFrom counter finish initial chunkStart (data.blocks 64)

/-- The largest power of two below `count`, for a count of at least two. -/
def leftSize
    (count : Nat) :
    Nat :=
  Nat.pow 2 (Nat.log2 (count - 1))

/-- The chaining value of a tree of chunks; `fuel` bounds its height. -/
def tree
    (finish : UInt32) :
    (fuel : Nat) → (counter : Nat) → (chunks : List Octets) → Chain
  | 0, _, _ => initial
  | _ + 1, counter, [] => chunk counter finish []
  | _ + 1, counter, [only] => chunk counter finish only
  | fuel + 1, counter, chunks =>
    let size := leftSize chunks.length
    let left := tree 0 fuel counter (chunks.take size)
    let right := tree 0 fuel (counter + size) (chunks.drop size)
    compress initial (left ++ right) 0 64 (parent ||| finish)

end Blake3

/-- The BLAKE3 digest of a sequence of octets. -/
def blake3
    (data : Octets) :
    Digest :=
  let chunks := data.blocks 1024
  let chain := Blake3.tree Blake3.root (chunks.length + 1) 0 chunks
  Vector.ofFn fun index =>
    (chain.getD (index.val / 4) 0 >>> (8 * (index.val % 4)).toUInt32).toUInt8

end BuildCapture
