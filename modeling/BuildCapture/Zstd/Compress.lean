import BuildCapture.Zstd.Frame

/-!
# Compression

Data is compressed into one frame whose blocks either repeat one octet or hold
octets as they are.  Runs long enough to pay for a block header become
repeating blocks; all other octets are gathered.
-/

namespace BuildCapture.Zstd

/-! ## Runs -/

/-- A stretch of the data: one octet repeated, or octets without long runs. -/
inductive Piece where
  | run (octet : UInt8) (count : Nat)
  | plain (data : Octets)
deriving DecidableEq, Repr

/-- The octets a piece stands for. -/
def Piece.content : Piece → Octets
  | .run octet count => List.replicate count octet
  | .plain data => data

/-- Puts an octet in front of runs. -/
def addToRuns
    (octet : UInt8) : List (UInt8 × Nat) → List (UInt8 × Nat)
  | [] => [(octet, 1)]
  | (first, count) :: rest =>
    if octet = first then
      (first, count + 1) :: rest
    else
      (octet, 1) :: (first, count) :: rest

/-- The runs of the data. -/
def runs
    (data : Octets) :
    List (UInt8 × Nat) :=
  data.foldr addToRuns []

/-- The shortest run that becomes a block of its own. -/
def shortestRun : Nat := 16

/-- Puts a run in front of pieces. -/
def addRun
    (run : UInt8 × Nat)
    (pieces : List Piece) :
    List Piece :=
  if run.2 ≥ shortestRun then
    .run run.1 run.2 :: pieces
  else
    match pieces with
    | .plain data :: rest => .plain (List.replicate run.2 run.1 ++ data) :: rest
    | _ => .plain (List.replicate run.2 run.1) :: pieces

/-- The pieces of the data. -/
def pieces
    (data : Octets) :
    List Piece :=
  (runs data).foldr addRun []

/-! ## Blocks -/

/-- A number as parts no greater than the greatest block. -/
def cutCount
    (count : Nat) :
    List Nat :=
  List.replicate (count / Literals.maximalBlock) Literals.maximalBlock ++
    (if count % Literals.maximalBlock = 0 then [] else [count % Literals.maximalBlock])

/-- A piece as pieces that fit a block each. -/
def Piece.cut : Piece → List Piece
  | .run octet count => (cutCount count).map (.run octet)
  | .plain data => (Octets.blocks Literals.maximalBlock data).map .plain

/-- The header of a block. -/
def blockHeader
    (isLast : Bool)
    (kind size : Nat) :
    Octets :=
  Octets.littleEndian 3 ((if isLast then 1 else 0) + 2 * kind + 8 * size)

/-- The block that holds a piece. -/
def Piece.block
    (isLast : Bool) : Piece → Octets
  | .run octet count => blockHeader isLast 1 count ++ [octet]
  | .plain data => blockHeader isLast 0 data.length ++ data

/-- The blocks that hold pieces, the last of them marked; an empty block where there are none. -/
def pieceBlocks : List Piece → Octets
  | [] => blockHeader true 0 0
  | [last] => last.block true
  | piece :: rest => piece.block false ++ pieceBlocks rest

/-! ## Frames -/

/-- The header of a frame of unknown size with a window of two MiB. -/
def plainHeader : Octets :=
  Octets.littleEndian 4 frameMagic ++ [0x00, 0x58]

/-- The data as one frame. -/
def compress
    (data : Octets) :
    Octets :=
  plainHeader ++ pieceBlocks ((pieces data).flatMap Piece.cut)

end BuildCapture.Zstd
