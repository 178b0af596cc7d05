import BuildCapture.Zstd.Compress

/-!
# Encoders

Containers may compress what they store with any encoder that decompression
undoes, at any level, and an encoder may fail.  The run-length encoder of this
library is one.  Its frames are read back block by block: a block carries one
piece of the data, and the pieces, cut to the size of blocks, make up the data.
-/

namespace BuildCapture.Zstd

/-- What decompression makes of the frame for some data. -/
structure Encodes (packed data : Octets) : Prop where
  fits : data.length < Octets.bound 8
  whole : decompressWhole? data.length packed = some data
  stream : decompressStream? packed = some data

/-- A way of compressing that decompression undoes. -/
class Encoder where
  /-- The frame for data that is at hand. -/
  whole? : (level : Int) → Octets → Option Octets
  /-- The frame for data that arrives piece by piece. -/
  stream? : (level : Int) → Octets → Option Octets
  whole?_encodes :
    ∀ {level : Int} {data packed : Octets},
      whole? level data = some packed → Encodes packed data
  stream?_encodes :
    ∀ {level : Int} {data packed : Octets},
      stream? level data = some packed → Encodes packed data

/-! ## Pieces of the data -/

theorem appendAll_toList
    (output : Array UInt8)
    (data : Octets) :
    (appendAll output data).toList = output.toList ++ data := by
  induction data generalizing output with
  | nil => simp [appendAll]
  | cons octet rest ih =>
    have pushed := ih (output.push octet)
    rw [Array.toList_push, List.append_assoc] at pushed
    exact pushed

/-- The octets that runs stand for. -/
def runContent
    (runs : List (UInt8 × Nat)) :
    Octets :=
  runs.flatMap fun run => List.replicate run.2 run.1

theorem runContent_addToRuns
    (octet : UInt8)
    (runs : List (UInt8 × Nat)) :
    runContent (addToRuns octet runs) = octet :: runContent runs := by
  fun_cases addToRuns octet runs with
  | case1 => simp [runContent]
  | case2 count rest => simp [runContent, List.replicate_succ]
  | case3 first count rest different => simp [runContent]

/-- The runs of the data make up the data. -/
theorem runContent_runs
    (data : Octets) :
    runContent (runs data) = data := by
  induction data with
  | nil => rfl
  | cons octet rest ih =>
    rw [runs, List.foldr_cons, runContent_addToRuns]
    exact congrArg (octet :: ·) ih

theorem content_addRun
    (run : UInt8 × Nat)
    (pieces : List Piece) :
    (addRun run pieces).flatMap Piece.content =
      List.replicate run.2 run.1 ++ pieces.flatMap Piece.content := by
  unfold addRun
  split
  · simp [Piece.content]
  · split <;> simp [Piece.content]

theorem content_foldr_addRun
    (runs : List (UInt8 × Nat)) :
    (runs.foldr addRun []).flatMap Piece.content = runContent runs := by
  induction runs with
  | nil => rfl
  | cons run rest ih =>
    rw [List.foldr_cons, content_addRun, ih]
    simp [runContent]

/-- The pieces of the data make up the data. -/
theorem content_pieces
    (data : Octets) :
    (pieces data).flatMap Piece.content = data := by
  rw [pieces, content_foldr_addRun, runContent_runs]

/-! ## Cutting pieces -/

/-- How much of the data a piece stands for. -/
def Piece.size : Piece → Nat
  | .run _ count => count
  | .plain data => data.length

theorem le_maximalBlock_of_mem_cutCount
    {count part : Nat}
    (member : part ∈ cutCount count) :
    part ≤ Literals.maximalBlock := by
  have positive : 0 < Literals.maximalBlock := by decide
  have remainder := Nat.mod_lt count positive
  rw [cutCount] at member
  rcases List.mem_append.1 member with whole | rest
  · exact Nat.le_of_eq (List.eq_of_mem_replicate whole)
  · split at rest
    · exact absurd rest List.not_mem_nil
    · have last := List.mem_singleton.1 rest
      omega

/-- The parts that a run is cut into are as long together as the run. -/
theorem flatMap_cutCount
    (octet : UInt8)
    (count : Nat) :
    (cutCount count).flatMap (fun part => List.replicate part octet) =
      List.replicate count octet := by
  have division := Nat.div_add_mod' count Literals.maximalBlock
  rw [cutCount, List.flatMap_append, List.flatMap_replicate, List.flatten_replicate_replicate]
  split
  · next none =>
    rw [none, Nat.add_zero] at division
    rw [List.flatMap_nil, List.append_nil, division]
  · rw [List.flatMap_singleton, List.replicate_append_replicate, division]

/-- Cutting a piece does not change what it stands for. -/
theorem content_cut
    (piece : Piece) :
    piece.cut.flatMap Piece.content = piece.content := by
  cases piece with
  | run octet count =>
    simp [Piece.cut, Piece.content, List.flatMap_map, flatMap_cutCount]
  | plain data =>
    have whole := Octets.flatten_blocks Literals.maximalBlock data
    rw [Piece.cut, List.flatMap_map]
    rw [List.flatten_eq_flatMap] at whole
    exact whole

theorem size_le_of_mem_cut
    {piece part : Piece}
    (member : part ∈ piece.cut) :
    part.size ≤ Literals.maximalBlock := by
  cases piece with
  | run octet count =>
    rcases List.mem_map.1 member with ⟨size, inside, rfl⟩
    exact le_maximalBlock_of_mem_cutCount inside
  | plain data =>
    rcases List.mem_map.1 member with ⟨block, inside, rfl⟩
    exact Octets.length_le_of_mem_blocks (by decide) inside

/-- The cut pieces of the data make up the data. -/
theorem content_cut_pieces
    (pieces : List Piece) :
    (pieces.flatMap Piece.cut).flatMap Piece.content = pieces.flatMap Piece.content := by
  induction pieces with
  | nil => rfl
  | cons piece rest ih => simp [List.flatMap_append, content_cut, ih]

/-! ## Blocks -/

theorem blockHeader_eq
    (isLast : Bool)
    (kind size : Nat) :
    ∃ b0 b1 b2, blockHeader isLast kind size = [b0, b1, b2] ∧
      (kind < 4 → size ≤ Literals.maximalBlock →
        Octets.toNat [b0, b1, b2] = (if isLast then 1 else 0) + 2 * kind + 8 * size) := by
  refine ⟨_, _, _, rfl, fun narrow small => ?_⟩
  apply Octets.toNat_littleEndian 3
  have limit : Literals.maximalBlock = 131072 := rfl
  have bound : Octets.bound 3 = 16777216 := rfl
  split <;> omega

namespace FrameState

/-- A block adds the content of its piece to the output. -/
theorem addBlock?_piece
    (state : FrameState)
    (piece : Piece)
    (small : piece.size ≤ Literals.maximalBlock)
    (isLast : Bool)
    (rest : Octets) :
    ∃ b0 b1 b2 body kind,
      piece.block isLast ++ rest = b0 :: b1 :: b2 :: body ∧ kind < 4 ∧
      Octets.toNat [b0, b1, b2] = (if isLast then 1 else 0) + 2 * kind + 8 * piece.size ∧
      state.addBlock? Literals.maximalBlock kind piece.size body =
        some ({ state with output := appendAll state.output piece.content }, rest) := by
  cases piece with
  | run octet count =>
    rcases blockHeader_eq isLast 1 count with ⟨b0, b1, b2, spelled, header⟩
    refine ⟨b0, b1, b2, octet :: rest, 1, ?_, by decide, header (by decide) small, ?_⟩
    · simp [Piece.block, spelled]
    · have within : ¬ count > Literals.maximalBlock := Nat.not_lt.2 small
      simp [addBlock?, Piece.size, Piece.content, within]
  | plain data =>
    rcases blockHeader_eq isLast 0 data.length with ⟨b0, b1, b2, spelled, header⟩
    refine ⟨b0, b1, b2, data ++ rest, 0, ?_, by decide, header (by decide) small, ?_⟩
    · simp [Piece.block, spelled]
    · have within : ¬ data.length > Literals.maximalBlock := Nat.not_lt.2 small
      simp [addBlock?, Piece.size, Piece.content, within]

/-- The blocks of pieces decode to what the pieces stand for. -/
theorem addBlocks?_pieceBlocks
    (pieces : List Piece)
    (small : ∀ piece ∈ pieces, piece.size ≤ Literals.maximalBlock)
    (fuel : Nat)
    (enough : pieces.length < fuel)
    (state : FrameState) :
    ∃ final : FrameState,
      addBlocks? Literals.maximalBlock fuel state (pieceBlocks pieces) = some (final, []) ∧
      final.output.toList = state.output.toList ++ pieces.flatMap Piece.content := by
  induction pieces generalizing fuel state with
  | nil =>
    rcases Nat.exists_eq_succ_of_ne_zero (Nat.ne_of_gt enough) with ⟨fuel, rfl⟩
    refine ⟨{ state with output := appendAll state.output [] }, rfl, ?_⟩
    simp [appendAll]
  | cons piece rest ih =>
    rcases Nat.exists_eq_succ_of_ne_zero (Nat.ne_of_gt (Nat.zero_lt_of_lt enough)) with ⟨fuel, rfl⟩
    have fits := small piece List.mem_cons_self
    have grown (body : Octets) :
        (appendAll state.output body).toList = state.output.toList ++ body :=
      appendAll_toList state.output body
    cases rest with
    | nil =>
      rcases addBlock?_piece state piece fits true [] with
        ⟨b0, b1, b2, body, kind, spelled, narrow, header, added⟩
      have isLast : Octets.toNat [b0, b1, b2] % 2 = 1 := by rw [header]; simp; omega
      have kinds : Octets.toNat [b0, b1, b2] / 2 % 4 = kind := by rw [header]; simp; omega
      have sizes : Octets.toNat [b0, b1, b2] / 8 = piece.size := by rw [header]; simp; omega
      refine ⟨{ state with output := appendAll state.output piece.content }, ?_, ?_⟩
      · rw [List.append_nil] at spelled
        simp only [pieceBlocks, spelled, addBlocks?, kinds, sizes, added, isLast, if_true]
      · simp [grown]
    | cons second others =>
      rcases addBlock?_piece state piece fits false (pieceBlocks (second :: others)) with
        ⟨b0, b1, b2, body, kind, spelled, narrow, header, added⟩
      have notLast : ¬ Octets.toNat [b0, b1, b2] % 2 = 1 := by rw [header]; simp; omega
      have kinds : Octets.toNat [b0, b1, b2] / 2 % 4 = kind := by rw [header]; simp; omega
      have sizes : Octets.toNat [b0, b1, b2] / 8 = piece.size := by rw [header]; simp; omega
      have remaining : (second :: others).length < fuel := by
        simp only [List.length_cons] at enough ⊢
        omega
      rcases
          ih (fun other member => small other (List.mem_cons_of_mem _ member)) fuel remaining
            { state with output := appendAll state.output piece.content } with
        ⟨final, decoded, output⟩
      refine ⟨final, ?_, ?_⟩
      · simp only [pieceBlocks, spelled, addBlocks?, kinds, sizes, added, notLast, if_false]
        exact decoded
      · rw [output]
        simp [grown]

end FrameState

/-! ## Frames -/

/-- A block takes at least the octets of its header. -/
theorem length_block_pos
    (piece : Piece)
    (isLast : Bool) :
    1 ≤ (piece.block isLast).length := by
  cases piece with
  | run octet count =>
    rcases blockHeader_eq isLast 1 count with ⟨b0, b1, b2, spelled, -⟩
    rw [Piece.block, spelled]
    exact Nat.succ_le_succ (Nat.zero_le _)
  | plain data =>
    rcases blockHeader_eq isLast 0 data.length with ⟨b0, b1, b2, spelled, -⟩
    rw [Piece.block, spelled]
    exact Nat.succ_le_succ (Nat.zero_le _)

/-- Every block takes at least one octet. -/
theorem length_le_pieceBlocks
    (pieces : List Piece) :
    pieces.length ≤ (pieceBlocks pieces).length := by
  fun_induction pieceBlocks pieces with
  | case1 => exact Nat.zero_le _
  | case2 last => exact length_block_pos last true
  | case3 piece rest _ ih =>
    have header := length_block_pos piece false
    rw [List.length_cons, List.length_append]
    omega

/-- Every cut piece of the data fits a block. -/
theorem size_le_of_mem_cut_pieces
    (data : Octets) :
    ∀ piece ∈ (pieces data).flatMap Piece.cut, piece.size ≤ Literals.maximalBlock := by
  intro piece member
  rcases List.mem_flatMap.1 member with ⟨whole, -, part⟩
  exact size_le_of_mem_cut part

/-- A frame of this library decodes to the data, whatever windows up to two MiB are allowed. -/
theorem decompress?_compress
    (data : Octets)
    (windowLimit : Nat)
    (wide : Nat.pow 2 21 ≤ windowLimit) :
    decompress? windowLimit (compress data) = some data := by
  have enough := Nat.lt_succ_of_le (length_le_pieceBlocks ((pieces data).flatMap Piece.cut))
  rcases
      FrameState.addBlocks?_pieceBlocks ((pieces data).flatMap Piece.cut)
        (size_le_of_mem_cut_pieces data) _ enough {} with
    ⟨final, decoded, output⟩
  have content : final.output.toList = data := by
    rw [output, content_cut_pieces, content_pieces]
    rfl
  have narrow : ¬ 2 ^ 21 > windowLimit := Nat.not_lt.2 wide
  have header :
      FrameHeader.take? (0x00 :: 0x58 :: pieceBlocks ((pieces data).flatMap Piece.cut)) =
        some (⟨2 ^ 21, none, false, false⟩, pieceBlocks ((pieces data).flatMap Piece.cut)) := by
    simp [FrameHeader.take?, FrameHeader.sizeWidth, FrameHeader.dictionaryWidth,
      FrameHeader.contentSizeOf, FrameHeader.windowOf, Octets.toNat, Octets.slice]
  have frame :
      takeFrame? windowLimit
          (0x00 :: 0x58 :: pieceBlocks ((pieces data).flatMap Piece.cut)) =
        some (data, []) := by
    have limit : min (2 ^ 21) Literals.maximalBlock = Literals.maximalBlock := by decide
    have admitted : ¬ (false = true ∨ 2 ^ 21 > windowLimit) :=
      not_or_intro Bool.false_ne_true narrow
    simp only [takeFrame?, header, Option.bind_eq_bind, Option.bind_some, limit, decoded]
    rw [if_neg admitted, content]
    rfl
  have spelled :
      compress data = 0x28 :: 0xB5 :: 0x2F :: 0xFD :: 0x00 :: 0x58 ::
        pieceBlocks ((pieces data).flatMap Piece.cut) := rfl
  have magic : Octets.toNat [0x28, 0xB5, 0x2F, 0xFD] = frameMagic := rfl
  rw [decompress?, spelled]
  simp [takeFrames?, magic, frame]

/-- What this library compresses is decompressed again. -/
theorem compress_encodes
    (data : Octets)
    (fits : data.length < Octets.bound 8) :
    Encodes (compress data) data where
  fits := fits
  whole := by
    have read := decompress?_compress data (Nat.pow 2 42) (by decide)
    simp [decompressWhole?, read]
  stream := decompress?_compress data streamWindow (by decide)

/-- The frame of this library for data whose length a frame can state. -/
def compress?
    (data : Octets) :
    Option Octets :=
  if data.length < Octets.bound 8 then some (compress data) else none

theorem compress?_encodes
    {data packed : Octets}
    (packing : compress? data = some packed) :
    Encodes packed data := by
  rw [compress?] at packing
  split at packing
  · next fits =>
    rw [← Option.some.inj packing]
    exact compress_encodes data fits
  · cases packing

/-- The encoder of this library, which has one level. -/
instance : Encoder where
  whole? _ := compress?
  stream? _ := compress?
  whole?_encodes := compress?_encodes
  stream?_encodes := compress?_encodes

end BuildCapture.Zstd
