import BuildCapture.Zstd.Fse

/-!
# Sequences

After its literals, a compressed block holds sequences: how many literals to
copy, then how far back and how long to copy from what was already decoded.
Lengths and offsets are coded by three tables of states; a code stands for a
base value and a number of further bits.  The three most recent offsets can be
given by their rank.
-/

namespace BuildCapture.Zstd

/-! ## Codes -/

/-- What the codes of one kind mean: for each, the base value and the number of further bits. -/
structure CodeBook where
  codes : Array (Nat × Nat)
  maximalLog : Nat
  standard : FseTable

/-- The last code of a book. -/
def CodeBook.maximalCode
    (book : CodeBook) :
    Nat :=
  book.codes.size - 1

/-- Frequencies written as integers, with minus one for a rare symbol. -/
def frequencies
    (counts : List Int) :
    List Frequency :=
  counts.map fun
    | .ofNat count => .states count
    | .negSucc _ => .rare

/-- Consecutive codes without further bits. -/
def plainCodes
    (first count : Nat) :
    List (Nat × Nat) :=
  (List.range count).map fun index => (first + index, 0)

/-- Codes for the number of literals to copy. -/
def literalLengths : CodeBook where
  codes := (plainCodes 0 16 ++ [
    (16, 1), (18, 1), (20, 1), (22, 1), (24, 2), (28, 2), (32, 3), (40, 3), (48, 4), (64, 6),
    (128, 7), (256, 8), (512, 9), (1024, 10), (2048, 11), (4096, 12), (8192, 13), (16384, 14),
    (32768, 15), (65536, 16)]).toArray
  maximalLog := 9
  standard := .ofFrequencies 6 (frequencies [
    4, 3, 2, 2, 2, 2, 2, 2, 2, 2, 2, 2, 2, 1, 1, 1, 2, 2, 2, 2, 2, 2, 2, 2, 2, 3, 2, 1, 1, 1, 1, 1,
    -1, -1, -1, -1])

/-- Codes for the number of octets to copy back. -/
def matchLengths : CodeBook where
  codes := (plainCodes 3 32 ++ [
    (35, 1), (37, 1), (39, 1), (41, 1), (43, 2), (47, 2), (51, 3), (59, 3), (67, 4), (83, 4),
    (99, 5), (131, 7), (259, 8), (515, 9), (1027, 10), (2051, 11), (4099, 12), (8195, 13),
    (16387, 14), (32771, 15), (65539, 16)]).toArray
  maximalLog := 9
  standard := .ofFrequencies 6 (frequencies [
    1, 4, 3, 2, 2, 2, 2, 2, 2, 1, 1, 1, 1, 1, 1, 1, 1, 1, 1, 1, 1, 1, 1, 1, 1, 1, 1, 1, 1, 1, 1, 1,
    1, 1, 1, 1, 1, 1, 1, 1, 1, 1, 1, 1, 1, 1, -1, -1, -1, -1, -1, -1, -1])

/-- Codes for the distance to copy from. -/
def offsets : CodeBook where
  codes := ((List.range 32).map fun code => (Nat.pow 2 code, code)).toArray
  maximalLog := 8
  standard := .ofFrequencies 5 (frequencies [
    1, 1, 1, 1, 1, 1, 2, 2, 2, 1, 1, 1, 1, 1, 1, 1, 1, 1, 1, 1, 1, 1, 1, 1, -1, -1, -1, -1, -1])

/-- The value of a code, whose further bits follow in the stream. -/
def CodeBook.value?
    (book : CodeBook)
    (code : Nat)
    (bits : Bits) :
    Option (Nat × Bits) := do
  let (base, width) ← book.codes[code]?
  let (extra, bits) ← Bits.takeHigh? 0 width bits
  return (base + extra, bits)

/-- Reads the table for one kind of codes: the standard one, a single code, a new or the last one. -/
def CodeBook.takeTable?
    (book : CodeBook)
    (mode : Nat)
    (previous : Option FseTable)
    (data : Octets) :
    Option (FseTable × Octets) :=
  match mode with
  | 0 => some (book.standard, data)
  | 1 =>
    match data with
    | [] => none
    | code :: rest =>
      if code.toNat ≤ book.maximalCode then some (.single code.toNat, rest) else none
  | 2 => FseTable.take? book.maximalLog book.maximalCode data
  | _ => previous.map fun table => (table, data)

/-! ## Tables and offsets that outlive a block -/

/-- The tables that a block may use again. -/
structure SequenceTables where
  literalLength : FseTable
  offset : FseTable
  matchLength : FseTable

/-- The three most recent offsets, latest first. -/
structure RecentOffsets where
  first : Nat := 1
  second : Nat := 4
  third : Nat := 8

/--
The distance that an offset value stands for, and the recent offsets after it.
Values up to three name recent offsets; without literals before the copy they
shift by one, and the last means one less than the most recent offset.
-/
def RecentOffsets.resolve?
    (recent : RecentOffsets)
    (value : Nat)
    (withoutLiterals : Bool) :
    Option (Nat × RecentOffsets) :=
  if value > 3 then
    some (value - 3, ⟨value - 3, recent.first, recent.second⟩)
  else
    match value + (if withoutLiterals then 1 else 0) with
    | 1 => some (recent.first, recent)
    | 2 => some (recent.second, ⟨recent.second, recent.first, recent.third⟩)
    | 3 => some (recent.third, ⟨recent.third, recent.first, recent.second⟩)
    | 4 =>
      if recent.first ≤ 1 then none
      else some (recent.first - 1, ⟨recent.first - 1, recent.first, recent.second⟩)
    | _ => none

/-! ## Execution -/

/-- Appends octets. -/
def appendAll
    (output : Array UInt8)
    (data : Octets) :
    Array UInt8 :=
  data.foldl Array.push output

/-- Copies octets from a distance back; the copy may overlap what it writes. -/
def copyBack
    (distance : Nat) : (count : Nat) → Array UInt8 → Array UInt8
  | 0, output => output
  | count + 1, output =>
    copyBack distance count (output.push (output.getD (output.size - distance) 0))

/-- What executing sequences works on. -/
structure Execution where
  output : Array UInt8
  literals : Octets
  recent : RecentOffsets

/-- Executes one sequence. -/
def Execution.apply?
    (execution : Execution)
    (literalLength offsetValue matchLength : Nat) :
    Option Execution := do
  let (distance, recent) ← execution.recent.resolve? offsetValue (literalLength == 0)
  let literals := execution.literals.take literalLength
  if literals.length < literalLength then
    none
  else
    let output := appendAll execution.output literals
    if distance = 0 ∨ distance > output.size then
      none
    else
      return {
        output := copyBack distance matchLength output
        literals := execution.literals.drop literalLength
        recent := recent }

/-- The current state of each of the three tables. -/
structure SequenceStates where
  literalLength : FseState
  offset : FseState
  matchLength : FseState

/-- Reads and executes sequences, which have to use up the stream. -/
def runSequences?
    (tables : SequenceTables) :
    (count : Nat) →
    SequenceStates →
    Execution →
    Bits →
    Option Execution
  | 0, _, execution, bits => if bits.isEmpty then some execution else none
  | count + 1, states, execution, bits => do
    let (offset, bits) ← offsets.value? states.offset.symbol bits
    let (matchLength, bits) ← matchLengths.value? states.matchLength.symbol bits
    let (literalLength, bits) ← literalLengths.value? states.literalLength.symbol bits
    let execution ← execution.apply? literalLength offset matchLength
    if count = 0 then
      runSequences? tables 0 states execution bits
    else
      let (literalState, bits) ← tables.literalLength.next? states.literalLength bits
      let (matchState, bits) ← tables.matchLength.next? states.matchLength bits
      let (offsetState, bits) ← tables.offset.next? states.offset bits
      runSequences? tables count ⟨literalState, offsetState, matchState⟩ execution bits

/-! ## The section -/

/-- The number of sequences of a block, and what follows it. -/
def takeCount? : Octets → Option (Nat × Octets)
  | [] => none
  | first :: rest =>
    if first.toNat < 128 then
      some (first.toNat, rest)
    else
      match rest with
      | [] => none
      | second :: rest =>
        if first.toNat < 255 then
          some ((first.toNat - 128) * 256 + second.toNat, rest)
        else
          match rest with
          | [] => none
          | third :: rest => some (second.toNat + third.toNat * 256 + 0x7F00, rest)

/-- Reads the tables of a block's sequences. -/
def SequenceTables.take?
    (previous : Option SequenceTables) : Octets → Option (SequenceTables × Octets)
  | [] => none
  | modes :: rest => do
    let mode (position : Nat) := modes.toNat / position % 4
    if mode 1 ≠ 0 then
      none
    else
      let (literalLength, rest) ←
        literalLengths.takeTable? (mode 64) (previous.map SequenceTables.literalLength) rest
      let (offset, rest) ← offsets.takeTable? (mode 16) (previous.map SequenceTables.offset) rest
      let (matchLength, rest) ←
        matchLengths.takeTable? (mode 4) (previous.map SequenceTables.matchLength) rest
      return (⟨literalLength, offset, matchLength⟩, rest)

/-- Reads and executes the sequences of a block, and appends the literals that they leave. -/
def executeSection?
    (previous : Option SequenceTables)
    (execution : Execution)
    (data : Octets) :
    Option (Option SequenceTables × Execution) := do
  let (count, rest) ← takeCount? data
  if count = 0 then
    if rest.isEmpty then
      return (previous, { execution with
        output := appendAll execution.output execution.literals })
    else
      none
  else
    let (tables, rest) ← SequenceTables.take? previous rest
    let bits ← Bits.backward? rest
    let (literalState, bits) ← tables.literalLength.start? bits
    let (offsetState, bits) ← tables.offset.start? bits
    let (matchState, bits) ← tables.matchLength.start? bits
    let finished ←
      runSequences? tables count ⟨literalState, offsetState, matchState⟩ execution bits
    return (some tables, { finished with
      output := appendAll finished.output finished.literals })

end BuildCapture.Zstd
