import BuildCapture.Zstd.Bits

/-!
# Finite state entropy tables

A table of `2 ^ log` states decodes one symbol from each state and names the
states that may follow.  It is built from the symbols' frequencies, which add
up to the number of states; a symbol rarer than one state gets a single state
at the end of the table.
-/

namespace BuildCapture.Zstd

/-- How often a symbol occurs. -/
inductive Frequency where
  /-- Less than once, which still takes one state. -/
  | rare
  /-- This many states. -/
  | states (count : Nat)
deriving DecidableEq, Repr

/-- The number of states a symbol takes. -/
def Frequency.weight : Frequency → Nat
  | .rare => 1
  | .states count => count

/-- One state: the symbol it decodes, and how the next state follows from bits of the stream. -/
structure FseState where
  symbol : Nat
  bits : Nat
  base : Nat
deriving Inhabited, Repr

/-- A decoding table. -/
structure FseTable where
  log : Nat
  states : Array FseState
deriving Inhabited, Repr

namespace FseTable

/-! ## Frequencies -/

/-- Skips runs of absent symbols: two bits each, a value of three announces another run. -/
def takeZeros? :
    (fuel : Nat) → (zeros : Nat) → Bits → Option (Nat × Bits)
  | 0, _, _ => none
  | fuel + 1, zeros, bits => do
    let (run, bits) ← Bits.takeLow? 2 bits
    if run = 3 then
      takeZeros? fuel (zeros + 3) bits
    else
      return (zeros + run, bits)

/--
Reads one frequency plus one, given one more than the states that are left.
Small values take one bit less than the others.
-/
def takeValue?
    (remaining : Nat)
    (bits : Bits) :
    Option (Nat × Bits) := do
  let width := Nat.log2 remaining
  let threshold := Nat.pow 2 width
  let short := 2 * threshold - 1 - remaining
  let (low, rest) ← Bits.takeLow? width bits
  if low < short then
    return (low, rest)
  else
    let (high, rest) ← Bits.takeLow? 1 rest
    return (if high = 1 then low + threshold - short else low, rest)

/--
Reads frequencies until all states are taken; `remaining` is one more than the
states left, and `known` the frequencies read so far, newest first.
-/
def takeFrequencies? :
    (fuel : Nat) →
    (remaining : Nat) →
    (known : List Frequency) →
    Bits →
    Option (List Frequency × Bits)
  | 0, _, _, _ => none
  | fuel + 1, remaining, known, bits =>
    if remaining ≤ 1 then
      some (known.reverse, bits)
    else do
      let (value, bits) ← takeValue? remaining bits
      match value with
      | 0 => takeFrequencies? fuel (remaining - 1) (.rare :: known) bits
      | 1 =>
        let (zeros, bits) ← takeZeros? 256 0 bits
        takeFrequencies? fuel remaining
          (List.replicate zeros (.states 0) ++ (.states 0 :: known)) bits
      | count + 1 => takeFrequencies? fuel (remaining - count) (.states count :: known) bits

/-! ## States -/

/-- The positions of a table in the order in which symbols are spread over it. -/
def spread
    (size : Nat) :
    List Nat :=
  (List.range size).map fun index => index * (size / 2 + size / 8 + 3) % size

/-- The symbols that take a single state at the end of the table, last position first. -/
def rareSymbols
    (frequencies : List Frequency) :
    List Nat :=
  (frequencies.zipIdx.filter fun entry => entry.1 == .rare).map Prod.snd

/-- The other symbols, each as often as it takes states. -/
def commonSymbols
    (frequencies : List Frequency) :
    List Nat :=
  frequencies.zipIdx.flatMap fun entry =>
    match entry.1 with
    | .rare => []
    | .states count => List.replicate count entry.2

/-- The symbol of each state. -/
def symbols
    (size : Nat)
    (frequencies : List Frequency) :
    Array Nat :=
  let rare := rareSymbols frequencies
  let free := (spread size).filter fun position => position < size - rare.length
  let positions := (List.range rare.length).map fun index => size - 1 - index
  let placed := positions.zip rare ++ free.zip (commonSymbols frequencies)
  placed.foldl (fun table entry => table.setIfInBounds entry.1 entry.2)
    (Array.replicate size 0)

/-- Completes the next state, which decodes `symbol`; `nexts` counts each symbol's states. -/
def addState
    (log : Nat)
    (progress : Array FseState × Array Nat)
    (symbol : Nat) :
    Array FseState × Array Nat :=
  let next := progress.2.getD symbol 1
  let bits := log - Nat.log2 next
  (progress.1.push ⟨symbol, bits, next * Nat.pow 2 bits - Nat.pow 2 log⟩,
    progress.2.setIfInBounds symbol (next + 1))

/-- The table of the given frequencies. -/
def ofFrequencies
    (log : Nat)
    (frequencies : List Frequency) :
    FseTable where
  log := log
  states := ((symbols (Nat.pow 2 log) frequencies).toList.foldl (addState log)
    (#[], (frequencies.map Frequency.weight).toArray)).1

/-- The table with a single state, which never reads a bit. -/
def single
    (symbol : Nat) :
    FseTable where
  log := 0
  states := #[⟨symbol, 0, 0⟩]

/--
Reads the description of a table with at most `maximalLog` bits of state and
symbols up to `maximalSymbol`, and returns what follows its last octet.
-/
def take?
    (maximalLog maximalSymbol : Nat)
    (data : Octets) :
    Option (FseTable × Octets) := do
  let bits := Bits.forward (data.take 512)
  let (extra, rest) ← Bits.takeLow? 4 bits
  let log := extra + 5
  if log > maximalLog then
    none
  else
    let (frequencies, rest) ← takeFrequencies? 513 (Nat.pow 2 log + 1) [] rest
    if frequencies.length > maximalSymbol + 1 then
      none
    else
      let used := (bits.length - rest.length + 7) / 8
      return (ofFrequencies log frequencies, data.drop used)

/-! ## Decoding -/

/-- Reads the first state of a stream. -/
def start?
    (table : FseTable)
    (bits : Bits) :
    Option (FseState × Bits) := do
  let (index, bits) ← Bits.takeHigh? 0 table.log bits
  return (← table.states[index]?, bits)

/-- Reads the state that follows another. -/
def next?
    (table : FseTable)
    (state : FseState)
    (bits : Bits) :
    Option (FseState × Bits) := do
  let (offset, bits) ← Bits.takeHigh? 0 state.bits bits
  return (← table.states[state.base + offset]?, bits)

/--
Decodes symbols from two alternating states until one of them finds too few
bits for its successor; the other's symbol is then the last.
-/
def decodePair? :
    (fuel : Nat) →
    (table : FseTable) →
    (known : List Nat) →
    (active waiting : FseState) →
    Bits →
    Option (List Nat)
  | 0, _, _, _, _, _ => none
  | fuel + 1, table, known, active, waiting, bits =>
    match table.next? active bits with
    | none => some (waiting.symbol :: active.symbol :: known).reverse
    | some (next, bits) => decodePair? fuel table (active.symbol :: known) waiting next bits

end FseTable

end BuildCapture.Zstd
