import SchemaBuild.Archive.Stream

/-!
# Inflating

The decoder for compressed data in blocks: stored ones, and ones in which literals and repetitions are
written in a prefix code, fixed or given by the block. A prefix code is given by the length of each
symbol's code word; words of one length are consecutive numbers in the order of their symbols.

Reading stops at the end of the last block, where the input is cut short, or where it is damaged. If
it is cut short, all that was decoded before can be read. If it is damaged, all of the same batch is
lost: batches end where the window or the input buffer is full.
-/

namespace SchemaBuild.Inflate

/-- Why decoding stops before the last block ends. -/
inductive Stop where
  | truncated
  | corrupt
  deriving Repr, DecidableEq

/-- The state of a decoder. -/
structure State where
  /-- The bytes that are not yet taken. -/
  input : Bytes
  /-- How many bytes of the file have been taken. -/
  consumed : Nat
  /-- The bits of the byte in hand, the next one lowest. -/
  bits : Nat
  bitCount : Nat
  output : Array UInt8
  /-- How much of the output is out of the reach of damage further on. -/
  delivered : Nat

/-- A step of decoding. -/
abbrev Decoder := EStateM Stop State

/-- The size of the window that repetitions refer to. -/
def windowSize : Nat := 32768

/-- How many bytes of the file are read at once. -/
def bufferSize : Nat := 8192

/-! ### Bits and bytes -/

/-- The next byte of the input, any bits in hand being dropped. -/
def takeByte : Decoder UInt8 := do
  let state ← get
  match state.input with
  | [] => throw .truncated
  | b :: rest =>
    let delivered :=
      if state.consumed % bufferSize = 0 then state.output.size else state.delivered
    set { state with input := rest, consumed := state.consumed + 1, bitCount := 0, delivered }
    return b

/-- The next bit. -/
def takeBit : Decoder Nat := do
  let state ← get
  if state.bitCount = 0 then
    let b ← takeByte
    modify fun state => { state with bits := b.toNat / 2, bitCount := 7 }
    return b.toNat % 2
  else
    set { state with bits := state.bits / 2, bitCount := state.bitCount - 1 }
    return state.bits % 2

/-- The number written in the next `n` bits, the lowest bit first. -/
def takeBits : (n : Nat) → Decoder Nat
  | 0 => return 0
  | n + 1 => do
    let low ← takeBit
    let high ← takeBits n
    return low + 2 * high

/-- Write a byte. -/
def emit (b : UInt8) : Decoder Unit :=
  modify fun state =>
    let output := state.output.push b
    let delivered := if output.size % windowSize = 0 then output.size else state.delivered
    { state with output, delivered }

/-! ### Prefix codes -/

/-- A prefix code: how many words there are of each length, and the symbols in the order of their
words. -/
structure Code where
  counts : Array Nat
  symbols : Array Nat

/-- The greatest length of a code word. -/
def maxLength : Nat := 15

/-- The words that are left over when `counts` are the numbers of words of the lengths from one on;
`none` if there are too many words. -/
def unused? (free : Nat) : List Nat → Option Nat
  | [] => some free
  | count :: counts => if 2 * free < count then none else unused? (2 * free - count) counts

/-- The symbols of code words of one length. -/
def symbolsOf (lengths : List Nat) (length : Nat) : List Nat :=
  (lengths.zipIdx.filter (·.1 = length)).map (·.2)

/-- The code whose symbols have words of the given lengths, a symbol of length zero having none. No
word may be left over, except where at most one symbol has a word. -/
def Code.ofLengths? (lengths : List Nat) : Option Code :=
  let classes := (List.range maxLength).map fun n => symbolsOf lengths (n + 1)
  match unused? 1 (classes.map (·.length)) with
  | none => none
  | some free =>
    let symbols := classes.flatten
    if free ≠ 0 && symbols.length > 1 then none
    else some { counts := (classes.map (·.length)).toArray, symbols := symbols.toArray }

/-- Read the word of a symbol bit by bit: `word` are the bits so far, `first` is the least word of
their number and `index` the place of its symbol; `fuel` further bits may follow. -/
def Code.decodeFrom (code : Code) : (fuel length word first index : Nat) → Decoder Nat
  | 0, _, _, _, _ => throw .corrupt
  | fuel + 1, length, word, first, index => do
    let bit ← takeBit
    let word := word + bit
    let count := code.counts[length]?.getD 0
    if word < first + count then
      match code.symbols[index + (word - first)]? with
      | some symbol => return symbol
      | none => throw .corrupt
    else decodeFrom code fuel (length + 1) (2 * word) (2 * (first + count)) (index + count)

/-- The next symbol of a code. -/
def Code.decode (code : Code) : Decoder Nat := code.decodeFrom maxLength 0 0 0 0

/-! ### Blocks -/

/-- The least length and the number of further bits of each length symbol. -/
def lengthTable : Array (Nat × Nat) :=
  #[(3, 0), (4, 0), (5, 0), (6, 0), (7, 0), (8, 0), (9, 0), (10, 0), (11, 1), (13, 1), (15, 1), (17, 1),
    (19, 2), (23, 2), (27, 2), (31, 2), (35, 3), (43, 3), (51, 3), (59, 3), (67, 4), (83, 4), (99, 4),
    (115, 4), (131, 5), (163, 5), (195, 5), (227, 5), (258, 0)]

/-- The least distance and the number of further bits of each distance symbol. -/
def distanceTable : Array (Nat × Nat) :=
  #[(1, 0), (2, 0), (3, 0), (4, 0), (5, 1), (7, 1), (9, 2), (13, 2), (17, 3), (25, 3), (33, 4), (49, 4),
    (65, 5), (97, 5), (129, 6), (193, 6), (257, 7), (385, 7), (513, 8), (769, 8), (1025, 9), (1537, 9),
    (2049, 10), (3073, 10), (4097, 11), (6145, 11), (8193, 12), (12289, 12), (16385, 13), (24577, 13)]

/-- A value from a table of least values and further bits. -/
def takeFrom (table : Array (Nat × Nat)) (symbol : Nat) : Decoder Nat :=
  match table[symbol]? with
  | none => throw .corrupt
  | some (least, bits) => do
    let more ← takeBits bits
    return least + more

/-- Repeat what stands `distance` bytes back. Before the first byte the window holds zeros. -/
def copyBack (distance : Nat) : (length : Nat) → Decoder Unit
  | 0 => return ()
  | length + 1 => do
    let output := (← get).output
    let b := if distance ≤ output.size then output[output.size - distance]?.getD 0 else 0
    emit b
    copyBack distance length

/-- Literals and repetitions up to the end of a block; every symbol takes a bit at least, so `fuel`
may be the number of bits of the input. -/
def inflateSymbols (literals distances : Code) : (fuel : Nat) → Decoder Unit
  | 0 => throw .corrupt
  | fuel + 1 => do
    let symbol ← literals.decode
    if symbol < 256 then
      emit (UInt8.ofNat symbol)
      inflateSymbols literals distances fuel
    else if symbol = 256 then return ()
    else
      let length ← takeFrom lengthTable (symbol - 257)
      let distanceSymbol ← distances.decode
      let distance ← takeFrom distanceTable distanceSymbol
      copyBack distance length
      inflateSymbols literals distances fuel

/-- Copy bytes of a stored block. -/
def copyStored : (length : Nat) → Decoder Unit
  | 0 => return ()
  | length + 1 => do
    let b ← takeByte
    emit b
    copyStored length

/-- A stored block: its length, the complement of its length, and its bytes. -/
def inflateStored : Decoder Unit := do
  modify fun state => { state with bitCount := 0 }
  let a ← takeByte
  let b ← takeByte
  let c ← takeByte
  let d ← takeByte
  let length := a.toNat + 256 * b.toNat
  if length + (c.toNat + 256 * d.toNat) ≠ 0xFFFF then throw .corrupt
  copyStored length

/-- The lengths of the fixed code for literals and lengths. -/
def fixedLengths : List Nat :=
  List.replicate 144 8 ++ List.replicate 112 9 ++ List.replicate 24 7 ++ List.replicate 8 8

/-- The order in which the lengths of the code for lengths are given. -/
def lengthOrder : List Nat := [16, 17, 18, 0, 8, 7, 9, 6, 10, 5, 11, 4, 12, 3, 13, 2, 14, 1, 15]

/-- Code lengths up to a number of `total`, those so far standing in reverse order in `done`. -/
def takeLengths (code : Code) (total : Nat) : (fuel : Nat) → (done : List Nat) → Decoder (List Nat)
  | 0, _ => throw .corrupt
  | fuel + 1, done => do
    if done.length = total then return done.reverse
    if done.length > total then throw .corrupt
    let symbol ← code.decode
    if symbol < 16 then takeLengths code total fuel (symbol :: done)
    else if symbol = 16 then
      match done with
      | [] => throw .corrupt
      | last :: _ =>
        let more ← takeBits 2
        takeLengths code total fuel (List.replicate (3 + more) last ++ done)
    else if symbol = 17 then
      let more ← takeBits 3
      takeLengths code total fuel (List.replicate (3 + more) 0 ++ done)
    else
      let more ← takeBits 7
      takeLengths code total fuel (List.replicate (11 + more) 0 ++ done)

/-- The lengths of the code for lengths, of which `count` are given. -/
def takeOrdered : (count : Nat) → Decoder (List Nat)
  | 0 => return []
  | count + 1 => do
    let length ← takeBits 3
    let more ← takeOrdered count
    return length :: more

/-- The code of given lengths; lengths that make no code are damage. -/
def codeOf (lengths : List Nat) : Decoder Code :=
  match Code.ofLengths? lengths with
  | some code => return code
  | none => throw .corrupt

/-- The codes that a block begins with. -/
def takeCodes : Decoder (Code × Code) := do
  let literalCount := (← takeBits 5) + 257
  let distanceCount := (← takeBits 5) + 1
  let orderedCount := (← takeBits 4) + 4
  let ordered ← takeOrdered orderedCount
  let given := lengthOrder.zip ordered
  let lengthCode ← codeOf ((List.range 19).map fun symbol => (given.lookup symbol).getD 0)
  let total := literalCount + distanceCount
  let lengths ← takeLengths lengthCode total (total + 1) []
  let literals ← codeOf (lengths.take literalCount)
  let distances ← codeOf (lengths.drop literalCount)
  return (literals, distances)

/-- Blocks up to and with the last one. -/
def inflateBlocks (symbolFuel : Nat) : (fuel : Nat) → Decoder Unit
  | 0 => throw .corrupt
  | fuel + 1 => do
    let last ← takeBit
    let kind ← takeBits 2
    match kind with
    | 0 => inflateStored
    | 1 =>
      let literals ← codeOf fixedLengths
      let distances ← codeOf (List.replicate 32 5)
      inflateSymbols literals distances symbolFuel
    | 2 =>
      let (literals, distances) ← takeCodes
      inflateSymbols literals distances symbolFuel
    | _ => throw .corrupt
    if last = 1 then return () else inflateBlocks symbolFuel fuel

/-- What decoding comes to: the bytes that can be read, and the input behind the last block, if it was
reached. -/
structure Result where
  output : Bytes
  rest? : Option Bytes

/-- Decode the data that stands in a file from position `position` on. -/
def inflate (data : Bytes) (position : Nat) : Result :=
  let bits := 8 * data.length + 1
  let start : State :=
    { input := data, consumed := position, bits := 0, bitCount := 0, output := #[], delivered := 0 }
  match (inflateBlocks bits bits).run start with
  | .ok _ state => ⟨state.output.toList, some state.input⟩
  | .error .truncated state => ⟨state.output.toList, none⟩
  | .error .corrupt state => ⟨(state.output.extract 0 state.delivered).toList, none⟩

end SchemaBuild.Inflate
