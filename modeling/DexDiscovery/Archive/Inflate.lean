import DexDiscovery.Archive.Decoder

/-!
# Inflating compressed data

The data of a compressed entry are mostly a sequence of **blocks**: stored bytes, or symbols in a
fixed or a given prefix code, where a symbol is a literal byte, the end of the block or a match,
which repeats bytes already written.

Every symbol takes at least one bit, so the number of bits bounds the number of steps.
-/

namespace DexDiscovery

namespace Archive

namespace Inflate

open BitReader (M align)

/-! ## Bits and codes -/

/-- The next bit; the low bits of a byte come first. -/
def bit (input : Bytes) : M Nat :=
  BitReader.bit id input

/-- The number written in the next `count` bits, the low ones first. -/
def bits (input : Bytes) : (count : Nat) → M Nat
  | 0 => pure 0
  | count + 1 => do
    let low ← bit input
    let high ← bits input count
    return low + 2 * high

/-- What remains of the space of words, doubled at each length; `none` if it is overspent. -/
def spare? (counts : List Nat) : Option Nat :=
  counts.foldlM (fun left count => if count ≤ 2 * left then some (2 * left - count) else none) 1

/-- The code with the given word lengths.  The words have to fill their space, except that there may
be none, and that a code of a single one-bit word may stand alone if `single` allows it. -/
def codeOf? (single : Bool) (lengths : List Nat) : Option PrefixCode := do
  let longest := lengths.foldl max 0
  let code := PrefixCode.ofLengths longest lengths
  let left ← spare? code.counts
  if left = 0 ∨ longest = 0 ∨ (single ∧ longest = 1) then some code else none

/-! ## Symbols -/

/-- The least length of a match for each of the symbols from 257 on, and its extra bits. -/
def lengthSymbols : Array (Nat × Nat) := #[
  (3, 0), (4, 0), (5, 0), (6, 0), (7, 0), (8, 0), (9, 0), (10, 0), (11, 1), (13, 1), (15, 1),
  (17, 1), (19, 2), (23, 2), (27, 2), (31, 2), (35, 3), (43, 3), (51, 3), (59, 3), (67, 4),
  (83, 4), (99, 4), (115, 4), (131, 5), (163, 5), (195, 5), (227, 5), (258, 0)]

/-- The least distance of a match for each distance symbol, and its extra bits. -/
def distanceSymbols : Array (Nat × Nat) := #[
  (1, 0), (2, 0), (3, 0), (4, 0), (5, 1), (7, 1), (9, 2), (13, 2), (17, 3), (25, 3), (33, 4),
  (49, 4), (65, 5), (97, 5), (129, 6), (193, 6), (257, 7), (385, 7), (513, 8), (769, 8),
  (1025, 9), (1537, 9), (2049, 10), (3073, 10), (4097, 11), (6145, 11), (8193, 12), (12289, 12),
  (16385, 13), (24577, 13)]

/-- The number that a symbol stands for in one of the two tables, its extra bits included. -/
def symbolValue (input : Bytes) (symbols : Array (Nat × Nat)) (symbol : Nat) : M Nat :=
  match symbols[symbol]? with
  | none => throw .invalid
  | some (least, extra) => do return least + (← bits input extra)

/-- Stops if there is no room for another byte. -/
def demandRoom (room : Nat) : M Unit := fun s =>
  if s.output.size < room then .ok () s else .error .full s

/-- Writes a byte. -/
def write (room : Nat) (byte : UInt8) : M Unit := do
  demandRoom room
  fun s => .ok () { s with output := s.output.push byte }

/-- Writes a match, as far as there is room. -/
def writeMatch (room length distance : Nat) : M Unit := do
  demandRoom room
  fun s =>
    if s.output.size < distance then .error .invalid s
    else
      let fits := min length (room - s.output.size)
      let s := { s with output := copyBytes distance fits s.output }
      if fits < length then .error .full s else .ok () s

/-- Reads symbols up to the end of the block. -/
def readSymbols (input : Bytes) (room : Nat) (literals distances : PrefixCode) :
    (fuel : Nat) → M Unit
  | 0 => throw .truncated
  | fuel + 1 => do
    let symbol ← literals.read (bit input)
    if symbol < 256 then
      write room (UInt8.ofNat symbol)
      readSymbols input room literals distances fuel
    else if symbol = 256 then return ()
    else
      let length ← symbolValue input lengthSymbols (symbol - 257)
      let distance ← symbolValue input distanceSymbols (← distances.read (bit input))
      writeMatch room length distance
      readSymbols input room literals distances fuel

/-! ## Blocks -/

/-- The prefix code of literals and lengths in blocks that give none. -/
def fixedLiterals : Option PrefixCode :=
  codeOf? true (List.replicate 144 8 ++ List.replicate 112 9 ++ List.replicate 24 7
    ++ List.replicate 8 8)

/-- The prefix code of distances in blocks that give none. -/
def fixedDistances : Option PrefixCode :=
  codeOf? true (List.replicate 32 5)

/-- Reads `count` bytes as they are; none is read if there is no room for it. -/
def readStored (input : Bytes) (room : Nat) : (count : Nat) → M Unit
  | 0 => pure ()
  | count + 1 => do
    demandRoom room
    write room (UInt8.ofNat (← bits input 8))
    readStored input room count

/-- Reads a stored block: its size, the complement of its size and its bytes. -/
def readStoredBlock (input : Bytes) (room : Nat) : M Unit := do
  align
  let size ← bits input 16
  let complement ← bits input 16
  if size + complement ≠ 0xFFFF then throw .invalid
  readStored input room size

/-- The symbols of the code of word lengths, in the order in which their own lengths are
given. -/
def lengthOrder : List Nat :=
  [16, 17, 18, 0, 8, 7, 9, 6, 10, 5, 11, 4, 12, 3, 13, 2, 14, 1, 15]

/-- Reads `count` three-bit numbers. -/
def readThrees (input : Bytes) : (count : Nat) → M (List Nat)
  | 0 => pure []
  | count + 1 => do
    let x ← bits input 3
    return x :: (← readThrees input count)

/-- Reads a symbol of the code of word lengths; a code without words spends one bit on each, and all
of them are zero. -/
def readLength (input : Bytes) (code : PrefixCode) : M Nat :=
  if code.symbols.isEmpty then do
    let _ ← bit input
    return 0
  else code.read (bit input)

/-- Reads the rest of a symbol that stands for several word lengths: a length, and how many words
have it.  The first such symbol repeats the last of the lengths that have been read. -/
def readRepeated (input : Bytes) (last? : Option Nat) (symbol : Nat) : M (Nat × Nat) :=
  if symbol = 16 then
    match last? with
    | some last => do return (last, 3 + (← bits input 2))
    | none => do
      let _ ← bits input 2
      throw .invalid
  else if symbol = 17 then do return (0, 3 + (← bits input 3))
  else do return (0, 11 + (← bits input 7))

/-- Reads word lengths until `total` are there; `read` holds those read, last first. -/
def readLengths (input : Bytes) (code : PrefixCode) (total : Nat) :
    (fuel : Nat) → (read : List Nat) → M (List Nat)
  | 0, read => pure read.reverse
  | fuel + 1, read => do
    if total ≤ read.length then return read.reverse
    let symbol ← readLength input code
    if symbol < 16 then readLengths input code total fuel (symbol :: read)
    else
      let (value, count) ← readRepeated input read.head? symbol
      if total < read.length + count then throw .invalid
      readLengths input code total fuel (List.replicate count value ++ read)

/-- The code of the given word lengths, or a stop. -/
def codeOf (single : Bool) (lengths : List Nat) : M PrefixCode :=
  match codeOf? single lengths with
  | some code => pure code
  | none => throw .invalid

/-- Reads the two codes of a block that gives its own. -/
def readCodes (input : Bytes) : M (PrefixCode × PrefixCode) := do
  let literalCount := 257 + (← bits input 5)
  let distanceCount := 1 + (← bits input 5)
  let lengthCount := 4 + (← bits input 4)
  if 286 < literalCount ∨ 30 < distanceCount then throw .invalid
  let given ← readThrees input lengthCount
  let lengths := (List.range 19).map fun symbol =>
    ((lengthOrder.zip given).lookup symbol).getD 0
  let code ← codeOf false lengths
  let total := literalCount + distanceCount
  let all ← readLengths input code total total []
  if all.getD 256 0 = 0 then throw .invalid
  let literals ← codeOf true (all.take literalCount)
  let distances ← codeOf true (all.drop literalCount)
  return (literals, distances)

/-- Reads the block that follows, which is of one of three kinds. -/
def readBlock (input : Bytes) (room kind : Nat) : M Unit :=
  if kind = 0 then readStoredBlock input room
  else if kind = 1 then
    match fixedLiterals, fixedDistances with
    | some literals, some distances =>
      readSymbols input room literals distances (8 * input.size + 1)
    | _, _ => throw .invalid
  else if kind = 2 then do
    let (literals, distances) ← readCodes input
    readSymbols input room literals distances (8 * input.size + 1)
  else throw .invalid

/-- Reads blocks up to the last one. -/
def readBlocks (input : Bytes) (room : Nat) : (fuel : Nat) → M Unit
  | 0 => throw .truncated
  | fuel + 1 => do
    let last ← bit input
    readBlock input room (← bits input 2)
    if last = 1 then return ()
    readBlocks input room fuel

/-- Decodes the data from the beginning, as far as they go and no further than to `room` bytes; the
reason tells why decoding stopped before the end of the last block. -/
def run (input : Bytes) (room : Nat) : Option Stop × BitReader :=
  match (readBlocks input room (8 * input.size + 1)).run {} with
  | .ok _ s => (none, s)
  | .error stop s => (some stop, s)

/-- Decodes data, with room for one more portion of output.  When all data have been given and read,
what the last of them stand for is given in any case. -/
def decoder : Decoder := fun data all written =>
  match run data (written + portion) with
  | (some .invalid, _) => .error .corrupt
  | (none, s) => .ok { output := s.output, ended := true }
  | (some .truncated, s) => .ok { output := s.output }
  | (some .full, s) =>
    let unread := data.size - s.bytesRead
    if all ∧ unread = 0 then .ok { output := (run data (written + 2 * portion)).2.output }
    else .ok { output := s.output, unread }

end Inflate

end Archive

end DexDiscovery
