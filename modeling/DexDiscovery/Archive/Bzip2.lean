import DexDiscovery.Archive.Crc32
import DexDiscovery.Archive.Decoder

/-!
# Decoding bzip2

Data compressed with bzip2 are a sequence of **blocks**.  The bytes of a block were shortened where
they repeat (four equal bytes are followed by a count), then sorted by what follows them, then
replaced by their places in a list whose used entries are moved to the front, and the places were
written in prefix codes, of which there are several for groups of fifty.  Each block has a check
sum, and so have all of them together.

Decoding undoes these steps one after the other: `readColumn` reads the codes and the places,
`followOrder` undoes the sorting, and `expandRuns` repeats what was shortened.  The data end behind
the first end mark, whatever follows it.
-/

namespace DexDiscovery

namespace Archive

namespace Bzip2

open BitReader (M)

/-! ## Bits -/

/-- The next bit; the high bits of a byte come first. -/
def bit (input : Bytes) : M Nat :=
  BitReader.bit (7 - ·) input

/-- Appends the next `count` bits to a number. -/
def bitsOnto (input : Bytes) : (count number : Nat) → M Nat
  | 0, number => pure number
  | count + 1, number => do
    let next ← bit input
    bitsOnto input count (2 * number + next)

/-- The number written in the next `count` bits, the high ones first. -/
def bits (input : Bytes) (count : Nat) : M Nat :=
  bitsOnto input count 0

/-- Reads the given bytes. -/
def expect (input : Bytes) : List Nat → M Unit
  | [] => pure ()
  | byte :: rest => do
    if (← bits input 8) ≠ byte then throw .invalid
    expect input rest

/-! ## Check sums -/

/-- Divides one bit out of the remainder; unlike in the check sum of an archive, the high bits come
first. -/
def crcStep (crc : UInt32) : UInt32 :=
  if crc &&& 0x80000000 = 0 then crc <<< 1 else (crc <<< 1) ^^^ 0x04C11DB7

/-- The remainder after one more byte. -/
def crcUpdate (crc : UInt32) (byte : UInt8) : UInt32 :=
  crcStep (crcStep (crcStep (crcStep (crcStep (crcStep (crcStep (crcStep
    (crc ^^^ (byte.toUInt32 <<< 24)))))))))

/-- The check sum of the bytes from `start` on. -/
def checksumFrom (b : Bytes) (start : Nat) : UInt32 :=
  (b.extract start b.size).foldl crcUpdate 0xFFFFFFFF ^^^ 0xFFFFFFFF

/-- The check sum of some blocks, with that of one more block. -/
def joinChecksum (joined block : UInt32) : UInt32 :=
  ((joined <<< 1) ||| (joined >>> 31)) ^^^ block

/-! ## The prefix codes of a block -/

/-- The bytes that occur in a block: one bit for each run of sixteen bytes, and one for each byte of
the runs that are not left out. -/
def readUsed (input : Bytes) : M (List UInt8) := do
  let runs ← bits input 16
  let chosen := (List.range 16).filter fun run => runs / Nat.pow 2 (15 - run) % 2 = 1
  let used ← chosen.mapM fun run => do
    let members ← bits input 16
    return ((List.range 16).filter fun i => members / Nat.pow 2 (15 - i) % 2 = 1).map
      fun i => UInt8.ofNat (16 * run + i)
  return used.flatten

/-- Reads a number below `limit` that is written as so many ones and a zero. -/
def readUnary (input : Bytes) (limit : Nat) : (fuel number : Nat) → M Nat
  | 0, _ => throw .invalid
  | fuel + 1, number => do
    if (← bit input) = 0 then return number
    if limit ≤ number + 1 then throw .invalid
    readUnary input limit fuel (number + 1)

/-- Reads `count` places in a list of `codes`, last first. -/
def readPlaces (input : Bytes) (codes : Nat) : (count : Nat) → (read : List Nat) → M (List Nat)
  | 0, read => pure read
  | count + 1, read => do
    let place ← readUnary input codes codes 0
    readPlaces input codes count (place :: read)

/-- Which code each group is written in: the places in a list of the codes, in which the code that
has been used is moved to the front. -/
def selectors (places : List Nat) (codes : List Nat) : List Nat :=
  match places with
  | [] => []
  | place :: rest =>
    let code := codes.getD place 0
    code :: selectors rest (code :: codes.eraseIdx place)

/-- The greatest number of groups that a block can have; further selectors are read and dropped. -/
def groupLimit : Nat := 18002

/-- The number of symbols that are written in one code. -/
def groupSize : Nat := 50

/-- The greatest length of a word. -/
def longest : Nat := 20

/-- Changes the length of a word up or down until it is right; a word has one bit at least. -/
def readLength (input : Bytes) : (fuel length : Nat) → M Nat
  | 0, _ => throw .truncated
  | fuel + 1, length => do
    if length < 1 ∨ longest < length then throw .invalid
    if (← bit input) = 0 then return length
    if (← bit input) = 0 then readLength input fuel (length + 1)
    else readLength input fuel (length - 1)

/-- Reads the lengths of the words of `count` symbols; each is told by its difference to the one
before. -/
def readLengths (input : Bytes) : (count length : Nat) → M (List Nat)
  | 0, _ => pure []
  | count + 1, length => do
    let length ← readLength input (8 * input.size + 1) length
    return length :: (← readLengths input count length)

/-- Reads the code of `count` symbols.  Its words need not fill their space; what begins none of
them is refused one bit behind the longest word. -/
def readCode (input : Bytes) (count : Nat) : M PrefixCode := do
  let length ← bits input 5
  return PrefixCode.ofLengths (longest + 1) (← readLengths input count length)

/-- Reads several codes. -/
def readCodes (input : Bytes) (symbols : Nat) : (count : Nat) → M (List PrefixCode)
  | 0 => pure []
  | count + 1 => do
    let code ← readCode input symbols
    return code :: (← readCodes input symbols count)

/-! ## The symbols of a block -/

/-- What is at hand while the symbols of a block are read. -/
structure Column where
  /-- The codes of the groups to come. -/
  groups : List PrefixCode
  /-- The code of the group at hand, and how many of its symbols are to come. -/
  code : PrefixCode
  left : Nat := 0
  /-- The bytes that occur, last used first. -/
  recent : List UInt8
  /-- How often the most recent byte is to be repeated, and what the next digit of that number
  counts. -/
  run : Nat := 0
  weight : Nat := 1
  /-- The bytes so far. -/
  bytes : Bytes := #[]

/-- The greatest number of bytes that a run may stand for, before it is refused without a look at
its digits. -/
def runLimit : Nat := 0x200000

/-- Reads the next symbol, in the code of its group. -/
def Column.next (input : Bytes) (c : Column) : M (Nat × Column) := do
  let c ←
    if c.left ≠ 0 then pure c
    else match c.groups with
      | [] => throw .invalid
      | code :: groups => pure { c with groups, code, left := groupSize }
  let symbol ← c.code.read (bit input)
  return (symbol, { c with left := c.left - 1 })

/-- Writes the run that has been read; there must be room for it in the block. -/
def Column.flush (size : Nat) (c : Column) : M Column :=
  if size < c.bytes.size + c.run then throw .invalid
  else
    let byte := c.recent.headD 0
    pure { c with run := 0, weight := 1, bytes := c.bytes ++ Array.replicate c.run byte }

/-- Writes the byte at a place of the list, and moves it to the front. -/
def Column.use (size place : Nat) (c : Column) : M Column :=
  if size ≤ c.bytes.size then throw .invalid
  else
    let byte := c.recent.getD place 0
    pure { c with recent := byte :: c.recent.eraseIdx place, bytes := c.bytes.push byte }

/-- Reads symbols up to the end of a block of at most `size` bytes.  The symbols 0 and 1 are the
digits of a run, the greatest symbol is the end, and the others are places. -/
def readSymbols (input : Bytes) (size : Nat) : (fuel : Nat) → Column → M Bytes
  | 0, _ => throw .truncated
  | fuel + 1, c => do
    let (symbol, c) ← c.next input
    if symbol < 2 then
      if runLimit ≤ c.weight then throw .invalid
      readSymbols input size fuel
        { c with run := c.run + (symbol + 1) * c.weight, weight := 2 * c.weight }
    else
      let c ← c.flush size
      if symbol = c.recent.length + 1 then return c.bytes
      readSymbols input size fuel (← c.use size (symbol - 1))

/-- Reads the bytes of a block in the order in which they are written. -/
def readColumn (input : Bytes) (size : Nat) : M Bytes := do
  let used ← readUsed input
  if used.isEmpty then throw .invalid
  let codeCount ← bits input 3
  if codeCount < 2 ∨ 6 < codeCount then throw .invalid
  let groupCount ← bits input 15
  if groupCount = 0 then throw .invalid
  let places := (← readPlaces input codeCount groupCount []).reverse.take groupLimit
  let codes ← readCodes input (used.length + 2) codeCount
  let none : PrefixCode := { counts := [], symbols := #[] }
  let groups := (selectors places (List.range codeCount)).map fun code => codes.getD code none
  readSymbols input size (8 * input.size + 1) { groups, code := none, recent := used }

/-! ## The bytes of a block -/

/-- How many bytes of a block are less than each byte. -/
def startsOf (column : Bytes) : Array Nat :=
  let counts := column.foldl (fun counts byte => counts.modify byte.toNat (· + 1))
    (Array.replicate 256 0)
  (counts.foldl (fun (starts, total) count => (starts.push total, total + count))
    ((#[], 0) : Array Nat × Nat)).1

/-- For each place of a block in sorted order, the place of the same byte in the order in which they
are written: equal bytes keep their order. -/
def orderOf (column : Bytes) : Array Nat :=
  ((List.range column.size).foldl
    (fun (order, starts) i =>
      let byte := (column.getD i 0).toNat
      (order.setIfInBounds (starts.getD byte 0) i, starts.modify byte (· + 1)))
    (Array.replicate column.size 0, startsOf column)).1

/-- Follows the order from a place for `count` bytes. -/
def followOrder (column : Bytes) (order : Array Nat) :
    (count place : Nat) → (read : Bytes) → Bytes
  | 0, _, read => read
  | count + 1, place, read =>
    followOrder column order count (order.getD place 0) (read.push (column.getD place 0))

/-- The distances between the bytes of a block whose low bit is changed, if the block says that
there are such bytes. -/
def changes : List Nat := [
  619, 720, 127, 481, 931, 816, 813, 233, 566, 247, 985, 724, 205, 454, 863, 491, 741, 242, 949,
  214, 733, 859, 335, 708, 621, 574, 73, 654, 730, 472, 419, 436, 278, 496, 867, 210, 399, 680,
  480, 51, 878, 465, 811, 169, 869, 675, 611, 697, 867, 561, 862, 687, 507, 283, 482, 129, 807,
  591, 733, 623, 150, 238, 59, 379, 684, 877, 625, 169, 643, 105, 170, 607, 520, 932, 727, 476,
  693, 425, 174, 647, 73, 122, 335, 530, 442, 853, 695, 249, 445, 515, 909, 545, 703, 919, 874,
  474, 882, 500, 594, 612, 641, 801, 220, 162, 819, 984, 589, 513, 495, 799, 161, 604, 958, 533,
  221, 400, 386, 867, 600, 782, 382, 596, 414, 171, 516, 375, 682, 485, 911, 276, 98, 553, 163,
  354, 666, 933, 424, 341, 533, 870, 227, 730, 475, 186, 263, 647, 537, 686, 600, 224, 469, 68,
  770, 919, 190, 373, 294, 822, 808, 206, 184, 943, 795, 384, 383, 461, 404, 758, 839, 887, 715,
  67, 618, 276, 204, 918, 873, 777, 604, 560, 951, 160, 578, 722, 79, 804, 96, 409, 713, 940, 652,
  934, 970, 447, 318, 353, 859, 672, 112, 785, 645, 863, 803, 350, 139, 93, 354, 99, 820, 908,
  609, 772, 154, 274, 580, 184, 79, 626, 630, 742, 653, 282, 762, 623, 680, 81, 927, 626, 789,
  125, 411, 521, 938, 300, 821, 78, 343, 175, 128, 250, 170, 774, 972, 275, 999, 639, 495, 78,
  352, 126, 857, 956, 358, 619, 580, 124, 737, 594, 701, 612, 669, 112, 134, 694, 363, 992, 809,
  743, 168, 974, 944, 375, 748, 52, 600, 747, 642, 182, 862, 81, 344, 805, 988, 739, 511, 655,
  814, 334, 249, 515, 897, 955, 664, 981, 649, 113, 974, 459, 893, 228, 433, 837, 553, 268, 926,
  240, 102, 654, 459, 51, 686, 754, 806, 760, 493, 403, 415, 394, 687, 700, 946, 670, 656, 610,
  738, 392, 760, 799, 887, 653, 978, 321, 576, 617, 626, 502, 894, 679, 243, 440, 680, 879, 194,
  572, 640, 724, 926, 56, 204, 700, 707, 151, 457, 449, 797, 195, 791, 558, 945, 679, 297, 59, 87,
  824, 713, 663, 412, 693, 342, 606, 134, 108, 571, 364, 631, 212, 174, 643, 304, 329, 343, 97,
  430, 751, 497, 314, 983, 374, 822, 928, 140, 206, 73, 263, 980, 736, 876, 478, 430, 305, 170,
  514, 364, 692, 829, 82, 855, 953, 676, 246, 369, 970, 294, 750, 807, 827, 150, 790, 288, 923,
  804, 378, 215, 828, 592, 281, 565, 555, 710, 82, 896, 831, 547, 261, 524, 462, 293, 465, 502,
  56, 661, 821, 976, 991, 658, 869, 905, 758, 745, 193, 768, 550, 608, 933, 378, 286, 215, 979,
  792, 961, 61, 688, 793, 644, 986, 403, 106, 366, 905, 644, 372, 567, 466, 434, 645, 210, 389,
  550, 919, 135, 780, 773, 635, 389, 707, 100, 626, 958, 165, 504, 920, 176, 193, 713, 857, 265,
  203, 50, 668, 108, 645, 990, 626, 197, 510, 357, 358, 850, 858, 364, 936, 638]

/-- Changes the bytes at these distances, round and round. -/
def undoChanges (bytes : Bytes) : Bytes :=
  -- no distance is less than 50, so that all of them lead on by 25600 places at least
  let distances := (List.replicate (bytes.size / 25600 + 1) changes).flatten
  (distances.foldl
    (fun (bytes, start) distance =>
      (bytes.modify (start + distance - 2) (· ^^^ 1), start + distance))
    (bytes, 0)).1

/-- A block whose runs are being written: the bytes so far, the last one, and how often it has been
read in a row. -/
structure Runs where
  output : Bytes
  last : UInt8 := 0
  repeats : Nat := 0

/-- Writes a byte; behind four equal bytes, the number of further ones is read. -/
def Runs.step (r : Runs) (byte : UInt8) : Runs :=
  if r.repeats = 4 then
    { r with output := r.output ++ Array.replicate byte.toNat r.last, repeats := 0 }
  else
    { output := r.output.push byte, last := byte
      repeats := if r.repeats ≠ 0 ∧ r.last = byte then r.repeats + 1 else 1 }

/-- Writes the bytes of a block behind the output, and tells whether the block ended with a whole
run.  If it did not, the byte that comes behind the block is taken for the number of further ones. -/
def expandRuns (bytes : Bytes) (behind : UInt8) (output : Bytes) : Bytes × Bool :=
  let runs := bytes.foldl Runs.step { output }
  if runs.repeats = 4 then ((runs.step behind).output, false) else (runs.output, true)

/-! ## Blocks -/

/-- The sizes of the buffers that output goes to, in units of 1024 bytes. -/
def bufferSizes : List Nat :=
  [32, 64, 256, 1024, 4096, 8192, 16384, 16384, 32768, 32768, 32768, 32768, 65536, 65536, 131072,
    131072]

/-- The size of all buffers behind those. -/
def lastBufferSize : Nat := 0x10000000

/-- Where the buffer ends in which there is room behind `written` bytes; the first of the buffers in
the list begins at `start`. -/
def bufferEnd (written : Nat) : (sizes : List Nat) → (start : Nat) → Nat
  | [], start =>
    start + (written - start + lastBufferSize - 1) / lastBufferSize * lastBufferSize
  | size :: rest, start =>
    let stop := start + 1024 * size
    if written ≤ stop then stop else bufferEnd written rest stop

/-- Writes a block that has been read, and checks it.  If the data end with it, nothing is written
behind the end of the buffer at hand, and the block is not checked unless it is complete there;
`written` is the number of bytes before the first buffer. -/
def writeBlock (input : Bytes) (written : Nat) (bytes : Bytes) (behind : UInt8)
    (checksum : UInt32) : M Unit := fun s =>
  let start := s.output.size
  let stop := written + bufferEnd (start - written) bufferSizes 0
  let (output, whole) := expandRuns bytes behind s.output
  if input.size ≤ s.bytesRead ∧ stop < output.size then
    .error .truncated { s with output := output.extract 0 stop }
  else
    let s := { s with output }
    if whole ∧ checksumFrom output start = checksum then .ok () s else .error .invalid s

/-- Reads a block behind its mark, and answers its check sum; `level` tells how large blocks are. -/
def readBlock (input : Bytes) (written level : Nat) : M UInt32 := do
  let checksum := UInt32.ofNat (← bits input 32)
  let changed ← bit input
  let origin ← bits input 24
  let size := 100000 * level
  if 10 + size < origin then throw .invalid
  let column ← readColumn input size
  if column.size ≤ origin then throw .invalid
  let order := orderOf column
  let read := followOrder column order (column.size + 1) (order.getD origin 0) #[]
  let read := if changed = 1 then undoChanges read else read
  let behind := read.getD column.size 0
  writeBlock input written (read.extract 0 column.size) behind checksum
  return checksum

/-- What a block begins with, behind the first byte. -/
def blockMark : List Nat := [0x41, 0x59, 0x26, 0x53, 0x59]

/-- What the end begins with, behind the first byte. -/
def endMark : List Nat := [0x72, 0x45, 0x38, 0x50, 0x90]

/-- Reads blocks up to the end; `joined` is the check sum of those read. -/
def readBlocks (input : Bytes) (written level : Nat) : (fuel : Nat) → (joined : UInt32) → M Unit
  | 0, _ => throw .truncated
  | fuel + 1, joined => do
    let first ← bits input 8
    if first = 0x31 then
      expect input blockMark
      let block ← readBlock input written level
      readBlocks input written level fuel (joinChecksum joined block)
    else if first = 0x17 then
      expect input endMark
      if UInt32.ofNat (← bits input 32) ≠ joined then throw .invalid
    else throw .invalid

/-- Reads data from their beginning. -/
def readAll (input : Bytes) (written : Nat) : M Unit := do
  expect input [0x42, 0x5A, 0x68]
  let level ← bits input 8
  if level < 0x31 ∨ 0x39 < level then throw .invalid
  readBlocks input written (level - 0x30) (8 * input.size + 1) 0

/-- Decodes data block by block, as far as they go. -/
def decoder : Decoder := fun data _ written =>
  match (readAll data written).run {} with
  | .ok _ s => .ok { output := s.output, ended := true }
  | .error .invalid _ => .error .notBzip2
  | .error _ s => .ok { output := s.output }

end Bzip2

end Archive

end DexDiscovery
