import DexDiscovery.Archive.Decoder

/-!
# Decoding LZMA

Data compressed with LZMA are literal bytes and matches, which repeat bytes already written, like
inflated data, but the bits that tell them are **not stored one by one**.  How likely the next bit
is to be a zero is learnt from the bits before it in the same context, and the data are one large
number that says, for each bit in turn, in which part of a range it lies; the parts are as large as
the bits are likely.

A literal depends on the place where it is written and on the byte before it.  The distances of the
last four matches are kept, since they are often used again.  The phase tells of which kinds the
last few steps were.

The data may have an end mark, which is a match at the greatest distance of all.  In an archive, the
parameters of the code stand in front of the data.
-/

namespace DexDiscovery

namespace Archive

namespace Lzma

/-- The parameters of the code. -/
structure Parameters where
  /-- How many high bits of the byte before it a literal depends on. -/
  contextBits : Nat
  /-- How many low bits of its place a literal depends on. -/
  placeBits : Nat
  /-- How many low bits of the place decide what a step is likely to be. -/
  phaseBits : Nat
  /-- How far behind matches can lie. -/
  reach : Nat
deriving DecidableEq, Repr

/-- What is kept between two steps. -/
structure State where
  /-- The place of the next byte of the data. -/
  position : Nat
  range : UInt32 := 0xFFFFFFFF
  /-- How far above the beginning of the range the data lie. -/
  code : UInt32
  /-- For each context, how likely a zero is, in parts of 2048. -/
  chances : Array Nat
  output : Bytes := #[]
  phase : Nat := 0
  /-- The distances of the last four matches, less one. -/
  first : Nat := 0
  second : Nat := 0
  third : Nat := 0
  fourth : Nat := 0

/-- A step of the decoder. -/
abbrev M := EStateM Stop State

/-! ## Contexts -/

/-- What a bit that is learnt may be part of. -/
inductive Context where
  | isMatch (phase place : Nat)
  | isRepeated (phase : Nat)
  | isOlder (phase : Nat)
  | isThirdOrFourth (phase : Nat)
  | isFourth (phase : Nat)
  | isLong (phase place : Nat)
  | slot (kind : Nat)
  | low (distance : Nat)
  | lowest
  /-- The length of a match. -/
  | length
  /-- The length of a match at a distance used before. -/
  | repeatedLength
  | literal (number : Nat)
deriving DecidableEq, Repr

/-- Where the chances of a context stand. -/
def Context.start : Context → Nat
  | isMatch phase place => 16 * phase + place
  | isRepeated phase => 192 + phase
  | isOlder phase => 204 + phase
  | isThirdOrFourth phase => 216 + phase
  | isFourth phase => 228 + phase
  | isLong phase place => 240 + 16 * phase + place
  | slot kind => 432 + 64 * kind
  | low distance => 687 + distance
  | lowest => 802
  | length => 818
  | repeatedLength => 1332
  | literal number => 1846 + 768 * number

/-- The number of chances that are kept. -/
def Parameters.chanceCount (p : Parameters) : Nat :=
  (Context.literal (Nat.pow 2 (p.contextBits + p.placeBits))).start

/-! ## Bits -/

/-- Takes another byte of the data if the range has become small. -/
def normalize (input : Bytes) : M Unit := fun s =>
  if s.range < 0x1000000 then
    match input[s.position]? with
    | none => .error .truncated s
    | some byte =>
      .ok () { s with
        position := s.position + 1
        range := s.range <<< 8
        code := (s.code <<< 8) ||| byte.toUInt32 }
  else .ok () s

/-- Reads a bit at a place of the chances, and learns from it. -/
def bit (input : Bytes) (place : Nat) : M Nat := do
  normalize input
  fun s =>
    let chance := s.chances.getD place 0
    let bound := (s.range >>> 11) * UInt32.ofNat chance
    if s.code < bound then
      .ok 0 { s with
        range := bound
        chances := s.chances.setIfInBounds place (chance + (2048 - chance) / 32) }
    else
      .ok 1 { s with
        range := s.range - bound, code := s.code - bound
        chances := s.chances.setIfInBounds place (chance - chance / 32) }

/-- Appends `count` bits, all as likely as not, to a number. -/
def plainBits (input : Bytes) : (count number : Nat) → M Nat
  | 0, number => pure number
  | count + 1, number => do
    normalize input
    let next : Nat ← fun s =>
      let half := s.range >>> 1
      let above := s.code - half
      if above >>> 31 = 0 then .ok 1 { s with range := half, code := above }
      else .ok 0 { s with range := half, code := above + half }
    plainBits input count (2 * number + next)

/-- Appends `count` bits to a number, where each depends on those before it. -/
def treeOnto (input : Bytes) (start : Nat) : (count number : Nat) → M Nat
  | 0, number => pure number
  | count + 1, number => do
    let next ← bit input (start + number)
    treeOnto input start count (2 * number + next)

/-- Reads a number of `count` bits, the high ones first. -/
def tree (input : Bytes) (start count : Nat) : M Nat := do
  return (← treeOnto input start count 1) - Nat.pow 2 count

/-- Reads a number of `count` bits, the low ones first; `read` stands for those before it. -/
def reversed (input : Bytes) (start : Nat) : (count read : Nat) → M Nat
  | 0, _ => pure 0
  | count + 1, read => do
    let next ← bit input (start + read)
    return next + 2 * (← reversed input start count (2 * read + next))

/-! ## Literals -/

/-- Reads the rest of a literal behind a match; `expected` is the byte that a match of one more byte
would have repeated, and each bit depends on it as long as they agree. -/
def differingOnto (input : Bytes) (start expected : Nat) : (count number : Nat) → M Nat
  | 0, number => pure number
  | count + 1, number => do
    let likely := expected / Nat.pow 2 count % 2
    let next ← bit input (start + 256 * (1 + likely) + number)
    if next = likely then differingOnto input start expected count (2 * number + next)
    else treeOnto input start count (2 * number + next)

/-- Reads a literal and writes it. -/
def readLiteral (input : Bytes) (p : Parameters) : M Unit := do
  let s ← get
  let size := s.output.size
  let before := if size = 0 then 0 else (s.output.getD (size - 1) 0).toNat
  let start := (Context.literal (size % Nat.pow 2 p.placeBits * Nat.pow 2 p.contextBits
    + before / Nat.pow 2 (8 - p.contextBits))).start
  let number ←
    if s.phase < 7 then treeOnto input start 8 1
    else differingOnto input start (s.output.getD (size - 1 - s.first) 0).toNat 8 1
  modify fun s => { s with
    output := s.output.push (UInt8.ofNat (number - 256))
    phase := if s.phase < 4 then 0 else if s.phase < 10 then s.phase - 3 else s.phase - 6 }

/-! ## Matches -/

/-- Reads a length; the short ones depend on the place. -/
def readLength (input : Bytes) (context : Context) (place : Nat) : M Nat := do
  let start := context.start
  if (← bit input start) = 0 then return 2 + (← tree input (start + 2 + 8 * place) 3)
  if (← bit input (start + 1)) = 0 then return 10 + (← tree input (start + 130 + 8 * place) 3)
  return 18 + (← tree input (start + 258) 8)

/-- Reads the distance of a match of a given length, less one: its two high bits and the number of
the others first. -/
def readDistance (input : Bytes) (length : Nat) : M Nat := do
  let slot ← tree input (Context.slot (min (length - 2) 3)).start 6
  if slot < 4 then return slot
  let count := slot / 2 - 1
  let high := 2 + slot % 2
  if slot < 14 then
    let distance := high * Nat.pow 2 count
    return distance + (← reversed input (Context.low (distance - slot)).start count 1)
  let distance ← plainBits input (count - 4) high
  return 16 * distance + (← reversed input Context.lowest.start 4 1)

/-- Writes `length` bytes again from the last distance. -/
def copy (length : Nat) : M Unit :=
  modify fun s => { s with output := copyBytes (s.first + 1) length s.output }

/-- Reads the end mark to its end, where the data must be at the beginning of the range. -/
def finish (input : Bytes) : M Unit := do
  normalize input
  if (← get).code ≠ 0 then throw .invalid

/-- Reads a match at a distance of its own, and writes it; tells whether it was the end mark. -/
def readMatch (input : Bytes) (p : Parameters) (place : Nat) : M Bool := do
  let length ← readLength input .length place
  let distance ← readDistance input length
  if distance = 0xFFFFFFFF then
    finish input
    return true
  if min (← get).output.size p.reach ≤ distance then throw .invalid
  modify fun s => { s with
    phase := if s.phase < 7 then 7 else 10
    first := distance, second := s.first, third := s.second, fourth := s.third }
  copy length
  return false

/-- Reads which of the older distances is used again, and makes it the last one. -/
def chooseOlder (input : Bytes) (phase : Nat) : M Unit := do
  if (← bit input (Context.isThirdOrFourth phase).start) = 0 then
    modify fun s => { s with first := s.second, second := s.first }
  else if (← bit input (Context.isFourth phase).start) = 0 then
    modify fun s => { s with first := s.third, second := s.first, third := s.second }
  else
    modify fun s => { s with
      first := s.fourth, second := s.first, third := s.second, fourth := s.third }

/-- Reads a match at a distance used before, and writes it. -/
def readRepeated (input : Bytes) (place : Nat) : M Unit := do
  let phase := (← get).phase
  if (← get).output.isEmpty then throw .invalid
  let older ← bit input (Context.isOlder phase).start
  if older = 0 then
    if (← bit input (Context.isLong phase place).start) = 0 then
      modify fun s => { s with phase := if phase < 7 then 9 else 11 }
      copy 1
      return
  else chooseOlder input phase
  let length ← readLength input .repeatedLength place
  modify fun s => { s with phase := if phase < 7 then 8 else 11 }
  copy length

/-! ## All data -/

/-- Reads literals and matches up to the end mark. -/
def readSteps (input : Bytes) (p : Parameters) : (fuel : Nat) → M Unit
  | 0 => throw .truncated
  | fuel + 1 => do
    let phase := (← get).phase
    let place := (← get).output.size % Nat.pow 2 p.phaseBits
    if (← bit input (Context.isMatch phase place).start) = 0 then readLiteral input p
    else if (← bit input (Context.isRepeated phase).start) = 0 then
      if ← readMatch input p place then return
    else readRepeated input place
    readSteps input p fuel

/-- Decodes the data with the given parameters.  They begin with a zero and four bytes of the number
that they are.  Every bit takes a 46th part of a bit of the data at least, because no chance comes
nearer to certainty than 31 parts of 2048, which bounds the number of steps. -/
def run (input : Bytes) (p : Parameters) : Option Stop × Bytes :=
  if input.at? 0 ≠ some 0 then (some (if input.isEmpty then .truncated else .invalid), #[])
  else if input.size < 5 then (some .truncated, #[])
  else
    let code : UInt32 :=
      (input.extract 1 5).foldl (fun code byte => (code <<< 8) ||| byte.toUInt32) 0
    let chances := Array.replicate p.chanceCount 1024
    match (readSteps input p (512 * (input.size + 8))).run { position := 5, code, chances } with
    | .ok _ s => (none, s.output)
    | .error stop s => (some stop, s.output)

/-- The parameters that are written in five bytes: the numbers of bits in one, and how far behind
matches can lie. -/
def Parameters.ofBytes? (b : Bytes) : Option Parameters :=
  let bitCounts := b.wordAt 0 1
  let contextBits := bitCounts % 9
  let placeBits := bitCounts / 9 % 5
  if b.size ≠ 5 ∨ 225 ≤ bitCounts ∨ 4 < contextBits + placeBits then none
  else some {
    contextBits, placeBits, phaseBits := bitCounts / 45
    reach := (max 4096 (b.wordAt 1 4) + 15) / 16 * 16 }

/-- Decodes the data of an entry: two bytes that do not matter, the size of the parameters, the
parameters and the compressed data.  The parameters are read when some of the data behind them are
there. -/
def decoder : Decoder := fun data _ _ =>
  let start := 4 + data.wordAt 2 2
  if data.size ≤ 4 ∨ data.size ≤ start then .ok {}
  else match Parameters.ofBytes? (data.extract 4 start) with
    | none => .error .notLzma
    | some p => match run (data.extract start data.size) p with
      | (none, output) => .ok { output, ended := true }
      | (some .invalid, _) => .error .notLzma
      | (some _, output) => .ok { output }

end Lzma

end Archive

end DexDiscovery
