import DexDiscovery.Bytes

/-!
# Reading bits

Compressed data are read bit by bit, and the bytes that they stand for are written one after the
other.  A decoder keeps the place of the next bit and what it has written (`BitReader`).  It stops
early in three ways that are told apart: the data may end (`truncated`), there may be no room for
the next byte (`full`), or no continuation could be right (`invalid`).  What has been written so far
is kept in each case.

The formats that are read here share one kind of **prefix code**: the words of one length follow one
another, and the symbols of that length have them in ascending order.
-/

namespace DexDiscovery

namespace Archive

/-- Why a decoder stopped before the end of the compressed data. -/
inductive Stop where
  | truncated
  | full
  | invalid
deriving DecidableEq, Repr

/-- The next bit to be read and the bytes written so far. -/
structure BitReader where
  position : Nat := 0
  output : Bytes := #[]

namespace BitReader

/-- A step of a decoder. -/
abbrev M := EStateM Stop BitReader

/-! ## Bits -/

/-- The next bit; `weight` is the exponent of the bit at a place of its byte. -/
def bit (weight : Nat → Nat) (input : Bytes) : M Nat := fun s =>
  match input[s.position / 8]? with
  | none => .error .truncated s
  | some byte =>
    .ok (byte.toNat / Nat.pow 2 (weight (s.position % 8)) % 2)
      { s with position := s.position + 1 }

/-- The number of bytes of which some bits have been read. -/
def bytesRead (s : BitReader) : Nat :=
  (s.position + 7) / 8

/-- Skips the rest of a byte of which some bits have been read. -/
def align : M Unit := fun s =>
  .ok () { s with position := 8 * s.bytesRead }

end BitReader

/-- Writes `length` bytes again, each from `distance` places before the end. -/
def copyBytes (distance : Nat) : (length : Nat) → Bytes → Bytes
  | 0, output => output
  | length + 1, output =>
    copyBytes distance length (output.push (output.getD (output.size - distance) 0))

/-! ## Prefix codes -/

/-- A canonical prefix code: how many words have each length, from length one on, and the symbols in
the order of their words. -/
structure PrefixCode where
  counts : List Nat
  symbols : Array Nat

namespace PrefixCode

/-- The symbols with a given word length, in ascending order. -/
def symbolsOfLength (lengths : List Nat) (length : Nat) : List Nat :=
  (lengths.zipIdx.filter fun entry => entry.1 = length).map Prod.snd

/-- The code with the given word lengths, symbol by symbol, as far as they are no longer than
`longest`; length zero leaves a symbol out. -/
def ofLengths (longest : Nat) (lengths : List Nat) : PrefixCode :=
  let groups := (List.range longest).map fun i => symbolsOfLength lengths (i + 1)
  { counts := groups.map List.length, symbols := groups.flatten.toArray }

/-- Reads the rest of a word: `first` is the first word of the length at hand, `index` the place
of its symbol and `word` what has been read. -/
def readFrom (bit : BitReader.M Nat) (symbols : Array Nat) :
    (counts : List Nat) → (word first index : Nat) → BitReader.M Nat
  | [], _, _, _ => throw .invalid
  | count :: rest, word, first, index => do
    let word := 2 * word + (← bit)
    if word < first + count then
      match symbols[index + (word - first)]? with
      | some symbol => return symbol
      | none => throw .invalid
    else readFrom bit symbols rest word (2 * (first + count)) (index + count)

/-- Reads one symbol; a code without words costs one bit to refuse. -/
def read (bit : BitReader.M Nat) (code : PrefixCode) : BitReader.M Nat :=
  readFrom bit code.symbols (if code.counts.isEmpty then [0] else code.counts) 0 0 0

end PrefixCode

end Archive

end DexDiscovery
