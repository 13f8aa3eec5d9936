import DexDiscovery.Bytes

/-!
# SHA-256

The digest by which a summary identifies a file.  A message is padded to whole blocks of 64 bytes;
each block extends to a schedule of 64 words, which 64 rounds mix into a state of eight.
-/

namespace DexDiscovery

namespace Sha256

/-- The round constants: the first 32 bits of the fractional parts of the cube roots of the first
64 primes. -/
def roundConstants : Array UInt32 := #[
  0x428a2f98, 0x71374491, 0xb5c0fbcf, 0xe9b5dba5, 0x3956c25b, 0x59f111f1, 0x923f82a4, 0xab1c5ed5,
  0xd807aa98, 0x12835b01, 0x243185be, 0x550c7dc3, 0x72be5d74, 0x80deb1fe, 0x9bdc06a7, 0xc19bf174,
  0xe49b69c1, 0xefbe4786, 0x0fc19dc6, 0x240ca1cc, 0x2de92c6f, 0x4a7484aa, 0x5cb0a9dc, 0x76f988da,
  0x983e5152, 0xa831c66d, 0xb00327c8, 0xbf597fc7, 0xc6e00bf3, 0xd5a79147, 0x06ca6351, 0x14292967,
  0x27b70a85, 0x2e1b2138, 0x4d2c6dfc, 0x53380d13, 0x650a7354, 0x766a0abb, 0x81c2c92e, 0x92722c85,
  0xa2bfe8a1, 0xa81a664b, 0xc24b8b70, 0xc76c51a3, 0xd192e819, 0xd6990624, 0xf40e3585, 0x106aa070,
  0x19a4c116, 0x1e376c08, 0x2748774c, 0x34b0bcb5, 0x391c0cb3, 0x4ed8aa4a, 0x5b9cca4f, 0x682e6ff3,
  0x748f82ee, 0x78a5636f, 0x84c87814, 0x8cc70208, 0x90befffa, 0xa4506ceb, 0xbef9a3f7, 0xc67178f2]

/-- The state: eight words. -/
structure State where
  a : UInt32
  b : UInt32
  c : UInt32
  d : UInt32
  e : UInt32
  f : UInt32
  g : UInt32
  h : UInt32

/-- The state before the first block. -/
def initial : State where
  a := 0x6a09e667
  b := 0xbb67ae85
  c := 0x3c6ef372
  d := 0xa54ff53a
  e := 0x510e527f
  f := 0x9b05688c
  g := 0x1f83d9ab
  h := 0x5be0cd19

/-- Rotation to the right. -/
def rotate (x : UInt32) (n : UInt32) : UInt32 :=
  (x >>> n) ||| (x <<< (32 - n))

/-- One round, with the schedule word and the constant already added up. -/
def mix (s : State) (word : UInt32) : State :=
  let sum1 := rotate s.e 6 ^^^ rotate s.e 11 ^^^ rotate s.e 25
  let choice := (s.e &&& s.f) ^^^ ((~~~s.e) &&& s.g)
  let t1 := s.h + sum1 + choice + word
  let sum0 := rotate s.a 2 ^^^ rotate s.a 13 ^^^ rotate s.a 22
  let majority := (s.a &&& s.b) ^^^ (s.a &&& s.c) ^^^ (s.b &&& s.c)
  { a := t1 + sum0 + majority, b := s.a, c := s.b, d := s.c
    e := s.d + t1, f := s.e, g := s.f, h := s.g }

/-- The big-endian word at an offset. -/
def wordAt (b : Bytes) (offset : Nat) : UInt32 :=
  let byte (i : Nat) : UInt32 := (b.getD (offset + i) 0).toUInt32
  (byte 0 <<< 24) ||| (byte 1 <<< 16) ||| (byte 2 <<< 8) ||| byte 3

/-- The schedule word at place `i`, from those before it. -/
def nextWord (words : Array UInt32) (i : Nat) : UInt32 :=
  let x := words.getD (i - 15) 0
  let y := words.getD (i - 2) 0
  let sigma0 := rotate x 7 ^^^ rotate x 18 ^^^ (x >>> 3)
  let sigma1 := rotate y 17 ^^^ rotate y 19 ^^^ (y >>> 10)
  words.getD (i - 16) 0 + sigma0 + words.getD (i - 7) 0 + sigma1

/-- The 64 schedule words of the block at an offset. -/
def schedule (b : Bytes) (offset : Nat) : Array UInt32 :=
  let first := (List.range 16).foldl (fun words i => words.push (wordAt b (offset + 4 * i))) #[]
  (List.range' 16 48).foldl (fun words i => words.push (nextWord words i)) first

/-- Mixes the block at an offset into the state. -/
def compress (b : Bytes) (s : State) (offset : Nat) : State :=
  let words := schedule b offset
  let t := (List.range 64).foldl
    (fun t i => mix t (roundConstants.getD i 0 + words.getD i 0)) s
  { a := s.a + t.a, b := s.b + t.b, c := s.c + t.c, d := s.d + t.d
    e := s.e + t.e, f := s.f + t.f, g := s.g + t.g, h := s.h + t.h }

/-- The `count` bytes of a number, most significant first. -/
def bigEndian (count n : Nat) : List UInt8 :=
  (List.range count).map fun i => UInt8.ofNat (n / Nat.pow 256 (count - 1 - i))

/-- The message with its padding: a one bit, zeros up to eight bytes before the end of a block,
and the length in bits. -/
def pad (b : Bytes) : Bytes :=
  (b.push 0x80 ++ Array.replicate ((119 - b.size % 64) % 64) 0)
    ++ (bigEndian 8 (8 * b.size)).toArray

/-- The digest: 32 bytes. -/
def digest (b : Bytes) : List UInt8 :=
  let padded := pad b
  let s := (List.range (padded.size / 64)).foldl (fun s i => compress padded s (64 * i)) initial
  [s.a, s.b, s.c, s.d, s.e, s.f, s.g, s.h].flatMap fun word => bigEndian 4 word.toNat

/-- The digest in hexadecimal. -/
def hex (b : Bytes) : Text :=
  (digest b).flatMap Text.hexByte

end Sha256

end DexDiscovery
