import DexDiscovery.Dex.Error

/-!
# Absolute reads

Reads at a given offset of a buffer.  Offsets are integers of any size, because they come from the
image itself; a read answers only if all the bytes it needs lie in the buffer, and otherwise names
the read that failed.
-/

namespace DexDiscovery

namespace Bytes

/-- The bytes from `start` up to `stop`, where a negative `stop` counts from the end. -/
def between (b : Bytes) (start stop : Int) : Bytes :=
  b.extract start.toNat (if stop < 0 then b.size + stop else stop).toNat

/-- The `size` bytes from `offset` on. -/
def slice (b : Bytes) (offset size : Int) : Except DexError Bytes :=
  if 0 ≤ offset ∧ offset + size ≤ b.size then .ok (b.between offset (offset + size))
  else .error (.outOfBounds offset size b.size)

/-- The little-endian number in the `width` bytes from `offset` on. -/
def word (width : Nat) (b : Bytes) (offset : Int) : Except DexError Nat :=
  (b.slice offset width).map fun s => littleEndian s.toList

/-- The byte at `offset`, as a number. -/
def u8 (b : Bytes) (offset : Int) : Except DexError Nat :=
  b.word 1 offset

/-- The 16-bit number at `offset`. -/
def u16 (b : Bytes) (offset : Int) : Except DexError Nat :=
  b.word 2 offset

/-- The 32-bit number at `offset`. -/
def u32 (b : Bytes) (offset : Int) : Except DexError Nat :=
  b.word 4 offset

/-- Reads a varint whose bytes from `position` on may number at most `budget`; `start` is the
offset of its first byte.  The answer holds the value and the number of bytes read. -/
def varintFrom (b : Bytes) (start : Int) : (budget : Nat) → (position : Int) →
    Except DexError (Nat × Nat)
  | 0, _ => .error (.varintTooLong start)
  | budget + 1, position =>
    match b.at? position with
    | none => .error (.outOfBounds position 1 b.size)
    | some byte =>
      if byte.toNat < 0x80 then .ok (byte.toNat, 1)
      else do
        let (value, count) ← b.varintFrom start budget (position + 1)
        return (byte.toNat % 0x80 + 0x80 * value, count + 1)

/-- Reads the unsigned varint (little-endian base 128, at most five bytes, the high bit set on
all but the last) at `offset`: its value and its number of bytes. -/
def varint (b : Bytes) (offset : Int) : Except DexError (Nat × Nat) :=
  b.varintFrom offset 5 offset

end Bytes

end DexDiscovery
