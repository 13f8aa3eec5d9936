import DexDiscovery.Text.Basic

/-!
# Byte sequences

What a file holds, with the two readings that every binary format here needs: hexadecimal text and
little-endian numbers.  Numbers are unbounded, so that no offset or length wraps.
-/

namespace DexDiscovery

/-- A sequence of bytes. -/
abbrev Bytes := Array UInt8

/-- The number whose base-256 digits, least significant first, are the given bytes. -/
def littleEndian : List UInt8 → Nat
  | [] => 0
  | b :: rest => b.toNat + 256 * littleEndian rest

namespace Bytes

/-- Two lower-case hexadecimal digits for each byte. -/
def hex (b : Bytes) : Text :=
  b.toList.flatMap Text.hexByte

/-- The byte at an offset, if the offset lies in the sequence. -/
def at? (b : Bytes) (offset : Int) : Option UInt8 :=
  if 0 ≤ offset then b[offset.toNat]? else none

/-- Whether the sequence begins with the given bytes. -/
def startsWith (b : Bytes) (start : List UInt8) : Bool :=
  (b.extract 0 start.length).toList == start

/-- The little-endian number in `width` bytes from `offset` on; bytes past the end count as
absent. -/
def wordAt (b : Bytes) (offset width : Nat) : Nat :=
  littleEndian (b.extract offset (offset + width)).toList

end Bytes

end DexDiscovery
