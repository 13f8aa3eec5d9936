import DexDiscovery.Bytes

/-!
# CRC-32

The check sum that an archive keeps of each entry: the remainder of the content, taken as a
polynomial over the two-element field with the low bits first, by the polynomial `0xEDB88320`.
-/

namespace DexDiscovery

namespace Crc32

/-- Divides one bit out of the remainder. -/
def step (crc : UInt32) : UInt32 :=
  if crc &&& 1 = 1 then (crc >>> 1) ^^^ 0xEDB88320 else crc >>> 1

/-- Divides a whole byte out of the remainder. -/
def stepByte (crc : UInt32) : UInt32 :=
  step (step (step (step (step (step (step (step crc)))))))

/-- The remainders of the 256 byte values. -/
def table : Array UInt32 :=
  Array.ofFn fun i : Fin 256 => stepByte (UInt32.ofNat i.val)

/-- The remainder after one more byte. -/
def update (crc : UInt32) (byte : UInt8) : UInt32 :=
  table.getD ((crc ^^^ byte.toUInt32) &&& 0xFF).toNat 0 ^^^ (crc >>> 8)

/-- The check sum of a byte sequence. -/
def checksum (b : Bytes) : Nat :=
  (b.foldl update 0xFFFFFFFF ^^^ 0xFFFFFFFF).toNat

end Crc32

end DexDiscovery
