import DexDiscovery.Dex.Read
import DexDiscovery.Text.Utf16

/-!
# Modified UTF-8

The strings of a dex image are stored one **code unit** at a time, in one to three bytes:

* `0xxxxxxx` for a unit below `0x80`;
* `110xxxxx 10xxxxxx` for a unit below `0x800`;
* `1110xxxx 10xxxxxx 10xxxxxx` for any unit.

Zero is written in the two-byte form, so that no written string holds a zero byte, and both halves
of a surrogate pair are written separately.  Reading accepts longer forms than necessary.
-/

namespace DexDiscovery

namespace Mutf8

/-- The low six bits of the continuation byte `10xxxxxx` at `position`. -/
def continuation (b : Bytes) (position : Int) : Except DexError Nat := do
  let byte ← b.u8 position
  if 0x80 ≤ byte ∧ byte < 0xC0 then return byte - 0x80
  else throw (.badContinuationByte (UInt8.ofNat byte) position)

/-- Reads one code unit: the unit and the number of bytes it takes. -/
def readUnit (b : Bytes) (position : Int) : Except DexError (CodeUnit × Nat) := do
  let lead ← b.u8 position
  if lead < 0x80 then return (UInt16.ofNat lead, 1)
  else if 0xC0 ≤ lead ∧ lead < 0xE0 then
    let x ← continuation b (position + 1)
    return (UInt16.ofNat ((lead - 0xC0) * 0x40 + x), 2)
  else if 0xE0 ≤ lead ∧ lead < 0xF0 then
    let x ← continuation b (position + 1)
    let y ← continuation b (position + 2)
    return (UInt16.ofNat ((lead - 0xE0) * 0x1000 + x * 0x40 + y), 3)
  else throw (.badLeadByte (UInt8.ofNat lead) position)

/-- Reads `count` code units from `position` on and answers them with the position after the
last; `read` holds the units before, last first. -/
def readUnitsOnto (b : Bytes) : (count : Nat) → (position : Int) → (read : List CodeUnit) →
    Except DexError (List CodeUnit × Int)
  | 0, position, read => .ok (read.reverse, position)
  | count + 1, position, read => do
    let (unit, size) ← readUnit b position
    readUnitsOnto b count (position + size) (unit :: read)

/-- The text of the `count` code units stored from `offset` on, and the number of bytes they
take. -/
def decode (b : Bytes) (offset : Int) (count : Nat) : Except DexError (Text × Int) := do
  let (units, stop) ← readUnitsOnto b count offset []
  return (Text.ofUnits units, stop - offset)

/-- The bytes of one code unit. -/
def encodeUnit (u : CodeUnit) : List UInt8 :=
  let n := u.toNat
  if 0 < n ∧ n < 0x80 then [UInt8.ofNat n]
  else if n < 0x800 then [UInt8.ofNat (0xC0 + n / 0x40), UInt8.ofNat (0x80 + n % 0x40)]
  else [UInt8.ofNat (0xE0 + n / 0x1000), UInt8.ofNat (0x80 + n / 0x40 % 0x40),
        UInt8.ofNat (0x80 + n % 0x40)]

/-- The stored form of a text and its number of code units. -/
def encode (t : Text) : List UInt8 × Nat :=
  (t.units.flatMap encodeUnit, t.units.length)

end Mutf8

end DexDiscovery
