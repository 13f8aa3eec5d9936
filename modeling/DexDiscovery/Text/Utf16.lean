import DexDiscovery.Text.Basic

/-!
# UTF-16 code units

The strings of a dex image are sequences of 16-bit code units.  `ofUnits` reads such a sequence as
text: a high surrogate **immediately followed by** a low one is one supplementary code point, and
every other surrogate stands for itself.  `units` writes a text in code units.
-/

namespace DexDiscovery

/-- A UTF-16 code unit. -/
abbrev CodeUnit := UInt16

namespace CodeUnit

/-- The first half of a surrogate pair. -/
def isHigh (u : CodeUnit) : Bool :=
  0xD800 ≤ u.toNat && u.toNat < 0xDC00

/-- The second half of a surrogate pair. -/
def isLow (u : CodeUnit) : Bool :=
  0xDC00 ≤ u.toNat && u.toNat < 0xE000

/-- The code point of the same number. -/
def codePoint (u : CodeUnit) : CodePoint :=
  ⟨u.toNat, Nat.lt_trans u.toNat_lt (by decide)⟩

/-- The supplementary code point that a surrogate pair stands for. -/
def pair (high low : CodeUnit) : CodePoint :=
  ⟨0x10000 + high.toNat % 0x400 * 0x400 + low.toNat % 0x400, by omega⟩

end CodeUnit

namespace CodePoint

/-- The code units of a code point: two above `0xFFFF`, one otherwise. -/
def units (c : CodePoint) : List CodeUnit :=
  if c.val < 0x10000 then [UInt16.ofNat c.val]
  else [UInt16.ofNat (0xD800 + (c.val - 0x10000) / 0x400),
        UInt16.ofNat (0xDC00 + (c.val - 0x10000) % 0x400)]

end CodePoint

namespace Text

/-- The code units of a text, in order. -/
def units (t : Text) : List CodeUnit :=
  t.flatMap CodePoint.units

/-- The text of a sequence of code units. -/
def ofUnits : List CodeUnit → Text
  | [] => []
  | [u] => [u.codePoint]
  | u :: v :: rest =>
    if u.isHigh && v.isLow then CodeUnit.pair u v :: ofUnits rest
    else u.codePoint :: ofUnits (v :: rest)

end Text

end DexDiscovery
