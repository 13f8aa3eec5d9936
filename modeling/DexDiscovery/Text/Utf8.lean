import DexDiscovery.Text.Basic

/-!
# UTF-8

The form in which texts are written to files, and in which configuration files and some archive
entry names are read.  Surrogates have no UTF-8 form, so writing is refused exactly for a text
that holds one; reading accepts the well-formed sequences only (shortest forms, no surrogates,
nothing above `0x10FFFF`).
-/

namespace DexDiscovery

namespace CodePoint

/-- The bytes of a code point, whether it is a surrogate or not. -/
def utf8 (c : CodePoint) : List UInt8 :=
  let n := c.val
  if n < 0x80 then [UInt8.ofNat n]
  else if n < 0x800 then [UInt8.ofNat (0xC0 + n / 0x40), UInt8.ofNat (0x80 + n % 0x40)]
  else if n < 0x10000 then
    [UInt8.ofNat (0xE0 + n / 0x1000), UInt8.ofNat (0x80 + n / 0x40 % 0x40),
     UInt8.ofNat (0x80 + n % 0x40)]
  else
    [UInt8.ofNat (0xF0 + n / 0x40000), UInt8.ofNat (0x80 + n / 0x1000 % 0x40),
     UInt8.ofNat (0x80 + n / 0x40 % 0x40), UInt8.ofNat (0x80 + n % 0x40)]

end CodePoint

namespace Text

/-- The UTF-8 form of a text, unless it holds a surrogate. -/
def utf8? (t : Text) : Option (List UInt8) :=
  if t.hasSurrogate then none else some (t.flatMap CodePoint.utf8)

/-- The low six bits of a continuation byte `10xxxxxx`. -/
def continuation? (b : UInt8) : Option Nat :=
  if 0x80 ≤ b && b < 0xC0 then some (b.toNat - 0x80) else none

/-- Reads well-formed UTF-8; `read` holds the code points already read, last first. -/
def ofUtf8Onto (read : Text) : List UInt8 → Option Text
  | [] => some read.reverse
  | a :: rest =>
    if a < 0x80 then ofUtf8Onto (CodePoint.ofNat a.toNat :: read) rest
    else match rest with
      | [] => none
      | b :: rest => do
        let y ← continuation? b
        if 0xC2 ≤ a && a < 0xE0 then
          ofUtf8Onto (CodePoint.ofNat ((a.toNat - 0xC0) * 0x40 + y) :: read) rest
        else match rest with
          | [] => none
          | c :: rest => do
            let z ← continuation? c
            if 0xE0 ≤ a && a < 0xF0 then
              let n := (a.toNat - 0xE0) * 0x1000 + y * 0x40 + z
              if n < 0x800 || (0xD800 ≤ n && n < 0xE000) then none
              else ofUtf8Onto (CodePoint.ofNat n :: read) rest
            else match rest with
              | [] => none
              | d :: rest => do
                let w ← continuation? d
                let n := (a.toNat - 0xF0) * 0x40000 + y * 0x1000 + z * 0x40 + w
                if 0xF0 ≤ a && a < 0xF5 && 0x10000 ≤ n && n < 0x110000 then
                  ofUtf8Onto (CodePoint.ofNat n :: read) rest
                else none

/-- The text that a sequence of bytes is the UTF-8 form of, if there is one. -/
def ofUtf8? (bytes : List UInt8) : Option Text :=
  ofUtf8Onto [] bytes

end Text

end DexDiscovery
