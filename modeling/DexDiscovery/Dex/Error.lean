import DexDiscovery.Bytes
import DexDiscovery.Text.Quoted

/-!
# Faults of a dex image

Every way in which decoding a dex image can fail, as data.  **Truncation** (`outOfBounds`: a read
needed bytes that the buffer does not have) is told apart from malformation, which no further
bytes could mend.
-/

namespace DexDiscovery

/-- The tables of a dex image that are looked up by index. -/
inductive DexTable where
  | string
  | type
  | method
deriving DecidableEq, Repr

/-- The word for a table in messages. -/
def DexTable.name : DexTable → Text
  | .string => "string"
  | .type => "type"
  | .method => "method"

/-- Why a dex image, or a part of it, cannot be read. -/
inductive DexError where
  /-- `size` bytes from `offset` do not lie in a buffer of `length` bytes. -/
  | outOfBounds (offset size : Int) (length : Nat)
  /-- The varint at `offset` does not end within five bytes. -/
  | varintTooLong (offset : Int)
  /-- No code unit of a string begins with this byte. -/
  | badLeadByte (byte : UInt8) (offset : Int)
  /-- A continuation byte of a string was expected. -/
  | badContinuationByte (byte : UInt8) (offset : Int)
  /-- The image is smaller than a header. -/
  | imageTooSmall (size : Nat)
  | missingMagic
  | unsupportedVersion (version : List UInt8)
  | bigEndian
  | badEndianTag (tag : Nat)
  /-- An index that is no place of a table with `size` entries. -/
  | indexOutOfRange (table : DexTable) (index : Int) (size : Nat)
  /-- The header was asked for before it was read. -/
  | notParsed
deriving DecidableEq, Repr

namespace DexError

/-- A read past the end of the buffer, which a longer buffer might have satisfied. -/
def isTruncation : DexError → Bool
  | outOfBounds .. => true
  | _ => false

/-- The message of a fault. -/
def message : DexError → Text
  | outOfBounds offset size length =>
    "read of " ++ Text.ofInt size ++ " byte(s) at offset 0x" ++ Text.hex offset
      ++ " exceeds buffer length 0x" ++ Text.hex length
  | varintTooLong offset => "uleb128 at offset 0x" ++ Text.hex offset ++ " exceeds 5 bytes"
  | badLeadByte byte offset =>
    "invalid MUTF-8 lead byte 0x" ++ Text.hexByte byte ++ " at offset 0x" ++ Text.hex offset
  | badContinuationByte byte offset =>
    "invalid MUTF-8 continuation byte 0x" ++ Text.hexByte byte ++ " at offset 0x"
      ++ Text.hex offset
  | imageTooSmall size =>
    "file too small for a dex header (" ++ Text.ofNat size ++ " bytes)"
  | missingMagic => "missing dex magic"
  | unsupportedVersion version => "unsupported dex version " ++ Text.quotedBytes version
  | bigEndian => "big-endian dex files are not supported"
  | badEndianTag tag =>
    "invalid endian tag 0x" ++ Text.padLeft 8 0x30 (Text.ofNatBase 16 tag)
  | indexOutOfRange table index size =>
    table.name ++ " index " ++ Text.ofInt index ++ " out of range (table size "
      ++ Text.ofNat size ++ ")"
  | notParsed => "parse() has not been called"

end DexError

end DexDiscovery
