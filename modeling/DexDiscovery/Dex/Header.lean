import DexDiscovery.Dex.Read

/-!
# The header of a dex image

A dex image begins with a fixed header of 112 bytes, which names the version of the format and
says where every table lies and how many entries it has.  `Header.read` refuses, in this order, a
buffer that is too small, a wrong magic, an unsupported version and a wrong byte order; it checks
nothing about the tables.
-/

namespace DexDiscovery

/-- Where a table lies: how many entries (or bytes) it has and the offset of the first. -/
structure Extent where
  size : Nat
  offset : Nat
deriving DecidableEq, Repr

/-- The header of a dex image. -/
structure Header where
  /-- The three digits of the version. -/
  version : Text
  checksum : Nat
  signature : Bytes
  fileSize : Nat
  headerSize : Nat
  endianTag : Nat
  link : Extent
  mapOffset : Nat
  strings : Extent
  types : Extent
  protos : Extent
  fields : Extent
  methods : Extent
  classes : Extent
  data : Extent
deriving DecidableEq, Repr

namespace Header

/-- The size of a header. -/
def byteSize : Nat := 112

/-- The first four bytes of an image: `dex` and a line feed. -/
def magic : List UInt8 := [0x64, 0x65, 0x78, 0x0A]

/-- The supported versions, each three digits and a zero byte: 035 to 040. -/
def supportedVersions : List (List UInt8) :=
  [[0x30, 0x33, 0x35, 0], [0x30, 0x33, 0x36, 0], [0x30, 0x33, 0x37, 0],
   [0x30, 0x33, 0x38, 0], [0x30, 0x33, 0x39, 0], [0x30, 0x34, 0x30, 0]]

/-- The tag that a little-endian image holds at offset 40. -/
def littleEndianTag : Nat := 0x12345678

/-- The same tag in the other byte order. -/
def bigEndianTag : Nat := 0x78563412

/-- Checks that an image is one this library reads. -/
def check (b : Bytes) : Except DexError Unit := do
  if b.size < byteSize then throw (.imageTooSmall b.size)
  if (← b.slice 0 4).toList ≠ magic then throw .missingMagic
  let version := (← b.slice 4 4).toList
  if version ∉ supportedVersions then throw (.unsupportedVersion version)
  let tag ← b.u32 40
  if tag = bigEndianTag then throw .bigEndian
  if tag ≠ littleEndianTag then throw (.badEndianTag tag)

/-- The size and the offset that stand side by side at `offset`. -/
def extentAt (b : Bytes) (offset : Int) : Except DexError Extent := do
  return { size := ← b.u32 offset, offset := ← b.u32 (offset + 4) }

/-- The fields of a header that has been checked. -/
def fieldsOf (b : Bytes) : Except DexError Header := do
  return {
    version := (← b.slice 4 3).toList.map fun byte => CodePoint.ofNat byte.toNat
    checksum := ← b.u32 8
    signature := ← b.slice 12 20
    fileSize := ← b.u32 32
    headerSize := ← b.u32 36
    endianTag := ← b.u32 40
    link := ← extentAt b 44
    mapOffset := ← b.u32 52
    strings := ← extentAt b 56
    types := ← extentAt b 64
    protos := ← extentAt b 72
    fields := ← extentAt b 80
    methods := ← extentAt b 88
    classes := ← extentAt b 96
    data := ← extentAt b 104 }

/-- Reads the header of an image. -/
def read (b : Bytes) : Except DexError Header := do
  check b
  fieldsOf b

end Header

end DexDiscovery
