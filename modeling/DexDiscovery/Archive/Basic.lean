import DexDiscovery.Archive.Bzip2
import DexDiscovery.Archive.EntryName
import DexDiscovery.Archive.Inflate
import DexDiscovery.Archive.Lzma

/-!
# Archives

An archive is read **from its end**: a record there says where the directory lies, the directory
lists the entries, and each entry points back to a header in front of its data.  Whatever comes
before the first entry is skipped over, which is why every stored offset is corrected by the
distance between where the directory is and where it claims to be.

Reading is careful where it would otherwise be misled: the two names of an entry must agree, no
entry may reach into the next one, and the check sum of the content must be right.
-/

namespace DexDiscovery

namespace Archive

/-- An entry of the directory. -/
structure Entry where
  /-- The name as the directory spells it. -/
  storedName : Text
  flags : Nat
  method : Nat
  checksum : Nat
  compressedSize : Nat
  size : Nat
  /-- The offset of the header in front of the data. -/
  offset : Int
deriving DecidableEq, Repr

/-- The name under which an entry is found. -/
def Entry.name (e : Entry) : Text :=
  shownName e.storedName

/-! ## Finding the directory -/

/-- Where the directory of an archive lies: the record at the end, read. -/
structure EndRecord where
  /-- The offset of the record. -/
  position : Nat
  directorySize : Nat
  directoryOffset : Nat
  /-- Whether the large form of the record stands before it. -/
  large : Bool
deriving DecidableEq, Repr

/-- The size of the record at the end of an archive. -/
def endSize : Nat := 22

/-- The size of the large form of that record. -/
def largeEndSize : Nat := 56

/-- The size of the record that points to the large form. -/
def locatorSize : Nat := 20

/-- What the record at the end of an archive begins with. -/
def endMark : List UInt8 := [0x50, 0x4B, 0x05, 0x06]

/-- What the large form of that record begins with. -/
def largeEndMark : List UInt8 := [0x50, 0x4B, 0x06, 0x06]

/-- What the record that points to the large form begins with. -/
def locatorMark : List UInt8 := [0x50, 0x4B, 0x06, 0x07]

/-- Whether the given bytes stand at an offset. -/
def hasMark (b : Bytes) (mark : List UInt8) (offset : Nat) : Bool :=
  (b.extract offset (offset + mark.length)).toList == mark

/-- The greatest offset below `stop` and not below `least` at which the mark of the record at the
end stands. -/
def lastMark? (b : Bytes) (least : Nat) : (stop : Nat) → Option Nat
  | 0 => none
  | stop + 1 =>
    if stop < least then none
    else if hasMark b endMark stop then some stop
    else lastMark? b least stop

/-- The offset of the record at the end: the last place where it can stand without a comment, or
else the last place where its mark stands. -/
def endPosition? (b : Bytes) : Option Nat :=
  if b.size < endSize then none
  else
    let last := b.size - endSize
    if hasMark b endMark last && b.wordAt (last + 20) 2 == 0 then some last
    else (lastMark? b (b.size - endSize - 65536) b.size).filter (· + endSize ≤ b.size)

/-- Reads the record at the end, in its large form where there is one. -/
def endRecord (b : Bytes) : Except Error EndRecord :=
  match endPosition? b with
  | none => .error .corrupt
  | some position =>
    let small : EndRecord :=
      { position, directorySize := b.wordAt (position + 12) 4
        directoryOffset := b.wordAt (position + 16) 4, large := false }
    if position < locatorSize ∨ !hasMark b locatorMark (position - locatorSize) then .ok small
    else
      let locator := position - locatorSize
      if b.wordAt (locator + 4) 4 ≠ 0 ∨ 1 < b.wordAt (locator + 16) 4 then .error .corrupt
      else if locator < largeEndSize then .error .corrupt
      else
        let record := locator - largeEndSize
        if hasMark b largeEndMark record then
          .ok { position, directorySize := b.wordAt (record + 40) 8
                directoryOffset := b.wordAt (record + 48) 8, large := true }
        else .ok small

namespace EndRecord

/-- Where the directory begins: it ends right before the records at the end. -/
def directoryStart (r : EndRecord) : Int :=
  r.position - r.directorySize - if r.large then largeEndSize + locatorSize else 0

/-- What has to be added to a stored offset. -/
def shift (r : EndRecord) : Int :=
  r.directoryStart - r.directoryOffset

end EndRecord

/-! ## Reading the directory -/

/-- The size of a directory entry without its name, extra fields and comment. -/
def directoryEntrySize : Nat := 46

/-- What a directory entry begins with. -/
def directoryMark : List UInt8 := [0x50, 0x4B, 0x01, 0x02]

/-- The greatest version of the format that is read. -/
def supportedVersion : Nat := 63

/-- The three numbers of an entry that may be too large for its fixed fields. -/
structure Large where
  size : Nat
  compressedSize : Nat
  offset : Nat

/-- The next eight-byte number of an extra field, with the rest of the field. -/
def nextLarge (field : Bytes) : Except Error (Nat × Bytes) :=
  if field.size < 8 then .error .corrupt
  else .ok (field.wordAt 0 8, field.extract 8 field.size)

/-- Takes the numbers that did not fit from the extra field that is kept for them. -/
def Large.ofField (field : Bytes) (l : Large) : Except Error Large := do
  let (size, field) ←
    if l.size = 0xFFFFFFFFFFFFFFFF ∨ l.size = 0xFFFFFFFF then nextLarge field
    else pure (l.size, field)
  let (compressedSize, field) ←
    if l.compressedSize = 0xFFFFFFFF then nextLarge field else pure (l.compressedSize, field)
  let (offset, _) ← if l.offset = 0xFFFFFFFF then nextLarge field else pure (l.offset, field)
  return { size, compressedSize, offset }

/-- Goes through the extra fields of an entry: each has a two-byte kind and a two-byte size. -/
def Large.ofExtra (extra : Bytes) (l : Large) : Except Error Large :=
  if 4 ≤ extra.size then
    let size := extra.wordAt 2 2
    if extra.size < size + 4 then .error .corrupt
    else do
      let l ← if extra.wordAt 0 2 = 1 then l.ofField (extra.extract 4 (size + 4)) else pure l
      Large.ofExtra (extra.extract (size + 4) extra.size) l
  else .ok l
termination_by extra.size
decreasing_by simp only [Array.size_extract]; omega

/-- The entries of a directory, from `offset` on; `fuel` bounds their number. -/
def readDirectory (directory : Bytes) (shift : Int) :
    (fuel : Nat) → (offset : Nat) → Except Error (List Entry)
  | 0, _ => .ok []
  | fuel + 1, offset =>
    if directory.size ≤ offset then .ok []
    else if directory.size < offset + directoryEntrySize then .error .corrupt
    else if !hasMark directory directoryMark offset then .error .corrupt
    else do
      let field (place width : Nat) : Nat := directory.wordAt (offset + place) width
      let nameStop := offset + directoryEntrySize + field 28 2
      let extraStop := nameStop + field 30 2
      let flags := field 8 2
      let bytes := (directory.extract (offset + directoryEntrySize) nameStop).toList
      let storedName ← match decodeName? (flags / 0x800 % 2 == 1) bytes with
        | some name => pure name
        | none => throw .nameEncoding
      if supportedVersion < field 6 1 then throw .unsupported
      let large ← Large.ofExtra (directory.extract nameStop extraStop)
        { size := field 24 4, compressedSize := field 20 4, offset := field 42 4 }
      let entry : Entry :=
        { storedName, flags, method := field 10 2, checksum := field 16 4
          compressedSize := large.compressedSize, size := large.size
          offset := large.offset + shift }
      let rest ← readDirectory directory shift fuel (extraStop + field 32 2)
      return entry :: rest

end Archive

/-- An archive whose directory has been read. -/
structure Archive where
  bytes : Bytes
  /-- The greatest offset from which the file can be read, which need not have so many bytes. -/
  offsetLimit : Nat
  /-- Where the directory begins. -/
  directoryStart : Int
  /-- The entries in the order of the directory. -/
  entries : List Archive.Entry

namespace Archive

/-- Reads the directory of an archive, in a file that can be read from any offset up to a limit. -/
def ofBytes (offsetLimit : Nat) (b : Bytes) : Except Error Archive := do
  let record ← endRecord b
  let start := record.directoryStart
  if start < 0 then throw .corrupt
  let directory := b.extract start.toNat (start.toNat + record.directorySize)
  let entries ← readDirectory directory record.shift (directory.size + 1) 0
  return { bytes := b, offsetLimit, directoryStart := start, entries }

/-- The names of the entries, in the order of the directory. -/
def names (a : Archive) : List Text :=
  a.entries.map Entry.name

/-! ## Reading an entry -/

/-- The offset that the data of the entry at a place of the directory must not reach beyond: where
the next entry behind it begins or, if there is none, the directory.  Of entries that begin at one
place, all but the first end where they begin. -/
def limit (a : Archive) (place : Nat) (e : Entry) : Int :=
  if (a.entries.take place).any (·.offset == e.offset) then e.offset
  else (((a.entries.map Entry.offset).filter (e.offset < ·)).min?).getD a.directoryStart

/-- The **last** entry of a name, with its place in the directory. -/
def find? (a : Archive) (name : Text) : Option (Entry × Nat) :=
  a.entries.zipIdx.reverse.find? (·.1.name == name)

/-- The size of the header in front of the data of an entry, without name and extra fields. -/
def headerSize : Nat := 30

/-- What that header begins with. -/
def headerMark : List UInt8 := [0x50, 0x4B, 0x03, 0x04]

/-- Whether a flag, given by its number, is set. -/
def Entry.hasFlag (e : Entry) (number : Nat) : Bool :=
  e.flags / Nat.pow 2 number % 2 == 1

/-- The offset of an entry, as far as the file can be read from there. -/
def Entry.place (e : Entry) (offsetLimit : Nat) : Except Error Nat :=
  if e.offset < -0x8000000000000000 ∨ 0x8000000000000000 ≤ e.offset then .error .outOfReach
  else if e.offset < 0 ∨ (offsetLimit : Int) < e.offset then .error .outOfFile
  else .ok e.offset.toNat

/-- The end of the name in the header at an offset. -/
def nameStop (b : Bytes) (offset : Nat) : Nat :=
  offset + headerSize + b.wordAt (offset + 26) 2

/-- Where the data behind the header at an offset begin, or where the file ends. -/
def dataPlace (b : Bytes) (offset : Nat) : Nat :=
  min b.size (nameStop b offset + b.wordAt (offset + 28) 2)

/-- The place where the data of an entry begin, if its header is in order. -/
def dataStart (a : Archive) (e : Entry) (limit : Int) : Except Error Nat := do
  let offset ← e.place a.offsetLimit
  if a.bytes.size < offset + headerSize then throw .corrupt
  if !hasMark a.bytes headerMark offset then throw .corrupt
  if e.hasFlag 5 || e.hasFlag 6 then throw .unsupported
  let isUtf8 := a.bytes.wordAt (offset + 6) 2 / 0x800 % 2 == 1
  let spelled := (a.bytes.extract (offset + headerSize) (nameStop a.bytes offset)).toList
  match decodeName? isUtf8 spelled with
  | none => throw .nameEncoding
  | some name => if name ≠ e.storedName then throw .corrupt
  let start := dataPlace a.bytes offset
  if limit < start + e.compressedSize then throw .corrupt
  if e.hasFlag 0 then throw .encrypted
  return start

/-- The decoder of data that are stored as they are. -/
def stored : Decoder := fun data _ _ => .ok { output := data }

/-- The decoder of a compression method, if the method is known. -/
def decoder? (method : Nat) : Option Decoder :=
  match method with
  | 0 => some stored
  | 8 => some Inflate.decoder
  | 12 => some Bzip2.decoder
  | 14 => some Lzma.decoder
  | _ => none

/-- The data of an entry that begin at a place, as far as they stand in the file. -/
def dataFrom (a : Archive) (e : Entry) (start : Nat) : Bytes :=
  a.bytes.extract start (start + e.compressedSize)

/-- The content of the entry of a name. -/
def content (a : Archive) (name : Text) : Except Error Bytes :=
  match a.find? name with
  | none => .error .corrupt
  | some (entry, place) => do
    let start ← a.dataStart entry (a.limit place entry)
    match decoder? entry.method with
    | none => throw .unsupported
    | some decoder =>
      let content ← decode decoder (a.dataFrom entry start) entry.compressedSize entry.size
      if Crc32.checksum content ≠ entry.checksum then throw .corrupt
      return content

end Archive

end DexDiscovery
