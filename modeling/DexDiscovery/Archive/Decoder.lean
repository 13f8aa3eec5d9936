import DexDiscovery.Archive.Bits

/-!
# Fetching and decoding

The data of an entry are fetched in **portions** and given to a decoder, which answers what they
stand for.  Turn by turn, more data are fetched and decoded, until the compressed data end, all that
is claimed for the entry has been decoded, or as many bytes are there as the entry should have.
What lies behind that is never looked at, and may be damaged.

A decoder answers for all the data that have been fetched so far.  If it has had no room for all
that they stand for, some of them are left unread, and less is fetched in the next turn.  Data that
are claimed and do not stand in the file are missed only in the turn in which they would be fetched.
-/

namespace DexDiscovery

namespace Archive

/-- Why an archive, or one of its entries, cannot be read. -/
inductive Error where
  /-- The archive is damaged. -/
  | corrupt
  /-- The entry lies before the beginning of the archive, or behind where a file can end. -/
  | outOfFile
  /-- The offset of the entry does not fit into the numbers of the system. -/
  | outOfReach
  /-- A name is not in the encoding that its entry declares. -/
  | nameEncoding
  | encrypted
  /-- A format version, a compression method or a kind of data that is not supported. -/
  | unsupported
  /-- The file ends before the data of the entry do. -/
  | cutOff
  /-- The data should be compressed with bzip2 and are not. -/
  | notBzip2
  /-- The data should be compressed with LZMA and are not. -/
  | notLzma
deriving DecidableEq, Repr

/-- What a decoder makes of the data that have been fetched. -/
structure Decoded where
  output : Bytes := #[]
  /-- The number of bytes that have not been read for want of room. -/
  unread : Nat := 0
  /-- Whether the compressed data have come to their end. -/
  ended : Bool := false
deriving DecidableEq, Repr

/-- Decodes the data that have been fetched; `all` says whether they are all that is claimed for the
entry, and `written` how much of the output was there before the last portion. -/
abbrev Decoder := (data : Bytes) → (all : Bool) → (written : Nat) → Except Error Decoded

/-- The greatest number of bytes that are fetched in one turn, or decoded for want of room. -/
def portion : Nat := 0x40000000

/-- The number of bytes that are fetched in one turn though there is hardly any room. -/
def leastPortion : Nat := 4096

/-- How many bytes are there after the next turn, when `taken` of those that are `claimed` have been
fetched, and the file has so many of them as are `available`. -/
def fetch (available claimed taken unread : Nat) : Except Error Nat :=
  if portion ≤ unread ∨ claimed ≤ taken then .ok taken
  else if available ≤ taken then .error .cutOff
  else .ok (min available (taken + max leastPortion (portion - unread)))

/-- Goes on fetching and decoding when `taken` bytes have been fetched and `before` is what they
stand for; `size` is the number of bytes that the entry should have. -/
def decodeFrom (decoder : Decoder) (data : Bytes) (claimed size : Nat) :
    (fuel taken : Nat) → (before : Decoded) → Except Error Bytes
  | 0, _, before => .ok before.output
  | fuel + 1, taken, before => do
    let taken ← fetch data.size claimed taken before.unread
    let now ← decoder (data.extract 0 taken) (claimed ≤ taken) before.output.size
    if now.ended ∨ (claimed ≤ taken ∧ now.unread = 0) ∨ size ≤ now.output.size then
      return now.output
    decodeFrom decoder data claimed size fuel taken now

/-- The content of an entry: `data` are those bytes of its compressed data that stand in the file,
`claimed` is the number of bytes that they should have, and `size` that of the content.  A turn that
leaves something unread has written something, and behind any other one something is fetched, which
bounds the number of turns. -/
def decode (decoder : Decoder) (data : Bytes) (claimed size : Nat) : Except Error Bytes := do
  let output ← decodeFrom decoder data claimed size ((claimed + 1) * (size + 2)) 0 {}
  return output.extract 0 size

end Archive

end DexDiscovery
