import DexDiscovery.Dex.Cursor

/-!
# Class data

The members of a class: two lists of fields and two of methods, written as varints.  The four list
sizes come first, then the entries, each a difference to the index before it (the first entry of a
list: the index itself), access flags and, for a method, the offset of its code.
-/

namespace DexDiscovery

/-- A field of a class. -/
structure EncodedField where
  indexDelta : Nat
  accessFlags : Nat
deriving DecidableEq, Repr

/-- A method of a class; a code offset of zero means that it has no code. -/
structure EncodedMethod where
  indexDelta : Nat
  accessFlags : Nat
  codeOffset : Nat
deriving DecidableEq, Repr

/-- The members of a class, in encoded order. -/
structure ClassData where
  staticFields : List EncodedField := []
  instanceFields : List EncodedField := []
  directMethods : List EncodedMethod := []
  virtualMethods : List EncodedMethod := []
deriving DecidableEq, Repr

/-- The sums of the entries up to each place, on top of `total`. -/
def runningSumsFrom (total : Int) : List Int → List Int
  | [] => []
  | d :: rest => (total + d) :: runningSumsFrom (total + d) rest

/-- The sums of the entries up to each place: the indices that a list of differences encodes. -/
def runningSums (deltas : List Int) : List Int :=
  runningSumsFrom 0 deltas

namespace ClassData

/-- The indices of the virtual methods in the method table. -/
def virtualIndices (d : ClassData) : List Int :=
  runningSums (d.virtualMethods.map fun m => (m.indexDelta : Int))

/-- Reads one field. -/
def readField : CursorM EncodedField := do
  let indexDelta ← Cursor.readVarint
  let accessFlags ← Cursor.readVarint
  return { indexDelta, accessFlags }

/-- Reads one method. -/
def readMethod : CursorM EncodedMethod := do
  let indexDelta ← Cursor.readVarint
  let accessFlags ← Cursor.readVarint
  let codeOffset ← Cursor.readVarint
  return { indexDelta, accessFlags, codeOffset }

/-- Reads the class data at the position: the sizes, then the entries. -/
def readMembers : CursorM ClassData := do
  let staticSize ← Cursor.readVarint
  let instanceSize ← Cursor.readVarint
  let directSize ← Cursor.readVarint
  let virtualSize ← Cursor.readVarint
  let staticFields ← Cursor.readMany staticSize readField
  let instanceFields ← Cursor.readMany instanceSize readField
  let directMethods ← Cursor.readMany directSize readMethod
  let virtualMethods ← Cursor.readMany virtualSize readMethod
  return { staticFields, instanceFields, directMethods, virtualMethods }

/-- Reads the class data at `offset` and moves past it; on a failure the cursor stays at the
first varint that could not be read. -/
def read (offset : Int) : CursorM ClassData := do
  Cursor.seek offset
  readMembers

/-- The class data at `offset` of a buffer. -/
def decode (b : Bytes) (offset : Int) : Except DexError ClassData :=
  match (read offset).run { bytes := b } with
  | .ok data _ => .ok data
  | .error e _ => .error e

end ClassData

end DexDiscovery
