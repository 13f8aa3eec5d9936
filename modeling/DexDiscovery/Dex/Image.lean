import DexDiscovery.Dex.ClassData
import DexDiscovery.Dex.Header
import DexDiscovery.Dex.Mutf8

/-!
# Tables of a dex image

An image is a buffer with the tables read from it: the offsets of its strings, the names of its
types, prototypes, methods and class definitions.  `Image.read` fills the tables in that order and
stops at the first that does not lie in the buffer, so that **every table is either complete or
empty**.  String data and class data are decoded when they are asked for, and the answer depends on
the image alone.
-/

namespace DexDiscovery

/-- A method prototype. -/
structure Proto where
  shorty : Nat
  returnType : Nat
  parametersOffset : Nat
deriving DecidableEq, Repr

/-- A method: the type that declares it, its prototype and its name, all by index. -/
structure MethodId where
  declaringType : Nat
  proto : Nat
  name : Nat
deriving DecidableEq, Repr

/-- A class definition.  A class without a superclass, a source file or members has `none`
there. -/
structure ClassDef where
  typeIndex : Nat
  accessFlags : Nat
  superclass? : Option Nat
  interfacesOffset : Nat
  sourceFile? : Option Nat
  annotationsOffset : Nat
  dataOffset? : Option Nat
  staticValuesOffset : Nat
deriving DecidableEq, Repr

/-- A buffer with the tables read from it. -/
structure Image where
  bytes : Bytes
  /-- The offset of each string. -/
  strings : Array Nat := #[]
  /-- The string that names each type. -/
  types : Array Nat := #[]
  protos : Array Proto := #[]
  methods : Array MethodId := #[]
  classes : Array ClassDef := #[]
deriving DecidableEq, Repr

namespace Image

/-! ## Reading the tables -/

/-- The index that a stored number stands for: the largest 32-bit number means that there is
none. -/
def index? (stored : Nat) : Option Nat :=
  if stored = 0xFFFFFFFF then none else some stored

/-- The offset that a stored number stands for: zero means that there is none. -/
def offset? (stored : Nat) : Option Nat :=
  if stored = 0 then none else some stored

/-- Reads the prototype at `offset`. -/
def readProto (b : Bytes) (offset : Int) : Except DexError Proto := do
  return {
    shorty := ← b.u32 offset
    returnType := ← b.u32 (offset + 4)
    parametersOffset := ← b.u32 (offset + 8) }

/-- Reads the method at `offset`. -/
def readMethodId (b : Bytes) (offset : Int) : Except DexError MethodId := do
  return {
    declaringType := ← b.u16 offset
    proto := ← b.u16 (offset + 2)
    name := ← b.u32 (offset + 4) }

/-- Reads the class definition at `offset`; the three optional entries are read first. -/
def readClassDef (b : Bytes) (offset : Int) : Except DexError ClassDef := do
  let superclass ← b.u32 (offset + 8)
  let sourceFile ← b.u32 (offset + 16)
  let data ← b.u32 (offset + 24)
  return {
    typeIndex := ← b.u32 offset
    accessFlags := ← b.u32 (offset + 4)
    superclass? := index? superclass
    interfacesOffset := ← b.u32 (offset + 12)
    sourceFile? := index? sourceFile
    annotationsOffset := ← b.u32 (offset + 20)
    dataOffset? := offset? data
    staticValuesOffset := ← b.u32 (offset + 28) }

/-- Reads `count` records of `width` bytes each from `offset` on, after those in `read`. -/
def readRecordsOnto {α : Type} (record : Int → Except DexError α) (width : Nat) :
    (count : Nat) → (offset : Int) → (read : Array α) → Except DexError (Array α)
  | 0, _, read => .ok read
  | count + 1, offset, read => do
    let x ← record offset
    readRecordsOnto record width count (offset + width) (read.push x)

/-- Reads a table of records of `width` bytes each. -/
def readTable {α : Type} (record : Int → Except DexError α) (width : Nat) (extent : Extent) :
    Except DexError (Array α) :=
  readRecordsOnto record width extent.size extent.offset #[]

/-- Fills the tables of an image in order, up to the first that cannot be read; the answer holds
the fault of that one, if there is one. -/
def readTables (image : Image) (h : Header) : Image × Option DexError :=
  let b := image.bytes
  match readTable b.u32 4 h.strings with
  | .error e => (image, some e)
  | .ok strings =>
    let image := { image with strings }
    match readTable b.u32 4 h.types with
    | .error e => (image, some e)
    | .ok types =>
      let image := { image with types }
      match readTable (readProto b) 12 h.protos with
      | .error e => (image, some e)
      | .ok protos =>
        let image := { image with protos }
        match readTable (readMethodId b) 8 h.methods with
        | .error e => (image, some e)
        | .ok methods =>
          let image := { image with methods }
          match readTable (readClassDef b) 32 h.classes with
          | .error e => (image, some e)
          | .ok classes => ({ image with classes }, none)

/-! ## Looking things up -/

/-- The entry of a table at an index. -/
def lookup {α : Type} (table : DexTable) (entries : Array α) (index : Int) :
    Except DexError α :=
  match if 0 ≤ index then entries[index.toNat]? else none with
  | some entry => .ok entry
  | none => .error (.indexOutOfRange table index entries.size)

/-- The string stored at `offset`: its number of code units, then the units. -/
def stringAt (b : Bytes) (offset : Int) : Except DexError Text := do
  let (count, size) ← b.varint offset
  let (text, _) ← Mutf8.decode b (offset + size) count
  return text

/-- The string of an index. -/
def string (image : Image) (index : Int) : Except DexError Text := do
  stringAt image.bytes (← lookup .string image.strings index)

/-- The descriptor of a type, such as `Ljava/lang/Object;`. -/
def descriptor (image : Image) (index : Int) : Except DexError Text := do
  image.string (← lookup .type image.types index)

/-- The method of an index. -/
def method (image : Image) (index : Int) : Except DexError MethodId :=
  lookup .method image.methods index

/-- The name of the method of an index. -/
def methodName (image : Image) (index : Int) : Except DexError Text := do
  image.string (← image.method index).name

/-- The descriptor of a defined class. -/
def descriptorOf (image : Image) (c : ClassDef) : Except DexError Text :=
  image.descriptor c.typeIndex

/-- The members of a defined class, `none` for a class without members. -/
def classData? (image : Image) (c : ClassDef) : Except DexError (Option ClassData) :=
  match c.dataOffset? with
  | none => .ok none
  | some offset => (ClassData.decode image.bytes offset).map some

/-- The names of the virtual methods of a class, in encoded order. -/
def virtualMethodNames (image : Image) (c : ClassDef) : Except DexError (List Text) := do
  match ← image.classData? c with
  | none => return []
  | some data => data.virtualIndices.mapM image.methodName

end Image

end DexDiscovery
