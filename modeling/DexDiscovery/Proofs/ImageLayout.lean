import DexDiscovery.Proofs.History
import DexDiscovery.Proofs.Placement

/-!
# The layout of an image

The header of an image says how many entries each table has and where they begin.  Here the parts of
an image are described by the places where they stand, without the reader: a header in
`Header.StandsIn`, the entries of a table in `Extent.Lists`.

All these parts have a fixed extent, and so do the reads that they are made of.  `Bytes.ReadsTo` says
that an answer is right if the buffer reaches to a given place, and otherwise names a read out of
bounds; such answers compose (`ReadsTo.bind`), from single numbers over the entries up to the whole
table (`readsTo_readTable`).

The tables are filled one after the other (`readTables_eq_fillAll`).  Filling one touches no other
one (`others_of_fill`), so that the tables before the first one that is out of bounds are complete
(`fillAll_append`), and the others are still empty (`fillAll_cons_of_not_fits`).  `parse_outcome`
puts header and tables together.
-/

namespace DexDiscovery

variable {α β : Type} {b : Bytes}

/-! ## Reads of a fixed extent -/

/-- The answer `x` is a good one if the buffer reaches to `stop`, and otherwise names a read that is
out of bounds. -/
structure Bytes.ReadsTo (b : Bytes) (stop : Nat) (x : Except DexError α) (good : α → Prop) :
    Prop where
  within : stop ≤ b.size → ∃ v, x = .ok v ∧ good v
  beyond : b.size < stop → ∃ offset size, x = .error (.outOfBounds offset size b.size)

namespace Bytes.ReadsTo

variable {stop stop' : Nat} {x : Except DexError α} {good : α → Prop}

/-- What needs no read is right in every buffer. -/
theorem pure {v : α} (h : good v) : b.ReadsTo 0 (.ok v) good where
  within _ := ⟨v, rfl, h⟩
  beyond short := absurd short (Nat.not_lt_zero _)

/-- Of two reads, the one that reaches further decides. -/
theorem bind {f : α → Except DexError β} {good' : β → Prop} (first : b.ReadsTo stop x good)
    (next : ∀ v, good v → b.ReadsTo stop' (f v) good') :
    b.ReadsTo (max stop stop') (x >>= f) good' where
  within long := by
    obtain ⟨v, rfl, h⟩ := first.within (by omega)
    exact (next v h).within (by omega)
  beyond short := by
    by_cases long : stop ≤ b.size
    · obtain ⟨v, rfl, h⟩ := first.within long
      exact (next v h).beyond (by omega)
    · obtain ⟨offset, size, rfl⟩ := first.beyond (by omega)
      exact ⟨offset, size, rfl⟩

theorem congr {good' : α → Prop} (h : b.ReadsTo stop x good) (same : stop' = stop)
    (imp : ∀ v, good v → good' v) : b.ReadsTo stop' x good' where
  within long := by
    obtain ⟨v, answer, hv⟩ := h.within (by omega)
    exact ⟨v, answer, imp v hv⟩
  beyond short := h.beyond (by omega)

theorem map {f : α → β} {good' : β → Prop} (h : b.ReadsTo stop x good)
    (imp : ∀ v, good v → good' (f v)) : b.ReadsTo stop (x >>= fun v => .ok (f v)) good' :=
  (h.bind fun v hv => .pure (imp v hv)).congr (Nat.max_zero _).symm fun _ h => h

end Bytes.ReadsTo

namespace Bytes

theorem readsTo_slice (place size : Nat) :
    b.ReadsTo (place + size) (b.slice place size) (· = b.extract place (place + size)) where
  within long := ⟨_, slice_of_within long, rfl⟩
  beyond short := ⟨_, _, slice_of_beyond short⟩

theorem readsTo_word (width place : Nat) :
    b.ReadsTo (place + width) (b.word width place) (· = b.wordAt place width) where
  within long := ⟨_, word_of_within long, rfl⟩
  beyond short := ⟨_, _, word_of_beyond short⟩

theorem readsTo_u16 (place : Nat) : b.ReadsTo (place + 2) (b.u16 place) (· = b.wordAt place 2) :=
  readsTo_word 2 place

theorem readsTo_u32 (place : Nat) : b.ReadsTo (place + 4) (b.u32 place) (· = b.wordAt place 4) :=
  readsTo_word 4 place

/-- The size and the offset that stand side by side. -/
def extentAt (b : Bytes) (place : Nat) : Extent where
  size := b.wordAt place 4
  offset := b.wordAt (place + 4) 4

theorem readsTo_extentAt (place : Nat) :
    b.ReadsTo (place + 8) (Header.extentAt b place) (· = b.extentAt place) := by
  have reads : b.ReadsTo _ (Header.extentAt b place) (· = b.extentAt place) :=
    (readsTo_u32 place).bind fun size hs => (readsTo_u32 (place + 4)).bind fun offset ho =>
      .pure (by rw [hs, ho]; rfl)
  exact reads.congr (by omega) fun _ same => same

end Bytes

/-! ## The header -/

/-- The header of the image in `b`: every number is the little-endian one at its place. -/
structure Header.StandsIn (h : Header) (b : Bytes) : Prop where
  version : h.version.map Fin.val = (b.extract 4 7).toList.map UInt8.toNat
  checksum : h.checksum = b.wordAt 8 4
  signature : h.signature = b.extract 12 32
  fileSize : h.fileSize = b.wordAt 32 4
  headerSize : h.headerSize = b.wordAt 36 4
  endianTag : h.endianTag = b.wordAt 40 4
  link : h.link = b.extentAt 44
  mapOffset : h.mapOffset = b.wordAt 52 4
  strings : h.strings = b.extentAt 56
  types : h.types = b.extentAt 64
  protos : h.protos = b.extentAt 72
  fields : h.fields = b.extentAt 80
  methods : h.methods = b.extentAt 88
  classes : h.classes = b.extentAt 96
  data : h.data = b.extentAt 104

/-- What a buffer must begin with to be read as an image: room for a header, the magic with a
supported version behind it, and the tag of little-endian images. -/
structure Header.Accepted (b : Bytes) : Prop where
  long : 112 ≤ b.size
  magic : ∃ version ∈ Header.supportedVersions, b.Holds 0 (Header.magic ++ version)
  tag : b.wordAt 40 4 = 0x12345678

namespace Header

theorem map_val_version (bytes : List UInt8) :
    (bytes.map fun byte => CodePoint.ofNat byte.toNat).map Fin.val = bytes.map UInt8.toNat := by
  rw [List.map_map]
  apply List.map_congr_left
  intro byte _
  have small : byte.toNat < 0x110000 := Nat.lt_trans byte.toNat_lt (by decide)
  simp only [Function.comp_apply, CodePoint.ofNat, dif_pos small]

theorem readsTo_fieldsOf : b.ReadsTo 112 (fieldsOf b) (·.StandsIn b) := by
  have reads : b.ReadsTo _ (fieldsOf b) (·.StandsIn b) :=
    (Bytes.readsTo_slice 4 3).bind fun version hv =>
    (Bytes.readsTo_u32 8).bind fun _ checksum =>
    (Bytes.readsTo_slice 12 20).bind fun _ signature =>
    (Bytes.readsTo_u32 32).bind fun _ fileSize =>
    (Bytes.readsTo_u32 36).bind fun _ headerSize =>
    (Bytes.readsTo_u32 40).bind fun _ endianTag =>
    (Bytes.readsTo_extentAt 44).bind fun _ link =>
    (Bytes.readsTo_u32 52).bind fun _ mapOffset =>
    (Bytes.readsTo_extentAt 56).bind fun _ strings =>
    (Bytes.readsTo_extentAt 64).bind fun _ types =>
    (Bytes.readsTo_extentAt 72).bind fun _ protos =>
    (Bytes.readsTo_extentAt 80).bind fun _ fields =>
    (Bytes.readsTo_extentAt 88).bind fun _ methods =>
    (Bytes.readsTo_extentAt 96).bind fun _ classes =>
    (Bytes.readsTo_extentAt 104).bind fun _ data => .pure
      ⟨hv ▸ map_val_version version.toList, checksum, signature, fileSize, headerSize, endianTag,
        link, mapOffset, strings, types, protos, fields, methods, classes, data⟩
  exact reads.congr rfl fun _ stands => stands

/-- The checks of a header, one after the other, in terms of the bytes that they look at. -/
theorem check_eq (long : 112 ≤ b.size) : check b =
    if (b.extract 0 4).toList ≠ magic then .error .missingMagic
    else if (b.extract 4 8).toList ∉ supportedVersions then
      .error (.unsupportedVersion (b.extract 4 8).toList)
    else if b.wordAt 40 4 = bigEndianTag then .error .bigEndian
    else if b.wordAt 40 4 ≠ littleEndianTag then .error (.badEndianTag (b.wordAt 40 4))
    else .ok () := by
  have sliced (place size : Nat) (inside : place + size ≤ 112) :
      b.slice place size = .ok (b.extract place (place + size)) :=
    Bytes.slice_of_within (inside.trans long)
  have first : b.slice 0 4 = .ok (b.extract 0 4) := sliced 0 4 (by decide)
  have second : b.slice 4 4 = .ok (b.extract 4 8) := sliced 4 4 (by decide)
  have tag : b.u32 40 = .ok (b.wordAt 40 4) :=
    Bytes.word_of_within (show 40 + 4 ≤ b.size by omega)
  have enough : ¬b.size < byteSize := Nat.not_lt.mpr long
  unfold check
  simp only [if_neg enough, first, second, tag, ok_bind]
  split <;> [rfl; skip]
  split <;> [rfl; skip]
  split <;> [rfl; skip]
  split <;> rfl

theorem check_of_short (short : b.size < 112) : check b = .error (.imageTooSmall b.size) := by
  have small : b.size < byteSize := short
  unfold check
  simp only [if_pos small]
  rfl

theorem holds_magic_iff (long : 112 ≤ b.size) :
    (∃ version ∈ supportedVersions, b.Holds 0 (magic ++ version)) ↔
      (b.extract 0 4).toList = magic ∧ (b.extract 4 8).toList ∈ supportedVersions := by
  have four : ∀ version ∈ supportedVersions, version.length = 4 := by decide
  have first : b.Holds 0 magic ↔ (b.extract 0 4).toList = magic :=
    Bytes.holds_iff_toList_extract (n := 0) (show 0 + 4 ≤ b.size by omega)
  have second (version : List UInt8) (h : version ∈ supportedVersions) :
      b.Holds 4 version ↔ (b.extract 4 8).toList = version := by
    have size := four version h
    have slice : b.Holds 4 version ↔ (b.extract 4 (4 + version.length)).toList = version :=
      Bytes.holds_iff_toList_extract (n := 4) (by omega)
    rwa [size] at slice
  constructor
  · rintro ⟨version, supported, holds⟩
    obtain ⟨mark, behind⟩ := Bytes.holds_append.mp holds
    exact ⟨first.mp mark, ((second version supported).mp behind).symm ▸ supported⟩
  · rintro ⟨mark, supported⟩
    exact ⟨_, supported, Bytes.holds_append.mpr ⟨first.mpr mark, (second _ supported).mpr rfl⟩⟩

/-- A header passes the checks exactly if it is one of the accepted ones. -/
theorem check_eq_ok_iff : check b = .ok () ↔ Accepted b := by
  by_cases long : 112 ≤ b.size
  · have accepted : Accepted b ↔ ((b.extract 0 4).toList = magic ∧
        (b.extract 4 8).toList ∈ supportedVersions) ∧ b.wordAt 40 4 = littleEndianTag := by
      rw [← holds_magic_iff long]
      exact ⟨fun h => ⟨h.magic, h.tag⟩, fun h => ⟨long, h.1, h.2⟩⟩
    rw [check_eq long, accepted]
    generalize (b.extract 0 4).toList = mark
    generalize (b.extract 4 8).toList = version
    generalize b.wordAt 40 4 = tag
    by_cases marked : mark = magic
    · by_cases supported : version ∈ supportedVersions
      · by_cases tagged : tag = littleEndianTag
        · simp [marked, supported, tagged, littleEndianTag, bigEndianTag]
        · refine iff_of_false ?_ fun h => tagged h.2
          split_ifs <;> simp
      · simp [marked, supported]
    · simp [marked]
  · rw [check_of_short (by omega)]
    exact iff_of_false (by simp) fun h => long h.long

/-- No check of a header reads behind the end of the buffer. -/
theorem isTruncation_of_check {e : DexError} (h : check b = .error e) :
    e.isTruncation = false := by
  by_cases long : 112 ≤ b.size
  · rw [check_eq long] at h
    split_ifs at h <;> obtain rfl := Except.error.inj h <;> rfl
  · rw [check_of_short (by omega)] at h
    obtain rfl := Except.error.inj h
    rfl

/-- An accepted header is read with all that stands in it, and no other one is read. -/
theorem read_of_accepted (h : Accepted b) : ∃ header, read b = .ok header ∧ header.StandsIn b := by
  obtain ⟨header, fields, stands⟩ := readsTo_fieldsOf.within h.long
  refine ⟨header, ?_, stands⟩
  rw [read, check_eq_ok_iff.mpr h]
  exact fields

theorem read_of_not_accepted (h : ¬ Accepted b) :
    ∃ e, read b = .error e ∧ e.isTruncation = false := by
  cases checked : check b with
  | ok _ => exact absurd (check_eq_ok_iff.mp checked) h
  | error e =>
    refine ⟨e, ?_, isTruncation_of_check checked⟩
    rw [read, checked]
    rfl

end Header

/-! ## The entries of the tables -/

/-- What an optional number is stored as: `blank` says that there is none. -/
structure Stored (blank stored : Nat) (x : Option Nat) : Prop where
  absent : x = none ↔ stored = blank
  present (n : Nat) : x = some n → n = stored

theorem stored_index? (stored : Nat) : Stored 0xFFFFFFFF stored (Image.index? stored) := by
  unfold Image.index?
  split
  · exact ⟨by simpa, by simp⟩
  · exact ⟨by simpa, by simp [eq_comm]⟩

theorem stored_offset? (stored : Nat) : Stored 0 stored (Image.offset? stored) := by
  unfold Image.offset?
  split
  · exact ⟨by simpa, by simp⟩
  · exact ⟨by simpa, by simp [eq_comm]⟩

/-- The prototype that stands at `place`. -/
structure Proto.StandsAt (b : Bytes) (place : Nat) (x : Proto) : Prop where
  shorty : x.shorty = b.wordAt place 4
  returnType : x.returnType = b.wordAt (place + 4) 4
  parametersOffset : x.parametersOffset = b.wordAt (place + 8) 4

/-- The method that stands at `place`. -/
structure MethodId.StandsAt (b : Bytes) (place : Nat) (x : MethodId) : Prop where
  declaringType : x.declaringType = b.wordAt place 2
  proto : x.proto = b.wordAt (place + 2) 2
  name : x.name = b.wordAt (place + 4) 4

/-- The class definition that stands at `place`. -/
structure ClassDef.StandsAt (b : Bytes) (place : Nat) (x : ClassDef) : Prop where
  typeIndex : x.typeIndex = b.wordAt place 4
  accessFlags : x.accessFlags = b.wordAt (place + 4) 4
  superclass : Stored 0xFFFFFFFF (b.wordAt (place + 8) 4) x.superclass?
  interfacesOffset : x.interfacesOffset = b.wordAt (place + 12) 4
  sourceFile : Stored 0xFFFFFFFF (b.wordAt (place + 16) 4) x.sourceFile?
  annotationsOffset : x.annotationsOffset = b.wordAt (place + 20) 4
  dataOffset : Stored 0 (b.wordAt (place + 24) 4) x.dataOffset?
  staticValuesOffset : x.staticValuesOffset = b.wordAt (place + 28) 4

namespace Image

theorem readsTo_readProto (place : Nat) :
    b.ReadsTo (place + 12) (readProto b place) (Proto.StandsAt b place) := by
  have reads : b.ReadsTo _ (readProto b place) (Proto.StandsAt b place) :=
    (Bytes.readsTo_u32 place).bind fun _ shorty =>
    (Bytes.readsTo_u32 (place + 4)).bind fun _ returnType =>
    (Bytes.readsTo_u32 (place + 8)).bind fun _ parameters => .pure ⟨shorty, returnType, parameters⟩
  exact reads.congr (by omega) fun _ stands => stands

theorem readsTo_readMethodId (place : Nat) :
    b.ReadsTo (place + 8) (readMethodId b place) (MethodId.StandsAt b place) := by
  have reads : b.ReadsTo _ (readMethodId b place) (MethodId.StandsAt b place) :=
    (Bytes.readsTo_u16 place).bind fun _ declaringType =>
    (Bytes.readsTo_u16 (place + 2)).bind fun _ proto =>
    (Bytes.readsTo_u32 (place + 4)).bind fun _ name => .pure ⟨declaringType, proto, name⟩
  exact reads.congr (by omega) fun _ stands => stands

/-- The optional entries are read first; which read comes first does not show in the answer. -/
theorem readsTo_readClassDef (place : Nat) :
    b.ReadsTo (place + 32) (readClassDef b place) (ClassDef.StandsAt b place) := by
  have reads : b.ReadsTo _ (readClassDef b place) (ClassDef.StandsAt b place) :=
    (Bytes.readsTo_u32 (place + 8)).bind fun superclass hs =>
    (Bytes.readsTo_u32 (place + 16)).bind fun sourceFile hf =>
    (Bytes.readsTo_u32 (place + 24)).bind fun data hd =>
    (Bytes.readsTo_u32 place).bind fun _ typeIndex =>
    (Bytes.readsTo_u32 (place + 4)).bind fun _ accessFlags =>
    (Bytes.readsTo_u32 (place + 12)).bind fun _ interfaces =>
    (Bytes.readsTo_u32 (place + 20)).bind fun _ annotations =>
    (Bytes.readsTo_u32 (place + 28)).bind fun _ staticValues => .pure
      ⟨typeIndex, accessFlags, hs ▸ stored_index? superclass, interfaces,
        hf ▸ stored_index? sourceFile, annotations, hd ▸ stored_offset? data, staticValues⟩
  exact reads.congr (by omega) fun _ stands => stands

end Image

/-- The entries of a table: as many as its extent says, each at its place. -/
structure Extent.Lists (extent : Extent) (width : Nat) (stands : Nat → α → Prop)
    (entries : Array α) : Prop where
  size : entries.size = extent.size
  entry (i : Nat) (h : i < entries.size) : stands (extent.offset + i * width) entries[i]

section Records

variable {record : Int → Except DexError α} {width count offset : Nat} {stands : Nat → α → Prop}
  {read entries : Array α}

/-- Behind those of `read` there are `count` further entries, each at its place from `offset` on. -/
def Continues (stands : Nat → α → Prop) (width count offset : Nat) (read entries : Array α) : Prop :=
  ∃ more : List α, entries.toList = read.toList ++ more ∧ more.length = count ∧
    ∀ (i : Nat) (h : i < more.length), stands (offset + i * width) more[i]

theorem Continues.cons {x : α} (hx : stands offset x)
    (h : Continues stands width count (offset + width) (read.push x) entries) :
    Continues stands width (count + 1) offset read entries := by
  obtain ⟨more, all, number, later⟩ := h
  refine ⟨x :: more, by simpa using all, by simpa using number, ?_⟩
  intro i hi
  cases i with
  | zero => simpa using hx
  | succ i =>
    have next := later i (Nat.lt_of_succ_lt_succ hi)
    rwa [Nat.add_assoc, Nat.add_comm width, ← Nat.succ_mul] at next

theorem lists_of_continues {extent : Extent}
    (h : Continues stands width extent.size extent.offset #[] entries) :
    extent.Lists width stands entries := by
  obtain ⟨more, all, number, later⟩ := h
  obtain rfl : entries = more.toArray := by
    apply Array.toList_inj.mp
    simpa using all
  exact ⟨by simpa using number, fun i hi => by simpa using later i (by simpa using hi)⟩

namespace Image

/-- Reading records one behind the other needs the buffer up to the end of the last one. -/
theorem readsTo_readRecordsOnto
    (reads : ∀ place : Nat, b.ReadsTo (place + width) (record place) (stands place)) :
    b.ReadsTo (if count = 0 then 0 else offset + count * width)
      (readRecordsOnto record width count offset read)
      (Continues stands width count offset read) := by
  induction count generalizing offset read with
  | zero => exact .pure ⟨[], by simp⟩
  | succ count ih =>
    have later (x : α) (hx : stands offset x) :
        b.ReadsTo (if count = 0 then 0 else offset + width + count * width)
          (readRecordsOnto record width count ((offset : Int) + width) (read.push x))
          (Continues stands width (count + 1) offset read) := by
      rw [← Int.natCast_add]
      exact ih.congr rfl fun _ h => h.cons hx
    refine ((reads offset).bind later).congr ?_ fun _ h => h
    rw [if_neg (Nat.succ_ne_zero _), Nat.succ_mul]
    split
    · rename_i none
      rw [none]
      omega
    · omega

theorem readsTo_readTable (extent : Extent)
    (reads : ∀ place : Nat, b.ReadsTo (place + width) (record place) (stands place)) :
    b.ReadsTo (if extent.size = 0 then 0 else extent.offset + extent.size * width)
      (readTable record width extent) (extent.Lists width stands) :=
  (readsTo_readRecordsOnto reads).congr rfl fun _ => lists_of_continues

end Image

end Records

/-! ## The tables in a row -/

namespace Image

/-- The tables of an image. -/
inductive Table where
  | strings
  | types
  | protos
  | methods
  | classes
deriving DecidableEq, Repr

namespace Table

/-- The tables in the order in which they are filled. -/
def all : List Table := [strings, types, protos, methods, classes]

theorem mem_all (t : Table) : t ∈ all := by
  cases t <;> decide

/-- The size of an entry in bytes. -/
def width : Table → Nat
  | strings => 4
  | types => 4
  | protos => 12
  | methods => 8
  | classes => 32

/-- The place in the header where the extent of a table stands. -/
def place : Table → Nat
  | strings => 56
  | types => 64
  | protos => 72
  | methods => 88
  | classes => 96

/-- Where the table lies, and how many entries it has. -/
def extent (t : Table) (b : Bytes) : Extent :=
  b.extentAt t.place

/-- The table has no entry, or all of it lies in the buffer. -/
def Fits (t : Table) (b : Bytes) : Prop :=
  (t.extent b).size = 0 ∨ (t.extent b).offset + (t.extent b).size * t.width ≤ b.size

instance (t : Table) (b : Bytes) : Decidable (t.Fits b) :=
  inferInstanceAs (Decidable (_ ∨ _))

/-- The table holds everything that stands in the buffer for it. -/
def Complete (b : Bytes) (image : Image) : Table → Prop
  | strings => (extent strings b).Lists 4 (fun place n => n = b.wordAt place 4) image.strings
  | types => (extent types b).Lists 4 (fun place n => n = b.wordAt place 4) image.types
  | protos => (extent protos b).Lists 12 (Proto.StandsAt b) image.protos
  | methods => (extent methods b).Lists 8 (MethodId.StandsAt b) image.methods
  | classes => (extent classes b).Lists 32 (ClassDef.StandsAt b) image.classes

/-- The table holds nothing. -/
def Empty (image : Image) : Table → Prop
  | strings => image.strings = #[]
  | types => image.types = #[]
  | protos => image.protos = #[]
  | methods => image.methods = #[]
  | classes => image.classes = #[]

/-- Reads one table of an image, over what the image holds. -/
def fill (h : Header) (image : Image) : Table → Except DexError Image
  | strings => do
    let strings ← readTable image.bytes.u32 4 h.strings
    return { image with strings }
  | types => do
    let types ← readTable image.bytes.u32 4 h.types
    return { image with types }
  | protos => do
    let protos ← readTable (readProto image.bytes) 12 h.protos
    return { image with protos }
  | methods => do
    let methods ← readTable (readMethodId image.bytes) 8 h.methods
    return { image with methods }
  | classes => do
    let classes ← readTable (readClassDef image.bytes) 32 h.classes
    return { image with classes }

/-- Reads several tables, up to the first that cannot be read. -/
def fillAll (h : Header) : List Table → Image → Image × Option DexError
  | [], image => (image, none)
  | t :: rest, image =>
    match t.fill h image with
    | .ok filled => fillAll h rest filled
    | .error e => (image, some e)

end Table

/-- The tables of an image are filled one after the other. -/
theorem readTables_eq_fillAll (image : Image) (h : Header) :
    image.readTables h = Table.fillAll h Table.all image := by
  simp only [readTables, Table.all, Table.fillAll, Table.fill, bind, Except.bind]
  cases readTable image.bytes.u32 4 h.strings with
  | error => rfl
  | ok strings =>
  simp only [pure, Except.pure]
  cases readTable image.bytes.u32 4 h.types with
  | error => rfl
  | ok types =>
  simp only
  cases readTable (readProto image.bytes) 12 h.protos with
  | error => rfl
  | ok protos =>
  simp only
  cases readTable (readMethodId image.bytes) 8 h.methods with
  | error => rfl
  | ok methods =>
  simp only
  cases readTable (readClassDef image.bytes) 32 h.classes <;> rfl

/-- The tables in `done` have been filled, and nothing else has changed. -/
structure Filled (b : Bytes) (done : List Table) (image filled : Image) : Prop where
  bytes : filled.bytes = image.bytes
  complete (t : Table) : t ∈ done → t.Complete b filled
  others (t : Table) : t ∉ done →
    (t.Complete b image → t.Complete b filled) ∧ (t.Empty image → t.Empty filled)

namespace Filled

variable {image middle filled : Image} {t : Table} {done : List Table}

theorem single (bytes : filled.bytes = image.bytes) (complete : t.Complete b filled)
    (others : ∀ t', t' ≠ t →
      (t'.Complete b image → t'.Complete b filled) ∧ (t'.Empty image → t'.Empty filled)) :
    Filled b [t] image filled where
  bytes := bytes
  complete _ h := List.mem_singleton.mp h ▸ complete
  others t' h := others t' fun same => h (List.mem_singleton.mpr same)

theorem refl (b : Bytes) (image : Image) : Filled b [] image image where
  bytes := rfl
  complete _ h := absurd h List.not_mem_nil
  others _ _ := ⟨id, id⟩

theorem cons (first : Filled b [t] image middle) (later : Filled b done middle filled)
    (new : t ∉ done) : Filled b (t :: done) image filled where
  bytes := later.bytes.trans first.bytes
  complete t' h := by
    rcases List.mem_cons.mp h with rfl | h
    · exact (later.others _ new).1 (first.complete _ (List.mem_singleton_self _))
    · exact later.complete t' h
  others t' h := by
    rw [List.mem_cons, not_or] at h
    have before := first.others t' (by simpa using h.1)
    have after := later.others t' h.2
    exact ⟨after.1 ∘ before.1, after.2 ∘ before.2⟩

end Filled

namespace Table

variable {h : Header} {image : Image}

/-- The place behind the last entry; a table without entries reaches nowhere. -/
def stop (t : Table) (b : Bytes) : Nat :=
  if (t.extent b).size = 0 then 0 else (t.extent b).offset + (t.extent b).size * t.width

theorem fits_iff (t : Table) (b : Bytes) : t.Fits b ↔ t.stop b ≤ b.size := by
  unfold Fits stop
  split
  · simp [*]
  · simp [*]

/-- Filling a table needs the buffer up to the end of the table, and completes it. -/
theorem readsTo_fill (stands : h.StandsIn b) (hb : image.bytes = b) (t : Table) :
    b.ReadsTo (t.stop b) (t.fill h image) (t.Complete b ·) := by
  subst hb
  cases t with
  | strings =>
    rw [fill, stands.strings]
    exact (readsTo_readTable _ Bytes.readsTo_u32).map fun _ lists => lists
  | types =>
    rw [fill, stands.types]
    exact (readsTo_readTable _ Bytes.readsTo_u32).map fun _ lists => lists
  | protos =>
    rw [fill, stands.protos]
    exact (readsTo_readTable _ readsTo_readProto).map fun _ lists => lists
  | methods =>
    rw [fill, stands.methods]
    exact (readsTo_readTable _ readsTo_readMethodId).map fun _ lists => lists
  | classes =>
    rw [fill, stands.classes]
    exact (readsTo_readTable _ readsTo_readClassDef).map fun _ lists => lists

/-- Filling a table touches no other table. -/
theorem others_of_fill {t t' : Table} {filled : Image} (fills : t.fill h image = .ok filled)
    (ne : t' ≠ t) :
    (t'.Complete b image → t'.Complete b filled) ∧ (t'.Empty image → t'.Empty filled) := by
  cases t
  all_goals
    obtain ⟨entries, _, made⟩ := bind_eq_ok.mp fills
    obtain rfl := pure_eq_ok.mp made
    cases t' <;> first | exact absurd rfl ne | exact ⟨id, id⟩

theorem bytes_of_fill {t : Table} {filled : Image} (fills : t.fill h image = .ok filled) :
    filled.bytes = image.bytes := by
  cases t
  all_goals
    obtain ⟨entries, _, made⟩ := bind_eq_ok.mp fills
    obtain rfl := pure_eq_ok.mp made
    rfl

/-- A table that lies in the buffer is filled. -/
theorem exists_filled (stands : h.StandsIn b) (hb : image.bytes = b) {t : Table} (fits : t.Fits b) :
    ∃ filled, t.fill h image = .ok filled ∧ Filled b [t] image filled := by
  obtain ⟨filled, fills, complete⟩ := (readsTo_fill stands hb t).within ((fits_iff t b).mp fits)
  exact ⟨filled, fills, .single (bytes_of_fill fills) complete fun _ => others_of_fill fills⟩

/-- Tables that lie in the buffer are filled one by one, and then come the others. -/
theorem fillAll_append {before : List Table} (rest : List Table) (stands : h.StandsIn b)
    (hb : image.bytes = b) (nodup : before.Nodup) (fit : ∀ t ∈ before, t.Fits b) :
    ∃ filled, Filled b before image filled ∧
      fillAll h (before ++ rest) image = fillAll h rest filled := by
  induction before generalizing image with
  | nil => exact ⟨image, .refl b image, rfl⟩
  | cons t before ih =>
    obtain ⟨new, nodup⟩ := List.nodup_cons.mp nodup
    obtain ⟨middle, fills, first⟩ := exists_filled stands hb (fit t List.mem_cons_self)
    obtain ⟨filled, later, run⟩ := ih (first.bytes.trans hb) nodup
      fun t' h => fit t' (List.mem_cons_of_mem _ h)
    refine ⟨filled, first.cons later new, ?_⟩
    rw [List.cons_append, fillAll, fills]
    exact run

/-- The first table that does not lie in the buffer ends the run, with the image as it is then. -/
theorem fillAll_cons_of_not_fits {t : Table} (rest : List Table) (stands : h.StandsIn b)
    (hb : image.bytes = b) (misfit : ¬t.Fits b) :
    ∃ offset size,
      fillAll h (t :: rest) image = (image, some (.outOfBounds offset size b.size)) := by
  rw [fits_iff, Nat.not_le] at misfit
  obtain ⟨offset, size, fails⟩ := (readsTo_fill stands hb t).beyond misfit
  exact ⟨offset, size, by rw [fillAll, fails]⟩

theorem nodup_all : all.Nodup := by
  decide

/-- Unless every table lies in the buffer, there is a first one that does not. -/
theorem exists_first_misfit (h : ¬∀ t : Table, t.Fits b) :
    ∃ before t after, all = before ++ t :: after ∧ (∀ t' ∈ before, t'.Fits b) ∧ ¬t.Fits b := by
  cases first : all.find? fun t => !decide (t.Fits b) with
  | none =>
    refine absurd (fun t => ?_) h
    simpa using List.find?_eq_none.mp first t t.mem_all
  | some t =>
    obtain ⟨misfit, before, after, order, fit⟩ := List.find?_eq_some_iff_append.mp first
    exact ⟨before, t, after, order, by simpa using fit, by simpa using misfit⟩

theorem empty_of_bytes (b : Bytes) (t : Table) : t.Empty { bytes := b } := by
  cases t <;> rfl

end Table

end Image

/-! ## Parsing -/

namespace Session

open Image (Table)

variable {h : Header}

/-- Parsing behind an accepted header fills the tables. -/
theorem parse_eq_fillAll (read : Header.read b = .ok h) :
    (ofBytes b).parse = ((Table.fillAll h Table.all { bytes := b }).2.elim (.ok ()) .error,
      { ofBytes b with
        header? := some h, image := (Table.fillAll h Table.all { bytes := b }).1 }) := by
  rw [← Image.readTables_eq_fillAll]
  exact parse_of_read read

/-- If every table lies in the buffer, all of them are complete. -/
theorem parse_of_fits (read : Header.read b = .ok h) (stands : h.StandsIn b)
    (fit : ∀ t : Table, t.Fits b) :
    (ofBytes b).parse.1 = .ok () ∧ ∀ t : Table, t.Complete b (opened b).image := by
  have unread : Image.bytes { bytes := b } = b := rfl
  obtain ⟨filled, complete, run⟩ :=
    Table.fillAll_append [] stands unread Table.nodup_all fun t _ => fit t
  rw [List.append_nil] at run
  rw [opened, parse_eq_fillAll read, run]
  exact ⟨rfl, fun t => complete.complete t t.mem_all⟩

/-- The tables before the first one that does not lie in the buffer are complete, and from there on
they are empty. -/
theorem parse_of_not_fits {before after : List Table} {t : Table}
    (read : Header.read b = .ok h) (stands : h.StandsIn b) (order : Table.all = before ++ t :: after)
    (fit : ∀ t' ∈ before, t'.Fits b) (misfit : ¬t.Fits b) :
    (∃ offset size, (ofBytes b).parse.1 = .error (.outOfBounds offset size b.size)) ∧
      (∀ t' ∈ before, t'.Complete b (opened b).image) ∧
      ∀ t' ∈ t :: after, t'.Empty (opened b).image := by
  have nodup : (before ++ t :: after).Nodup := order ▸ Table.nodup_all
  rw [List.nodup_append] at nodup
  obtain ⟨nodup, _, apart⟩ := nodup
  have unread : Image.bytes { bytes := b } = b := rfl
  obtain ⟨filled, complete, run⟩ :=
    Table.fillAll_append (t :: after) stands unread nodup fit
  obtain ⟨offset, size, stops⟩ :=
    Table.fillAll_cons_of_not_fits after stands (complete.bytes.trans unread) misfit
  rw [opened, parse_eq_fillAll read, order, run, stops]
  refine ⟨⟨offset, size, rfl⟩, complete.complete, fun t' later => ?_⟩
  have other : t' ∉ before := fun earlier => apart t' earlier t' later rfl
  exact (complete.others t' other).2 (Table.empty_of_bytes b t')

/-- A header that is not accepted ends parsing before anything has been read, and not because the
buffer was too short for a read. -/
theorem parse_of_not_accepted (h : ¬Header.Accepted b) :
    ∃ e, (ofBytes b).parse = (.error e, ofBytes b) ∧ e.isTruncation = false := by
  obtain ⟨e, refused, other⟩ := Header.read_of_not_accepted h
  exact ⟨e, parse_of_refused refused, other⟩

/-- Parsing succeeds exactly behind an accepted header whose tables all lie in the buffer. -/
theorem parse_eq_ok_iff (b : Bytes) :
    (ofBytes b).parse.1 = .ok () ↔ Header.Accepted b ∧ ∀ t : Table, t.Fits b := by
  by_cases accepted : Header.Accepted b
  · obtain ⟨h, read, stands⟩ := Header.read_of_accepted accepted
    by_cases fit : ∀ t : Table, t.Fits b
    · exact iff_of_true (parse_of_fits read stands fit).1 ⟨accepted, fit⟩
    · refine iff_of_false ?_ fun good => fit good.2
      obtain ⟨before, t, after, order, inside, misfit⟩ := Table.exists_first_misfit fit
      obtain ⟨⟨offset, size, fails⟩, _⟩ := parse_of_not_fits read stands order inside misfit
      simp [fails]
  · refine iff_of_false ?_ fun good => accepted good.1
    obtain ⟨e, refused, _⟩ := parse_of_not_accepted accepted
    simp [refused]

/-- **The outcome of parsing.**  Parsing accepts exactly the images whose header is an accepted one
and whose tables all lie in the buffer.  Another header is refused, and nothing has been read then.
Behind an accepted header, which is read with all that stands in it, either all tables lie in the
buffer and are read with all their entries, or parsing ends at the first one that does not: the
tables before it are complete, and it is still empty, as are those behind it. -/
theorem parse_outcome (b : Bytes) :
    ((ofBytes b).parse.1 = .ok () ↔ Header.Accepted b ∧ ∀ t : Table, t.Fits b) ∧
    (¬Header.Accepted b →
      ∃ e, (ofBytes b).parse = (.error e, ofBytes b) ∧ e.isTruncation = false) ∧
    (Header.Accepted b →
      (∃ h, (opened b).header? = some h ∧ h.StandsIn b) ∧
      ((∀ t : Table, t.Fits b) → ∀ t : Table, t.Complete b (opened b).image) ∧
      ∀ before t after, Table.all = before ++ t :: after → (∀ t' ∈ before, t'.Fits b) →
        ¬t.Fits b →
          (∃ offset size, (ofBytes b).parse.1 = .error (.outOfBounds offset size b.size)) ∧
          (∀ t' ∈ before, t'.Complete b (opened b).image) ∧
          ∀ t' ∈ t :: after, t'.Empty (opened b).image) := by
  refine ⟨parse_eq_ok_iff b, parse_of_not_accepted, fun accepted => ?_⟩
  obtain ⟨h, read, stands⟩ := Header.read_of_accepted accepted
  refine ⟨⟨h, ?_, stands⟩, ?_, ?_⟩
  · rw [opened, parse_eq_fillAll read]
  · intro fit
    exact (parse_of_fits read stands fit).2
  · intro before t after order fit misfit
    exact parse_of_not_fits read stands order fit misfit

end Session

namespace Sample

/-- An image with one class. -/
def whole : Bytes := dex "LA;" "testX"

/-- What is left when it is cut off in the middle of the class definition. -/
def cut : Bytes := whole.extract 0 160

end Sample

namespace Session

/-- The image is read.  Of the part, the methods are read, and the classes are not. -/
theorem parse_of_whole_and_cut :
    ((ofBytes Sample.whole).parse.1 = .ok () ∧
        Image.Table.classes.Complete Sample.whole (opened Sample.whole).image) ∧
      (∃ offset size, (ofBytes Sample.cut).parse.1 =
        .error (.outOfBounds offset size Sample.cut.size)) ∧
      Image.Table.methods.Complete Sample.cut (opened Sample.cut).image ∧
      (opened Sample.cut).image.classes = #[] := by
  have accepted : Header.Accepted Sample.whole :=
    ⟨by decide +kernel, by decide +kernel, by decide +kernel⟩
  have accepted' : Header.Accepted Sample.cut :=
    ⟨by decide +kernel, by decide +kernel, by decide +kernel⟩
  have fit (t : Image.Table) : t.Fits Sample.whole := by
    cases t <;> decide +kernel
  obtain ⟨parses, _, tables⟩ := parse_outcome Sample.whole
  obtain ⟨fails, complete, empty⟩ := ((parse_outcome Sample.cut).2.2 accepted').2.2
    [.strings, .types, .protos, .methods] .classes [] rfl (by decide +kernel) (by decide +kernel)
  exact ⟨⟨parses.mpr ⟨accepted, fit⟩, (tables accepted).2.1 fit _⟩, fails,
    complete _ (by decide), empty _ List.mem_cons_self⟩

end Session

end DexDiscovery
