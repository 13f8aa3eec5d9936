import DexDiscovery.Proofs.EntryData

/-!
# Why an archive cannot be read

Not all faults of an archive are reported as damage.  The reader gives up in other ways where the
archive asks for something that it does not do: a later version of the format, a password, another
method of compression, a name in an encoding that is not followed, an offset that no file has.  Some
damage is not reported as such either: data that are cut off by the end of the file, and data that
are refused by the decoders of bzip2 and LZMA, unlike those that cannot be inflated.

`OddListing` says when a listing of the directory is odd in one of these ways, and `OddEntry` when
an entry is, each with the error that is reported.  A directory and an entry that cannot be read are
either corrupt or odd (`corrupt_or_odd_of_ofBytes`, `corrupt_or_odd_of_content`).
-/

namespace DexDiscovery

namespace Archive

variable {b : Bytes} {offsetLimit : Nat} {error : Error}

/-! ## The directory -/

/-- A listing that stands at an offset of a directory asks for what is not done. -/
inductive OddListing (directory : Bytes) (offset : Nat) : Error → Prop where
  /-- Its name is declared to be UTF-8 and is not. -/
  | name (declared : directory.wordAt (offset + 8) 2 / 0x800 % 2 = 1)
      (other : Text.ofUtf8? (directory.extract (offset + directoryEntrySize)
        (offset + directoryEntrySize + directory.wordAt (offset + 28) 2)).toList = none) :
      OddListing directory offset .nameEncoding
  /-- It is for a later version of the format. -/
  | version (later : supportedVersion < directory.wordAt (offset + 6) 1) :
      OddListing directory offset .unsupported

theorem decodeName?_eq_none {isUtf8 : Bool} {bytes : List UInt8} :
    decodeName? isUtf8 bytes = none ↔ isUtf8 = true ∧ Text.ofUtf8? bytes = none := by
  cases isUtf8 <;> simp [decodeName?]

theorem eq_corrupt_of_nextLarge {field : Bytes} (h : nextLarge field = .error error) :
    error = .corrupt := by
  unfold nextLarge at h
  split at h
  · exact (Except.error.inj h).symm
  · exact absurd h (by simp)

theorem eq_corrupt_of_ofField {field : Bytes} {l : Large}
    (h : Large.ofField field l = .error error) : error = .corrupt := by
  unfold Large.ofField at h
  simp only [bind_eq_error, pure_eq_ok, pure_ne_error, ite_eq_iff] at h
  grind [eq_corrupt_of_nextLarge]

theorem eq_corrupt_of_ofExtra {extra : Bytes} {l : Large}
    (h : Large.ofExtra extra l = .error error) : error = .corrupt := by
  fun_induction Large.ofExtra extra l with
  | case1 => exact (Except.error.inj h).symm
  | case2 extra l more size fits rest asks ih =>
    rcases bind_eq_error.mp h with h | ⟨next, _, h⟩
    · exact eq_corrupt_of_ofField h
    · exact ih next h
  | case3 extra l more size fits rest asks ih =>
    rcases bind_eq_error.mp h with h | ⟨next, _, h⟩
    · exact absurd h pure_ne_error
    · exact ih next h
  | case4 => exact absurd h (by simp)

theorem eq_corrupt_of_endRecord (h : endRecord b = .error error) : error = .corrupt := by
  unfold endRecord at h
  grind

/-- A directory that cannot be read is corrupt, or one of its listings is odd. -/
theorem corrupt_or_odd_of_readDirectory {directory : Bytes} {shift : Int} {fuel offset : Nat}
    (h : readDirectory directory shift fuel offset = .error error) :
    error = .corrupt ∨
      ∃ offset, hasMark directory directoryMark offset = true ∧
        OddListing directory offset error := by
  induction fuel generalizing offset with
  | zero => exact absurd h (by simp [readDirectory])
  | succ fuel ih =>
    unfold readDirectory at h
    split at h
    · exact absurd h (by simp)
    split at h
    · exact .inl (Except.error.inj h).symm
    split at h
    · exact .inl (Except.error.inj h).symm
    rename_i mark
    rw [Bool.not_eq_true, Bool.not_eq_false'] at mark
    dsimp only at h
    split at h
    · rw [pure_bind] at h
      split at h
      · rename_i later
        obtain rfl : Error.unsupported = error := Except.error.inj h
        exact .inr ⟨offset, mark, .version later⟩
      · rcases bind_eq_error.mp h with h | ⟨large, _, h⟩
        · exact .inl (eq_corrupt_of_ofExtra h)
        -- this listing is read, so the odd one stands behind it
        · rcases bind_eq_error.mp h with h | ⟨rest, _, h⟩
          · exact ih h
          · exact absurd h pure_ne_error
    · rename_i unspelled
      obtain rfl : Error.nameEncoding = error := Except.error.inj h
      obtain ⟨declared, other⟩ := decodeName?_eq_none.mp unspelled
      exact .inr ⟨offset, mark, .name (beq_iff_eq.mp declared) other⟩

/-- In the directory that the record at the end points to, there stands a listing that is odd. -/
def OddDirectory (b : Bytes) (record : EndRecord) (error : Error) : Prop :=
  let start := record.directoryStart.toNat
  let directory := b.extract start (start + record.directorySize)
  ∃ offset, hasMark directory directoryMark offset = true ∧ OddListing directory offset error

/-- An archive whose directory cannot be read is corrupt, or a listing in it is odd. -/
theorem corrupt_or_odd_of_ofBytes (h : ofBytes offsetLimit b = .error error) :
    error = .corrupt ∨ ∃ record, endRecord b = .ok record ∧ OddDirectory b record error := by
  unfold ofBytes at h
  rcases bind_eq_error.mp h with h | ⟨record, found, h⟩
  · exact .inl (eq_corrupt_of_endRecord h)
  · dsimp only at h
    split at h
    · exact .inl (Except.error.inj h).symm
    · rcases bind_eq_error.mp h with h | ⟨entries, _, h⟩
      · exact (corrupt_or_odd_of_readDirectory h).imp_right fun odd => ⟨record, found, odd⟩
      · exact absurd h pure_ne_error

/-! ## The entries -/

variable {a : Archive} {e : Entry} {limit : Int}

/-- The data of an entry, as far as they stand in the file. -/
def entryData (a : Archive) (e : Entry) : Bytes :=
  a.dataFrom e (dataPlace a.bytes e.offset.toNat)

/-- An entry cannot be read, for another reason than that it is corrupt. -/
inductive OddEntry (a : Archive) (e : Entry) : Error → Prop where
  /-- Its offset is no number that could be asked for. -/
  | outOfReach (far : e.offset < -0x8000000000000000 ∨ 0x8000000000000000 ≤ e.offset) :
      OddEntry a e .outOfReach
  /-- Its offset lies before the archive, or behind where a file can end. -/
  | outOfFile (outside : e.offset < 0 ∨ a.offsetLimit < e.offset) : OddEntry a e .outOfFile
  /-- Its data are a patch, or are encrypted with all that is said of them. -/
  | kind (flag : e.hasFlag 5 = true ∨ e.hasFlag 6 = true) : OddEntry a e .unsupported
  /-- The name in front of its data is declared to be UTF-8 and is not. -/
  | name (declared : a.bytes.wordAt (e.offset.toNat + 6) 2 / 0x800 % 2 = 1)
      (other : Text.ofUtf8? (a.bytes.extract (e.offset.toNat + headerSize)
        (nameStop a.bytes e.offset.toNat)).toList = none) :
      OddEntry a e .nameEncoding
  /-- Its data are encrypted. -/
  | encrypted (flag : e.hasFlag 0 = true) : OddEntry a e .encrypted
  /-- Its data are compressed in a way that is not known. -/
  | method (unknown : e.method ∉ [0, 8, 12, 14]) : OddEntry a e .unsupported
  /-- The file ends before its data do, and what stands there is not enough. -/
  | cutOff {decoder : Decoder} (known : decoder? e.method = some decoder)
      (starves : Starves decoder (entryData a e) e.compressedSize e.size) : OddEntry a e .cutOff
  /-- Its data should be compressed with bzip2, and the first of them already are not. -/
  | bzip2 {taken written : Nat} {all : Bool} (method : e.method = 12)
      (refused : Bzip2.decoder ((entryData a e).extract 0 taken) all written = .error .notBzip2) :
      OddEntry a e .notBzip2
  /-- Its data should be compressed with LZMA, and the first of them already are not. -/
  | lzma {taken written : Nat} {all : Bool} (method : e.method = 14)
      (refused : Lzma.decoder ((entryData a e).extract 0 taken) all written = .error .notLzma) :
      OddEntry a e .notLzma

theorem OddDirectory.ne_corrupt {record : EndRecord} (h : OddDirectory b record error) :
    error ≠ .corrupt := by
  obtain ⟨offset, _, odd⟩ := h
  cases odd <;> simp

theorem OddEntry.ne_corrupt (h : OddEntry a e error) : error ≠ .corrupt := by
  cases h <;> simp

/-! ## Up to the data -/

theorem place_eq_ok {offset : Nat} (h : e.place offsetLimit = .ok offset) :
    e.offset.toNat = offset := by
  unfold Entry.place at h
  grind

theorem odd_of_place (h : e.place a.offsetLimit = .error error) : OddEntry a e error := by
  unfold Entry.place at h
  split at h
  · rename_i far
    obtain rfl := Except.error.inj h
    exact .outOfReach far
  · split at h
    · rename_i outside
      obtain rfl := Except.error.inj h
      exact .outOfFile outside
    · exact absurd h (by simp)

/-- Where the data of an entry begin, check by check. -/
theorem dataStart_eq :
    a.dataStart e limit = (e.place a.offsetLimit).bind fun offset =>
      if a.bytes.size < offset + headerSize then .error .corrupt
      else if !hasMark a.bytes headerMark offset then .error .corrupt
      else if e.hasFlag 5 || e.hasFlag 6 then .error .unsupported
      else match decodeName? (a.bytes.wordAt (offset + 6) 2 / 0x800 % 2 == 1)
          (a.bytes.extract (offset + headerSize) (nameStop a.bytes offset)).toList with
        | none => .error .nameEncoding
        | some name =>
          if name ≠ e.storedName then .error .corrupt
          else if limit < dataPlace a.bytes offset + e.compressedSize then .error .corrupt
          else if e.hasFlag 0 then .error .encrypted
          else .ok (dataPlace a.bytes offset) := rfl

theorem corrupt_or_odd_of_dataStart (h : a.dataStart e limit = .error error) :
    error = .corrupt ∨ OddEntry a e error := by
  rw [dataStart_eq] at h
  cases placed : e.place a.offsetLimit with
  | error odd =>
    rw [placed] at h
    obtain rfl : odd = error := Except.error.inj h
    exact .inr (odd_of_place placed)
  | ok offset =>
    obtain rfl := place_eq_ok placed
    rw [placed] at h
    dsimp only [Except.bind] at h
    split at h
    · exact .inl (Except.error.inj h).symm
    split at h
    · exact .inl (Except.error.inj h).symm
    split at h
    · rename_i flag
      obtain rfl := Except.error.inj h
      exact .inr (.kind (by simpa using flag))
    split at h
    · rename_i unspelled
      obtain rfl := Except.error.inj h
      obtain ⟨declared, other⟩ := decodeName?_eq_none.mp unspelled
      exact .inr (.name (beq_iff_eq.mp declared) other)
    split at h
    · exact .inl (Except.error.inj h).symm
    split at h
    · exact .inl (Except.error.inj h).symm
    split at h
    · rename_i flag
      obtain rfl := Except.error.inj h
      exact .inr (.encrypted flag)
    · exact absurd h (by simp)

theorem eq_dataPlace_of_dataStart {start : Nat} (h : a.dataStart e limit = .ok start) :
    start = dataPlace a.bytes e.offset.toNat := by
  rw [dataStart_eq] at h
  obtain ⟨offset, placed, h⟩ := bind_eq_ok.mp h
  obtain rfl := place_eq_ok placed
  grind

/-! ## The data -/

/-- The decoder of an entry refuses data as damaged, or the entry is odd. -/
theorem corrupt_or_odd_of_refused {decoder : Decoder} {taken written : Nat} {all : Bool}
    (known : decoder? e.method = some decoder)
    (refused : decoder ((entryData a e).extract 0 taken) all written = .error error) :
    error = .corrupt ∨ OddEntry a e error := by
  rcases decoder?_eq_some known with ⟨_, rfl⟩ | ⟨_, rfl⟩ | ⟨method, rfl⟩ | ⟨method, rfl⟩
  · exact absurd refused (by simp [stored])
  · exact .inl (eq_corrupt_of_inflate refused)
  · obtain rfl := eq_notBzip2_of_bzip2 refused
    exact .inr (.bzip2 method refused)
  · obtain rfl := eq_notLzma_of_lzma refused
    exact .inr (.lzma method refused)

/-- An entry that cannot be read is corrupt, or it is odd. -/
theorem corrupt_or_odd_of_content {name : Text} (h : a.content name = .error error) :
    error = .corrupt ∨
      ∃ entry place, a.find? name = some (entry, place) ∧ OddEntry a entry error := by
  unfold content at h
  cases found : a.find? name with
  | none =>
    rw [found] at h
    exact .inl (Except.error.inj h).symm
  | some listed =>
    obtain ⟨entry, place⟩ := listed
    rw [found] at h
    refine Or.imp_right (fun odd => ⟨entry, place, rfl, odd⟩) ?_
    rcases bind_eq_error.mp h with h | ⟨start, begins, h⟩
    · exact corrupt_or_odd_of_dataStart h
    obtain rfl := eq_dataPlace_of_dataStart begins
    cases known : decoder? entry.method with
    | none =>
      rw [known] at h
      obtain rfl := Except.error.inj h
      exact .inr (.method (decoder?_eq_none.mp known))
    | some decoder =>
      rw [known] at h
      rcases bind_eq_error.mp h with h | ⟨content, _, h⟩
      · rcases starves_or_refused_of_decode h with ⟨rfl, starves⟩ | ⟨taken, all, written, refused⟩
        · exact .inr (.cutOff known starves)
        · exact corrupt_or_odd_of_refused known refused
      · dsimp only at h
        split at h
        · exact .inl (Except.error.inj h).symm
        · exact absurd h pure_ne_error

end Archive

end DexDiscovery
