import DexDiscovery.Dex.Read

/-!
# Bytes at a place

`b.Holds offset run` says that the bytes of `run` stand in the buffer `b` from `offset` on.  The
formats of an image are described by the bytes that write a value; a reader is right if it answers
with a value exactly where bytes that write it stand.

Bytes behind the end of a buffer do not move what it holds (`Holds.append`), and a run that reaches
the end can be continued at will (`Holds.exists_append`).  This is what tells a buffer that is too
short from one that is malformed.
-/

namespace DexDiscovery

namespace Bytes

variable {b : Bytes} {p : Int} {x y run : List UInt8}

/-! ## Single bytes -/

theorem at?_eq_none_iff : b.at? p = none ↔ p < 0 ∨ b.size ≤ p := by
  unfold at?
  split
  · rw [Array.getElem?_eq_none_iff]
    omega
  · simp only [true_iff]
    omega

theorem at?_append_of_some {byte : UInt8} (h : b.at? p = some byte) (more : Bytes) :
    (b ++ more).at? p = some byte := by
  unfold at? at h ⊢
  split at h
  · rename_i inside
    obtain ⟨within, _⟩ := Array.getElem?_eq_some_iff.mp h
    rw [if_pos inside, Array.getElem?_append_left within, h]
  · exact absurd h (by simp)

/-- Behind the end of a buffer stand the bytes that were added. -/
theorem at?_append_size (more : Bytes) (n : Nat) : (b ++ more).at? (b.size + n) = more[n]? := by
  unfold at?
  rw [if_pos (by omega), show ((b.size : Int) + n).toNat = b.size + n by omega,
    Array.getElem?_append_right (by omega)]
  simp

/-- A byte is read where there is one. -/
theorem u8_eq (b : Bytes) (p : Int) :
    b.u8 p = match b.at? p with
      | some byte => .ok byte.toNat
      | none => .error (.outOfBounds p 1 b.size) := by
  cases h : b.at? p with
  | none =>
    rw [at?_eq_none_iff] at h
    rw [u8, word, slice, if_neg (by omega)]
    rfl
  | some byte =>
    obtain ⟨inside, within⟩ : 0 ≤ p ∧ p + (1 : Nat) ≤ b.size := by
      have lies : ¬(p < 0 ∨ b.size ≤ p) := fun out => by simp [at?_eq_none_iff.mpr out] at h
      omega
    obtain ⟨n, rfl⟩ := Int.eq_ofNat_of_zero_le inside
    have entry : b[n]? = some byte := by simpa [at?] using h
    obtain ⟨hn, rfl⟩ := Array.getElem?_eq_some_iff.mp entry
    have single : (b.extract n (n + 1)).toList = [b[n]] := by
      rw [Array.toList_extract, List.extract_eq_take_drop, Nat.add_sub_cancel_left,
        List.take_one, List.head?_drop, Array.getElem?_toList, entry]
      rfl
    rw [u8, word, slice, if_pos ⟨inside, within⟩, between, if_neg (by omega),
      show ((n : Int) + (1 : Nat)).toNat = n + 1 by omega, Int.toNat_natCast]
    show Except.ok (littleEndian (b.extract n (n + 1)).toList) = _
    rw [single]
    rfl

/-! ## Slices and numbers of fixed width -/

section Slices
variable {place size width : Nat}

theorem slice_of_within (h : place + size ≤ b.size) :
    b.slice place size = .ok (b.extract place (place + size)) := by
  rw [slice, if_pos ⟨by omega, by omega⟩, between, if_neg (by omega), ← Int.natCast_add,
    Int.toNat_natCast, Int.toNat_natCast]

theorem slice_of_beyond (h : b.size < place + size) :
    b.slice place size = .error (.outOfBounds place size b.size) := by
  rw [slice, if_neg (by omega)]

theorem word_of_within (h : place + width ≤ b.size) :
    b.word width place = .ok (b.wordAt place width) := by
  rw [word, slice_of_within h]
  rfl

theorem word_of_beyond (h : b.size < place + width) :
    b.word width place = .error (.outOfBounds place width b.size) := by
  rw [word, slice_of_beyond h]
  rfl

end Slices

/-! ## Runs of bytes -/

/-- The place behind a run is the place behind its rest. -/
theorem add_length_cons (p : Int) (byte : UInt8) (run : List UInt8) :
    p + ((byte :: run).length : Int) = p + 1 + run.length := by
  rw [List.length_cons]
  omega

/-- The bytes of `run` stand in the buffer from `offset` on. -/
def Holds (b : Bytes) (offset : Int) (run : List UInt8) : Prop :=
  ∀ i : Nat, i < run.length → b.at? (offset + i) = run[i]?

/-- Whether a run stands at a place can be looked up byte by byte. -/
instance : Decidable (b.Holds p run) :=
  inferInstanceAs (Decidable (∀ i : Nat, i < run.length → b.at? (p + i) = run[i]?))

@[simp]
theorem holds_nil : b.Holds p [] := fun _ h => absurd h (Nat.not_lt_zero _)

@[simp]
theorem holds_cons {byte : UInt8} :
    b.Holds p (byte :: run) ↔ b.at? p = some byte ∧ b.Holds (p + 1) run := by
  constructor
  · intro h
    refine ⟨by simpa using h 0 (by simp), fun i hi => ?_⟩
    have next := h (i + 1) (by simpa using hi)
    rwa [Int.natCast_add, Int.natCast_one, Int.add_comm (i : Int), ← Int.add_assoc] at next
  · rintro ⟨first, h⟩ i hi
    cases i with
    | zero => simpa using first
    | succ i =>
      have next := h i (by simpa using hi)
      rwa [Int.add_assoc, Int.add_comm 1, ← Int.natCast_one, ← Int.natCast_add] at next

theorem holds_append : b.Holds p (x ++ y) ↔ b.Holds p x ∧ b.Holds (p + x.length) y := by
  induction x generalizing p with
  | nil => simp
  | cons byte x ih =>
    rw [List.cons_append, holds_cons, holds_cons, ih, and_assoc, add_length_cons]

/-- What an array is made of stands in it. -/
theorem holds_middle (before run after : List UInt8) :
    Holds (before ++ run ++ after).toArray before.length run := by
  intro i hi
  rw [at?, if_pos (by omega), show ((before.length : Int) + i).toNat = before.length + i by omega,
    List.getElem?_toArray, List.append_assoc, List.getElem?_append_right (by omega),
    Nat.add_sub_cancel_left, List.getElem?_append_left hi]

namespace Holds

/-- A run begins with the byte that stands there. -/
theorem head_eq {byte byte' : UInt8} (h : b.Holds p (byte' :: run)) (first : b.at? p = some byte) :
    byte = byte' :=
  Option.some.inj (first.symm.trans (holds_cons.mp h).1)

/-- A run that is not empty lies in the buffer. -/
theorem within (h : b.Holds p run) (ne : run ≠ []) : 0 ≤ p ∧ p + run.length ≤ b.size := by
  have pos := List.length_pos_iff.mpr ne
  have lies (i : Nat) (hi : i < run.length) : ¬(p + i < 0 ∨ b.size ≤ p + i) := by
    rw [← at?_eq_none_iff, h i hi, List.getElem?_eq_getElem hi]
    simp
  have first := lies 0 pos
  have last := lies (run.length - 1) (by omega)
  omega

/-- Where a run from inside the buffer or from behind it is cut off, the buffer has come to its
end. -/
theorem stop_eq_max {n : Nat} (h : b.Holds n run) (cut : b.at? (n + run.length) = none) :
    (n : Int) + run.length = max (n : Int) b.size := by
  rw [at?_eq_none_iff] at cut
  by_cases empty : run = []
  · subst empty
    simp only [List.length_nil] at cut ⊢
    omega
  · have inside := h.within empty
    omega

/-- The bytes from there up to the end of the run are those of the run. -/
theorem toList_extract (h : b.Holds p run) :
    (b.extract p.toNat (p + run.length).toNat).toList = run := by
  by_cases empty : run = []
  · subst empty
    simp
  obtain ⟨inside, bound⟩ := h.within empty
  obtain ⟨n, rfl⟩ := Int.eq_ofNat_of_zero_le inside
  rw [Int.toNat_natCast, ← Int.natCast_add, Int.toNat_natCast]
  refine List.ext_getElem? fun i => ?_
  rw [Array.getElem?_toList, Array.getElem?_extract]
  by_cases hi : i < run.length
  · have entry := h i hi
    rw [at?, if_pos (by omega), ← Int.natCast_add, Int.toNat_natCast] at entry
    rw [if_pos (by omega), entry]
  · rw [if_neg (by omega), List.getElem?_eq_none (by omega)]

/-- Further bytes behind the buffer do not move what it holds. -/
theorem append (h : b.Holds p run) (more : Bytes) : (b ++ more).Holds p run := by
  intro i hi
  have entry := h i hi
  rw [List.getElem?_eq_getElem hi] at entry ⊢
  exact at?_append_of_some entry more

/-- A run that reaches the end of the buffer can be continued by any bytes. -/
theorem exists_append (h : b.Holds p run) (reaches : b.size ≤ p + run.length)
    (rest : List UInt8) : ∃ more : Bytes, (b ++ more).Holds p (run ++ rest) := by
  -- only an empty run lies behind the end; there, the gap has to be filled first
  obtain ⟨gap, place⟩ : ∃ gap : Nat, p + run.length = b.size + gap :=
    ⟨(p + run.length - b.size).toNat, by omega⟩
  refine ⟨(List.replicate gap 0 ++ rest).toArray, holds_append.mpr ⟨h.append _, fun i hi => ?_⟩⟩
  rw [place, Int.add_assoc, ← Int.natCast_add, at?_append_size, List.getElem?_toArray,
    List.getElem?_append_right (by simp), List.length_replicate, Nat.add_sub_cancel_left]

end Holds

/-- A run stands in the buffer exactly if it is the slice from there on. -/
theorem holds_iff_toList_extract {n : Nat} (within : n + run.length ≤ b.size) :
    b.Holds n run ↔ (b.extract n (n + run.length)).toList = run := by
  constructor
  · intro h
    have same := h.toList_extract
    rwa [← Int.natCast_add, Int.toNat_natCast, Int.toNat_natCast] at same
  · intro same i hi
    have entry := congrArg (·[i]?) same
    simp only [Array.getElem?_toList, Array.getElem?_extract] at entry
    rw [if_pos (by omega)] at entry
    rw [at?, if_pos (by omega), ← Int.natCast_add, Int.toNat_natCast, entry]

end Bytes

end DexDiscovery
