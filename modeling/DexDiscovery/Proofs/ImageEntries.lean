import DexDiscovery.Loader
import DexDiscovery.Proofs.Answers
import DexDiscovery.Proofs.CodePointOrder

/-!
# The images of an archive in order

The entries of an archive that hold images are told by their names, and each name gives its image a
number: `classes.dex` the number 1, `classes2.dex` the number 2, and so on.  `imageEntries` puts the
names in ascending order, by number first and then by code points, and loses none
(`perm_of_imageEntries`, `pairwise_of_imageEntries`).  It fails for one reason only, a number with
too many digits to be read (`imageEntries_eq_error`).
-/

namespace DexDiscovery

namespace Loader

/-- Whether an entry holds an image, by its name. -/
def isImageEntry (name : Text) : Bool := (entryDigits? name).isSome

/-- The number of the image that an entry holds. -/
def imageNumber (name : Text) : Nat :=
  match entryDigits? name with
  | none | some [] => 1
  | some digits => (Text.digitsValue? digits).getD 0

/-- The order of image entries: by number, then by name. -/
def ImageLe (a b : Text) : Prop :=
  imageNumber a < imageNumber b ∨ imageNumber a = imageNumber b ∧ (a = b ∨ Text.Before a b)

/-- The number of an image, if it can be read, is the number of the entry. -/
theorem entryNumber_eq_ok {name digits : Text} {number : Nat} (h : entryDigits? name = some digits)
    (read : entryNumber digits = .ok number) : number = imageNumber name := by
  unfold entryNumber at read
  unfold imageNumber
  rw [h]
  cases digits with
  | nil => simpa using read.symm
  | cons d rest =>
    rw [if_neg (List.cons_ne_nil d rest)] at read
    split at read
    · exact absurd read (by simp)
    · exact (Except.ok.inj read).symm

/-- A number cannot be read if it has too many digits. -/
theorem entryNumber_eq_error {digits : Text} {failure : Failure} :
    entryNumber digits = .error failure ↔
      digitLimit < digits.length ∧ failure = .numberTooLong digits.length := by
  unfold entryNumber
  split
  · rename_i none
    simp [none]
  · split
    · rename_i long
      simp [long, eq_comm]
    · rename_i short
      simp [short]

/-- The numbered entries are those that hold images, with their numbers. -/
theorem numbered_eq_ok {names : List Text} {entries : List (Nat × Text)}
    (h : numbered names = .ok entries) :
    entries = (names.filter isImageEntry).map fun name => (imageNumber name, name) := by
  induction names generalizing entries with
  | nil => exact (Except.ok.inj h).symm
  | cons name rest ih =>
    rw [numbered] at h
    cases digits : entryDigits? name with
    | none =>
      rw [digits] at h
      rw [List.filter_cons_of_neg (by simp [isImageEntry, digits])]
      exact ih h
    | some d =>
      rw [digits] at h
      obtain ⟨number, read, h⟩ := bind_eq_ok.mp h
      obtain ⟨later, numbered, h⟩ := bind_eq_ok.mp h
      rw [List.filter_cons_of_pos (by simp [isImageEntry, digits]), List.map_cons, ← ih numbered,
        ← entryNumber_eq_ok digits read]
      exact (pure_eq_ok.mp h).symm

/-- Numbering fails at the first number that has too many digits. -/
theorem numbered_eq_error {names : List Text} {failure : Failure} :
    numbered names = .error failure ↔
      ∃ digits, (names.filterMap entryDigits?).find? (digitLimit < ·.length) = some digits ∧
        failure = .numberTooLong digits.length := by
  induction names with
  | nil => simp [numbered]
  | cons name rest ih =>
    rw [numbered]
    cases digits : entryDigits? name with
    | none => rw [List.filterMap_cons_none digits, ← ih]
    | some d =>
      rw [List.filterMap_cons_some digits]
      by_cases long : digitLimit < d.length
      · rw [List.find?_cons_of_pos (by simpa using long), bind_eq_error]
        constructor
        · rintro (unread | ⟨number, read, _⟩)
          · exact ⟨d, rfl, (entryNumber_eq_error.mp unread).2⟩
          · have unread := entryNumber_eq_error.mpr ⟨long, rfl⟩
            exact absurd (read.symm.trans unread) (by simp)
        · rintro ⟨_, same, rfl⟩
          obtain rfl := Option.some.inj same
          exact .inl (entryNumber_eq_error.mpr ⟨long, rfl⟩)
      · rw [List.find?_cons_of_neg (by simpa using long), ← ih, bind_eq_error]
        obtain ⟨number, read⟩ : ∃ number, entryNumber d = .ok number :=
          exists_ok_iff.mpr fun _ unread => long (entryNumber_eq_error.mp unread).1
        constructor
        · rintro (unread | ⟨_, _, later⟩)
          · exact absurd (entryNumber_eq_error.mp unread).1 long
          · rcases bind_eq_error.mp later with later | ⟨_, _, later⟩
            · exact later
            · exact absurd later pure_ne_error
        · intro later
          exact .inr ⟨number, read, bind_eq_error.mpr (.inl later)⟩

/-! ## The order -/

theorem entryLe_iff {a b : Nat × Text} :
    entryLe a b = true ↔ a.1 < b.1 ∨ a.1 = b.1 ∧ (a.2 = b.2 ∨ Text.Before a.2 b.2) := by
  unfold entryLe
  split
  · rename_i same
    simp [same, Text.le_iff]
  · rename_i other
    simp only [other, decide_eq_true_eq, false_and, or_false]
    omega

theorem entryLe_trans (a b c : Nat × Text) (hab : entryLe a b = true) (hbc : entryLe b c = true) :
    entryLe a c = true := by
  rw [entryLe_iff] at hab hbc ⊢
  rcases hab with hab | ⟨hab, le⟩ <;> rcases hbc with hbc | ⟨hbc, le'⟩
  · exact .inl (hab.trans hbc)
  · exact .inl (hbc ▸ hab)
  · exact .inl (hab ▸ hbc)
  · refine .inr ⟨hab.trans hbc, ?_⟩
    rcases le with same | before
    · rwa [same]
    · rcases le' with same | before'
      · exact .inr (same ▸ before)
      · exact .inr (before.trans before')

theorem entryLe_total (a b : Nat × Text) : (entryLe a b || entryLe b a) = true := by
  rw [Bool.or_eq_true, entryLe_iff, entryLe_iff]
  rcases Nat.lt_trichotomy a.1 b.1 with lt | same | lt
  · exact .inl (.inl lt)
  · rcases Text.before_trichotomy a.2 b.2 with before | equal | before
    · exact .inl (.inr ⟨same, .inr before⟩)
    · exact .inl (.inr ⟨same, .inl equal⟩)
    · exact .inr (.inr ⟨same.symm, .inr before⟩)
  · exact .inr (.inl lt)

/-- The entries cannot be put in order if one of their numbers cannot be read. -/
theorem imageEntries_eq_error {names : List Text} {failure : Failure} :
    imageEntries names = .error failure ↔
      ∃ digits, (names.filterMap entryDigits?).find? (digitLimit < ·.length) = some digits ∧
        failure = .numberTooLong digits.length := by
  rw [← numbered_eq_error]
  unfold imageEntries
  rw [bind_eq_error]
  simp [pure_ne_error]

section
variable {names entries : List Text} (h : imageEntries names = .ok entries)
include h

theorem exists_numbered_of_imageEntries :
    entries = (((names.filter isImageEntry).map fun name => (imageNumber name, name)).mergeSort
      entryLe).map Prod.snd := by
  obtain ⟨pairs, numbered, h⟩ := bind_eq_ok.mp h
  rw [← numbered_eq_ok numbered]
  exact (pure_eq_ok.mp h).symm

/-- No entry that holds an image is lost, and none is added. -/
theorem perm_of_imageEntries : entries.Perm (names.filter isImageEntry) := by
  have sorted := (List.mergeSort_perm
    ((names.filter isImageEntry).map fun name => (imageNumber name, name)) entryLe).map Prod.snd
  rw [← exists_numbered_of_imageEntries h, List.map_map] at sorted
  simpa [Function.comp_def] using sorted

/-- The entries are in ascending order of their numbers. -/
theorem pairwise_of_imageEntries : entries.Pairwise ImageLe := by
  have sorted := List.pairwise_mergeSort entryLe_trans entryLe_total
    ((names.filter isImageEntry).map fun name => (imageNumber name, name))
  rw [exists_numbered_of_imageEntries h, List.pairwise_map]
  refine sorted.imp_of_mem fun {a b} ha hb le => ?_
  -- what is sorted are names with their own numbers
  have own {p : Nat × Text} (hp : p ∈ ((names.filter isImageEntry).map fun name =>
      (imageNumber name, name)).mergeSort entryLe) : p.1 = imageNumber p.2 := by
    obtain ⟨name, _, rfl⟩ := List.mem_map.mp (List.mem_mergeSort.mp hp)
    rfl
  rw [entryLe_iff, own ha, own hb] at le
  exact le

end

end Loader

end DexDiscovery
