import DexDiscovery.Proofs.ImageEntries
import Mathlib.Data.Nat.Digits.Defs

/-!
# Which entries hold images, and in which order

The names of image entries are described here without the reader.  `EntryName` is the grammar:
`classes`, decimal digits of any scripts, `.dex`, and perhaps one line feed; `Numbered` is the number
that such a name gives its image, the one that its digits write in base ten, and 1 where there are
none.  Both agree with what is read off a name (`entryDigits?_eq_some_iff`, `numbered_iff`).

**One answer.**  The order by number and then by name tells any two names apart (`ImageLe.antisymm`).
So there is one list only that has the image entries of an archive, each as often as it is listed,
and has them in order, and this is the answer (`imageEntries_eq_ok_iff`).  That the order of the
directory does not matter, and that an answer is its own answer, follows from it.
-/

namespace DexDiscovery

namespace CodePoint

variable {c : CodePoint} {v : Nat}

/-- `c` is a decimal digit, of some script, with the value `v`. -/
def IsDecimal (c : CodePoint) (v : Nat) : Prop :=
  ∃ start ∈ decimalZeros, v < 10 ∧ c.val = start + v

/-- The runs of decimal digits do not overlap. -/
theorem eq_of_mem_decimalZeros {a b : Nat} (ha : a ∈ decimalZeros) (hb : b ∈ decimalZeros)
    (near : a < b + 10) (near' : b < a + 10) : a = b := by
  have apart : ∀ a ∈ decimalZeros, ∀ b ∈ decimalZeros, a = b ∨ a + 10 ≤ b ∨ b + 10 ≤ a := by
    decide +kernel
  have := apart a ha b hb
  omega

theorem digitValue?_eq_some_iff : c.digitValue? = some v ↔ c.IsDecimal v := by
  unfold digitValue?
  rw [Option.map_eq_some_iff]
  constructor
  · rintro ⟨start, found, rfl⟩
    have within := List.find?_some found
    rw [Bool.and_eq_true, decide_eq_true_eq, decide_eq_true_eq] at within
    exact ⟨start, List.mem_of_find?_eq_some found, by omega, by omega⟩
  · rintro ⟨start, mem, small, value⟩
    obtain ⟨first, found⟩ : ∃ first, decimalZeros.find?
        (fun start => start ≤ c.val && c.val < start + 10) = some first := by
      rw [← Option.isSome_iff_exists, List.find?_isSome]
      refine ⟨start, mem, ?_⟩
      rw [Bool.and_eq_true, decide_eq_true_eq, decide_eq_true_eq]
      omega
    have within := List.find?_some found
    rw [Bool.and_eq_true, decide_eq_true_eq, decide_eq_true_eq] at within
    -- the run that is found is the one that the digit belongs to
    obtain rfl : start = first :=
      eq_of_mem_decimalZeros mem (List.mem_of_find?_eq_some found) (by omega) (by omega)
    exact ⟨start, found, by omega⟩

end CodePoint

namespace Text

variable {t : Text} {c : CodePoint} {n : Nat}

/-- The decimal digits of `t`, most significant first, write the number `n` in base ten. -/
def Writes (t : Text) (n : Nat) : Prop :=
  ∃ values, List.Forall₂ CodePoint.IsDecimal t.reverse values ∧ n = Nat.ofDigits 10 values

theorem digitsValue?_concat : digitsValue? (t ++ [c]) = some n ↔
    ∃ v m, c.IsDecimal v ∧ digitsValue? t = some m ∧ n = v + 10 * m := by
  unfold digitsValue?
  rw [List.foldlM_append, Option.bind_eq_bind, Option.bind_eq_some_iff]
  constructor
  · rintro ⟨m, before, last⟩
    rw [List.foldlM_cons, Option.bind_eq_bind, Option.bind_eq_some_iff] at last
    obtain ⟨_, digit, same⟩ := last
    obtain ⟨v, value, rfl⟩ := Option.map_eq_some_iff.mp digit
    refine ⟨v, m, CodePoint.digitValue?_eq_some_iff.mp value, before, ?_⟩
    have sum : 10 * m + v = n := Option.some.inj same
    omega
  · rintro ⟨v, m, digit, before, rfl⟩
    refine ⟨m, before, ?_⟩
    rw [List.foldlM_cons, CodePoint.digitValue?_eq_some_iff.mpr digit, Nat.add_comm]
    rfl

/-- What is read off digits from left to right is the number that they write. -/
theorem digitsValue?_eq_some_iff : digitsValue? t = some n ↔ t.Writes n := by
  unfold Writes
  induction t using List.reverseRecOn generalizing n with
  | nil =>
    have empty : digitsValue? [] = some n ↔ 0 = n := Option.some_inj
    rw [empty]
    constructor
    · rintro rfl
      exact ⟨[], .nil, rfl⟩
    · rintro ⟨_, ⟨⟩, rfl⟩
      rfl
  | append_singleton t c ih =>
    simp only [digitsValue?_concat, ih, List.reverse_append, List.reverse_singleton,
      List.singleton_append]
    constructor
    · rintro ⟨v, _, digit, ⟨values, digits, rfl⟩, rfl⟩
      exact ⟨v :: values, .cons digit digits, Nat.ofDigits_cons.symm⟩
    · rintro ⟨_, _ | ⟨digit, digits⟩, rfl⟩
      exact ⟨_, _, digit, ⟨_, digits, rfl⟩, Nat.ofDigits_cons⟩

/-- A text that begins with `start` and ends, behind that, with `stop` has something in between. -/
theorem framed_iff (start stop middle t : Text) :
    (start.isPrefixOf t ∧ stop.isSuffixOf (t.drop start.length)) ∧
      (t.drop start.length).take (t.length - start.length - stop.length) = middle ↔
        t = start ++ middle ++ stop := by
  constructor
  · rintro ⟨⟨first, last⟩, rfl⟩
    obtain ⟨rest, rfl⟩ := List.isPrefixOf_iff_prefix.mp first
    rw [List.drop_left] at last ⊢
    obtain ⟨inner, rfl⟩ := List.isSuffixOf_iff_suffix.mp last
    have length : (start ++ (inner ++ stop)).length - start.length - stop.length = inner.length := by
      simp only [List.length_append]
      omega
    rw [length, List.take_left, List.append_assoc]
  · rintro rfl
    have length : (start ++ middle ++ stop).length - start.length - stop.length = middle.length := by
      simp only [List.length_append]
      omega
    rw [length, List.append_assoc, List.drop_left, List.take_left]
    exact ⟨⟨List.isPrefixOf_iff_prefix.mpr (List.prefix_append _ _),
      List.isSuffixOf_iff_suffix.mpr (List.suffix_append _ _)⟩, rfl⟩

/-- A text that does not end with a line feed is what remains, without one at the end, of itself and
of one other name. -/
theorem chomped_eq_iff (plain : t.getLast? ≠ some .lineFeed) (name : Text) :
    (if name.getLast? = some .lineFeed then name.dropLast else name) = t ↔
      name = t ∨ name = t ++ [.lineFeed] := by
  split
  · rename_i ends
    obtain ⟨front, rfl⟩ := List.getLast?_eq_some_iff.mp ends
    rw [List.dropLast_concat, List.append_left_inj]
    refine ⟨.inr, fun h => h.resolve_left ?_⟩
    rintro rfl
    exact plain ends
  · rename_i other
    refine ⟨.inl, fun h => h.resolve_right ?_⟩
    rintro rfl
    exact other List.getLast?_concat

end Text

namespace Loader

variable {name digits : Text} {names entries : List Text} {number : Nat}

/-! ## Names -/

/-- `classes`, the given digits and `.dex`. -/
def imageName (digits : Text) : Text := ("classes" : Text) ++ digits ++ (".dex" : Text)

/-- `name` consists of `classes`, the decimal digits `digits` and `.dex`; one line feed may follow. -/
structure EntryName (name digits : Text) : Prop where
  decimal : ∀ c ∈ digits, ∃ v, c.IsDecimal v
  parts : name = imageName digits ∨ name = imageName digits ++ [.lineFeed]

/-- An entry of this name holds an image. -/
def HoldsImage (name : Text) : Prop := ∃ digits, EntryName name digits

/-- `number` is the number of the image that an entry of this name holds: the one that the digits
write, and 1 where there are none. -/
def Numbered (name : Text) (number : Nat) : Prop :=
  ∃ digits, EntryName name digits ∧
    (digits = [] ∧ number = 1 ∨ digits ≠ [] ∧ digits.Writes number)

theorem getLast?_imageName : (imageName digits).getLast? ≠ some .lineFeed := by
  have last : (".dex" : Text).getLast? = some (CodePoint.ofChar 'x') := by decide
  rw [imageName, List.getLast?_append, last, Option.some_or, Ne, Option.some_inj]
  decide

/-- The digits of a name are read where the grammar has them. -/
theorem entryDigits?_eq_some_iff : entryDigits? name = some digits ↔ EntryName name digits := by
  have decimal_iff : digits.all (·.digitValue?.isSome) = true ↔
      ∀ c ∈ digits, ∃ v, c.IsDecimal v := by
    simp only [List.all_eq_true, Option.isSome_iff_exists, CodePoint.digitValue?_eq_some_iff]
  have plain : (imageName digits).getLast? ≠ some .lineFeed := getLast?_imageName
  have parts := Text.chomped_eq_iff plain name
  simp only [entryDigits?]
  generalize (if name.getLast? = some .lineFeed then name.dropLast else name) = body at parts ⊢
  have framed := Text.framed_iff "classes" ".dex" digits body
  rw [← imageName, parts] at framed
  constructor
  · intro found
    split at found
    · rename_i frame
      split at found
      · rename_i decimal
        obtain rfl := Option.some.inj found
        exact ⟨decimal_iff.mp decimal, framed.mp ⟨frame, rfl⟩⟩
      · exact absurd found (by simp)
    · exact absurd found (by simp)
  · rintro ⟨decimal, spelled⟩
    obtain ⟨frame, middle⟩ := framed.mpr spelled
    rw [if_pos frame, middle, if_pos (decimal_iff.mpr decimal)]

theorem isImageEntry_iff : isImageEntry name = true ↔ HoldsImage name := by
  rw [isImageEntry, Option.isSome_iff_exists]
  exact exists_congr fun _ => entryDigits?_eq_some_iff

/-- Whether an entry holds an image can be read off its name. -/
instance : DecidablePred HoldsImage := fun _ => decidable_of_iff _ isImageEntry_iff

/-- A name spells its digits in one way. -/
theorem EntryName.unique {digits' : Text} (h : EntryName name digits)
    (h' : EntryName name digits') : digits = digits' := by
  rw [← entryDigits?_eq_some_iff] at h h'
  exact Option.some.inj (h.symm.trans h')

theorem EntryName.length_le (h : EntryName name digits) : digits.length ≤ name.length := by
  rcases h.parts with rfl | rfl
  · simp only [imageName, List.length_append]
    omega
  · simp only [imageName, List.length_append]
    omega

/-- Digits write a number. -/
theorem EntryName.exists_writes (h : EntryName name digits) : ∃ number, digits.Writes number := by
  choose! value decimal using h.decimal
  refine ⟨_, digits.reverse.map value, ?_, rfl⟩
  rw [List.forall₂_map_right_iff, List.forall₂_same]
  intro c mem
  exact decimal c (List.mem_reverse.mp mem)

/-- The number of an image is the one that its entry is sorted by. -/
theorem numbered_iff (h : HoldsImage name) : Numbered name number ↔ imageNumber name = number := by
  obtain ⟨digits, spelled⟩ := h
  have own : Numbered name number ↔
      digits = [] ∧ number = 1 ∨ digits ≠ [] ∧ digits.Writes number := by
    constructor
    · rintro ⟨digits', spelled', value⟩
      rwa [spelled.unique spelled']
    · intro value
      exact ⟨digits, spelled, value⟩
  rw [own, imageNumber, entryDigits?_eq_some_iff.mpr spelled]
  cases digits with
  | nil => simp [eq_comm]
  | cons d rest =>
    obtain ⟨value, writes⟩ := spelled.exists_writes
    rw [← Text.digitsValue?_eq_some_iff] at writes
    simp [← Text.digitsValue?_eq_some_iff, writes]

/-! ## The order -/

/-- Different names have different places in the order. -/
theorem ImageLe.antisymm {a b : Text} (h : ImageLe a b) (h' : ImageLe b a) : a = b := by
  rcases h with less | ⟨same, equal | before⟩
  · rcases h' with less' | ⟨same', _⟩ <;> omega
  · exact equal
  · rcases h' with less' | ⟨_, equal | before'⟩
    · omega
    · exact equal.symm
    · exact absurd before' before.asymm

/-- The image entries can be put in order if none of their numbers has too many digits. -/
theorem exists_imageEntries_iff : (∃ entries, imageEntries names = .ok entries) ↔
    ∀ name ∈ names, ∀ digits, EntryName name digits → digits.length ≤ digitLimit := by
  rw [exists_ok_iff]
  constructor
  · intro succeeds name mem digits spelled
    by_contra long
    have listed : digits ∈ names.filterMap entryDigits? :=
      List.mem_filterMap.mpr ⟨name, mem, entryDigits?_eq_some_iff.mpr spelled⟩
    obtain ⟨first, found⟩ : ∃ first,
        (names.filterMap entryDigits?).find? (digitLimit < ·.length) = some first := by
      rw [← Option.isSome_iff_exists, List.find?_isSome]
      exact ⟨digits, listed, by simpa using long⟩
    exact succeeds _ (imageEntries_eq_error.mpr ⟨first, found, rfl⟩)
  · intro short failure fails
    obtain ⟨digits, found, _⟩ := imageEntries_eq_error.mp fails
    obtain ⟨name, mem, read⟩ := List.mem_filterMap.mp (List.mem_of_find?_eq_some found)
    have long : digitLimit < digits.length := by simpa using List.find?_some found
    have := short name mem digits (entryDigits?_eq_some_iff.mp read)
    omega

/-- **One answer.**  The answer is the only list that has all entries that hold images in ascending
order. -/
theorem imageEntries_eq_ok_iff : imageEntries names = .ok entries ↔
    (∀ name ∈ names, ∀ digits, EntryName name digits → digits.length ≤ digitLimit) ∧
      entries.Perm (names.filter (HoldsImage ·)) ∧ entries.Pairwise ImageLe := by
  have selected : names.filter isImageEntry = names.filter (HoldsImage ·) :=
    List.filter_congr fun name _ => by
      rw [Bool.eq_iff_iff, isImageEntry_iff, decide_eq_true_eq]
  have perm {sorted : List Text} (answer : imageEntries names = .ok sorted) :
      sorted.Perm (names.filter (HoldsImage ·)) := selected ▸ perm_of_imageEntries answer
  constructor
  · intro answer
    exact ⟨exists_imageEntries_iff.mp ⟨_, answer⟩, perm answer, pairwise_of_imageEntries answer⟩
  · rintro ⟨short, all, ascending⟩
    obtain ⟨sorted, answer⟩ := exists_imageEntries_iff.mpr short
    have equal : sorted = entries := by
      refine List.Perm.eq_of_pairwise ?_ (pairwise_of_imageEntries answer) ascending
        ((perm answer).trans all.symm)
      intro a b _ _ le le'
      exact le.antisymm le'
    rw [answer, equal]

/-- **Choosing and ordering the image entries.**  If the numbers among some names have no more than
4300 digits, the answer has exactly those of the names that hold images, each as often as it is
listed, in ascending order: by number first, and entries with the same number by code points.  Every
one of them has one number.  In whichever order the names are listed, the answer is the same, and it
is its own answer. -/
theorem imageEntries_outcome (names : List Text)
    (short : ∀ name ∈ names, ∀ digits, EntryName name digits → digits.length ≤ 4300) :
    ∃ entries, imageEntries names = .ok entries ∧
      entries.Perm (names.filter (HoldsImage ·)) ∧
      (∀ name ∈ entries, ∃! number, Numbered name number) ∧
      (entries.Pairwise fun a b => ∀ m n, Numbered a m → Numbered b n →
        m < n ∨ m = n ∧ (a = b ∨ Text.Before a b)) ∧
      (∀ names' : List Text, names'.Perm names → imageEntries names' = .ok entries) ∧
      imageEntries entries = .ok entries := by
  obtain ⟨entries, answer⟩ := exists_imageEntries_iff.mpr short
  obtain ⟨_, perm, ascending⟩ := imageEntries_eq_ok_iff.mp answer
  have holds : ∀ name ∈ entries, name ∈ names ∧ HoldsImage name := by
    intro name mem
    simpa using List.mem_filter.mp (perm.mem_iff.mp mem)
  refine ⟨entries, answer, perm, ?_, ?_, ?_, ?_⟩
  · intro name mem
    refine ⟨imageNumber name, (numbered_iff (holds name mem).2).mpr rfl, fun number h => ?_⟩
    exact ((numbered_iff (holds name mem).2).mp h).symm
  · refine ascending.imp_of_mem fun {a b} ha hb le m n hm hn => ?_
    obtain rfl := (numbered_iff (holds a ha).2).mp hm
    obtain rfl := (numbered_iff (holds b hb).2).mp hn
    exact le
  · intro names' same
    refine imageEntries_eq_ok_iff.mpr ⟨fun name mem => ?_, ?_, ascending⟩
    · exact short name (same.mem_iff.mp mem)
    · exact perm.trans (same.filter _).symm
  · refine imageEntries_eq_ok_iff.mpr ⟨fun name mem => ?_, ?_, ascending⟩
    · exact short name (holds name mem).1
    · rw [List.filter_eq_self.mpr fun name mem => by simpa using (holds name mem).2]

end Loader

namespace Sample

/-- The name of an image entry with the Arabic digits zero and one. -/
def arabicName : Text := Loader.imageName [0x660, 0x661]

/-- Entries of an archive; the third one ends with a line feed, the last one has a letter behind its
digit. -/
def entryNames : List Text :=
  ["classes10.dex", "res/a.xml", ("classes2.dex" : Text) ++ [.lineFeed], arabicName,
    "classes2.dex", "classes.dex", "classes2.dex", "classes1.dex", "classes3a.dex"]

/-- Those of them that hold images, in order. -/
def imageNames : List Text :=
  ["classes.dex", "classes1.dex", arabicName, "classes2.dex", "classes2.dex",
    ("classes2.dex" : Text) ++ [.lineFeed], "classes10.dex"]

end Sample

namespace Loader

/-- The numbers of `entryNames` are short.  The first three images have the number 1, the next three
the number 2; listed backwards the entries give the same answer, which is its own. -/
theorem outcome_of_entryNames :
    (∀ name ∈ Sample.entryNames, ∀ digits, EntryName name digits → digits.length ≤ 4300) ∧
    imageEntries Sample.entryNames = .ok Sample.imageNames ∧
    Sample.imageNames.Perm (Sample.entryNames.filter (HoldsImage ·)) ∧
    imageEntries Sample.entryNames.reverse = .ok Sample.imageNames ∧
    imageEntries Sample.imageNames = .ok Sample.imageNames := by
  have short : ∀ name ∈ Sample.entryNames, ∀ digits, EntryName name digits →
      digits.length ≤ 4300 := by
    intro name mem digits spelled
    have names : ∀ name ∈ Sample.entryNames, name.length ≤ 4300 := by decide
    exact spelled.length_le.trans (names name mem)
  have ascending : Sample.imageNames.Pairwise fun a b =>
      entryLe (imageNumber a, a) (imageNumber b, b) = true := by decide +kernel
  have ordered : imageEntries Sample.entryNames = .ok Sample.imageNames :=
    imageEntries_eq_ok_iff.mpr ⟨short, by decide +kernel, ascending.imp entryLe_iff.mp⟩
  obtain ⟨entries, answer, perm, _, _, listed, again⟩ :=
    imageEntries_outcome Sample.entryNames short
  obtain rfl := Except.ok.inj (ordered.symm.trans answer)
  exact ⟨short, ordered, perm, listed _ (List.reverse_perm _), again⟩

end Loader

end DexDiscovery
