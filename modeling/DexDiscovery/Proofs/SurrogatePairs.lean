import DexDiscovery.Text.Utf16
import Mathlib.Data.List.Chain

/-!
# Surrogate pairs

Every sequence of code units is that of a text (`units_ofUnits`), but not the other way around: a
text may hold a high surrogate and a low one behind it as two code points, whose code units are
those of one supplementary code point.  `Text.joinPairs` puts such a pair together, and this is
all that is lost between a text and its code units (`ofUnits_units`).
-/

namespace DexDiscovery

/-! ## Code points -/

namespace CodePoint

/-- The first half of a surrogate pair. -/
def isHighSurrogate (c : CodePoint) : Bool :=
  0xD800 ≤ c.val && c.val < 0xDC00

/-- The second half of a surrogate pair. -/
def isLowSurrogate (c : CodePoint) : Bool :=
  0xDC00 ≤ c.val && c.val < 0xE000

/-- The supplementary code point that a high and a low surrogate stand for together. -/
def joined (high low : CodePoint) : CodePoint :=
  ⟨0x10000 + high.val % 0x400 * 0x400 + low.val % 0x400, by omega⟩

end CodePoint

namespace Text

/-- A text with each high surrogate and the low one right behind it put together. -/
def joinPairs : Text → Text
  | [] => []
  | [c] => [c]
  | c :: d :: rest =>
    if c.isHighSurrogate && d.isLowSurrogate then CodePoint.joined c d :: joinPairs rest
    else c :: joinPairs (d :: rest)

end Text

/-! ## Code units -/

namespace CodeUnit

variable {u v : CodeUnit}

theorem val_pair (u v : CodeUnit) :
    (pair u v).val = 0x10000 + u.toNat % 0x400 * 0x400 + v.toNat % 0x400 := rfl

theorem units_codePoint (u : CodeUnit) : u.codePoint.units = [u] := by
  have small := u.toNat_lt
  simp only [codePoint, CodePoint.units, if_pos small, UInt16.ofNat_toNat]

theorem units_pair (hu : u.isHigh) (hv : v.isLow) : (pair u v).units = [u, v] := by
  simp only [isHigh, isLow, Bool.and_eq_true, decide_eq_true_eq] at hu hv
  have val := val_pair u v
  have high : 0xD800 + ((pair u v).val - 0x10000) / 0x400 = u.toNat := by omega
  have low : 0xDC00 + ((pair u v).val - 0x10000) % 0x400 = v.toNat := by omega
  rw [CodePoint.units, if_neg (by omega), high, low, UInt16.ofNat_toNat, UInt16.ofNat_toNat]

theorem isHighSurrogate_pair (u v : CodeUnit) : (pair u v).isHighSurrogate = false := by
  have val := val_pair u v
  simp only [CodePoint.isHighSurrogate, Bool.and_eq_false_iff, decide_eq_false_iff_not]
  omega

theorem isLowSurrogate_pair (u v : CodeUnit) : (pair u v).isLowSurrogate = false := by
  have val := val_pair u v
  simp only [CodePoint.isLowSurrogate, Bool.and_eq_false_iff, decide_eq_false_iff_not]
  omega

theorem not_isLow_of_isHigh (hu : u.isHigh) : u.isLow = false := by
  simp only [isHigh, isLow, Bool.and_eq_true, Bool.and_eq_false_iff, decide_eq_true_eq,
    decide_eq_false_iff_not] at *
  omega

end CodeUnit

namespace CodePoint

/-- A code point is a single code unit, or it is the pair of a high and a low one. -/
theorem eq_codePoint_or_pair (c : CodePoint) : (∃ u : CodeUnit, c = u.codePoint) ∨
    ∃ u v : CodeUnit, u.isHigh ∧ v.isLow ∧ c = CodeUnit.pair u v := by
  have exists_unit (n : Nat) (h : n < 0x10000) : ∃ u : CodeUnit, u.toNat = n :=
    ⟨UInt16.ofNat n, UInt16.toNat_ofNat_of_lt' h⟩
  by_cases small : c.val < 0x10000
  · obtain ⟨u, hu⟩ := exists_unit c.val small
    exact .inl ⟨u, Fin.ext hu.symm⟩
  · obtain ⟨u, hu⟩ := exists_unit (0xD800 + (c.val - 0x10000) / 0x400) (by omega)
    obtain ⟨v, hv⟩ := exists_unit (0xDC00 + (c.val - 0x10000) % 0x400) (by omega)
    refine .inr ⟨u, v, ?_, ?_, Fin.ext ?_⟩
    · simp only [CodeUnit.isHigh, hu, Bool.and_eq_true, decide_eq_true_eq]
      omega
    · simp only [CodeUnit.isLow, hv, Bool.and_eq_true, decide_eq_true_eq]
      omega
    · rw [CodeUnit.val_pair]
      omega

/-- The first code unit of a low surrogate is one, and that of any other code point is none. -/
theorem head_units (c : CodePoint) :
    ∃ u tail, c.units = u :: tail ∧ u.isLow = c.isLowSurrogate := by
  rcases c.eq_codePoint_or_pair with ⟨u, rfl⟩ | ⟨u, v, hu, hv, rfl⟩
  · exact ⟨u, [], u.units_codePoint, rfl⟩
  · refine ⟨u, [v], CodeUnit.units_pair hu hv, ?_⟩
    rw [CodeUnit.not_isLow_of_isHigh hu, CodeUnit.isLowSurrogate_pair]

end CodePoint

namespace Text

/-- Every sequence of code units is that of the text it is read as. -/
theorem units_ofUnits (us : List CodeUnit) : (ofUnits us).units = us := by
  fun_induction ofUnits us with
  | case1 => rfl
  | case2 u => simp [units, CodeUnit.units_codePoint]
  | case3 u v rest pair ih =>
    rw [Bool.and_eq_true] at pair
    simp only [units, List.flatMap_cons, CodeUnit.units_pair pair.1 pair.2] at ih ⊢
    rw [ih]
    rfl
  | case4 u v rest _ ih =>
    simp only [units, List.flatMap_cons, CodeUnit.units_codePoint] at ih ⊢
    rw [ih]
    rfl

theorem ofUnits_pair {u v : CodeUnit} (hu : u.isHigh) (hv : v.isLow) (us : List CodeUnit) :
    ofUnits (u :: v :: us) = CodeUnit.pair u v :: ofUnits us := by
  rw [ofUnits, hu, hv]
  rfl

theorem ofUnits_single {u v : CodeUnit} (us : List CodeUnit) (h : (u.isHigh && v.isLow) = false) :
    ofUnits (u :: v :: us) = u.codePoint :: ofUnits (v :: us) := by
  rw [ofUnits, h]
  rfl

/-- **What is lost between a text and its code units.**  Reading the code units of a text gives the
text with its surrogate pairs put together. -/
theorem ofUnits_units (t : Text) : ofUnits t.units = t.joinPairs := by
  fun_induction joinPairs t with
  | case1 => rfl
  | case2 c =>
    rcases c.eq_codePoint_or_pair with ⟨u, rfl⟩ | ⟨u, v, hu, hv, rfl⟩
    · simp [units, CodeUnit.units_codePoint, ofUnits]
    · simp [units, CodeUnit.units_pair hu hv, ofUnits_pair hu hv, ofUnits]
  | case3 c d rest pair ih =>
    rw [Bool.and_eq_true] at pair
    rcases c.eq_codePoint_or_pair with ⟨u, rfl⟩ | ⟨u, u', _, _, rfl⟩
    · rcases d.eq_codePoint_or_pair with ⟨v, rfl⟩ | ⟨v, v', _, _, rfl⟩
      · rw [units, List.flatMap_cons, List.flatMap_cons, u.units_codePoint, v.units_codePoint]
        exact (ofUnits_pair pair.1 pair.2 _).trans (congrArg _ ih)
      · exact absurd pair.2 (by simp [CodeUnit.isLowSurrogate_pair])
    · exact absurd pair.1 (by simp [CodeUnit.isHighSurrogate_pair])
  | case4 c d rest apart ih =>
    obtain ⟨v, tail, hv, low⟩ := d.head_units
    rw [units, List.flatMap_cons, hv, List.cons_append] at ih
    rw [units, List.flatMap_cons, List.flatMap_cons, hv, List.cons_append]
    rcases c.eq_codePoint_or_pair with ⟨u, rfl⟩ | ⟨u, u', hu, hu', rfl⟩
    · rw [u.units_codePoint]
      refine (ofUnits_single _ ?_).trans (congrArg _ ih)
      rw [low]
      exact Bool.eq_false_iff.mpr apart
    · rw [CodeUnit.units_pair hu hu']
      exact (ofUnits_pair hu hu' _).trans (congrArg _ ih)

theorem length_joinPairs_le (t : Text) : t.joinPairs.length ≤ t.length := by
  fun_induction joinPairs t with
  | case1 | case2 => exact Nat.le_refl _
  | case3 c d rest _ ih => simp only [List.length_cons] at ih ⊢; omega
  | case4 c d rest _ ih => simpa using ih

/-- Nothing is lost exactly if no high surrogate has a low one right behind it. -/
theorem joinPairs_eq_self_iff (t : Text) : t.joinPairs = t ↔
    t.IsChain fun c d => (c.isHighSurrogate && d.isLowSurrogate) = false := by
  fun_induction joinPairs t with
  | case1 => simp
  | case2 c => simp
  | case3 c d rest pair ih =>
    have shorter := length_joinPairs_le rest
    rw [List.isChain_cons_cons, pair]
    simp only [Bool.true_eq_false, false_and, iff_false]
    intro same
    have := congrArg List.length same
    simp only [List.length_cons] at this
    omega
  | case4 c d rest apart ih =>
    rw [List.isChain_cons_cons, ← ih, Bool.eq_false_iff.mpr apart]
    simp

end Text

end DexDiscovery
