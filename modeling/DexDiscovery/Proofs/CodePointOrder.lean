import DexDiscovery.DexFile
import Mathlib.Data.List.Basic

/-!
# The order of texts

Every sorted answer is sorted by code points: the first place where two texts differ decides, and a
text comes before its continuations.  Both the comparison that sets of texts are kept in and the
test that lists of texts are sorted by are this order (`Text.compare_eq_lt_iff`, `Text.le_iff`).
Sorting therefore does not depend on the order of a list (`Text.sort_eq_of_perm`).
-/

namespace DexDiscovery

namespace Text

/-- A text comes before another one, by code points. -/
def Before (s t : Text) : Prop :=
  List.Lex (fun a b => a.val < b.val) s t

/-- Sets of texts compare texts code point by code point. -/
theorem compare_eq_lt_iff {s t : Text} : compare s t = .lt ↔ Before s t := by
  unfold Before
  induction s generalizing t with
  | nil =>
    cases t with
    | nil => simp [compare, List.compareLex_nil_nil]
    | cons b t => simp [compare, List.compareLex_nil_cons]
  | cons a s ih =>
    cases t with
    | nil => simp [compare, List.compareLex_cons_nil]
    | cons b t =>
      have step : compare (a :: s) (b :: t) = (compare a b).then (compare s t) :=
        List.compareLex_cons_cons
      have head : compare a b = .lt ↔ a.val < b.val := Nat.compare_eq_lt
      rw [step, List.cons_lex_cons_iff, Ordering.then_eq_lt, ih, head,
        Std.LawfulEqCmp.compare_eq_iff_eq]

/-- The test that texts are sorted by. -/
theorem le_iff {s t : Text} : Text.le s t = true ↔ s = t ∨ Before s t := by
  unfold Before
  induction s generalizing t with
  | nil => cases t <;> simp [Text.le]
  | cons a s ih =>
    cases t with
    | nil => simp [Text.le]
    | cons b t =>
      rw [Text.le, List.cons_lex_cons_iff, List.cons.injEq]
      by_cases same : a.val = b.val
      · simp [same, ih, Fin.ext_iff]
      · simp [same, Fin.ext_iff]

theorem Before.trans {s t u : Text} (h : Before s t) (h' : Before t u) : Before s u :=
  List.lex_trans (fun h h' => Nat.lt_trans h h') h h'

/-- Of two texts, one comes before the other or they are the same. -/
theorem before_trichotomy (s t : Text) : Before s t ∨ s = t ∨ Before t s := by
  cases order : compare s t with
  | lt => exact .inl (compare_eq_lt_iff.mp order)
  | eq => exact .inr (.inl (Std.LawfulEqCmp.compare_eq_iff_eq.mp order))
  | gt => exact .inr (.inr (compare_eq_lt_iff.mp (Std.OrientedCmp.lt_of_gt order)))

theorem Before.asymm {s t : Text} (h : Before s t) : ¬Before t s := by
  intro h'
  have after := Std.OrientedCmp.gt_of_lt (compare_eq_lt_iff.mpr h)
  rw [compare_eq_lt_iff.mpr h'] at after
  contradiction

/-! ## Sorted lists -/

protected theorem le_trans (s t u : Text) (h : le s t = true) (h' : le t u = true) :
    le s u = true := by
  rw [le_iff] at h h' ⊢
  rcases h with rfl | h
  · exact h'
  · rcases h' with rfl | h'
    · exact .inr h
    · exact .inr (h.trans h')

protected theorem le_total (s t : Text) : (le s t || le t s) = true := by
  rw [Bool.or_eq_true, le_iff, le_iff]
  rcases before_trichotomy s t with before | same | before
  · exact .inl (.inr before)
  · exact .inl (.inl same)
  · exact .inr (.inr before)

/-- Sorting loses no text and adds none. -/
theorem perm_sort (l : List Text) : (sort l).Perm l :=
  List.mergeSort_perm l le

/-- Sorted texts are in code-point order. -/
theorem pairwise_sort (l : List Text) : (sort l).Pairwise fun s t => s = t ∨ Before s t :=
  (List.pairwise_mergeSort Text.le_trans Text.le_total l).imp le_iff.mp

/-- Sorting does not depend on the order in which the texts come. -/
theorem sort_eq_of_perm {l l' : List Text} (h : l.Perm l') : sort l = sort l' := by
  have same : (sort l).Perm (sort l') := (perm_sort l).trans (h.trans (perm_sort l').symm)
  refine List.Perm.eq_of_pairwise ?_ (pairwise_sort l) (pairwise_sort l') same
  intro s t _ _ le le'
  rcases le with equal | before
  · exact equal
  · exact (le'.resolve_right before.asymm).symm

end Text

/-- The texts of a set are listed in strictly ascending order. -/
theorem pairwise_before_toList (s : Std.TreeSet Text) : s.toList.Pairwise Text.Before :=
  s.ordered_toList.imp Text.compare_eq_lt_iff.mp

end DexDiscovery
