import DexDiscovery.DexFile
import Mathlib.Data.List.Perm.Subperm
import Mathlib.Logic.Relation
import Mathlib.Order.Bounds.Basic

/-!
# Classes reached from the base classes

Which classes are test classes depends on the `extends` edges of all files together, in whichever
file they stand and in whichever order the files are read.  This module says so without any run:
`Derives` is one edge, `reached` is what chains of edges lead to from the base classes, and
`isLeast_reached` says that it is the least set that holds the base classes and is closed under the
edges.  A class whose own descriptor cannot be read ends the chains that lead to it.

`testsUnder` reads the tests off such a set; `testsIn` are the tests that the files have at all.
-/

namespace DexDiscovery

/-- The members of a set of texts. -/
def Members (s : Std.TreeSet Text) : Set Text := {x | x ∈ s}

@[simp]
theorem mem_members {s : Std.TreeSet Text} {x : Text} : x ∈ Members s ↔ x ∈ s := Iff.rfl

theorem members_insert {s : Std.TreeSet Text} {x : Text} :
    Members (s.insert x) = insert x (Members s) := by
  ext y
  rw [mem_members, Std.TreeSet.mem_insert, Std.LawfulEqCmp.compare_eq_iff_eq,
    Set.mem_insert_iff, mem_members]
  exact or_congr_left eq_comm

theorem toList_nodup {s : Std.TreeSet Text} : s.toList.Nodup :=
  s.distinct_toList.imp fun h => mt Std.LawfulEqCmp.compare_eq_iff_eq.mpr h

theorem toList_subperm {s t : Std.TreeSet Text} (sub : Members s ⊆ Members t) :
    s.toList.Subperm t.toList :=
  List.subperm_of_subset toList_nodup fun _ hx =>
    Std.TreeSet.mem_toList.mpr (sub (Std.TreeSet.mem_toList.mp hx))

theorem size_le_of_subset {s t : Std.TreeSet Text} (sub : Members s ⊆ Members t) :
    s.size ≤ t.size := by
  rw [← Std.TreeSet.length_toList, ← Std.TreeSet.length_toList]
  exact (toList_subperm sub).length_le

/-- A set that is contained in another of the same size is the same set. -/
theorem members_eq_of_size {s t : Std.TreeSet Text} (sub : Members s ⊆ Members t)
    (size : t.size = s.size) : Members s = Members t := by
  have perm : s.toList.Perm t.toList := by
    refine (toList_subperm sub).perm_of_length_le ?_
    rw [Std.TreeSet.length_toList, Std.TreeSet.length_toList, size]
  ext x
  rw [mem_members, mem_members, ← Std.TreeSet.mem_toList, ← Std.TreeSet.mem_toList, perm.mem_iff]

/-- A set has as many members as one within it and those outside of that. -/
theorem size_add_length_filter {s t : Std.TreeSet Text} (sub : Members s ⊆ Members t) :
    s.size + (t.toList.filter (· ∉ s)).length = t.size := by
  have inside : (t.toList.filter (· ∈ s)).Perm s.toList := by
    refine (List.perm_ext_iff_of_nodup (toList_nodup.filter _) toList_nodup).mpr fun x => ?_
    rw [List.mem_filter, Std.TreeSet.mem_toList, Std.TreeSet.mem_toList, decide_eq_true_eq]
    exact and_iff_right_of_imp fun mem => sub mem
  calc s.size + (t.toList.filter (· ∉ s)).length
      = (t.toList.filter (· ∈ s)).length + (t.toList.filter (· ∉ s)).length := by
        rw [inside.length_eq, Std.TreeSet.length_toList]
    _ = t.toList.length := by
        rw [List.length_eq_length_filter_add (l := t.toList) fun x => decide (x ∈ s)]
        simp only [decide_not]
    _ = t.size := Std.TreeSet.length_toList

namespace Image

/-- `c` extends the class with descriptor `s`. -/
def Extends (image : Image) (c : ClassDef) (s : Text) : Prop :=
  ∃ index, c.superclass? = some index ∧ image.descriptor index = .ok s

/-- A class extends one class at most. -/
theorem Extends.unique {image : Image} {c : ClassDef} {s t : Text} (hs : image.Extends c s)
    (ht : image.Extends c t) : s = t := by
  obtain ⟨i, hi, hs⟩ := hs
  obtain ⟨j, hj, ht⟩ := ht
  obtain rfl : i = j := Option.some.inj (hi.symm.trans hj)
  exact Except.ok.inj (hs.symm.trans ht)

/-- `R` holds the descriptor of every class of the image that extends a member of `R`. -/
def ClosedUnder (image : Image) (R : Set Text) : Prop :=
  ∀ c ∈ image.classes, ∀ s ∈ R, image.Extends c s → ∀ d, image.descriptorOf c = .ok d → d ∈ R

end Image

namespace DexFile

/-- `t` names a test of `c`: a virtual method whose name begins with the test mark, behind the
name of the class. -/
def IsTest (f : DexFile) (namer : ClassNamer) (c : ClassDef) (t : Text) : Prop :=
  ∃ d name methods, f.image.descriptorOf c = .ok d ∧ namer d = .ok name ∧
    f.image.virtualMethodNames c = .ok methods ∧
      ∃ m ∈ methods, testMark <+: m ∧ t = name ++ m

end DexFile

variable {files : List DexFile} {bases R : Set Text}

/-- Some file defines a class `d` that extends `s`. -/
def Derives (files : List DexFile) (s d : Text) : Prop :=
  ∃ f ∈ files, ∃ c ∈ f.image.classes, f.image.Extends c s ∧ f.image.descriptorOf c = .ok d

/-- What chains of `extends` edges lead to from the base classes, these included. -/
def reached (files : List DexFile) (bases : Set Text) : Set Text :=
  {d | ∃ b ∈ bases, Relation.ReflTransGen (Derives files) b d}

/-- The tests of all classes that extend a member of `R`. -/
def testsUnder (namer : ClassNamer) (files : List DexFile) (R : Set Text) : Set Text :=
  {t | ∃ f ∈ files, ∃ c ∈ f.image.classes, (∃ s ∈ R, f.image.Extends c s) ∧ f.IsTest namer c t}

/-- The tests of all classes. -/
def testsIn (namer : ClassNamer) (files : List DexFile) : Set Text :=
  {t | ∃ f ∈ files, ∃ c ∈ f.image.classes, f.IsTest namer c t}

theorem testsUnder_subset_testsIn {namer : ClassNamer} :
    testsUnder namer files R ⊆ testsIn namer files :=
  fun _ ⟨f, hf, c, hc, _, test⟩ => ⟨f, hf, c, hc, test⟩

theorem bases_subset_reached : bases ⊆ reached files bases :=
  fun b hb => ⟨b, hb, .refl⟩

theorem reached_closedUnder : ∀ f ∈ files, f.image.ClosedUnder (reached files bases) := by
  rintro f hf c hc s ⟨b, hb, chain⟩ hs d hd
  exact ⟨b, hb, chain.tail ⟨f, hf, c, hc, hs, hd⟩⟩

/-- A closed set that holds the base classes holds everything reached from them. -/
theorem reached_subset (hb : bases ⊆ R) (closed : ∀ f ∈ files, f.image.ClosedUnder R) :
    reached files bases ⊆ R := by
  rintro d ⟨b, hbase, chain⟩
  induction chain with
  | refl => exact hb hbase
  | tail _ edge ih =>
    obtain ⟨f, hf, c, hc, hs, hd⟩ := edge
    exact closed f hf c hc _ ih hs _ hd

/-- **Least closed set.**  What is reached from the base classes is the least set that holds them
and is closed under the `extends` edges of every file. -/
theorem isLeast_reached :
    IsLeast {R | bases ⊆ R ∧ ∀ f ∈ files, f.image.ClosedUnder R} (reached files bases) :=
  ⟨⟨bases_subset_reached, reached_closedUnder⟩, fun _ h => reached_subset h.1 h.2⟩

/-- Files that are all among others reach no more than these. -/
theorem reached_mono {files' : List DexFile} (h : files ⊆ files') :
    reached files bases ⊆ reached files' bases :=
  reached_subset bases_subset_reached fun f hf => reached_closedUnder f (h hf)

theorem reached_congr {files' : List DexFile} (h : ∀ f, f ∈ files ↔ f ∈ files') :
    reached files bases = reached files' bases :=
  Set.Subset.antisymm (reached_mono fun f => (h f).mp) (reached_mono fun f => (h f).mpr)

theorem testsUnder_congr {files' : List DexFile} {namer : ClassNamer}
    (h : ∀ f, f ∈ files ↔ f ∈ files') : testsUnder namer files R = testsUnder namer files' R := by
  ext t
  exact exists_congr fun f => and_congr_left fun _ => h f

end DexDiscovery
