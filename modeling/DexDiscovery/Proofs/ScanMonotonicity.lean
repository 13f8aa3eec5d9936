import DexDiscovery.Proofs.AtomicScans
import Mathlib.Data.List.Flatten

/-!
# More targets, more matches

A scan goes through the classes of a file once, and each match is a target for the classes behind
it.  One more target can therefore set off a whole chain of further matches, and each of them is a
class that has to be read.  `findTests_monotone` compares two scans of a file, one of which has all
the targets of the other.

**What is found.**  Whatever the smaller scan matches, the larger one matches too, so that the
matches of the smaller one stand in the same order among those of the larger one
(`Matches.mono`).  The tests go with their classes (`within_of_scan`), and so do the new targets.

**What fails.**  The smaller scan reads fewer classes, and fails only if the larger one does
(`exists_error_of_scan`).  The failure may be another one: the larger scan can come upon an
unreadable class before the one that stops the smaller scan.
-/

namespace DexDiscovery

/-- What one scan finds is found by another one as well, in the same order. -/
structure Scan.Within (scan larger : Scan) : Prop where
  classes : scan.classes.Sublist larger.classes
  tests : scan.tests.Sublist larger.tests

namespace DexFile

variable {f : DexFile} {namer : ClassNamer} {targets more : DescriptorSet} {scan larger : Scan}

/-- Of two scans of a file, the one with fewer targets finds some of what the other one finds. -/
theorem within_of_scan (sub : Members targets ⊆ Members more)
    (small : f.scan namer targets = .ok scan) (large : f.scan namer more = .ok larger) :
    scan.Within larger := by
  have classes : scan.classes.Sublist larger.classes := by
    obtain ⟨same, again, list⟩ := scan_mono large sub
    obtain rfl := Except.ok.inj (small.symm.trans again)
    exact list
  refine ⟨classes, ?_⟩
  obtain ⟨_, tests, each, flat⟩ := scan_eq_ok.mp small
  obtain ⟨_, tests', each', flat'⟩ := scan_eq_ok.mp large
  rw [flat, flat']
  exact (sublist_of_mapM_eq_ok each each' classes).flatten

/-- A scan that fails goes on failing when targets are added. -/
theorem exists_error_of_scan {e : Failure} (sub : Members targets ⊆ Members more)
    (fails : f.scan namer targets = .error e) : ∃ e', f.scan namer more = .error e' := by
  cases large : f.scan namer more with
  | error e' => exact ⟨e', rfl⟩
  | ok larger =>
    obtain ⟨scan, small, _⟩ := scan_mono large sub
    exact absurd (small.symm.trans fails) (by simp)

/-- The classes that a scan has matched are those that a search for subclasses finds. -/
theorem subclassesInto_of_scan (h : f.scan namer targets = .ok scan) :
    (f.subclassesInto targets).1 = .ok scan.classes := by
  have walk := (scan_eq_ok.mp h).1
  rw [subclassesInto_eq, subclassesOf_eq_ok.mpr walk]

/-- **Scans are monotone in their targets.**  If a scan for tests succeeds for some targets, it
succeeds for any of them alone.  What it finds with fewer targets, it finds with more: the matched
classes and the tests are sublists, and every target there is afterwards is one in the other case as
well.  A scan that fails for some targets fails for all sets that hold them. -/
theorem findTests_monotone (f : DexFile) (namer : ClassNamer) (targets more : DescriptorSet)
    (sub : Members targets ⊆ Members more) :
    (∀ tests' after', f.testsInto namer more = (.ok tests', after') →
      ∃ tests after, f.testsInto namer targets = (.ok tests, after)) ∧
    (∀ tests after tests' after', f.testsInto namer targets = (.ok tests, after) →
      f.testsInto namer more = (.ok tests', after') →
        (∃ found found', (f.subclassesInto targets).1 = .ok found ∧
          (f.subclassesInto more).1 = .ok found' ∧ found.Sublist found') ∧
        tests.Sublist tests' ∧ Members after ⊆ Members after') ∧
    ∀ e after, f.testsInto namer targets = (.error e, after) →
      ∃ e' after', f.testsInto namer more = (.error e', after') := by
  refine ⟨?_, ?_, ?_⟩
  · intro tests' after' answer
    obtain ⟨larger, large, _⟩ := testsInto_eq_ok.mp answer
    obtain ⟨scan, small, _⟩ := scan_mono large sub
    exact ⟨_, _, testsInto_eq_ok.mpr ⟨scan, small, rfl, rfl⟩⟩
  · intro tests after tests' after' answer answer'
    obtain ⟨scan, small, rfl, rfl⟩ := testsInto_eq_ok.mp answer
    obtain ⟨larger, large, rfl, rfl⟩ := testsInto_eq_ok.mp answer'
    have within := within_of_scan sub small large
    refine ⟨⟨_, _, subclassesInto_of_scan small, subclassesInto_of_scan large, within.classes⟩,
      within.tests, ?_⟩
    rw [members_union_copy, members_union_copy]
    apply Set.union_subset_union sub
    rintro d ⟨m, found, rfl⟩
    exact ⟨m, within.classes.subset found, rfl⟩
  · intro e after answer
    obtain ⟨fails, rfl⟩ := testsInto_eq_error.mp answer
    obtain ⟨e', fails'⟩ := exists_error_of_scan sub fails
    exact ⟨e', more, testsInto_eq_error.mpr ⟨fails', rfl⟩⟩

end DexFile

namespace Sample

/-- `B` extends `A` and stands before it; `A` extends the base class `T`; `C` extends `B`. -/
def cascade : DexFile :=
  file "cascade.dex" [classDef 2 1 (some 32), classDef 1 0 (some 32), classDef 3 2]

end Sample

/-- With `T` alone among the targets, a scan of `cascade` matches `A`; with `A` among them as well,
it also matches `B` and `C`.  In `spoilt`, the class `B` stops the scan for `C` and `T`, and does so
when `A` is added. -/
theorem monotone_on_cascade :
    Members Sample.bases ⊆ Members (Sample.bases.insert "LA;") ∧
    (∃ after after',
      Sample.cascade.testsInto Sample.namer Sample.bases = (.ok ["A#testX"], after) ∧
      Sample.cascade.testsInto Sample.namer (Sample.bases.insert "LA;") =
        (.ok ["B#testX", "A#testX"], after') ∧
      ([("A#testX" : Text)]).Sublist ["B#testX", "A#testX"] ∧ Members after ⊆ Members after') ∧
    ∃ e' after', Sample.spoilt.testsInto Sample.namer ((Sample.bases.insert "LC;").insert "LA;") =
      (.error e', after') := by
  have sub (targets : DescriptorSet) (d : Text) : Members targets ⊆ Members (targets.insert d) := by
    rw [members_insert]
    exact Set.subset_insert d _
  have found : ((Sample.cascade.testsInto Sample.namer Sample.bases).1.toOption,
      (Sample.cascade.testsInto Sample.namer (Sample.bases.insert "LA;")).1.toOption) =
        (some [("A#testX" : Text)], some [("B#testX" : Text), "A#testX"]) := by decide +kernel
  have fails : (Sample.spoilt.testsInto Sample.namer (Sample.bases.insert "LC;")).1.isOk
      = false := by decide +kernel
  obtain ⟨small, large⟩ := Prod.mk.inj found
  refine ⟨sub _ _, ⟨_, _, Prod.ext (toOption_eq_some.mp small) rfl,
    Prod.ext (toOption_eq_some.mp large) rfl, ?_⟩, ?_⟩
  · obtain ⟨_, both, _⟩ := DexFile.findTests_monotone Sample.cascade Sample.namer Sample.bases
      (Sample.bases.insert "LA;") (sub _ _)
    exact (both _ _ _ _ (Prod.ext (toOption_eq_some.mp small) rfl)
      (Prod.ext (toOption_eq_some.mp large) rfl)).2
  · obtain ⟨_, _, failure⟩ := DexFile.findTests_monotone Sample.spoilt Sample.namer
      (Sample.bases.insert "LC;") _ (sub _ "LA;")
    rcases answer : Sample.spoilt.testsInto Sample.namer (Sample.bases.insert "LC;") with
      ⟨e | tests, after⟩
    · exact failure e after answer
    · simp [answer, Except.isOk, Except.toBool] at fails

end DexDiscovery
