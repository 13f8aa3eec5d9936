import DexDiscovery.Proofs.BufferRuns
import DexDiscovery.Proofs.Grouping

/-!
# Tests attributed to their classes

The tests of a run that has skipped nothing are made of the pairs of a matched class and one of its
test methods (`madeOf_testPairs`).  The result does not keep the pairs, and grouping finds them
again in the identifiers, from the right.  So a separator that occurs in class names does no harm,
but one that reaches into the name of a test method does: `buffers_attributed_iff` says that this
alone makes the groups of a result wrong.
-/

namespace DexDiscovery

/-- The dotted names of the classes that extend a reached class, each with the names of its test
methods. -/
def testPairs (files : List DexFile) (bases : Set Text) : Set (Text × Text) :=
  {p | ∃ f ∈ files, ∃ c ∈ f.image.classes, (∃ s ∈ reached files bases, f.image.Extends c s) ∧
    ∃ d methods, f.image.descriptorOf c = .ok d ∧ ClassName.dotted [] d = .ok p.1 ∧
      f.image.virtualMethodNames c = .ok methods ∧ p.2 ∈ methods ∧ DexFile.testMark <+: p.2}

/-- A class is named in an identifier by its dotted name and the separator. -/
theorem ClassName.dotted_eq_ok {separator descriptor name : Text} :
    dotted separator descriptor = .ok name ↔
      ∃ cls, dotted [] descriptor = .ok cls ∧ cls ++ separator = name := by
  unfold dotted
  cases isClassDescriptor descriptor <;> simp

theorem mem_testsUnder_dotted {files : List DexFile} {bases : Set Text} {separator t : Text} :
    t ∈ testsUnder (ClassName.dotted separator) files (reached files bases) ↔
      ∃ p ∈ testPairs files bases, p.1 ++ separator ++ p.2 = t := by
  constructor
  · rintro ⟨f, hf, c, hc, edge, d, name, methods, hd, named, listed, m, hm, mark, rfl⟩
    obtain ⟨cls, hcls, rfl⟩ := ClassName.dotted_eq_ok.mp named
    exact ⟨(cls, m), ⟨f, hf, c, hc, edge, d, methods, hd, hcls, listed, hm, mark⟩, rfl⟩
  · rintro ⟨p, ⟨f, hf, c, hc, edge, d, methods, hd, hcls, listed, hm, mark⟩, rfl⟩
    exact ⟨f, hf, c, hc, edge, d, _, methods, hd, ClassName.dotted_eq_ok.mpr ⟨_, hcls, rfl⟩,
      listed, _, hm, mark, rfl⟩

/-- An engine whose separator may well be part of a method name. -/
def Sample.underscore : Engine where
  settings := { separator := "_" }
  separator_ne_nil := List.cons_ne_nil _ _

namespace Engine

variable {e : Engine} {buffers : List Bytes} {journal : Journal} {d : Discovery}

section Result
variable (h : (e.discoverBuffers buffers journal).1 = .ok d)
include h

theorem separator_of_discoverBuffers : d.separator = e.settings.separator := by
  obtain ⟨loaded, c, _, _, rfl⟩ := exists_result_of_discoverBuffers h
  rfl

theorem tests_nodup : d.tests.Nodup := by
  obtain ⟨loaded, c, _, _, rfl⟩ := exists_result_of_discoverBuffers h
  exact toList_nodup

/-- The tests of a result without skipped files are made of the matched classes and their test
methods. -/
theorem madeOf_testPairs (complete : d.skipped = []) :
    d.MadeOf (testPairs (filesOf buffers) (Members e.bases)) := by
  obtain ⟨loaded, c, load, run, rfl⟩ := exists_result_of_discoverBuffers h
  have none : c.skipped = [] := List.map_eq_nil_iff.mp (List.append_eq_nil_iff.mp complete).2
  intro t
  calc t ∈ c.tests.toList
      ↔ t ∈ Members c.tests := Std.TreeSet.mem_toList
    _ ↔ t ∈ testsUnder e.search.namer (filesOf buffers)
          (reached (filesOf buffers) (Members e.bases)) := by
        rw [Search.tests_eq_testsUnder run none, Search.known_eq_reached run none,
          (files_of_loaded load).1]
    _ ↔ _ := mem_testsUnder_dotted

end Result

/-- **Tests are attributed to their classes unless the separator reaches into a method.**  If a
discovery in buffers returns and has skipped nothing, the groups of its result are those of the
matched classes and their test methods, and there are as many tests as such pairs, if and only if
the separator with a test method behind it never holds the separator but at its beginning. -/
theorem buffers_attributed_iff (h : (e.discoverBuffers buffers journal).1 = .ok d)
    (complete : d.skipped = []) :
    d.Attributes (testPairs (filesOf buffers) (Members e.bases)) ↔
      ∀ p ∈ testPairs (filesOf buffers) (Members e.bases),
        ¬ e.settings.separator <:+: (e.settings.separator ++ p.2).tail := by
  have same := separator_of_discoverBuffers h
  have nonempty : d.separator ≠ [] := same ▸ e.separator_ne_nil
  rw [← same]
  exact Discovery.attributes_iff (madeOf_testPairs h complete) nonempty (tests_nodup h)

/-- The number sign is not in `testX`, so this is found as the test method of `A`. -/
theorem attributed_of_number_sign :
    ∃ d, ((Sample.engine .strict).discoverBuffers [Sample.dex "LA;" "testX"] {}).1 = .ok d ∧
      d.skipped = [] ∧ d.testsByClass = [(("A" : Text), [("testX" : Text)])] ∧
        d.Attributes (testPairs (filesOf [Sample.dex "LA;" "testX"])
          (Members (Sample.engine .strict).bases)) := by
  have found : ((Sample.engine .strict).discoverBuffers
      [Sample.dex "LA;" "testX"] {}).1.toOption.map (fun d => (d.skipped, d.testsByClass))
        = some ([], [(("A" : Text), [("testX" : Text)])]) := by
    decide +kernel
  have listed : ∀ f ∈ filesOf [Sample.dex "LA;" "testX"], ∀ c ∈ f.image.classes,
      f.image.virtualMethodNames c = .ok ["testX"] := by
    decide +kernel
  obtain ⟨d, returns, parts⟩ := exists_ok_of_toOption_map found
  obtain ⟨complete, groups⟩ := Prod.mk.inj parts
  refine ⟨d, returns, complete, groups, (buffers_attributed_iff returns complete).mpr ?_⟩
  rintro p ⟨f, hf, c, hc, _, _, methods, _, _, names, hm, _⟩
  obtain rfl := Except.ok.inj ((listed f hf c hc).symm.trans names)
  rw [List.mem_singleton.mp hm]
  decide

/-- With an underscore as the separator, the test `test_a` of `A` goes to a class `A_test`, which
does not exist. -/
theorem not_attributed_of_underscore :
    ¬ ∀ (e : Engine) (buffers : List Bytes) (journal : Journal) (d : Discovery),
      (e.discoverBuffers buffers journal).1 = .ok d → d.skipped = [] →
        d.Attributes (testPairs (filesOf buffers) (Members e.bases)) := by
  intro attributed
  have found : (Sample.underscore.discoverBuffers
      [Sample.dex "LA;" "test_a"] {}).1.toOption.map (fun d => (d.skipped, d.testsByClass))
        = some ([], [(("A_test" : Text), [("a" : Text)])]) := by
    decide +kernel
  have named : ∀ f ∈ filesOf [Sample.dex "LA;" "test_a"], ∀ c ∈ f.image.classes,
      f.image.descriptorOf c = .ok "LA;" := by
    decide +kernel
  obtain ⟨d, returns, parts⟩ := exists_ok_of_toOption_map found
  obtain ⟨complete, groups⟩ := Prod.mk.inj parts
  have attributes := attributed _ _ _ d returns complete
  obtain ⟨method, f, hf, c, hc, _, descriptor, _, hd, dotted, _⟩ :=
    (attributes.classes "A_test").mp (by rw [groups]; exact List.mem_singleton_self _)
  obtain rfl := Except.ok.inj ((named f hf c hc).symm.trans hd)
  have own : ClassName.dotted [] "LA;" = .ok "A" := by decide
  have same : ("A" : Text) = "A_test" := Except.ok.inj (own.symm.trans dotted)
  exact absurd same (by decide)

end Engine

end DexDiscovery
