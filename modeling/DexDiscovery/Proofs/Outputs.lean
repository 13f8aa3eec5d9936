import DexDiscovery.Display
import DexDiscovery.Proofs.CodePointOrder
import DexDiscovery.Proofs.Grouping
import DexDiscovery.Report

/-!
# What the outputs tell

Three outputs tell what tests have been found: the groups by class, which the JSON report holds as
they are, the table of the test classes on the console, and the test list.  Each of them is made
from the list of tests by its own splitting and sorting.  None of them loses a test or counts one
twice, whatever the tests and the separator are: tests may be there more than once, hold the
separator several times or not at all.

Entering a test into the groups adds one pair of a class and a method (`perm_pairs_addMethod`), so
that the pairs in all groups are the split tests (`perm_pairs`).  The sorted outputs rest on sorting
being a permutation; the classes of a table are different ones, so that their order is a strict one
(`pairwise_sortedGroups`).
-/

namespace DexDiscovery

namespace Discovery

variable {separator test cls method : Text} {tests : List Text} {d : Discovery}
  {groups : List (Text × List Text)}

/-! ## Single tests -/

/-- How a test is split: at the last separator, if there is one. -/
structure Splits (separator test : Text) (parts : Text × Text) : Prop where
  joined : separator <:+: test → parts.1 ++ separator ++ parts.2 = test
  last : separator <:+: test → ¬separator <:+: parts.2
  whole : ¬separator <:+: test → parts = ([], test)

/-- What comes behind the last separator does not hold another one. -/
theorem not_infix_splitTest (h : separator <:+: test) (nonempty : separator ≠ []) :
    ¬separator <:+: (splitTest separator test).2 := by
  intro again
  have parts := (splitTest_join_iff nonempty).mp
    (congrArg (splitTest separator) (join_splitTest h nonempty))
  -- behind its first code point, the separator and the method still hold all of the method
  obtain ⟨c, rest, rfl⟩ := List.exists_cons_of_ne_nil nonempty
  exact parts (again.trans (List.suffix_append rest _).isInfix)

theorem splits_splitTest (nonempty : separator ≠ []) :
    Splits separator test (splitTest separator test) where
  joined h := join_splitTest h nonempty
  last h := not_infix_splitTest h nonempty
  whole h := by rw [splitTest, Text.splitAtLast?_eq_none_iff.mpr h, Option.getD_none]

/-! ## All tests -/

/-- The pairs of a class and a method that the groups hold. -/
def pairs (groups : List (Text × List Text)) : List (Text × Text) :=
  groups.flatMap fun group => group.2.map fun method => (group.1, method)

theorem pairs_cons (group : Text × List Text) :
    pairs (group :: groups) = (group.2.map fun method => (group.1, method)) ++ pairs groups :=
  List.flatMap_cons

/-- Entering a method adds one pair. -/
theorem perm_pairs_addMethod :
    (pairs (addMethod cls method groups)).Perm ((cls, method) :: pairs groups) := by
  induction groups with
  | nil => exact .refl _
  | cons group rest ih =>
    obtain ⟨name, methods⟩ := group
    rw [addMethod]
    split
    · rename_i here
      subst here
      rw [pairs_cons, pairs_cons, List.map_append, List.append_assoc]
      exact List.perm_middle
    · rw [pairs_cons, pairs_cons]
      exact (ih.append_left _).trans List.perm_middle

/-- Grouping adds the split tests to the pairs that are there. -/
theorem perm_pairs_groupOnto :
    (pairs (groupOnto separator groups tests)).Perm
      (tests.map (splitTest separator) ++ pairs groups) := by
  induction tests generalizing groups with
  | nil => exact .refl _
  | cons t rest ih =>
    have step : (pairs (groupOnto separator groups (t :: rest))).Perm
        (rest.map (splitTest separator) ++ (splitTest separator t :: pairs groups)) :=
      ih.trans (perm_pairs_addMethod.append_left _)
    exact step.trans List.perm_middle

/-- The pairs in the groups of a result are its split tests. -/
theorem perm_pairs (d : Discovery) :
    (pairs d.testsByClass).Perm (d.tests.map (splitTest d.separator)) := by
  have all : (pairs d.testsByClass).Perm (d.tests.map (splitTest d.separator) ++ pairs []) :=
    perm_pairs_groupOnto
  rwa [show pairs [] = [] from rfl, List.append_nil] at all

theorem length_pairs : (pairs groups).length = (groups.map fun group => group.2.length).sum := by
  simp only [pairs, List.length_flatMap, List.length_map]

/-- There are as many methods in the groups as tests. -/
theorem sum_length_testsByClass (d : Discovery) :
    (d.testsByClass.map fun group => group.2.length).sum = d.testCount := by
  rw [← length_pairs, d.perm_pairs.length_eq, List.length_map, testCount]

theorem testsByClass_eq_nil_iff : d.testsByClass = [] ↔ d.tests = [] := by
  constructor
  · intro empty
    have count := d.sum_length_testsByClass
    rw [empty] at count
    exact List.length_eq_zero_iff.mp count.symm
  · intro empty
    rw [testsByClass, empty]
    rfl

/-- Putting the pairs together again gives the tests, if each of them holds the separator. -/
theorem perm_join_pairs (nonempty : d.separator ≠ [])
    (split : ∀ t ∈ d.tests, d.separator <:+: t) :
    ((pairs d.testsByClass).map fun p => p.1 ++ d.separator ++ p.2).Perm d.tests := by
  have joined := d.perm_pairs.map fun p => p.1 ++ d.separator ++ p.2
  have same : d.tests.map (fun t => (splitTest d.separator t).1 ++ d.separator ++
      (splitTest d.separator t).2) = d.tests.map id :=
    List.map_congr_left fun t ht => join_splitTest (split t ht) nonempty
  rwa [List.map_map, Function.comp_def, same, List.map_id] at joined

/-! ## The order of the classes -/

/-- Without its later duplicates, a list is in the order of first occurrences. -/
theorem pairwise_idxOf_eraseDups {α : Type} [BEq α] [LawfulBEq α] (l : List α) :
    l.eraseDups.Pairwise fun a b => l.idxOf a < l.idxOf b := by
  induction l using List.reverseRecOn with
  | nil => exact .nil
  | append_singleton l x ih =>
    have before : l.eraseDups.Pairwise fun a b => (l ++ [x]).idxOf a < (l ++ [x]).idxOf b := by
      refine ih.imp_of_mem fun {a b} ha hb lt => ?_
      rwa [List.idxOf_append_of_mem (List.mem_eraseDups.mp ha),
        List.idxOf_append_of_mem (List.mem_eraseDups.mp hb)]
    rw [eraseDups_append_singleton]
    by_cases mem : x ∈ l.eraseDups
    · rwa [if_pos mem]
    · rw [if_neg mem, List.pairwise_append]
      refine ⟨before, List.pairwise_singleton .., fun a ha y hy => ?_⟩
      obtain rfl := List.mem_singleton.mp hy
      have old := List.mem_eraseDups.mp ha
      rw [List.idxOf_append_of_mem old,
        List.idxOf_append_of_notMem fun new => mem (List.mem_eraseDups.mpr new)]
      exact Nat.lt_add_right _ (List.idxOf_lt_length_of_mem old)

/-- The groups of a result, and what they have to do with its tests: each class once, in the order
of first occurrences, with the methods of its tests, in their order. -/
structure Groups (d : Discovery) (groups : List (Text × List Text)) : Prop where
  distinct : (groups.map Prod.fst).Nodup
  classes (cls : Text) :
    cls ∈ groups.map Prod.fst ↔ ∃ t ∈ d.tests, (splitTest d.separator t).1 = cls
  order : (groups.map Prod.fst).Pairwise fun cls cls' =>
    (d.tests.map fun t => (splitTest d.separator t).1).idxOf cls <
      (d.tests.map fun t => (splitTest d.separator t).1).idxOf cls'
  methods (cls : Text) (methods : List Text) : (cls, methods) ∈ groups →
    methods = ((d.tests.map (splitTest d.separator)).filter (·.1 = cls)).map Prod.snd
  pairs : (pairs groups).Perm (d.tests.map (splitTest d.separator))
  joined : (∀ t ∈ d.tests, d.separator <:+: t) →
    ((Discovery.pairs groups).map fun p => p.1 ++ d.separator ++ p.2).Perm d.tests
  count : (groups.map fun group => group.2.length).sum = d.testCount

theorem groups_testsByClass (nonempty : d.separator ≠ []) : d.Groups d.testsByClass where
  distinct := map_fst_testsByClass ▸ classesOf_nodup
  classes cls := by
    rw [map_fst_testsByClass]
    exact mem_classesOf
  order := by
    rw [map_fst_testsByClass]
    exact pairwise_idxOf_eraseDups _
  methods cls methods group := by
    rw [← (mem_testsByClass.mp group).2, methodsOf, List.filter_map, List.map_map]
    rfl
  pairs := d.perm_pairs
  joined := perm_join_pairs nonempty
  count := d.sum_length_testsByClass

end Discovery

/-! ## The console -/

namespace Display

variable {d : Discovery}

/-- The groups in the order of the class table. -/
def sortedGroups (d : Discovery) : List (Text × List Text) :=
  d.testsByClass.mergeSort groupLe

theorem perm_sortedGroups (d : Discovery) : (sortedGroups d).Perm d.testsByClass :=
  List.mergeSort_perm _ _

/-- The classes of the table are different ones, in ascending order. -/
theorem pairwise_sortedGroups (d : Discovery) :
    (sortedGroups d).Pairwise fun a b => Text.Before a.1 b.1 := by
  have sorted : (sortedGroups d).Pairwise fun a b => groupLe a b = true :=
    List.pairwise_mergeSort (fun a b c => Text.le_trans a.1 b.1 c.1)
      (fun a b => Text.le_total a.1 b.1) _
  have distinct : ((sortedGroups d).map Prod.fst).Nodup := by
    rw [((perm_sortedGroups d).map Prod.fst).nodup_iff, Discovery.map_fst_testsByClass]
    exact Discovery.classesOf_nodup
  refine sorted.imp₂ (fun a b le ne => ?_) (List.pairwise_map.mp distinct)
  exact (Text.le_iff.mp le).resolve_left ne

/-- The groups of a result as a table lists them: all of them, in ascending order of the classes. -/
structure Ascending (d : Discovery) (groups : List (Text × List Text)) : Prop where
  perm : groups.Perm d.testsByClass
  ascending : groups.Pairwise fun a b => Text.Before a.1 b.1
  count : (groups.map fun group => group.2.length).sum = d.testCount

theorem ascending_sortedGroups (d : Discovery) : Ascending d (sortedGroups d) where
  perm := perm_sortedGroups d
  ascending := pairwise_sortedGroups d
  count := by
    rw [← d.sum_length_testsByClass]
    exact ((perm_sortedGroups d).map _).sum_nat

theorem classTable_of_nil (showTests : Bool) (empty : d.tests = []) :
    classTable showTests d = .warning "No JUnit3 tests found." := by
  unfold classTable
  exact if_pos (Discovery.testsByClass_eq_nil_iff.mpr empty)

theorem classTable_of_ne_nil (showTests : Bool) (found : d.tests ≠ []) :
    classTable showTests d = .table "Test Classes"
      (if showTests then ["Test Class", "Tests", "Methods"] else ["Test Class", "Tests"])
      ((sortedGroups d).map (classRow showTests)) none := by
  unfold classTable
  exact if_neg fun empty => found (Discovery.testsByClass_eq_nil_iff.mp empty)

/-- The warning stands for the table exactly if there are no tests. -/
theorem classTable_eq_warning_iff (showTests : Bool) :
    classTable showTests d = .warning "No JUnit3 tests found." ↔ d.tests = [] := by
  by_cases empty : d.tests = []
  · exact iff_of_true (classTable_of_nil showTests empty) empty
  · refine iff_of_false ?_ empty
    rw [classTable_of_ne_nil showTests empty]
    nofun

/-- A row begins with the class and the number of its methods. -/
theorem take_two_classRow (showTests : Bool) (group : Text × List Text) :
    (classRow showTests group).take 2 = [.string group.1, .integer group.2.length] := by
  cases showTests <;> rfl

end Display

/-! ## The test list -/

namespace Report

variable {d d' : Discovery}

/-- Line feeds have an encoding, so the list has one if the tests have. -/
theorem hasSurrogate_testLines :
    (testLines d).hasSurrogate = true ↔ ∃ t ∈ d.tests, t.hasSurrogate = true := by
  have feed : CodePoint.isSurrogate .lineFeed = false := by decide
  simp [testLines, Text.hasSurrogate, (Text.perm_sort d.tests).mem_iff, feed]

theorem testList_of_encodable (encodable : ∀ t ∈ d.tests, t.hasSurrogate = false) :
    testList d = .ok ((Text.sort d.tests).flatMap (· ++ [.lineFeed])) := by
  unfold testList Report.encodable
  refine if_neg fun bad => ?_
  obtain ⟨t, ht, surrogate⟩ := hasSurrogate_testLines.mp bad
  simp [encodable t ht] at surrogate

theorem testList_of_surrogate (bad : ∃ t ∈ d.tests, t.hasSurrogate = true) :
    testList d = .error .unencodable := by
  unfold testList encodable
  exact if_pos (hasSurrogate_testLines.mpr bad)

theorem testList_eq_of_perm (h : d.tests.Perm d'.tests) : testList d = testList d' := by
  simp only [testList, testLines, Text.sort_eq_of_perm h]

end Report

/-! ## All outputs -/

/-- **What the outputs tell.**  Each test is split at its last separator.  The groups are those of
the split tests, and so are the fields of the JSON report.  The class table has a row for each
group, by class, unless there are no tests; the test list has a line for each test, in order, unless
a test cannot be encoded, and does not depend on the order in which the tests were found. -/
theorem outputs_agree (d : Discovery) (nonempty : d.separator ≠ []) :
    (∀ t ∈ d.tests, Discovery.Splits d.separator t (Discovery.splitTest d.separator t)) ∧
    d.Groups d.testsByClass ∧
    (∀ generatedAt seconds, ∃ fields, Report.json generatedAt ⟨d, seconds⟩ = .object fields ∧
      (("test_count" : Text), Json.integer d.testCount) ∈ fields ∧
      (("tests_by_class" : Text), Json.object (d.testsByClass.map fun group =>
        (group.1, Report.texts group.2))) ∈ fields) ∧
    (∀ showTests,
      (Display.classTable showTests d = .warning "No JUnit3 tests found." ↔ d.tests = []) ∧
      (d.tests ≠ [] → ∃ groups, Display.Ascending d groups ∧
        (∀ group ∈ groups, (Display.classRow showTests group).take 2 =
          [.string group.1, .integer group.2.length]) ∧
        Display.classTable showTests d = .table "Test Classes"
          (if showTests then ["Test Class", "Tests", "Methods"] else ["Test Class", "Tests"])
          (groups.map (Display.classRow showTests)) none)) ∧
    ((∀ t ∈ d.tests, t.hasSurrogate = false) →
      ∃ sorted : List Text, sorted.Perm d.tests ∧
        sorted.Pairwise (fun s t => s = t ∨ Text.Before s t) ∧
        Report.testList d = .ok (sorted.flatMap (· ++ [.lineFeed]))) ∧
    ((∃ t ∈ d.tests, t.hasSurrogate = true) → Report.testList d = .error .unencodable) ∧
    ∀ d' : Discovery, d'.tests.Perm d.tests → Report.testList d' = Report.testList d := by
  refine ⟨fun t _ => Discovery.splits_splitTest nonempty, Discovery.groups_testsByClass nonempty,
    ?_, fun showTests => ⟨Display.classTable_eq_warning_iff showTests, ?_⟩, ?_,
    Report.testList_of_surrogate, fun d' => Report.testList_eq_of_perm⟩
  · intro generatedAt seconds
    exact ⟨_, rfl, by simp, by simp⟩
  · intro found
    exact ⟨Display.sortedGroups d, Display.ascending_sortedGroups d,
      fun group _ => Display.take_two_classRow showTests group,
      Display.classTable_of_ne_nil showTests found⟩
  · intro encodable
    exact ⟨Text.sort d.tests, Text.perm_sort d.tests, Text.pairwise_sort d.tests,
      Report.testList_of_encodable encodable⟩

/-- A test that was found twice, one without the separator, and a separator that overlaps itself. -/
def Sample.repeated : Discovery where
  tests := [("B##b" : Text), ("A###x" : Text), ("B##a" : Text), ("solo" : Text), ("A###x" : Text)]
  separator := "##"

/-- The test that was found twice is counted twice, and the other one is under no class. -/
theorem outputs_of_repeated :
    Sample.repeated.Groups [(("B" : Text), [("b" : Text), ("a" : Text)]),
        (("A#" : Text), [("x" : Text), ("x" : Text)]), ([], [("solo" : Text)])] ∧
      (∃ groups, Display.Ascending Sample.repeated groups ∧
        Display.classTable false Sample.repeated = .table "Test Classes" ["Test Class", "Tests"]
          (groups.map (Display.classRow false)) none) ∧
      (∃ sorted : List Text, sorted.Perm Sample.repeated.tests ∧
        sorted.Pairwise (fun s t => s = t ∨ Text.Before s t) ∧
        Report.testList Sample.repeated = .ok (sorted.flatMap (· ++ [.lineFeed]))) ∧
      Report.testList { Sample.repeated with tests := Sample.repeated.tests.reverse } =
        Report.testList Sample.repeated := by
  have nonempty : Sample.repeated.separator ≠ [] := by decide
  have encodable : ∀ t ∈ Sample.repeated.tests, t.hasSurrogate = false := by decide
  have listed : Sample.repeated.testsByClass = [(("B" : Text), [("b" : Text), ("a" : Text)]),
      (("A#" : Text), [("x" : Text), ("x" : Text)]), ([], [("solo" : Text)])] := by decide
  obtain ⟨_, groups, _, table, list, _, order⟩ := outputs_agree Sample.repeated nonempty
  obtain ⟨rows, ascending, _, shown⟩ := (table false).2 (by decide)
  exact ⟨listed ▸ groups, ⟨rows, ascending, shown⟩, list encodable,
    order _ (List.reverse_perm _)⟩

end DexDiscovery
