import DexDiscovery.Discovery
import Mathlib.Data.List.Infix
import Mathlib.Data.List.Nodup
import Mathlib.Data.Set.Card

/-!
# Tests grouped by class

A test identifier is a class name, the separator and a method name in a row, and nothing marks the
place of the separator.  Grouping takes its last occurrence.  Splitting there and putting the parts
together again gives the identifier back (`join_splitTest`); putting a class and a method together
and splitting gives them back if and only if the separator does not occur once more, further to the
right (`splitTest_join_iff`).  Such an occurrence reaches into the method: it may lie within, or
begin with the last code points of the separator itself.

`testsByClass_eq` says what grouping comes to: the classes in the order of their first tests, each
with the methods of its tests in order.  From both, `attributes_iff` tells when the groups are those
of the pairs that the identifiers were made of; a separator whose last code point is in none of the
methods is always safe (`attributes_of_last_not_mem`).
-/

namespace DexDiscovery

/-! ## The last occurrence of a separator -/

namespace Text

variable {sep t before after : Text}

/-- A text is split unless the separator does not occur. -/
theorem splitAtLast?_eq_none_iff : splitAtLast? sep t = none ↔ ¬ sep <:+: t := by
  induction t with
  | nil =>
    rw [splitAtLast?, List.infix_nil]
    split <;> simp [*]
  | cons c rest ih =>
    rw [splitAtLast?, List.infix_cons_iff, ← List.isPrefixOf_iff_prefix, not_or, ← ih]
    cases splitAtLast? sep rest <;> simp

/-- **The last occurrence.**  The parts of a text make it up with the separator between them, and
the separator does not begin again anywhere behind the place where it was split. -/
theorem splitAtLast?_eq_some_iff (nonempty : sep ≠ []) :
    splitAtLast? sep t = some (before, after) ↔
      before ++ sep ++ after = t ∧ ¬ sep <:+: (sep ++ after).tail := by
  induction t generalizing before with
  | nil => simp [splitAtLast?, nonempty]
  | cons c rest ih =>
    rw [splitAtLast?]
    cases later : splitAtLast? sep rest with
    | some parts =>
      obtain ⟨x, y⟩ := parts
      simp only [Option.some.injEq, Prod.mk.injEq]
      constructor
      · rintro ⟨rfl, rfl⟩
        obtain ⟨rfl, last⟩ := ih.mp later
        exact ⟨rfl, last⟩
      · rintro ⟨made, last⟩
        cases before with
        | nil =>
          -- the separator occurs in the rest, so its first occurrence is not the last
          rw [List.nil_append] at made
          rw [made, List.tail_cons, ← splitAtLast?_eq_none_iff, later] at last
          exact absurd last (by simp)
        | cons a before =>
          obtain ⟨rfl, inner⟩ := List.cons.inj made
          have same := later.symm.trans (ih.mpr ⟨inner, last⟩)
          obtain ⟨rfl, rfl⟩ := Prod.mk.inj (Option.some.inj same)
          exact ⟨rfl, rfl⟩
    | none =>
      have absent := splitAtLast?_eq_none_iff.mp later
      simp only [Option.ite_none_right_eq_some, Option.some.injEq, Prod.mk.injEq,
        List.isPrefixOf_iff_prefix]
      constructor
      · rintro ⟨first, rfl, rfl⟩
        have made := List.prefix_iff_eq_append.mp first
        exact ⟨made, by rwa [made, List.tail_cons]⟩
      · rintro ⟨made, _⟩
        cases before with
        | nil =>
          rw [List.nil_append] at made
          exact ⟨⟨after, made⟩, rfl, by rw [← made, List.drop_left]⟩
        | cons a before =>
          obtain ⟨rfl, inner⟩ := List.cons.inj made
          exact absurd ⟨before, after, inner⟩ absent

/-- A separator whose last code point is not in a text does not reach into it. -/
theorem not_infix_of_last_not_mem {c : CodePoint} (last : sep.getLast? = some c) (out : c ∉ t) :
    ¬ sep <:+: (sep ++ t).tail := by
  rintro ⟨x, y, made⟩
  obtain ⟨front, rfl⟩ := List.getLast?_eq_some_iff.mp last
  -- the occurrence lies behind the first code point, so its last one lies within `t`
  have size := congrArg List.length made
  simp only [List.length_append, List.length_tail, List.length_singleton] at size
  have ends : c :: y <:+ front ++ [c] ++ t := by
    refine List.IsSuffix.trans ⟨x ++ front, ?_⟩ (List.tail_suffix _)
    rw [← made]
    simp
  have within : c :: y <:+ t := by
    refine List.suffix_of_suffix_length_le ends (List.suffix_append _ _) ?_
    rw [List.length_cons]
    omega
  exact out (within.subset List.mem_cons_self)

end Text

/-! ## Identifiers taken apart -/

namespace Discovery

variable {separator cls method test : Text} {tests : List Text}

/-- An identifier that holds the separator is the class, the separator and the method. -/
theorem join_splitTest (h : separator <:+: test) (nonempty : separator ≠ []) :
    (splitTest separator test).1 ++ separator ++ (splitTest separator test).2 = test := by
  rw [splitTest]
  cases parts : Text.splitAtLast? separator test with
  | none => exact absurd h (Text.splitAtLast?_eq_none_iff.mp parts)
  | some parts' => exact ((Text.splitAtLast?_eq_some_iff nonempty).mp parts).1

/-- A class and a method put together are found again unless the separator occurs once more. -/
theorem splitTest_join_iff (nonempty : separator ≠ []) :
    splitTest separator (cls ++ separator ++ method) = (cls, method) ↔
      ¬ separator <:+: (separator ++ method).tail := by
  cases parts : Text.splitAtLast? separator (cls ++ separator ++ method) with
  | none =>
    exact absurd (List.infix_append cls separator method) (Text.splitAtLast?_eq_none_iff.mp parts)
  | some found =>
    rw [splitTest, parts, Option.getD_some, ← Option.some_inj, ← parts,
      Text.splitAtLast?_eq_some_iff nonempty]
    exact and_iff_right rfl

/-! ## Groups -/

/-- The classes of some tests, in the order of their first tests. -/
def classesOf (separator : Text) (tests : List Text) : List Text :=
  (tests.map fun t => (splitTest separator t).1).eraseDups

/-- The methods of the tests of a class, in the order of the tests. -/
def methodsOf (separator : Text) (tests : List Text) (cls : Text) : List Text :=
  (tests.filter fun t => (splitTest separator t).1 = cls).map fun t => (splitTest separator t).2

theorem mem_classesOf :
    cls ∈ classesOf separator tests ↔ ∃ t ∈ tests, (splitTest separator t).1 = cls := by
  rw [classesOf, List.mem_eraseDups, List.mem_map]

theorem mem_methodsOf :
    method ∈ methodsOf separator tests cls ↔
      ∃ t ∈ tests, splitTest separator t = (cls, method) := by
  simp only [methodsOf, List.mem_map, List.mem_filter, decide_eq_true_eq, Prod.ext_iff, and_assoc]

theorem methodsOf_eq_nil (h : cls ∉ classesOf separator tests) :
    methodsOf separator tests cls = [] := by
  refine List.eq_nil_iff_forall_not_mem.mpr fun method mem => ?_
  obtain ⟨t, ht, parts⟩ := mem_methodsOf.mp mem
  exact h (mem_classesOf.mpr ⟨t, ht, congrArg Prod.fst parts⟩)

theorem eraseDups_append_singleton {α : Type} [BEq α] [LawfulBEq α] {l : List α} {a : α} :
    (l ++ [a]).eraseDups = if a ∈ l.eraseDups then l.eraseDups else l.eraseDups ++ [a] := by
  rw [List.eraseDups_append]
  by_cases mem : a ∈ l <;> simp [List.removeAll, mem, List.eraseDups_cons]

theorem classesOf_append_singleton :
    classesOf separator (tests ++ [test]) =
      if (splitTest separator test).1 ∈ classesOf separator tests
        then classesOf separator tests
        else classesOf separator tests ++ [(splitTest separator test).1] := by
  rw [classesOf, List.map_append, List.map_singleton, eraseDups_append_singleton]
  exact if_congr Iff.rfl rfl rfl

theorem classesOf_nodup : (classesOf separator tests).Nodup := by
  induction tests using List.reverseRecOn with
  | nil => exact List.nodup_nil
  | append_singleton tests t ih =>
    rw [classesOf_append_singleton]
    split
    · exact ih
    · rename_i new
      exact List.concat_eq_append ▸ ih.concat new

theorem methodsOf_append_singleton :
    methodsOf separator (tests ++ [test]) cls =
      if cls = (splitTest separator test).1
        then methodsOf separator tests cls ++ [(splitTest separator test).2]
        else methodsOf separator tests cls := by
  by_cases same : (splitTest separator test).1 = cls
  · simp [methodsOf, same]
  · simp [methodsOf, same, Ne.symm same]

/-- A method is entered into its group, which is a new one at the end if there is none. -/
theorem addMethod_map {keys : List Text} {group : Text → List Text} (distinct : keys.Nodup)
    (fresh : cls ∉ keys → group cls = []) :
    addMethod cls method (keys.map fun k => (k, group k)) =
      (if cls ∈ keys then keys else keys ++ [cls]).map fun k =>
        (k, if k = cls then group k ++ [method] else group k) := by
  induction keys with
  | nil => simp [addMethod, fresh]
  | cons k rest ih =>
    obtain ⟨new, distinct⟩ := List.nodup_cons.mp distinct
    rw [List.map_cons, addMethod]
    by_cases here : k = cls
    · subst here
      have others : ∀ x ∈ rest, x ≠ k := fun x mem same => new (same ▸ mem)
      simp +contextual [others]
    · have fresh' : cls ∉ rest → group cls = [] := fun out =>
        fresh fun mem => (List.mem_cons.mp mem).elim (Ne.symm here) out
      rw [if_neg here, ih distinct fresh']
      by_cases mem : cls ∈ rest <;> simp [mem, here, Ne.symm here]

/-- **Grouping in one step.**  The groups are those of the classes of the tests, in the order of
their first tests, and hold the methods of all tests of their class. -/
theorem groupOnto_eq : groupOnto separator [] tests =
    (classesOf separator tests).map fun cls => (cls, methodsOf separator tests cls) := by
  induction tests using List.reverseRecOn with
  | nil => rfl
  | append_singleton tests t ih =>
    calc groupOnto separator [] (tests ++ [t])
        = addMethod (splitTest separator t).1 (splitTest separator t).2
            (groupOnto separator [] tests) := List.foldl_concat ..
      _ = (classesOf separator (tests ++ [t])).map fun cls =>
            (cls, methodsOf separator (tests ++ [t]) cls) := by
          rw [ih, addMethod_map classesOf_nodup methodsOf_eq_nil, ← classesOf_append_singleton]
          simp only [methodsOf_append_singleton]

/-! ## The groups of a result -/

variable {d : Discovery} {pairs : Set (Text × Text)}

/-- The tests are those of some pairs of a class and a method, with the separator in between. -/
def MadeOf (d : Discovery) (pairs : Set (Text × Text)) : Prop :=
  ∀ t, t ∈ d.tests ↔ ∃ p ∈ pairs, p.1 ++ d.separator ++ p.2 = t

/-- The groups are those of some pairs of a class and a method: each class is listed once, with its
methods and no others, each once, and there are as many tests as pairs. -/
structure Attributes (d : Discovery) (pairs : Set (Text × Text)) : Prop where
  distinct : (d.testsByClass.map Prod.fst).Nodup
  classes : ∀ cls, cls ∈ d.testsByClass.map Prod.fst ↔ ∃ method, (cls, method) ∈ pairs
  methods : ∀ cls methods, (cls, methods) ∈ d.testsByClass →
    methods.Nodup ∧ ∀ method, method ∈ methods ↔ (cls, method) ∈ pairs
  count : d.testCount = pairs.encard

theorem map_fst_testsByClass : d.testsByClass.map Prod.fst = classesOf d.separator d.tests := by
  rw [testsByClass, groupOnto_eq, List.map_map]
  exact List.map_id _

theorem mem_testsByClass {methods : List Text} :
    (cls, methods) ∈ d.testsByClass ↔
      cls ∈ classesOf d.separator d.tests ∧ methodsOf d.separator d.tests cls = methods := by
  rw [testsByClass, groupOnto_eq, List.mem_map]
  constructor
  · rintro ⟨_, mem, same⟩
    obtain ⟨rfl, rfl⟩ := Prod.mk.inj same
    exact ⟨mem, rfl⟩
  · rintro ⟨mem, rfl⟩
    exact ⟨cls, mem, rfl⟩

theorem MadeOf.join_splitTest (made : d.MadeOf pairs) (nonempty : d.separator ≠ [])
    (mem : test ∈ d.tests) :
    (splitTest d.separator test).1 ++ d.separator ++ (splitTest d.separator test).2 = test := by
  obtain ⟨p, _, rfl⟩ := (made test).mp mem
  exact Discovery.join_splitTest (List.infix_append _ _ _) nonempty

/-- Every pair that is found in a group is the split of a test, and this of the pair's own test. -/
theorem Attributes.splitTest_join (attributes : d.Attributes pairs) (made : d.MadeOf pairs)
    (nonempty : d.separator ≠ []) :
    ∀ p ∈ pairs, splitTest d.separator (p.1 ++ d.separator ++ p.2) = p := by
  rintro ⟨cls, method⟩ hp
  have group : (cls, methodsOf d.separator d.tests cls) ∈ d.testsByClass := by
    rw [mem_testsByClass, ← map_fst_testsByClass]
    exact ⟨(attributes.classes cls).mpr ⟨method, hp⟩, rfl⟩
  obtain ⟨t, ht, parts⟩ := mem_methodsOf.mp (((attributes.methods _ _ group).2 method).mpr hp)
  have same := made.join_splitTest nonempty ht
  rw [parts] at same
  exact (congrArg _ same).trans parts

section Inverse
variable (made : d.MadeOf pairs)
  (inverse : ∀ p ∈ pairs, splitTest d.separator (p.1 ++ d.separator ++ p.2) = p)
include made inverse

/-- The splits of the tests are the pairs. -/
theorem exists_splitTest_iff :
    (∃ t ∈ d.tests, splitTest d.separator t = (cls, method)) ↔ (cls, method) ∈ pairs := by
  constructor
  · rintro ⟨t, ht, parts⟩
    obtain ⟨p, hp, rfl⟩ := (made t).mp ht
    exact parts ▸ (inverse p hp).symm ▸ hp
  · intro hp
    exact ⟨_, (made _).mpr ⟨_, hp, rfl⟩, inverse _ hp⟩

/-- Different pairs have different tests. -/
theorem testCount_eq_encard (distinct : d.tests.Nodup) : d.testCount = pairs.encard := by
  let join (p : Text × Text) : Text := p.1 ++ d.separator ++ p.2
  have injective : Set.InjOn join pairs := by
    intro p hp q hq same
    rw [← inverse p hp, ← inverse q hq]
    exact congrArg _ same
  have all : (d.tests.toFinset : Set Text) = join '' pairs := by
    ext t
    rw [List.coe_toFinset]
    exact made t
  rw [← injective.encard_image, ← all, Set.encard_coe_eq_coe_finsetCard,
    List.toFinset_card_of_nodup distinct, testCount]

theorem attributes_of_inverse (nonempty : d.separator ≠ []) (distinct : d.tests.Nodup) :
    d.Attributes pairs where
  distinct := map_fst_testsByClass ▸ classesOf_nodup
  classes cls := by
    rw [map_fst_testsByClass, mem_classesOf]
    constructor
    · rintro ⟨t, ht, rfl⟩
      exact ⟨_, (exists_splitTest_iff made inverse).mp ⟨t, ht, rfl⟩⟩
    · rintro ⟨method, hp⟩
      obtain ⟨t, ht, parts⟩ := (exists_splitTest_iff made inverse).mpr hp
      exact ⟨t, ht, congrArg Prod.fst parts⟩
  methods cls methods group := by
    obtain ⟨_, rfl⟩ := mem_testsByClass.mp group
    refine ⟨?_, fun method => mem_methodsOf.trans (exists_splitTest_iff made inverse)⟩
    -- two tests with the same class and the same method are the same test
    refine (distinct.filter _).map_on fun t ht t' ht' same => ?_
    obtain ⟨ht, cls⟩ := List.mem_filter.mp ht
    obtain ⟨ht', cls'⟩ := List.mem_filter.mp ht'
    rw [← made.join_splitTest nonempty ht, ← made.join_splitTest nonempty ht', same,
      of_decide_eq_true cls, of_decide_eq_true cls']
  count := testCount_eq_encard made inverse distinct

end Inverse

/-- **When the groups are right.**  The groups of different tests are those of the pairs which the
tests are made of if and only if the separator does not reach into any of the methods. -/
theorem attributes_iff (made : d.MadeOf pairs) (nonempty : d.separator ≠ [])
    (distinct : d.tests.Nodup) :
    d.Attributes pairs ↔ ∀ p ∈ pairs, ¬ d.separator <:+: (d.separator ++ p.2).tail := by
  constructor
  · intro attributes p hp
    exact (splitTest_join_iff nonempty).mp (attributes.splitTest_join made nonempty p hp)
  · intro apart
    exact attributes_of_inverse made (fun p hp => (splitTest_join_iff nonempty).mpr (apart p hp))
      nonempty distinct

/-- A separator is safe if its last code point is in none of the methods. -/
theorem attributes_of_last_not_mem {c : CodePoint} (made : d.MadeOf pairs)
    (distinct : d.tests.Nodup) (last : d.separator.getLast? = some c)
    (out : ∀ p ∈ pairs, c ∉ p.2) : d.Attributes pairs := by
  have nonempty : d.separator ≠ [] := by
    rintro empty
    simp [empty] at last
  exact (attributes_iff made nonempty distinct).mpr fun p hp =>
    Text.not_infix_of_last_not_mem last (out p hp)

end Discovery

end DexDiscovery
