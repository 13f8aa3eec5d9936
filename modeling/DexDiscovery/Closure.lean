import DexDiscovery.DexFile
import DexDiscovery.Log.Journal

/-!
# The closure over several files

A test class extends one of the base classes directly or through other classes, and the chain may
lead from file to file in any direction.  The closure is therefore computed in **passes**: each
scans the working files in order, and every file sees the descriptors that those before it have
added.  Passes are repeated until one adds nothing.

A strict search ends at the first malformed file.  A lenient one drops that file, keeps nothing of
the failed scan, and goes on with the others.

`Closure.run` ends because a pass that adds a descriptor leaves fewer classes whose descriptor is
still unknown (`pending_lt`).
-/

namespace DexDiscovery

/-- What is done with a malformed file. -/
inductive Policy where
  /-- It ends the run. -/
  | strict
  /-- It is reported and left out. -/
  | lenient
deriving DecidableEq, Repr

/-- A run that was ended by a failure, with the journal up to there. -/
structure Stopped where
  cause : Failure
  journal : Journal
deriving DecidableEq, Repr

/-- How a search is to be made. -/
structure Search where
  namer : ClassNamer := ClassName.dotted ClassName.defaultSeparator
  policy : Policy := .strict

/-- The state of a search. -/
structure Closure where
  /-- The base classes and the test classes found so far. -/
  known : DescriptorSet
  /-- The test identifiers found so far. -/
  tests : Std.TreeSet Text := {}
  /-- The files that take part in the next pass. -/
  working : List DexFile
  /-- The files that were dropped, in the order in which they failed. -/
  skipped : List DexFile := []
  passes : Nat := 0
  journal : Journal := {}

namespace Closure

/-- The base classes of the platform's test framework. -/
def platformBases : List Text := [
  "Ljunit/framework/TestCase;",
  "Landroid/test/ActivityInstrumentationTestCase;",
  "Landroid/test/ActivityInstrumentationTestCase2;",
  "Landroid/test/ActivityTestCase;",
  "Landroid/test/ActivityUnitTestCase;",
  "Landroid/test/AndroidTestCase;",
  "Landroid/test/ApplicationTestCase;",
  "Landroid/test/FailedToCreateTests;",
  "Landroid/test/InstrumentationTestCase;",
  "Landroid/test/LoaderTestCase;",
  "Landroid/test/ProviderTestCase;",
  "Landroid/test/ProviderTestCase2;",
  "Landroid/test/ServiceTestCase;",
  "Landroid/test/SingleLaunchActivityTestCase;",
  "Landroid/test/SyncBaseInstrumentation;"]

/-- The descriptors of a list, as a set. -/
def descriptorSet (descriptors : List Text) : DescriptorSet :=
  descriptors.foldl (fun s d => s.insert d) {}

/-- Scans one file and enters what it finds, or what is wrong with it. -/
def visit (search : Search) (c : Closure) (file : DexFile) : Except Stopped Closure :=
  match file.scan search.namer c.known with
  | .ok scan =>
    .ok { c with
      known := Scan.extend scan.classes c.known
      tests := scan.tests.foldl (fun s t => s.insert t) c.tests
      working := c.working ++ [file] }
  | .error (.malformed fault) =>
    match search.policy with
    | .strict => .error { cause := .malformed fault, journal := c.journal }
    | .lenient =>
      .ok { c with
        skipped := c.skipped ++ [file]
        journal := c.journal.note (.skipped file.name fault) }
  | .error cause => .error { cause, journal := c.journal }

/-- Scans every working file once; those that fail do not work any longer. -/
def visitAll (search : Search) (c : Closure) : Except Stopped Closure :=
  c.working.foldlM (visit search) { c with working := [], passes := c.passes + 1 }

/-- One pass: every working file is scanned, and the outcome is recorded. -/
def pass (search : Search) (c : Closure) : Except Stopped Closure :=
  (visitAll search c).map fun after =>
    { after with
      journal := after.journal.note
        (.passed after.passes (after.known.size - c.known.size) after.tests.size
          after.working.length) }

/-! ## Why the passes come to an end -/

end Closure

namespace DexFile

/-- The descriptors of the classes that a file defines, those left out that cannot be read. -/
def knownDescriptors (f : DexFile) : List Text :=
  f.image.classes.toList.filterMap fun c => (f.image.descriptorOf c).toOption

end DexFile

namespace Closure

/-- The classes of the working files whose descriptor is not known yet. -/
def pending (c : Closure) : List Text :=
  (c.working.flatMap DexFile.knownDescriptors).filter (· ∉ c.known)

theorem mem_extend {d : Text} {classes : List Match} {targets : DescriptorSet} :
    d ∈ Scan.extend classes targets ↔ d ∈ targets ∨ ∃ m ∈ classes, m.descriptor = d := by
  induction classes generalizing targets with
  | nil => simp [Scan.extend]
  | cons m rest ih =>
    have step : Scan.extend (m :: rest) targets
        = Scan.extend rest (targets.insert m.descriptor) := rfl
    rw [step, ih, Std.TreeSet.mem_insert, Std.LawfulEqCmp.compare_eq_iff_eq]
    simp only [List.mem_cons, exists_eq_or_imp]
    constructor
    · rintro ((h | h) | h)
      · exact .inr (.inl h)
      · exact .inl h
      · exact .inr (.inr h)
    · rintro (h | h | h)
      · exact .inl (.inr h)
      · exact .inl (.inl h)
      · exact .inr h

/-- A match is a class of the list gone through, with its own descriptor. -/
theorem mem_of_matchesOnto {image : Image} {defs : List ClassDef} {known : DescriptorSet}
    {found classes : List Match} (h : DexFile.matchesOnto image defs known found = .ok classes) :
    ∀ m ∈ classes, m ∈ found ∨
      (m.classDef ∈ defs ∧ image.descriptorOf m.classDef = .ok m.descriptor) := by
  induction defs generalizing known found with
  | nil =>
    simp only [DexFile.matchesOnto, Except.ok.injEq] at h
    subst h
    intro m hm
    exact .inl (List.mem_reverse.mp hm)
  | cons c rest ih =>
    have later {known : DescriptorSet} {found' : List Match}
        (h : DexFile.matchesOnto image rest known found' = .ok classes)
        (hf : ∀ m ∈ found', m ∈ found ∨
          (m.classDef ∈ c :: rest ∧ image.descriptorOf m.classDef = .ok m.descriptor)) :
        ∀ m ∈ classes, m ∈ found ∨
          (m.classDef ∈ c :: rest ∧ image.descriptorOf m.classDef = .ok m.descriptor) := by
      intro m hm
      rcases ih h m hm with h' | ⟨h', hd⟩
      · exact hf m h'
      · exact .inr ⟨List.mem_cons_of_mem _ h', hd⟩
    rw [DexFile.matchesOnto] at h
    split at h
    · exact later h fun m hm => .inl hm
    · rename_i index _
      cases hs : image.descriptor index with
      | error e => simp [hs, bind, Except.bind] at h
      | ok superclass =>
        simp only [hs, bind, Except.bind] at h
        split at h
        · cases hd : image.descriptorOf c with
          | error e => simp [hd] at h
          | ok descriptor =>
            simp only [hd] at h
            refine later h fun m hm => ?_
            rcases List.mem_cons.mp hm with rfl | hm
            · exact .inr ⟨List.mem_cons_self, hd⟩
            · exact .inl hm
        · exact later h fun m hm => .inl hm

/-- What a scan adds to the known descriptors are descriptors of classes of its file. -/
theorem mem_knownDescriptors_of_scan {file : DexFile} {namer : ClassNamer}
    {targets : DescriptorSet} {scan : Scan} (h : file.scan namer targets = .ok scan) :
    ∀ m ∈ scan.classes, m.descriptor ∈ file.knownDescriptors := by
  intro m hm
  have classes : file.subclassesOf targets = .ok scan.classes := by
    unfold DexFile.scan at h
    cases hs : file.subclassesOf targets with
    | error e =>
      rw [hs] at h
      cases h
    | ok found =>
      rw [hs] at h
      replace h : (found.mapM (file.testsOf namer) >>= fun tests =>
        pure { classes := found, tests := tests.flatten }) = Except.ok scan := h
      cases ht : found.mapM (file.testsOf namer) with
      | error e =>
        rw [ht] at h
        cases h
      | ok tests =>
        rw [ht] at h
        cases h
        rfl
  rcases mem_of_matchesOnto classes m hm with h' | ⟨h', hd⟩
  · exact absurd h' List.not_mem_nil
  · exact List.mem_filterMap.mpr ⟨m.classDef, h', by rw [hd]; rfl⟩

/-- How a state of a pass relates to a later one of the same pass: known descriptors stay known,
the files that have been kept are among the given ones, and every new descriptor belongs to one of
them. -/
structure Grows (before after : Closure) (files : List DexFile) : Prop where
  known_subset : ∀ d ∈ before.known, d ∈ after.known
  kept : ∃ kept, after.working = before.working ++ kept ∧ kept.Sublist files ∧
    ∀ d ∈ after.known, d ∈ before.known ∨ ∃ f ∈ kept, d ∈ f.knownDescriptors

theorem grows_visit {search : Search} {before after : Closure} {file : DexFile}
    (h : visit search before file = .ok after) : Grows before after [file] := by
  unfold visit at h
  split at h
  · rename_i scan hs
    simp only [Except.ok.injEq] at h
    subst h
    refine ⟨fun d hd => mem_extend.mpr (.inl hd), [file], rfl, List.Sublist.refl _, ?_⟩
    intro d hd
    rcases mem_extend.mp hd with hd | ⟨m, hm, rfl⟩
    · exact .inl hd
    · exact .inr ⟨file, List.mem_singleton_self _, mem_knownDescriptors_of_scan hs m hm⟩
  · split at h
    · exact absurd h (by simp)
    · simp only [Except.ok.injEq] at h
      subst h
      exact ⟨fun d hd => hd, [], by simp, List.nil_sublist _, fun d hd => .inl hd⟩
  · exact absurd h (by simp)

theorem grows_foldlM {search : Search} {files : List DexFile} {before after : Closure}
    (h : files.foldlM (visit search) before = .ok after) : Grows before after files := by
  induction files generalizing before with
  | nil =>
    simp only [List.foldlM_nil, pure, Except.pure, Except.ok.injEq] at h
    subst h
    exact ⟨fun d hd => hd, [], by simp, List.Sublist.refl _, fun d hd => .inl hd⟩
  | cons file rest ih =>
    rw [List.foldlM_cons] at h
    cases hv : visit search before file with
    | error e => simp [hv, bind, Except.bind] at h
    | ok middle =>
      simp only [hv, bind, Except.bind] at h
      obtain ⟨sub₁, kept₁, work₁, list₁, new₁⟩ := grows_visit hv
      obtain ⟨sub₂, kept₂, work₂, list₂, new₂⟩ := ih h
      refine ⟨fun d hd => sub₂ d (sub₁ d hd), kept₁ ++ kept₂, ?_, ?_, ?_⟩
      · rw [work₂, work₁, List.append_assoc]
      · exact list₁.append list₂
      · intro d hd
        rcases new₂ d hd with hd | ⟨f, hf, hd⟩
        · rcases new₁ d hd with hd | ⟨f, hf, hd⟩
          · exact .inl hd
          · exact .inr ⟨f, List.mem_append_left _ hf, hd⟩
        · exact .inr ⟨f, List.mem_append_right _ hf, hd⟩

theorem visitAll_of_pass {search : Search} {before after : Closure}
    (h : pass search before = .ok after) :
    ∃ visited, visitAll search before = .ok visited ∧ visited.known = after.known ∧
      visited.working = after.working := by
  unfold pass at h
  cases hv : visitAll search before with
  | error e => simp [hv, Except.map] at h
  | ok visited =>
    simp only [hv, Except.map, Except.ok.injEq] at h
    subst h
    exact ⟨visited, rfl, rfl, rfl⟩

/-- Two sets of descriptors with the same members have the same size. -/
theorem size_eq_of_mem_iff {s t : DescriptorSet} (h : ∀ d, d ∈ s ↔ d ∈ t) : s.size = t.size :=
  (Std.TreeSet.Equiv.of_forall_mem_iff h).size_eq

theorem sublist_flatMap {α β : Type} {f : α → List β} {l₁ l₂ : List α} (h : l₁.Sublist l₂) :
    (l₁.flatMap f).Sublist (l₂.flatMap f) := by
  induction h with
  | slnil => exact List.Sublist.refl _
  | cons a _ ih =>
    rw [List.flatMap_cons]
    exact ih.trans (List.sublist_append_right _ _)
  | cons_cons a _ ih =>
    rw [List.flatMap_cons, List.flatMap_cons]
    exact (List.Sublist.refl _).append ih

/-- A predicate that implies another, and fails where that holds, counts fewer entries. -/
theorem countP_lt_of_mem {α : Type} {p q : α → Bool} {l : List α}
    (imp : ∀ x ∈ l, p x = true → q x = true) {x : α} (hx : x ∈ l) (hq : q x = true)
    (hp : ¬ p x = true) : l.countP p < l.countP q := by
  induction l with
  | nil => exact absurd hx List.not_mem_nil
  | cons a rest ih =>
    have le := List.countP_mono_left (l := rest) (p := p) (q := q)
      fun y hy => imp y (List.mem_cons_of_mem _ hy)
    rcases List.mem_cons.mp hx with rfl | hx
    · rw [List.countP_cons_of_neg hp, List.countP_cons_of_pos hq]
      omega
    · have lt := ih (fun y hy => imp y (List.mem_cons_of_mem _ hy)) hx
      have head := imp a List.mem_cons_self
      rw [List.countP_cons, List.countP_cons]
      split <;> split <;> first | omega | simp_all

/-- A pass that adds a descriptor leaves fewer classes with an unknown one. -/
theorem pending_lt {search : Search} {before after : Closure}
    (h : pass search before = .ok after) (more : after.known.size ≠ before.known.size) :
    after.pending.length < before.pending.length := by
  obtain ⟨visited, hv, hk, hw⟩ := visitAll_of_pass h
  obtain ⟨sub, kept, work, list, new⟩ := grows_foldlM hv
  simp only [List.nil_append] at work
  rw [hk] at sub new
  have work : after.working = kept := by rw [← hw, work]
  obtain ⟨d, hd, hn⟩ : ∃ d ∈ after.known, d ∉ before.known := by
    refine Classical.byContradiction fun none => more (size_eq_of_mem_iff fun d => ⟨?_, sub d⟩)
    intro hd
    exact Classical.byContradiction fun hn => none ⟨d, hd, hn⟩
  have hin : d ∈ before.working.flatMap DexFile.knownDescriptors := by
    rcases new d hd with hb | ⟨f, hf, hf'⟩
    · exact absurd hb hn
    · exact List.mem_flatMap.mpr ⟨f, list.subset hf, hf'⟩
  simp only [pending, ← List.countP_eq_length_filter]
  calc (after.working.flatMap DexFile.knownDescriptors).countP (· ∉ after.known)
      ≤ (before.working.flatMap DexFile.knownDescriptors).countP (· ∉ after.known) := by
        rw [work]
        exact (sublist_flatMap list).countP_le
    _ < (before.working.flatMap DexFile.knownDescriptors).countP (· ∉ before.known) := by
        refine countP_lt_of_mem (fun x _ hx => ?_) hin (by simpa using hn) (by simpa using hd)
        simp only [decide_eq_true_eq] at hx ⊢
        exact fun hb => hx (sub x hb)

/-! ## The run -/

/-- Passes until one adds no descriptor, or no file is left. -/
def run (search : Search) (c : Closure) : Except Stopped Closure :=
  if c.working = [] then .ok c
  else
    match _answer : pass search c with
    | .error stopped => .error stopped
    | .ok after => if after.known.size = c.known.size then .ok after else run search after
termination_by c.pending.length
decreasing_by exact pending_lt ‹_› ‹_›

/-- A search before its first pass. -/
def start (bases : DescriptorSet) (files : List DexFile) (journal : Journal) : Closure :=
  { known := bases, working := files, journal }

end Closure

namespace Search

/-- Searches the files for classes that extend a base class; everything that happens is recorded
as part of the closure. -/
def run (search : Search) (bases : DescriptorSet) (files : List DexFile) (journal : Journal) :
    Except Failure Closure × Journal :=
  journal.within .closure fun journal =>
    match Closure.run search (.start bases files journal) with
    | .ok c => (.ok c, c.journal)
    | .error stopped => (.error stopped.cause, stopped.journal)

/-- The test identifiers of the files, if all of them can be read as far as needed. -/
def tests (search : Search) (bases : DescriptorSet) (files : List DexFile) :
    Except Failure (List Text) :=
  (search.run bases files {}).1.map fun c => c.tests.toList

end Search

end DexDiscovery
