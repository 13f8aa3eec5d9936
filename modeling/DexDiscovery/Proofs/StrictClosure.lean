import DexDiscovery.Proofs.Visits

/-!
# Strict runs

A strict run that returns has scanned every file to the end.  It knows what is reached from the
base classes over the `extends` edges of all files, no more and no less, and names the tests of the
classes found so (`isLeast_of_strict_run`); chains may lead from file to file as they like, and
classes that extend each other in a circle are found only where a base class leads into it.

Whether it returns is a matter of the files as a set (`strict_run_outcome`).  Scans fail as soon as
they meet a class that they cannot read, and which of two such classes they meet first depends on
the order of the files; that they meet one does not.
-/

namespace DexDiscovery

/-- A search that ends at the first malformed file. -/
def Search.strict (namer : ClassNamer) : Search := { namer, policy := .strict }

/-! ## Sample files -/

namespace Sample

/-- A class of `image`, by the indices of its type and of its superclass. -/
def classDef (type superclass : Nat) (dataOffset? : Option Nat := none) : ClassDef where
  typeIndex := type
  accessFlags := 0
  superclass? := some superclass
  interfacesOffset := 0
  sourceFile? := none
  annotationsOffset := 0
  dataOffset? := dataOffset?
  staticValuesOffset := 0

/-- The types `LT;`, `LA;`, `LB;`, `LC;` and `LD;`, and one method, `testX`.  The class data at
offset 32 list it as virtual; there are none behind offset 39. -/
def image (classes : List ClassDef) : Image where
  bytes := #[3, 0x4C, 0x54, 0x3B, 0, 3, 0x4C, 0x41, 0x3B, 0, 3, 0x4C, 0x42, 0x3B, 0,
    3, 0x4C, 0x43, 0x3B, 0, 3, 0x4C, 0x44, 0x3B, 0, 5, 0x74, 0x65, 0x73, 0x74, 0x58, 0,
    0, 0, 0, 1, 0, 1, 0]
  strings := #[0, 5, 10, 15, 20, 25]
  types := #[0, 1, 2, 3, 4]
  methods := #[{ declaringType := 1, proto := 0, name := 5 }]
  classes := classes.toArray

/-- A file of some classes of `image`. -/
def file (name : Text) (classes : List ClassDef) : DexFile where
  name := name
  header := Header.mk [] 0 #[] 0 0 0 ⟨0, 0⟩ 0 ⟨0, 0⟩ ⟨0, 0⟩ ⟨0, 0⟩ ⟨0, 0⟩ ⟨0, 0⟩ ⟨0, 0⟩ ⟨0, 0⟩
  image := image classes

/-- The set of `LT;`. -/
def bases : DescriptorSet := Closure.descriptorSet ["LT;"]

/-- The names that classes have where none are chosen. -/
def namer : ClassNamer := ClassName.dotted ClassName.defaultSeparator

/-- What a search of sample files answers: its descriptors, its tests and the skipped files. -/
def answer (search : Search) (files : List DexFile) :
    Option (List Text × List Text × List DexFile) :=
  (search.run bases files {}).1.toOption.map fun c => (c.known.toList, c.tests.toList, c.skipped)

theorem exists_of_answer {search : Search} {files skipped : List DexFile} {known tests : List Text}
    (h : answer search files = some (known, tests, skipped)) :
    ∃ c, (search.run bases files {}).1 = .ok c ∧ c.known.toList = known ∧
      c.tests.toList = tests ∧ c.skipped = skipped := by
  cases hr : (search.run bases files {}).1 with
  | error e => simp [answer, hr, Except.toOption] at h
  | ok c => exact ⟨c, rfl, by simpa [answer, hr, Except.toOption] using h⟩

/-- `B` extends `A`, whose class stands in `upper`. -/
def lower : DexFile := file "lower.dex" [classDef 2 1]

/-- `A` extends the base class `T` and has a test; `C` and `D` extend each other. -/
def upper : DexFile := file "upper.dex" [classDef 1 0 (some 32), classDef 3 4, classDef 4 3]

theorem exists_run_of_lower_upper :
    ∃ c, ((Search.strict namer).run bases [lower, upper] {}).1 = .ok c ∧
      c.known.toList = [("LA;" : Text), "LB;", "LT;"] ∧ c.tests.toList = [("A#testX" : Text)] := by
  have h : answer (.strict namer) [lower, upper]
      = some ([("LA;" : Text), "LB;", "LT;"], [("A#testX" : Text)], []) := by decide +kernel
  obtain ⟨c, run, known, tests, _⟩ := exists_of_answer h
  exact ⟨c, run, known, tests⟩

end Sample

namespace Search

variable {search : Search} {namer : ClassNamer} {bases : DescriptorSet} {files : List DexFile}
  {journal : Journal} {c : Closure} {cause : Failure}

/-- What any scan of a search sees is reached from the base classes. -/
theorem visit_known_subset_reached :
    ∀ v ∈ search.visits bases files journal, Members v.known ⊆ reached files (Members bases) := by
  refine known_subset_of_visits bases_subset_reached fun v hv sub => ?_
  obtain ⟨hf, answer⟩ := mem_visits hv
  exact (Visit.foundWithin_of_closed hf answer sub (reached_closedUnder _ hf)).1

/-- **Blame.**  A scan that fails has met a class whose superclass cannot be resolved, or one that
extends a reached class and cannot be read. -/
theorem exists_culprit_of_visit : ∀ v ∈ search.visits bases files journal, v.answer = .error cause →
    ∃ cls ∈ v.file.image.classes,
      v.file.Culprit search.namer (reached files (Members bases)) cls cause := by
  intro v hv failed
  obtain ⟨hf, answer⟩ := mem_visits hv
  exact DexFile.exists_culprit_of_scan (answer.symm.trans failed) (visit_known_subset_reached v hv)
    (reached_closedUnder _ hf)

theorem exists_culprit_of_error (h : (search.run bases files journal).1 = .error cause) :
    ∃ f ∈ files, ∃ cls ∈ f.image.classes,
      f.Culprit search.namer (reached files (Members bases)) cls cause := by
  obtain ⟨v, hv, failed, _⟩ := exists_visit_of_error h
  exact ⟨v.file, (mem_visits hv).1, exists_culprit_of_visit v hv failed⟩

section Complete
variable (h : (search.run bases files journal).1 = .ok c) (complete : c.skipped = [])
include h complete

/-- A run that skips no file has all of them working in the end. -/
theorem mem_working_of_complete {f : DexFile} (hf : f ∈ files) : f ∈ c.working := by
  have perm := working_append_skipped_perm h
  rw [complete, List.append_nil] at perm
  exact perm.mem_iff.mpr hf

theorem closedUnder_of_complete : ∀ f ∈ files, f.image.ClosedUnder (Members c.known) :=
  fun f hf => closedUnder_of_working h f (mem_working_of_complete h complete hf)

/-- A run that skips no file knows in the end what is reached from the base classes. -/
theorem known_eq_reached : Members c.known = reached files (Members bases) :=
  Set.Subset.antisymm (subset_of_closed h bases_subset_reached reached_closedUnder).1
    (reached_subset (bases_subset h) (closedUnder_of_complete h complete))

theorem tests_eq_testsUnder :
    Members c.tests = testsUnder search.namer files (Members c.known) := by
  have closed := closedUnder_of_complete h complete
  refine Set.Subset.antisymm (subset_of_closed h (bases_subset h) closed).2 ?_
  rintro t ⟨f, hf, test⟩
  exact testsUnder_working_subset h ⟨f, mem_working_of_complete h complete hf, test⟩

end Complete

theorem strict_skips_nothing (h : ((strict namer).run bases files journal).1 = .ok c) :
    c.skipped = [] := by
  refine List.eq_nil_iff_forall_not_mem.mpr fun f hf => ?_
  obtain ⟨lenient, _⟩ := exists_visit_of_skipped h f hf
  exact absurd lenient (by simp [strict])

/-- A strict run returns if and only if every file is clean under what is reached. -/
theorem exists_strict_run_iff :
    (∃ c, ((strict namer).run bases files journal).1 = .ok c) ↔
      ∀ f ∈ files, f.CleanUnder namer (reached files (Members bases)) := by
  constructor
  · rintro ⟨c, h⟩ f hf
    have complete := strict_skips_nothing h
    -- the last pass scanned `f` with all that is known in the end, which is closed
    rw [← known_eq_reached h complete]
    refine (DexFile.exists_scan_iff (closedUnder_of_complete h complete f hf)).mp ?_
    obtain ⟨scan, ok, _⟩ := settled h f (mem_working_of_complete h complete hf)
    exact ⟨scan, ok⟩
  · intro clean
    refine exists_ok_iff.mpr fun cause h => ?_
    obtain ⟨f, hf, cls, hc, culprit⟩ := exists_culprit_of_error h
    exact DexFile.cleanUnder_iff.mp (clean f hf) cls hc cause culprit

/-- **Strict runs are sound and complete.**  What a strict run knows in the end is the least set
that holds the base classes and is closed under the `extends` edges of every file, which is what
chains of edges lead to from a base class, through whichever files; its tests are those of the
classes that extend a member of this set; and no file is skipped. -/
theorem isLeast_of_strict_run (h : ((strict namer).run bases files journal).1 = .ok c) :
    IsLeast {R | Members bases ⊆ R ∧ ∀ f ∈ files, f.image.ClosedUnder R} (Members c.known) ∧
      (∀ d, d ∈ c.known ↔ ∃ b ∈ bases, Relation.ReflTransGen (Derives files) b d) ∧
        Members c.tests = testsUnder namer files (Members c.known) ∧ c.skipped = [] := by
  have complete := strict_skips_nothing h
  have known := known_eq_reached h complete
  refine ⟨known ▸ isLeast_reached, fun d => ?_, tests_eq_testsUnder h complete, complete⟩
  rw [← mem_members, known]
  exact Iff.rfl

/-- The chain from `T` to `B` leads from the later file to the earlier; nothing leads to the circle
of `C` and `D`. -/
theorem isLeast_of_lower_upper :
    ∃ c, ((strict Sample.namer).run Sample.bases [Sample.lower, Sample.upper] {}).1 = .ok c ∧
      c.known.toList = [("LA;" : Text), "LB;", "LT;"] ∧ c.tests.toList = [("A#testX" : Text)] ∧
        IsLeast {R | Members Sample.bases ⊆ R ∧
          ∀ f ∈ [Sample.lower, Sample.upper], f.image.ClosedUnder R} (Members c.known) := by
  obtain ⟨c, run, known, tests⟩ := Sample.exists_run_of_lower_upper
  exact ⟨c, run, known, tests, (isLeast_of_strict_run run).1⟩

/-- **The outcome of a strict run depends on the set of its files.**  It returns if and only if, in
every file, every superclass index resolves and every class that extends a reached class is
readable.  So for two lists of the same files either both runs fail, or both return the same
descriptors and tests.  A failure is that of a class whose superclass index does not resolve, or of
one that extends a reached class; no other class makes a run fail. -/
theorem strict_run_outcome (namer : ClassNamer) (bases : DescriptorSet) :
    (∀ files journal, (∃ c, ((strict namer).run bases files journal).1 = .ok c) ↔
        ∀ f ∈ files, f.CleanUnder namer (reached files (Members bases))) ∧
      (∀ files files' journal journal', (∀ f, f ∈ files ↔ f ∈ files') →
        (∃ cause cause', ((strict namer).run bases files journal).1 = .error cause ∧
            ((strict namer).run bases files' journal').1 = .error cause') ∨
          ∃ c c', ((strict namer).run bases files journal).1 = .ok c ∧
            ((strict namer).run bases files' journal').1 = .ok c' ∧
              Members c.known = Members c'.known ∧ Members c.tests = Members c'.tests) ∧
        ∀ files journal cause, ((strict namer).run bases files journal).1 = .error cause →
          ∃ f ∈ files, ∃ cls ∈ f.image.classes,
            f.Culprit namer (reached files (Members bases)) cls cause := by
  refine ⟨fun _ _ => exists_strict_run_iff, ?_, fun _ _ _ => exists_culprit_of_error⟩
  intro files files' journal journal' same
  have clean : (∃ c, ((strict namer).run bases files journal).1 = .ok c) ↔
      ∃ c, ((strict namer).run bases files' journal').1 = .ok c := by
    rw [exists_strict_run_iff, exists_strict_run_iff, reached_congr same]
    exact forall_congr' fun f => by rw [same f]
  cases h : ((strict namer).run bases files journal).1 with
  | error cause =>
    cases h' : ((strict namer).run bases files' journal').1 with
    | error cause' => exact .inl ⟨cause, cause', rfl, rfl⟩
    | ok c' => simp [h, h'] at clean
  | ok c =>
    cases h' : ((strict namer).run bases files' journal').1 with
    | error cause' => simp [h, h'] at clean
    | ok c' =>
      have known : Members c.known = Members c'.known := by
        rw [known_eq_reached h (strict_skips_nothing h),
          known_eq_reached h' (strict_skips_nothing h'), reached_congr same]
      refine .inr ⟨c, c', rfl, rfl, known, ?_⟩
      rw [tests_eq_testsUnder h (strict_skips_nothing h),
        tests_eq_testsUnder h' (strict_skips_nothing h'), known, testsUnder_congr same]

/-- Neither the order of the files nor a file given twice makes a difference. -/
theorem outcome_of_upper_lower_upper :
    ∃ c c', ((strict Sample.namer).run Sample.bases [Sample.lower, Sample.upper] {}).1 = .ok c ∧
      ((strict Sample.namer).run Sample.bases [Sample.upper, Sample.lower, Sample.upper] {}).1
          = .ok c' ∧
        Members c.known = Members c'.known ∧ Members c.tests = Members c'.tests := by
  obtain ⟨c, run, _⟩ := Sample.exists_run_of_lower_upper
  have same (a b f : DexFile) : f ∈ [a, b] ↔ f ∈ [b, a, b] := by
    simp only [List.mem_cons, List.not_mem_nil, or_false]
    tauto
  rcases (strict_run_outcome Sample.namer Sample.bases).2.1 _ _ {} {} (same _ _) with
    ⟨cause, _, fails, _⟩ | agree
  · exact absurd (run.symm.trans fails) (by simp)
  · exact agree

end Search

end DexDiscovery
