import DexDiscovery.Proofs.StrictClosure

/-!
# Lenient runs

A lenient run leaves out the files that turn out to be malformed, and finds all that the others
lead to (`reached_unskipped_subset`).  A scan that fails finds nothing.  But a file is scanned once
in every pass, and may be scanned to the end in some passes before it fails: a class found elsewhere
can make it read a malformed class that nothing led to before.  What such a file had contributed by
then stays in the result, and with it what other files found through it.

So a result may show something of a skipped file, and when a file fails depends on the order of the
files.  Two theorems say exactly when this makes a difference.  A result is that of the other files
if and only if no scan of a skipped file found more than these lead to (`freeOfSkipped_iff`).  Runs
over the same files in different orders agree if and only if no scan of either found anything in a
file skipped by the other that the other does not know (`agrees_iff`).

Neither can happen if every file is clean or fails at once (`DexFile.Decided`): then, in whichever
order they stand, the result is that of a strict run over the files that are not skipped.
-/

namespace DexDiscovery

/-- A search that leaves out malformed files. -/
def Search.lenient (namer : ClassNamer) : Search := { namer, policy := .lenient }

/-- Whether the file can be scanned does not depend on what a run finds: none of its classes makes
scans fail, whichever classes the files lead to, or it cannot be scanned with the base classes
alone. -/
def DexFile.Decided (f : DexFile) (namer : ClassNamer) (files : List DexFile)
    (bases : DescriptorSet) : Prop :=
  f.CleanUnder namer (reached files (Members bases)) ∨ ∀ scan, f.scan namer bases ≠ .ok scan

namespace Closure

/-- The names of the skipped files, as a run reports them. -/
def skippedNames (c : Closure) : List Text := c.skipped.map DexFile.name

/-- The files that the run does not report as skipped. -/
def unskipped (c : Closure) (files : List DexFile) : List DexFile :=
  files.filter fun f => c.skippedNames.all (· ≠ f.name)

theorem mem_unskipped {c : Closure} {files : List DexFile} {f : DexFile} :
    f ∈ c.unskipped files ↔ f ∈ files ∧ f.name ∉ c.skippedNames := by
  rw [unskipped, List.mem_filter, List.all_eq_true]
  simp only [decide_eq_true_eq]
  refine and_congr_right fun _ => ⟨fun other mem => other _ mem rfl, fun out name mem => ?_⟩
  rintro rfl
  exact out mem

/-- The result shows nothing of the skipped files: its tests are tests of classes of the other
files, and these alone lead from the base classes to its descriptors. -/
structure FreeOfSkipped (c : Closure) (namer : ClassNamer) (bases : DescriptorSet)
    (files : List DexFile) : Prop where
  known : ∀ d ∈ c.known, d ∈ reached (c.unskipped files) (Members bases)
  tests : ∀ t ∈ c.tests, t ∈ testsIn namer (c.unskipped files)

/-- Two results hold the same descriptors and the same tests, and report the same names as skipped,
each as often. -/
structure Agrees (c c' : Closure) : Prop where
  known : Members c.known = Members c'.known
  tests : Members c.tests = Members c'.tests
  skipped : c.skippedNames.Perm c'.skippedNames

end Closure

/-! ## Sample files -/

namespace Sample

/-- `A` extends the base class `T` and has a test; the data of `C`, which extends `B`, lie behind
the end of the file. -/
def late : DexFile := file "late.dex" [classDef 1 0 (some 32), classDef 3 2 (some 99)]

/-- `B` extends the base class `T`. -/
def cause : DexFile := file "cause.dex" [classDef 2 0]

/-- The data of `A`, which extends the base class `T`, lie behind the end of the file. -/
def broken : DexFile := file "broken.dex" [classDef 1 0 (some 99)]

/-- `late` is scanned to the end before `B` is found, and fails in the second pass. -/
theorem exists_run_of_late_cause :
    ∃ c, ((Search.lenient namer).run bases [late, cause] {}).1 = .ok c ∧
      c.known.toList = [("LA;" : Text), "LB;", "LT;"] ∧ c.tests.toList = [("A#testX" : Text)] ∧
        c.skipped = [late] := by
  have h : answer (.lenient namer) [late, cause]
      = some ([("LA;" : Text), "LB;", "LT;"], [("A#testX" : Text)], [late]) := by decide +kernel
  exact exists_of_answer h

/-- In the other order, it fails at once. -/
theorem exists_run_of_cause_late :
    ∃ c, ((Search.lenient namer).run bases [cause, late] {}).1 = .ok c ∧
      c.known.toList = [("LB;" : Text), "LT;"] ∧ c.tests.toList = [] ∧ c.skipped = [late] := by
  have h : answer (.lenient namer) [cause, late]
      = some ([("LB;" : Text), "LT;"], [], [late]) := by decide +kernel
  exact exists_of_answer h

/-- Whether all scans of the files with some names failed. -/
def fails (search : Search) (files : List DexFile) (names : List Text) : Bool :=
  (search.visits bases files {}).all fun v => names.all (· ≠ v.file.name) || !v.answer.isOk

theorem foundWithin_of_fails {search : Search} {files : List DexFile} {names : List Text}
    {X Y : Set Text} (h : fails search files names = true) :
    ∀ v ∈ search.visits bases files {}, v.file.name ∈ names → v.FoundWithin X Y := by
  intro v hv name
  have failed := List.all_eq_true.mp h v hv
  cases answer : v.answer with
  | error e => exact Visit.foundWithin_of_error answer
  | ok scan =>
    have other : ∀ x ∈ names, x ≠ v.file.name := by
      simpa [answer, Except.isOk, Except.toBool] using failed
    exact absurd rfl (other _ name)

end Sample

namespace Search

variable {search : Search} {namer : ClassNamer} {bases : DescriptorSet}
  {files files' : List DexFile} {journal journal' : Journal} {c c' : Closure}

/-! ## Which files are skipped -/

/-- A skipped file cannot be scanned with all that is known in the end. -/
theorem not_ok_of_skipped (h : (search.run bases files journal).1 = .ok c) :
    ∀ f ∈ c.skipped, ∀ scan, f.scan search.namer c.known ≠ .ok scan := by
  intro f hf scan ok
  obtain ⟨_, v, hv, rfl, fault, answer⟩ := exists_visit_of_skipped h f hf
  obtain ⟨earlier, ok', _⟩ := DexFile.scan_mono ok (visit_known_subset h v hv)
  have : v.answer = .ok earlier := (mem_visits hv).2.trans ok'
  simp [answer] at this

/-- The skipped files are those that cannot be scanned with all that is known in the end. -/
theorem skipped_perm_filter (h : (search.run bases files journal).1 = .ok c) :
    c.skipped.Perm (files.filter fun f => !(f.scan search.namer c.known).isOk) := by
  have working : c.working.filter (fun f => !(f.scan search.namer c.known).isOk) = [] := by
    refine List.filter_eq_nil_iff.mpr fun f hf => ?_
    obtain ⟨scan, ok, _⟩ := settled h f hf
    simp [isOk_iff, ok]
  have skipped : c.skipped.filter (fun f => !(f.scan search.namer c.known).isOk) = c.skipped := by
    refine List.filter_eq_self.mpr fun f hf => ?_
    simpa [isOk_eq_false_iff] using not_ok_of_skipped h f hf
  have perm := (working_append_skipped_perm h).filter fun f => !(f.scan search.namer c.known).isOk
  rwa [List.filter_append, working, skipped, List.nil_append] at perm

/-- What is known in the end decides which files are skipped. -/
theorem skippedNames_perm (h : (search.run bases files journal).1 = .ok c)
    (h' : (search.run bases files' journal').1 = .ok c') (perm : files.Perm files')
    (known : Members c.known = Members c'.known) : c.skippedNames.Perm c'.skippedNames := by
  have same : (fun f : DexFile => !(f.scan search.namer c.known).isOk) =
      fun f => !(f.scan search.namer c'.known).isOk := by
    funext f
    rw [Bool.eq_iff_iff]
    simp only [Bool.not_eq_true', isOk_eq_false_iff, ne_eq, DexFile.scan_congr known]
  -- both runs put the same question to the same files: can they be scanned with what is known?
  refine List.Perm.map _ ?_
  calc c.skipped
      |>.Perm (files.filter fun f => !(f.scan search.namer c.known).isOk) := skipped_perm_filter h
    _ |>.Perm (files'.filter fun f => !(f.scan search.namer c.known).isOk) := perm.filter _
    _ |>.Perm c'.skipped := by
        rw [same]
        exact (skipped_perm_filter h').symm

/-! ## What is left of skipped files -/

/-- A file of the run is skipped unless it works to the end. -/
theorem mem_skipped_of_not_mem_working (h : (search.run bases files journal).1 = .ok c) :
    ∀ f ∈ files, f ∉ c.working → f ∈ c.skipped := by
  intro f hf idle
  have mem : f ∈ c.working ++ c.skipped := (working_append_skipped_perm h).mem_iff.mpr hf
  exact (List.mem_append.mp mem).resolve_left idle

theorem unskipped_subset_working (h : (search.run bases files journal).1 = .ok c) :
    c.unskipped files ⊆ c.working := by
  intro f hf
  obtain ⟨hf, name⟩ := Closure.mem_unskipped.mp hf
  by_contra idle
  exact name (List.mem_map_of_mem (mem_skipped_of_not_mem_working h f hf idle))

/-- A result holds all that the files that are not skipped lead to. -/
theorem reached_unskipped_subset (h : (search.run bases files journal).1 = .ok c) :
    reached (c.unskipped files) (Members bases) ⊆ Members c.known ∧
      testsUnder search.namer (c.unskipped files) (Members c.known) ⊆ Members c.tests := by
  have works := unskipped_subset_working h
  constructor
  · exact reached_subset (bases_subset h) fun f hf => closedUnder_of_working h f (works hf)
  · rintro t ⟨f, hf, test⟩
    exact testsUnder_working_subset h ⟨f, works hf, test⟩

/-- **What skipped files leave behind.**  The result of a lenient run shows nothing of the skipped
files if and only if no scan of a skipped file found a descriptor which the other files alone do not
lead to, or a test which they do not have. -/
theorem freeOfSkipped_iff (h : ((lenient namer).run bases files journal).1 = .ok c) :
    c.FreeOfSkipped namer bases files ↔
      ∀ v ∈ (lenient namer).visits bases files journal, v.file.name ∈ c.skippedNames →
        v.FoundWithin (reached (c.unskipped files) (Members bases))
          (testsIn namer (c.unskipped files)) := by
  constructor
  · intro free v hv _
    refine ⟨fun m hm => ?_, fun t ht => ?_⟩
    · exact free.known _ (descriptors_subset h v hv m hm)
    · exact free.tests t ((mem_tests_iff h).mpr ⟨v, hv, ht⟩)
  · intro within
    have out : ∀ v ∈ (lenient namer).visits bases files journal, v.file ∉ c.unskipped files →
        v.file.name ∈ c.skippedNames := by
      intro v hv hf
      by_contra name
      exact hf (Closure.mem_unskipped.mpr ⟨(mem_visits hv).1, name⟩)
    obtain ⟨known, tests⟩ := subset_of_kept h bases_subset_reached reached_closedUnder
      testsUnder_subset_testsIn fun v hv hf => within v hv (out v hv hf)
    exact ⟨fun d hd => known hd, fun t ht => tests ht⟩

/-- A file that fails in its only scan leaves nothing behind. -/
theorem freeOfSkipped_of_cause_late :
    ∃ c, ((lenient Sample.namer).run Sample.bases [Sample.cause, Sample.late] {}).1 = .ok c ∧
      c.skipped = [Sample.late] ∧
        c.FreeOfSkipped Sample.namer Sample.bases [Sample.cause, Sample.late] := by
  obtain ⟨c, run, _, _, skipped⟩ := Sample.exists_run_of_cause_late
  have fails : Sample.fails (lenient Sample.namer) [Sample.cause, Sample.late] ["late.dex"]
      = true := by decide +kernel
  have names : c.skippedNames = [("late.dex" : Text)] := by
    rw [Closure.skippedNames, skipped]
    rfl
  refine ⟨c, run, skipped, (freeOfSkipped_iff run).mpr ?_⟩
  rw [names]
  exact Sample.foundWithin_of_fails fails

/-- A file that fails in a later pass may leave a test behind which no other file has. -/
theorem not_freeOfSkipped :
    ¬ ∀ (namer : ClassNamer) (bases : DescriptorSet) (files : List DexFile) (journal : Journal)
      (c : Closure), (files.map DexFile.name).Nodup →
        ((lenient namer).run bases files journal).1 = .ok c →
          c.FreeOfSkipped namer bases files := by
  intro free
  obtain ⟨c, run, _, tests, skipped⟩ := Sample.exists_run_of_late_cause
  have left : ("A#testX" : Text) ∈ c.tests := by
    rw [← Std.TreeSet.mem_toList, tests]
    exact List.mem_singleton_self _
  obtain ⟨f, hf, cls, hc, test⟩ := (free _ _ _ _ c (by decide) run).tests _ left
  -- the only other file is `cause`, whose only class has no methods
  have others : c.unskipped [Sample.late, Sample.cause] = [Sample.cause] := by
    rw [Closure.unskipped, Closure.skippedNames, skipped]
    rfl
  rw [others] at hf
  obtain rfl := List.mem_singleton.mp hf
  obtain rfl : cls = Sample.classDef 2 0 := by
    simpa [Sample.cause, Sample.file, Sample.image] using hc
  obtain ⟨_, _, methods, _, _, listed, m, hm, _⟩ := test
  have none : Sample.cause.image.virtualMethodNames (Sample.classDef 2 0) = .ok [] := rfl
  obtain rfl := Except.ok.inj (none.symm.trans listed)
  exact absurd hm List.not_mem_nil

/-! ## Runs over the same files in different orders -/

/-- One run finds nothing that another over the same files does not find, unless it finds it in a
file that the other skips. -/
theorem subset_of_foundWithin (h : (search.run bases files journal).1 = .ok c)
    (h' : (search.run bases files' journal').1 = .ok c') (perm : files.Perm files')
    (within : ∀ v ∈ search.visits bases files journal, v.file ∈ c'.skipped →
      v.FoundWithin (Members c'.known) (Members c'.tests)) :
    Members c.known ⊆ Members c'.known ∧ Members c.tests ⊆ Members c'.tests := by
  refine subset_of_kept h (bases_subset h') (closedUnder_of_working h')
    (testsUnder_working_subset h') fun v hv idle => within v hv ?_
  exact mem_skipped_of_not_mem_working h' _ (perm.subset (mem_visits hv).1) idle

/-- If neither run found more in the files that the other skips, then they agree: what they know is
the same, and this decides which files are skipped. -/
theorem agrees_of_foundWithin (h : (search.run bases files journal).1 = .ok c)
    (h' : (search.run bases files' journal').1 = .ok c') (perm : files.Perm files')
    (within : ∀ v ∈ search.visits bases files journal, v.file ∈ c'.skipped →
      v.FoundWithin (Members c'.known) (Members c'.tests))
    (within' : ∀ v ∈ search.visits bases files' journal', v.file ∈ c.skipped →
      v.FoundWithin (Members c.known) (Members c.tests)) : c.Agrees c' := by
  obtain ⟨known, tests⟩ := subset_of_foundWithin h h' perm within
  obtain ⟨known', tests'⟩ := subset_of_foundWithin h' h perm.symm within'
  have same := Set.Subset.antisymm known known'
  exact ⟨same, Set.Subset.antisymm tests tests', skippedNames_perm h h' perm same⟩

/-- **When the order of the files is irrelevant.**  Two lenient runs over the same files in
different orders agree if and only if whatever either found in a file that the other skipped is in
the result of the other as well. -/
theorem agrees_iff (perm : files.Perm files')
    (h : ((lenient namer).run bases files journal).1 = .ok c)
    (h' : ((lenient namer).run bases files' journal').1 = .ok c') :
    c.Agrees c' ↔
      (∀ v ∈ (lenient namer).visits bases files journal, v.file ∈ c'.skipped →
          v.FoundWithin (Members c'.known) (Members c'.tests)) ∧
        ∀ v ∈ (lenient namer).visits bases files' journal', v.file ∈ c.skipped →
          v.FoundWithin (Members c.known) (Members c.tests) := by
  -- each run holds what its own scans found
  have found {files : List DexFile} {journal : Journal} {c : Closure}
      (h : ((lenient namer).run bases files journal).1 = .ok c) :
      ∀ v ∈ (lenient namer).visits bases files journal,
        v.FoundWithin (Members c.known) (Members c.tests) := fun v hv =>
    ⟨descriptors_subset h v hv, fun t ht => (mem_tests_iff h).mpr ⟨v, hv, ht⟩⟩
  constructor
  · intro agree
    refine ⟨fun v hv _ => ?_, fun v hv _ => ?_⟩
    · rw [← agree.known, ← agree.tests]
      exact found h v hv
    · rw [agree.known, agree.tests]
      exact found h' v hv
  · rintro ⟨within, within'⟩
    exact agrees_of_foundWithin h h' perm within within'

/-- A file that fails whenever it is scanned is skipped in either order, and nothing else
changes. -/
theorem agrees_of_upper_broken_lower :
    ∃ c c', ((lenient Sample.namer).run Sample.bases
          [Sample.upper, Sample.broken, Sample.lower] {}).1 = .ok c ∧
      ((lenient Sample.namer).run Sample.bases
          [Sample.lower, Sample.upper, Sample.broken] {}).1 = .ok c' ∧
        c.skipped = [Sample.broken] ∧ c.Agrees c' := by
  have h : Sample.answer (lenient Sample.namer) [Sample.upper, Sample.broken, Sample.lower]
      = some ([("LA;" : Text), "LB;", "LT;"], [("A#testX" : Text)], [Sample.broken]) := by
    decide +kernel
  have h' : Sample.answer (lenient Sample.namer) [Sample.lower, Sample.upper, Sample.broken]
      = some ([("LA;" : Text), "LB;", "LT;"], [("A#testX" : Text)], [Sample.broken]) := by
    decide +kernel
  obtain ⟨c, run, _, _, skipped⟩ := Sample.exists_of_answer h
  obtain ⟨c', run', _, _, skipped'⟩ := Sample.exists_of_answer h'
  have fails : Sample.fails (lenient Sample.namer) [Sample.upper, Sample.broken, Sample.lower]
      ["broken.dex"] = true := by decide +kernel
  have fails' : Sample.fails (lenient Sample.namer) [Sample.lower, Sample.upper, Sample.broken]
      ["broken.dex"] = true := by decide +kernel
  have perm : [Sample.upper, Sample.broken, Sample.lower].Perm
      [Sample.lower, Sample.upper, Sample.broken] :=
    (List.Perm.swap _ _ []).cons _ |>.trans (List.Perm.swap _ _ _)
  have name {f : DexFile} (hf : f ∈ [Sample.broken]) : f.name ∈ [("broken.dex" : Text)] :=
    List.mem_singleton.mp hf ▸ List.mem_singleton_self _
  refine ⟨c, c', run, run', skipped, (agrees_iff perm run run').mpr ?_⟩
  rw [skipped, skipped']
  exact ⟨fun v hv hf => Sample.foundWithin_of_fails fails v hv (name hf),
    fun v hv hf => Sample.foundWithin_of_fails fails' v hv (name hf)⟩

/-- A file that is scanned to the end before it fails may change the result with its place. -/
theorem not_agrees_of_perm :
    ¬ ∀ (namer : ClassNamer) (bases : DescriptorSet) (files files' : List DexFile)
      (journal journal' : Journal) (c c' : Closure), files.Perm files' →
        ((lenient namer).run bases files journal).1 = .ok c →
          ((lenient namer).run bases files' journal').1 = .ok c' → c.Agrees c' := by
  intro agree
  obtain ⟨c, run, known, _⟩ := Sample.exists_run_of_late_cause
  obtain ⟨c', run', known', _⟩ := Sample.exists_run_of_cause_late
  have same := (agree _ _ _ _ _ _ c c' (List.Perm.swap _ _ _) run run').known
  have left : ("LA;" : Text) ∈ Members c.known := by
    rw [mem_members, ← Std.TreeSet.mem_toList, known]
    exact List.mem_cons_self
  rw [same, mem_members, ← Std.TreeSet.mem_toList, known'] at left
  exact absurd left (by decide)

/-! ## Files that are clean or fail at once -/

/-- A skipped file is not clean under what the files lead to. -/
theorem not_cleanUnder_of_skipped (h : (search.run bases files journal).1 = .ok c) :
    ∀ f ∈ c.skipped, ¬ f.CleanUnder search.namer (reached files (Members bases)) := by
  intro f hf clean
  obtain ⟨_, v, hv, rfl, fault, answer⟩ := exists_visit_of_skipped h f hf
  obtain ⟨cls, hc, culprit⟩ := exists_culprit_of_visit v hv answer
  exact DexFile.cleanUnder_iff.mp clean cls hc _ culprit

/-- A decided file that is not clean fails in every scan, since every scan sees the base classes. -/
theorem foundWithin_of_decided {X Y : Set Text}
    (decided : ∀ f ∈ files, f.Decided search.namer files bases) :
    ∀ v ∈ search.visits bases files journal,
      ¬ v.file.CleanUnder search.namer (reached files (Members bases)) → v.FoundWithin X Y := by
  intro v hv unclean
  obtain ⟨hf, ha⟩ := mem_visits hv
  have fails := (decided v.file hf).resolve_left unclean
  cases answer : v.answer with
  | error e => exact Visit.foundWithin_of_error answer
  | ok scan =>
    obtain ⟨first, ok, _⟩ := DexFile.scan_mono (ha.symm.trans answer) (bases_subset_known v hv)
    exact absurd ok (fails first)

/-- If every file is clean or fails at once, then the order of the files is irrelevant. -/
theorem agrees_of_decided (perm : files.Perm files')
    (decided : ∀ f ∈ files, f.Decided search.namer files bases)
    (h : (search.run bases files journal).1 = .ok c)
    (h' : (search.run bases files' journal').1 = .ok c') : c.Agrees c' := by
  have same : reached files (Members bases) = reached files' (Members bases) :=
    reached_congr fun f => perm.mem_iff
  have decided' : ∀ f ∈ files', f.Decided search.namer files' bases := by
    intro f hf
    rw [DexFile.Decided, ← same]
    exact decided f (perm.mem_iff.mpr hf)
  refine agrees_of_foundWithin h h' perm (fun v hv skipped => ?_) fun v hv skipped => ?_
  · refine foundWithin_of_decided decided v hv ?_
    rw [same]
    exact not_cleanUnder_of_skipped h' _ skipped
  · refine foundWithin_of_decided decided' v hv ?_
    rw [← same]
    exact not_cleanUnder_of_skipped h _ skipped

/-- If every file is clean or fails at once, then the result is that of a strict run over the files
that are not skipped. -/
theorem exists_strict_run_of_decided
    (decided : ∀ f ∈ files, f.Decided namer files bases)
    (h : ((lenient namer).run bases files journal).1 = .ok c) :
    ∃ c', ((strict namer).run bases c.working journal').1 = .ok c' ∧
      Members c'.known = Members c.known ∧ Members c'.tests = Members c.tests := by
  have within : ∀ v ∈ (lenient namer).visits bases files journal, v.file ∉ c.working →
      v.FoundWithin (reached c.working (Members bases))
        (testsUnder namer c.working (reached c.working (Members bases))) := by
    intro v hv idle
    have skipped := mem_skipped_of_not_mem_working h _ (mem_visits hv).1 idle
    exact foundWithin_of_decided decided v hv (not_cleanUnder_of_skipped h _ skipped)
  -- the skipped files have found nothing, so the others alone lead to all that is known
  obtain ⟨sub, tests⟩ :=
    subset_of_kept h bases_subset_reached reached_closedUnder Set.Subset.rfl within
  have known : reached c.working (Members bases) = Members c.known :=
    Set.Subset.antisymm (reached_subset (bases_subset h) (closedUnder_of_working h)) sub
  have clean : ∀ f ∈ c.working, f.CleanUnder namer (reached c.working (Members bases)) := by
    intro f hf
    obtain ⟨scan, ok, _⟩ := settled h f hf
    rw [known]
    exact (DexFile.exists_scan_iff (closedUnder_of_working h f hf)).mp ⟨scan, ok⟩
  obtain ⟨c', h'⟩ := exists_strict_run_iff.mpr clean
  have complete := strict_skips_nothing h'
  have known' : Members c'.known = Members c.known := (known_eq_reached h' complete).trans known
  have tests' : Members c'.tests = testsUnder namer c.working (Members c'.known) :=
    tests_eq_testsUnder h' complete
  refine ⟨c', h', known', ?_⟩
  rw [tests', known']
  rw [known] at tests
  exact Set.Subset.antisymm (testsUnder_working_subset h) tests

end Search

end DexDiscovery
