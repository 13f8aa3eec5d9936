import DexDiscovery.Proofs.LenientClosure
import Mathlib.Data.List.Nodup

/-!
# What a lenient run keeps

Between what the files that are not skipped lead to and what all files lead to lies the result of a
lenient run: nothing of the former is missing, and nothing beyond the latter is in it
(`lenient_run_bounds`).

A file is skipped if and only if one of its scans finds it malformed.  That scan is its last: the
files visited in a pass are those which the pass before has kept, so a file that failed does not
come up again (`Closure.pairwise_visits`), and it is reported once.
-/

namespace DexDiscovery

namespace Closure

variable {search : Search} {c : Closure} {files : List DexFile}

/-- The files that are not skipped. -/
def remaining (c : Closure) (files : List DexFile) : List DexFile :=
  files.filter (· ∉ c.skipped)

/-! ## No file is scanned after it has failed -/

/-- The scans of a pass go through the files in order, perhaps not to the end. -/
theorem map_file_visitsFrom : (visitsFrom search files c).map Visit.file <+: files := by
  induction files generalizing c with
  | nil => exact List.prefix_rfl
  | cons file rest ih =>
    rw [visitsFrom, List.map_cons, List.prefix_cons_inj]
    cases visit search c file with
    | ok next => exact ih
    | error stopped => exact List.nil_prefix

theorem nodup_visitsOfPass (distinct : c.working.Nodup) :
    ((visitsOfPass search c).map Visit.file).Nodup :=
  distinct.sublist map_file_visitsFrom.sublist

/-- In one pass over different files, no file is scanned twice. -/
theorem pairwise_visitsOfPass (distinct : c.working.Nodup) :
    (visitsOfPass search c).Pairwise fun v w => (∃ e, v.answer = .error e) → w.file ≠ v.file :=
  (List.pairwise_map.mp (nodup_visitsOfPass distinct)).imp fun other _ => other.symm

/-- **A failed scan is the last of its file.** -/
theorem pairwise_visits (distinct : c.working.Nodup) :
    (visits search c).Pairwise fun v w => (∃ e, v.answer = .error e) → w.file ≠ v.file := by
  fun_induction visits search c with
  | case1 => exact List.Pairwise.nil
  | case2 | case3 => exact pairwise_visitsOfPass distinct
  | case4 c _ after hp _ ih =>
    obtain ⟨_, work, _⟩ := advances_pass hp
    have nodup : ((visitsOfPass search c).map Visit.file).Nodup := nodup_visitsOfPass distinct
    have kept : after.working.Nodup := by
      rw [work]
      exact nodup.sublist (List.filter_sublist.map Visit.file)
    refine List.pairwise_append.mpr ⟨pairwise_visitsOfPass distinct, ih kept, ?_⟩
    rintro v hv w hw ⟨e, failed⟩ same
    -- a file that is scanned later was kept by a scan of the same pass, which is the failed one
    have mem : w.file ∈ after.working := (mem_visits hw).1
    rw [work] at mem
    obtain ⟨u, hu, file, scan, ok⟩ := Visit.mem_kept.mp mem
    obtain rfl : u = v := List.inj_on_of_nodup_map nodup hu hv (file.trans same)
    simp [ok] at failed

end Closure

theorem testsUnder_mono {namer : ClassNamer} {files : List DexFile} {R R' : Set Text}
    (h : R ⊆ R') : testsUnder namer files R ⊆ testsUnder namer files R' := by
  rintro t ⟨f, hf, c, hc, ⟨s, hs, he⟩, test⟩
  exact ⟨f, hf, c, hc, ⟨s, h hs, he⟩, test⟩

namespace Search

variable {namer : ClassNamer} {bases : DescriptorSet} {files : List DexFile} {journal : Journal}
  {c : Closure}

section Result
variable (h : ((lenient namer).run bases files journal).1 = .ok c)
include h

theorem remaining_subset_working : c.remaining files ⊆ c.working := by
  intro f hf
  obtain ⟨mem, out⟩ := List.mem_filter.mp hf
  by_contra idle
  exact absurd (mem_skipped_of_not_mem_working h f mem idle) (of_decide_eq_true out)

/-- What the remaining files lead to is found, and so are the tests of the classes met there. -/
theorem reached_remaining_subset :
    reached (c.remaining files) (Members bases) ⊆ Members c.known ∧
      testsUnder namer (c.remaining files) (reached (c.remaining files) (Members bases))
        ⊆ Members c.tests := by
  have works := remaining_subset_working h
  have known : reached (c.remaining files) (Members bases) ⊆ Members c.known :=
    reached_subset (bases_subset h) fun f hf => closedUnder_of_working h f (works hf)
  refine ⟨known, (testsUnder_mono known).trans ?_⟩
  rintro t ⟨f, hf, test⟩
  exact testsUnder_working_subset h ⟨f, works hf, test⟩

/-- The skipped files are those which a scan found to be malformed. -/
theorem mem_skipped_iff {f : DexFile} :
    f ∈ c.skipped ↔ ∃ v ∈ (lenient namer).visits bases files journal, v.file = f ∧
      ∃ fault, v.answer = .error (.malformed fault) := by
  constructor
  · intro hf
    exact (exists_visit_of_skipped h f hf).2
  · rintro ⟨v, hv, rfl, fault, failed⟩
    rw [(advances h).skipped]
    exact List.mem_append_right _ (Visit.mem_dropped.mpr ⟨v, hv, rfl, _, failed⟩)

theorem skipped_nodup (distinct : files.Nodup) : c.skipped.Nodup :=
  List.Nodup.of_append_right ((working_append_skipped_perm h).nodup_iff.mpr distinct)

end Result

/-- **Bounds of a lenient run.**  A lenient run finds all that the files which it has not skipped
lead to by themselves, and nothing but what all files lead to; a class that cannot be read leads
nowhere and has no tests.  It skips the files that one of its scans finds malformed.  Of different
files, none is skipped twice, and none is scanned again after it has failed. -/
theorem lenient_run_bounds (h : ((lenient namer).run bases files journal).1 = .ok c) :
    (reached (c.remaining files) (Members bases) ⊆ Members c.known ∧
        testsUnder namer (c.remaining files) (reached (c.remaining files) (Members bases))
          ⊆ Members c.tests) ∧
      (Members c.known ⊆ reached files (Members bases) ∧
        Members c.tests ⊆ testsUnder namer files (reached files (Members bases))) ∧
      (∀ f, f ∈ c.skipped ↔ ∃ v ∈ (lenient namer).visits bases files journal, v.file = f ∧
        ∃ fault, v.answer = .error (.malformed fault)) ∧
      (files.Nodup → c.skipped.Nodup ∧
        ((lenient namer).visits bases files journal).Pairwise fun v w =>
          (∃ fault, v.answer = .error (.malformed fault)) → w.file ≠ v.file) := by
  refine ⟨reached_remaining_subset h, subset_of_closed h bases_subset_reached reached_closedUnder,
    fun f => mem_skipped_iff h, fun distinct => ⟨skipped_nodup h distinct, ?_⟩⟩
  have last : ((lenient namer).visits bases files journal).Pairwise fun v w =>
      (∃ failure, v.answer = .error failure) → w.file ≠ v.file := Closure.pairwise_visits distinct
  refine last.imp fun other => ?_
  rintro ⟨fault, failed⟩
  exact other ⟨_, failed⟩

/-- `late` is scanned to the end once and fails in the second pass.  Its class `A` stays in the
result, between `B`, which `cause` alone leads to, and what both lead to. -/
theorem bounds_of_late_cause :
    ∃ c, ((lenient Sample.namer).run Sample.bases [Sample.late, Sample.cause] {}).1 = .ok c ∧
      c.skipped = [Sample.late] ∧ c.known.toList = [("LA;" : Text), "LB;", "LT;"] ∧
        reached [Sample.cause] (Members Sample.bases) ⊆ Members c.known ∧
        Members c.known ⊆ reached [Sample.late, Sample.cause] (Members Sample.bases) ∧
        ((lenient Sample.namer).visits Sample.bases [Sample.late, Sample.cause] {}).Pairwise
          fun v w => (∃ fault, v.answer = .error (.malformed fault)) → w.file ≠ v.file := by
  obtain ⟨c, run, known, _, skipped⟩ := Sample.exists_run_of_late_cause
  obtain ⟨⟨lower, _⟩, ⟨upper, _⟩, _, once⟩ := lenient_run_bounds run
  have remaining : c.remaining [Sample.late, Sample.cause] = [Sample.cause] := by
    rw [Closure.remaining, skipped]
    decide
  rw [remaining] at lower
  exact ⟨c, run, skipped, known, lower, upper, (once (by decide)).2⟩

end Search

end DexDiscovery
