import DexDiscovery.Proofs.BufferRuns

/-!
# Searches do not read names

Of a file, a search reads the image.  The name of the file is reported if it is skipped, and has no
other influence; the journal is written and never read.  So two searches over files with the same
images go through the same states, in which the files of the one stand where those of the other do.

`Closure.Parallel` is that relation between states, for any relation `R` between the files that
keeps images.  One scan keeps it (`parallel_visit`), and so do a pass and a run.  With `R` the
equality of files it says that the journal makes no difference, with `R` a renaming that names make
none.  `Engine.parallel_searchLoaded` carries it over to the results of two discoveries.
-/

namespace DexDiscovery

/-- A scan reads the image of a file, and nothing else. -/
theorem DexFile.scan_eq_of_image {f g : DexFile} {namer : ClassNamer} {targets : DescriptorSet}
    (same : f.image = g.image) : f.scan namer targets = g.scan namer targets := by
  obtain ⟨name, header, image⟩ := f
  obtain ⟨name', header', image'⟩ := g
  obtain rfl : image = image' := same
  rfl

/-- Two runs were stopped for the same reason. -/
def Stopped.SameCause (s s' : Stopped) : Prop := s.cause = s'.cause

namespace Closure

/-- Two states of a search that differ in their files, which are related one by one, and in what
was recorded. -/
structure Parallel (R : DexFile → DexFile → Prop) (c c' : Closure) : Prop where
  known : c.known = c'.known
  tests : c.tests = c'.tests
  working : List.Forall₂ R c.working c'.working
  skipped : List.Forall₂ R c.skipped c'.skipped
  passes : c.passes = c'.passes

/-- Parallel states come to an end together. -/
theorem Parallel.idle_iff {R : DexFile → DexFile → Prop} {c c' : Closure} (h : Parallel R c c') :
    c.working = [] ↔ c'.working = [] := by
  rw [← List.length_eq_zero_iff, ← List.length_eq_zero_iff, h.working.length_eq]

section
variable {R : DexFile → DexFile → Prop} (image : ∀ f g, R f g → f.image = g.image)
  {search : Search} {c c' : Closure}
include image

theorem parallel_visit {f g : DexFile} (h : Parallel R c c') (file : R f g) :
    SideBySide Stopped.SameCause (Parallel R) (visit search c f) (visit search c' g) := by
  have same : g.scan search.namer c'.known = f.scan search.namer c.known := by
    rw [← h.known, DexFile.scan_eq_of_image (image f g file)]
  unfold visit
  rw [same]
  cases f.scan search.namer c.known with
  | ok scan =>
    have working : List.Forall₂ R (c.working ++ [f]) (c'.working ++ [g]) :=
      List.rel_append h.working (.cons file .nil)
    exact .values ⟨by rw [h.known], by rw [h.tests], working, h.skipped, h.passes⟩
  | error cause =>
    cases cause with
    | malformed fault =>
      cases search.policy with
      | strict => exact .failures rfl
      | lenient =>
        have skipped : List.Forall₂ R (c.skipped ++ [f]) (c'.skipped ++ [g]) :=
          List.rel_append h.skipped (.cons file .nil)
        exact .values ⟨h.known, h.tests, h.working, skipped, h.passes⟩
    | _ => exact .failures rfl

theorem parallel_pass (h : Parallel R c c') :
    SideBySide Stopped.SameCause (Parallel R) (pass search c) (pass search c') := by
  have opened : Parallel R c.opened c'.opened :=
    ⟨h.known, h.tests, .nil, h.skipped, congrArg (· + 1) h.passes⟩
  have visited : SideBySide Stopped.SameCause (Parallel R) (visitAll search c)
      (visitAll search c') := by
    refine SideBySide.foldlM (R := R) ?_ h.working opened
    intro s s' f g state file
    exact parallel_visit image state file
  exact visited.map fun _ _ after =>
    ⟨after.known, after.tests, after.working, after.skipped, after.passes⟩

/-- **Parallel runs.**  Two searches over files with the same images return parallel states, or
fail for the same reason. -/
theorem parallel_run (h : Parallel R c c') :
    SideBySide Stopped.SameCause (Parallel R) (run search c) (run search c') := by
  -- along the passes of the one run: a parallel pass learns as much, so the other ends with it
  fun_induction run search c generalizing c' with
  | case1 c empty =>
    rw [run, if_pos (h.idle_iff.mp empty)]
    exact .values h
  | case2 c nonempty stopped hp =>
    obtain ⟨stopped', hp', same⟩ := (parallel_pass image h).of_error hp
    rw [run_of_stopped (mt h.idle_iff.mpr nonempty) hp']
    exact .failures same
  | case3 c nonempty after hp none =>
    obtain ⟨after', hp', state⟩ := (parallel_pass image h).of_ok hp
    have none' : after'.known.size = c'.known.size := by rw [← state.known, ← h.known, none]
    rw [run_of_pass (mt h.idle_iff.mpr nonempty) hp', if_pos none']
    exact .values state
  | case4 c nonempty after hp more ih =>
    obtain ⟨after', hp', state⟩ := (parallel_pass image h).of_ok hp
    have more' : ¬ after'.known.size = c'.known.size := by rwa [← state.known, ← h.known]
    rw [run_of_pass (mt h.idle_iff.mpr nonempty) hp', if_neg more']
    exact ih state

end

end Closure

namespace Search

variable {R : DexFile → DexFile → Prop} {search : Search} {bases : DescriptorSet}
  {files files' : List DexFile} {journal journal' : Journal}

theorem parallel_opening (h : List.Forall₂ R files files') :
    Closure.Parallel R (opening bases files journal) (opening bases files' journal') :=
  ⟨rfl, rfl, h, .nil, rfl⟩

/-- Two searches over files with the same images return parallel states, or fail alike. -/
theorem parallel_search (image : ∀ f g, R f g → f.image = g.image)
    (h : List.Forall₂ R files files') :
    SideBySide Eq (Closure.Parallel R) (search.run bases files journal).1
      (search.run bases files' journal').1 := by
  have opened : Closure.Parallel R (opening bases files journal) (opening bases files' journal') :=
    parallel_opening h
  have both : SideBySide Stopped.SameCause (Closure.Parallel R)
      (Closure.run search (opening bases files journal))
      (Closure.run search (opening bases files' journal')) := Closure.parallel_run image opened
  cases run : Closure.run search (opening bases files journal) with
  | ok c =>
    obtain ⟨c', run', state⟩ := both.of_ok run
    rw [run_eq_ok.mpr run, run_eq_ok.mpr run']
    exact .values state
  | error stopped =>
    obtain ⟨stopped', run', same⟩ := both.of_error run
    rw [run_eq_error.mpr ⟨stopped, run, rfl⟩, run_eq_error.mpr ⟨stopped', run', rfl⟩]
    exact .failures same

end Search

namespace Engine

variable {R : DexFile → DexFile → Prop} {e : Engine} {loaded loaded' : Loaded}

/-- What searching answers, the journal put aside. -/
theorem searchLoaded_fst :
    (e.searchLoaded loaded).1 =
      (e.search.run e.bases loaded.files (loaded.journal.note .closureStarted)).1 >>=
        fun c => (e.result loaded c).check := by
  rw [searchLoaded_eq]
  rcases e.search.run e.bases loaded.files (loaded.journal.note .closureStarted) with
    ⟨failure | c, inner⟩
  · rfl
  · simp only [bind, Except.bind, check_result]
    split <;> rfl

/-- Two searches over files with the same images end in results that are made up from parallel
states, or fail alike. -/
theorem parallel_searchLoaded (image : ∀ f g, R f g → f.image = g.image)
    (h : List.Forall₂ R loaded.files loaded'.files) :
    SideBySide Eq
      (fun d d' => ∃ c c', Closure.Parallel R c c' ∧ d = e.result loaded c ∧
        d' = e.result loaded' c')
      (e.searchLoaded loaded).1 (e.searchLoaded loaded').1 := by
  rw [searchLoaded_fst, searchLoaded_fst]
  refine (Search.parallel_search image h).bind fun c c' state => ?_
  rw [check_result, check_result]
  split
  · exact .failures rfl
  · exact .values ⟨c, c', state, rfl, rfl⟩

/-- Two runs that have loaded files with the same images, or have failed to load, go on side by
side. -/
theorem parallel_afterLoading {E : Failure → Failure → Prop} {L : Loaded → Loaded → Prop}
    {answer answer' : Except Failure Loaded × Journal} (alike : ∀ failure, E failure failure)
    (image : ∀ f g, R f g → f.image = g.image)
    (files : ∀ l l', L l l' → List.Forall₂ R l.files l'.files)
    (h : SideBySide E L answer.1 answer'.1) :
    SideBySide E
      (fun d d' => ∃ l l' c c', L l l' ∧ Closure.Parallel R c c' ∧ d = e.result l c ∧
        d' = e.result l' c')
      (afterLoading e.searchLoaded answer).1 (afterLoading e.searchLoaded answer').1 := by
  obtain ⟨_ | l, journal⟩ := answer <;> obtain ⟨_ | l', journal'⟩ := answer'
  · cases h with
    | failures related => exact .failures related
  · cases h
  · cases h
  · cases h with
    | values related =>
      have loaded : List.Forall₂ R { l with journal }.files { l' with journal := journal' }.files :=
        files l l' related
      refine (parallel_searchLoaded image loaded).imp
        (fun failure failure' same => same ▸ alike failure) ?_
      rintro d d' ⟨c, c', state, rfl, rfl⟩
      exact ⟨l, l', c, c', related, state, rfl, rfl⟩

end Engine

end DexDiscovery
