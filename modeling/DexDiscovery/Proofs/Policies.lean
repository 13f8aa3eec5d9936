import DexDiscovery.Proofs.BufferRuns

/-!
# Strict and lenient runs of the same input

A strict run and a lenient one over the same input go through the same states up to the first
malformed file: the strict one ends there, and the lenient one puts the file aside.  So the strict
run returns if and only if the lenient one returns with nothing put aside, and then they return the
same state.

The square for one step (`visit_strict_iff` for a scan, `loadBuffer_strict_iff` for a buffer)
carries over to all steps of a pass, or of loading, by `foldlM_eq_ok_iff`, and from passes to runs
(`Closure.run_strict_iff`).  `strict_iff_lenient_unskipped` joins loading and searching: what an
engine answers, and what it logs, is the same under both policies as long as nothing is skipped.
-/

namespace DexDiscovery

variable {namer : ClassNamer} {bases : DescriptorSet} {files : List DexFile}
  {journal log : Journal}

/-! ## Searches -/

namespace Closure

variable {c next last : Closure} {file : DexFile}

/-- A strict run goes on from a scan where a lenient one goes on with the file. -/
theorem visit_strict_iff :
    visit (.strict namer) c file = .ok next ↔
      visit (.lenient namer) c file = .ok next ∧ next.skipped = c.skipped := by
  unfold visit
  simp only [Search.strict, Search.lenient]
  cases file.scan namer c.known with
  | ok scan =>
    simp only [Except.ok.injEq, iff_self_and]
    rintro rfl
    rfl
  | error cause =>
    cases cause with
    | malformed fault =>
      -- the lenient run has one more skipped file than before
      simp only [reduceCtorEq, Except.ok.injEq, false_iff, not_and]
      rintro rfl
      simp
    | _ => simp

theorem skipped_prefix_of_visit {search : Search} (h : visit search c file = .ok next) :
    c.skipped <+: next.skipped :=
  (advances_visit h).1.skipped ▸ List.prefix_append _ _

theorem pass_strict_iff :
    pass (.strict namer) c = .ok next ↔
      pass (.lenient namer) c = .ok next ∧ next.skipped = c.skipped := by
  have fold {after : Closure} : visitAll (.strict namer) c = .ok after ↔
      visitAll (.lenient namer) c = .ok after ∧ after.skipped = c.skipped :=
    foldlM_eq_ok_iff (fun _ _ _ => visit_strict_iff) fun _ _ _ => skipped_prefix_of_visit
  simp only [pass, map_eq_ok, fold]
  constructor
  · rintro ⟨after, ⟨h, none⟩, rfl⟩
    exact ⟨⟨after, h, rfl⟩, none⟩
  · rintro ⟨⟨after, h, rfl⟩, none⟩
    exact ⟨after, ⟨h, none⟩, rfl⟩

/-- **Passes in lock step.**  A strict run ends in a state if and only if the lenient run does and
has skipped nothing. -/
theorem run_strict_iff :
    run (.strict namer) c = .ok last ↔
      run (.lenient namer) c = .ok last ∧ last.skipped = c.skipped := by
  fun_induction run (Search.strict namer) c with
  | case1 c empty =>
    rw [run, if_pos empty]
    simp only [Except.ok.injEq, iff_self_and]
    rintro rfl
    rfl
  | case2 c nonempty stopped hp =>
    simp only [reduceCtorEq, false_iff, not_and]
    intro h none
    -- what the first lenient pass skips stays skipped, so it has skipped nothing
    cases hp' : pass (.lenient namer) c with
    | error stopped' => simp [run_of_stopped nonempty hp'] at h
    | ok next =>
      have first : c.skipped <+: next.skipped :=
        (advances_pass hp').1.skipped ▸ List.prefix_append _ _
      have back : next.skipped <+: c.skipped := by
        rw [run_of_pass nonempty hp'] at h
        split at h
        · exact none ▸ Except.ok.inj h ▸ List.prefix_rfl
        · exact none ▸ (run_advances h).skipped ▸ List.prefix_append _ _
      have same : next.skipped = c.skipped := antisymm back first
      exact absurd (pass_strict_iff.mpr ⟨hp', same⟩) (by simp [hp])
  | case3 c nonempty next hp same =>
    obtain ⟨hp', none⟩ := pass_strict_iff.mp hp
    rw [run_of_pass nonempty hp', if_pos same]
    simp only [Except.ok.injEq, iff_self_and]
    rintro rfl
    exact none
  | case4 c nonempty next hp more ih =>
    obtain ⟨hp', none⟩ := pass_strict_iff.mp hp
    rw [run_of_pass nonempty hp', if_neg more, ih, none]

end Closure

namespace Search

variable {c : Closure}

theorem run_eq_ok_with_log {search : Search} :
    search.run bases files journal = (.ok c, log) ↔
      Closure.run search (opening bases files journal) = .ok c ∧
        { c.journal with operation := journal.operation } = log := by
  simp only [run, Journal.within, opening]
  split
  · simp only [*, Prod.mk.injEq, Except.ok.injEq]
    exact and_congr_right fun same => by rw [same]
  · simp [*]

/-- A strict search returns if and only if the lenient one returns with no file skipped; both then
return the same state, and have logged the same. -/
theorem strict_run_iff :
    (strict namer).run bases files journal = (.ok c, log) ↔
      (lenient namer).run bases files journal = (.ok c, log) ∧ c.skipped = [] := by
  rw [run_eq_ok_with_log, run_eq_ok_with_log, Closure.run_strict_iff]
  exact and_right_comm

end Search

/-! ## Engines -/

namespace Engine

variable {e : Engine} {buffers : List Bytes} {d : Discovery}

/-- The engine with another policy. -/
def withPolicy (e : Engine) (policy : Policy) : Engine where
  settings := { e.settings with policy }
  separator_ne_nil := e.separator_ne_nil

theorem loadBuffer_strict_iff {before after : Loaded} {b : Bytes × Nat} :
    (e.withPolicy .strict).loadBuffer before b = .ok after ↔
      (e.withPolicy .lenient).loadBuffer before b = .ok after ∧
        after.skipped = before.skipped := by
  cases hb : DexFile.ofBytes (bufferName b.2) b.1 with
  | ok file =>
    simp only [loadBuffer, hb, enter, Except.ok.injEq, iff_self_and]
    rintro rfl
    rfl
  | error error =>
    simp only [loadBuffer, hb, enter, withPolicy, Failure.ofDex, reduceCtorEq, Except.ok.injEq,
      false_iff, not_and]
    rintro rfl
    simp

theorem skipped_prefix_of_loadBuffer {before after : Loaded} {b : Bytes × Nat}
    (h : e.loadBuffer before b = .ok after) : before.skipped <+: after.skipped := by
  rcases loadBuffer_eq_ok h with ⟨_, _, rfl⟩ | ⟨_, _, _, _, skipped⟩
  · exact List.prefix_rfl
  · exact skipped ▸ List.prefix_append _ _

theorem loadBuffers_strict_iff {loaded : Loaded} :
    ((e.withPolicy .strict).loadBuffers buffers journal).1 = .ok loaded ↔
      ((e.withPolicy .lenient).loadBuffers buffers journal).1 = .ok loaded ∧
        loaded.skipped = [] := by
  rw [loadBuffers_eq_ok, loadBuffers_eq_ok]
  exact foldlM_eq_ok_iff (fun _ _ _ => loadBuffer_strict_iff)
    fun _ _ _ => skipped_prefix_of_loadBuffer

theorem searchLoaded_strict_iff {loaded : Loaded} (none : loaded.skipped = []) :
    (e.withPolicy .strict).searchLoaded loaded = (.ok d, log) ↔
      (e.withPolicy .lenient).searchLoaded loaded = (.ok d, log) ∧ d.skipped = [] := by
  -- the two engines differ in the policy of their searches, and in nothing else
  have search {c : Closure} {inner : Journal} :
      (e.withPolicy .strict).search.run e.bases loaded.files
          (loaded.journal.note .closureStarted) = (.ok c, inner) ↔
        (e.withPolicy .lenient).search.run e.bases loaded.files
          (loaded.journal.note .closureStarted) = (.ok c, inner) ∧ c.skipped = [] :=
    Search.strict_run_iff
  have skipped {c : Closure} : (e.result loaded c).skipped = [] ↔ c.skipped = [] := by
    simp [result, none]
  rw [searchLoaded_eq_ok, searchLoaded_eq_ok]
  constructor
  · rintro ⟨c, inner, run, encodable, rfl, rfl⟩
    obtain ⟨run, clean⟩ := search.mp run
    exact ⟨⟨c, inner, run, encodable, rfl, rfl⟩, skipped.mpr clean⟩
  · rintro ⟨⟨c, inner, run, encodable, rfl, rfl⟩, clean⟩
    exact ⟨c, inner, search.mpr ⟨run, skipped.mp clean⟩, encodable, rfl, rfl⟩

/-- What is skipped while loading is skipped in the result. -/
theorem loaded_skipped_of_result {loaded : Loaded} (h : e.searchLoaded loaded = (.ok d, log))
    (none : d.skipped = []) : loaded.skipped = [] := by
  obtain ⟨c, _, _, _, rfl, _⟩ := searchLoaded_eq_ok.mp h
  exact (List.append_eq_nil_iff.mp none).1

theorem discoverBuffers_strict_iff :
    (e.withPolicy .strict).discoverBuffers buffers journal = (.ok d, log) ↔
      (e.withPolicy .lenient).discoverBuffers buffers journal = (.ok d, log) ∧
        d.skipped = [] := by
  simp only [discoverBuffers_eq_ok, loadBuffers_strict_iff]
  constructor
  · rintro ⟨loaded, ⟨load, none⟩, run⟩
    obtain ⟨run, clean⟩ := (searchLoaded_strict_iff none).mp run
    exact ⟨⟨loaded, load, run⟩, clean⟩
  · rintro ⟨⟨loaded, load, run⟩, clean⟩
    have none := loaded_skipped_of_result run clean
    exact ⟨loaded, ⟨load, none⟩, (searchLoaded_strict_iff none).mpr ⟨run, clean⟩⟩

/-- **Strict and lenient runs agree on clean input.**  A strict engine returns a result if and only
if the same engine made lenient returns it, has skipped nothing and has logged the same; where the
strict one fails, the lenient one skips something, if it returns at all.  The same is true of
searches, in any files. -/
theorem strict_iff_lenient_unskipped (e : Engine) (buffers : List Bytes) (journal : Journal) :
    (∀ d log, (e.withPolicy .strict).discoverBuffers buffers journal = (.ok d, log) ↔
        (e.withPolicy .lenient).discoverBuffers buffers journal = (.ok d, log) ∧ d.skipped = []) ∧
      (∀ failure, ((e.withPolicy .strict).discoverBuffers buffers journal).1 = .error failure →
        ∀ d, ((e.withPolicy .lenient).discoverBuffers buffers journal).1 = .ok d →
          d.skipped ≠ []) ∧
        ∀ namer bases files,
          (∀ c log, (Search.strict namer).run bases files journal = (.ok c, log) ↔
              (Search.lenient namer).run bases files journal = (.ok c, log) ∧ c.skipped = []) ∧
            ∀ failure, ((Search.strict namer).run bases files journal).1 = .error failure →
              ∀ c, ((Search.lenient namer).run bases files journal).1 = .ok c →
                c.skipped ≠ [] := by
  refine ⟨fun d log => discoverBuffers_strict_iff, fun failure fails d returns none => ?_,
    fun namer bases files => ⟨fun c log => Search.strict_run_iff,
      fun failure fails c returns none => ?_⟩⟩
  · have both := discoverBuffers_strict_iff.mpr ⟨Prod.ext returns rfl, none⟩
    simp [both] at fails
  · have both := Search.strict_run_iff.mpr ⟨Prod.ext returns rfl, none⟩
    simp [both] at fails

/-- A buffer without an image makes the strict engine fail; the lenient one skips it, and finds the
test in the other buffer. -/
theorem skipped_of_empty_buffer :
    ∃ failure d,
      (((Sample.engine .strict).withPolicy .strict).discoverBuffers
          [Sample.dex "LA;" "testX", #[]] {}).1 = .error failure ∧
        (((Sample.engine .strict).withPolicy .lenient).discoverBuffers
            [Sample.dex "LA;" "testX", #[]] {}).1 = .ok d ∧
          d.tests = [("A#testX" : Text)] ∧ d.skipped ≠ [] := by
  have fails : (((Sample.engine .strict).withPolicy .strict).discoverBuffers
      [Sample.dex "LA;" "testX", #[]] {}).1 = .error (.ofDex (.imageTooSmall 0)) := by
    decide +kernel
  have found : (((Sample.engine .strict).withPolicy .lenient).discoverBuffers
      [Sample.dex "LA;" "testX", #[]] {}).1.toOption.map Discovery.tests
        = some [("A#testX" : Text)] := by
    decide +kernel
  obtain ⟨d, returns, tests⟩ := exists_ok_of_toOption_map found
  have skips := (strict_iff_lenient_unskipped (Sample.engine .strict) _ _).2.1 _ fails d returns
  exact ⟨_, d, fails, returns, tests, skips⟩

end Engine

end DexDiscovery
