import DexDiscovery.Proofs.Scanning

/-!
# A run as a sequence of scans

A run of the closure visits files, pass after pass.  `Closure.visits` lists these scans in order,
each with what was known when it began and with its answer; the list ends where the run ends.

Everything that a run leaves is read off its visits.  `Linked` says that each of them sees the
descriptors known at the start and those that the visits before it have found, and
`Linked.induction` is the induction that follows from this: what holds of the descriptors at the
start, and is kept by every scan, holds of all descriptors that the run ever knows.
`run_advances` adds up known descriptors, tests and dropped files; `run_settled` says what the last
pass establishes, in which nothing new was found; `run_stopped` finds the scan that ended a failed
run.  `Search.subset_of_kept` bounds the result of a search by any set that is closed under the
edges of some of the files and holds what was found in the others.
-/

namespace DexDiscovery

/-- One scan of a run. -/
structure Visit where
  file : DexFile
  /-- What was known when the scan began. -/
  known : DescriptorSet
  answer : Except Failure Scan

namespace Visit

/-- The classes that the scan found; none, if it failed. -/
def classes (v : Visit) : List Match :=
  match v.answer with
  | .ok scan => scan.classes
  | .error _ => []

/-- The tests that the scan found; none, if it failed. -/
def tests (v : Visit) : List Text :=
  match v.answer with
  | .ok scan => scan.tests
  | .error _ => []

/-- The descriptors that some scans found. -/
def descriptors (log : List Visit) : Set Text :=
  {d | ∃ v ∈ log, ∃ m ∈ v.classes, m.descriptor = d}

/-- The test identifiers that some scans found. -/
def identifiers (log : List Visit) : Set Text :=
  {t | ∃ v ∈ log, t ∈ v.tests}

/-- The files whose scans succeeded. -/
def kept (log : List Visit) : List DexFile :=
  (log.filter fun v => v.answer.isOk).map file

/-- The files whose scans failed. -/
def dropped (log : List Visit) : List DexFile :=
  (log.filter fun v => !v.answer.isOk).map file

/-- Each scan sees what was known at first and what the scans before it found. -/
def Linked : Set Text → List Visit → Prop
  | _, [] => True
  | known, v :: rest => Members v.known = known ∧ Linked (known ∪ descriptors [v]) rest

variable {v : Visit} {log first second : List Visit} {known X : Set Text}

theorem descriptors_append :
    descriptors (first ++ second) = descriptors first ∪ descriptors second := by
  ext d
  simp [descriptors, or_and_right, exists_or]

theorem identifiers_append :
    identifiers (first ++ second) = identifiers first ∪ identifiers second := by
  ext t
  simp [identifiers, or_and_right, exists_or]

theorem dropped_append : dropped (first ++ second) = dropped first ++ dropped second := by
  simp [dropped]

theorem kept_append : kept (first ++ second) = kept first ++ kept second := by
  simp [kept]

theorem mem_kept {f : DexFile} :
    f ∈ kept log ↔ ∃ v ∈ log, v.file = f ∧ ∃ scan, v.answer = .ok scan := by
  simp only [kept, List.mem_map, List.mem_filter, isOk_iff]
  constructor
  · rintro ⟨v, ⟨hv, ok⟩, rfl⟩
    exact ⟨v, hv, rfl, ok⟩
  · rintro ⟨v, hv, rfl, ok⟩
    exact ⟨v, ⟨hv, ok⟩, rfl⟩

theorem mem_dropped {f : DexFile} :
    f ∈ dropped log ↔ ∃ v ∈ log, v.file = f ∧ ∃ e, v.answer = .error e := by
  simp only [dropped, List.mem_map, List.mem_filter, Bool.not_eq_true', isOk_eq_false_iff]
  constructor
  · rintro ⟨v, ⟨hv, failed⟩, rfl⟩
    cases ha : v.answer with
    | ok scan => exact absurd ha (failed scan)
    | error e => exact ⟨v, hv, rfl, e, ha⟩
  · rintro ⟨v, hv, rfl, e, ha⟩
    exact ⟨v, ⟨hv, by simp [ha]⟩, rfl⟩

/-- Every file that was visited was kept or dropped. -/
theorem kept_append_dropped_perm : (kept log ++ dropped log).Perm (log.map file) := by
  rw [kept, dropped, ← List.map_append]
  exact (List.filter_append_perm _ log).map file

namespace Linked

theorem append (h : Linked known first) (h' : Linked (known ∪ descriptors first) second) :
    Linked known (first ++ second) := by
  induction first generalizing known with
  | nil => simpa [descriptors] using h'
  | cons v rest ih =>
    refine ⟨h.1, ih h.2 ?_⟩
    rwa [Set.union_assoc, ← descriptors_append]

/-- A scan sees what was known at first and what the scans before it have found. -/
theorem known_eq (h : Linked known (first ++ v :: second)) :
    Members v.known = known ∪ descriptors first := by
  induction first generalizing known with
  | nil => simpa [descriptors] using h.1
  | cons w rest ih =>
    have later : Members v.known = known ∪ descriptors [w] ∪ descriptors rest := ih h.2
    rw [later, Set.union_assoc, ← descriptors_append, List.singleton_append]

/-- **Induction over a run.**  A set that holds what is known at first, and what every scan finds
that saw nothing outside of the set, holds all that any scan sees. -/
theorem induction (h : Linked known log) (start : known ⊆ X)
    (step : ∀ v ∈ log, Members v.known ⊆ X → ∀ m ∈ v.classes, m.descriptor ∈ X) :
    ∀ v ∈ log, Members v.known ⊆ X := by
  induction log generalizing known with
  | nil => exact fun v hv => absurd hv List.not_mem_nil
  | cons v rest ih =>
    have seen : Members v.known ⊆ X := h.1 ▸ start
    have found : known ∪ descriptors [v] ⊆ X := by
      refine Set.union_subset start ?_
      rintro d ⟨w, hw, m, hm, rfl⟩
      obtain rfl := List.mem_singleton.mp hw
      exact step w List.mem_cons_self seen m hm
    intro w hw
    rcases List.mem_cons.mp hw with rfl | hw
    · exact seen
    · exact ih h.2 found (fun u hu => step u (List.mem_cons_of_mem _ hu)) w hw

/-- A scan sees nothing but what was known at first or has been found. -/
theorem known_subset (h : Linked known log) :
    ∀ v ∈ log, Members v.known ⊆ known ∪ descriptors log :=
  h.induction Set.subset_union_left fun v hv _ m hm => .inr ⟨v, hv, m, hm, rfl⟩

/-- What is known at first is seen by every scan. -/
theorem subset_known (h : Linked known log) : ∀ v ∈ log, known ⊆ Members v.known := by
  induction log generalizing known with
  | nil => exact fun v hv => absurd hv List.not_mem_nil
  | cons v rest ih =>
    intro w hw
    rcases List.mem_cons.mp hw with rfl | hw
    · exact h.1.ge
    · exact Set.subset_union_left.trans (ih h.2 w hw)

end Linked

/-- The scan found no descriptor and no test but the given ones. -/
def FoundWithin (v : Visit) (descriptors tests : Set Text) : Prop :=
  (∀ m ∈ v.classes, m.descriptor ∈ descriptors) ∧ ∀ t ∈ v.tests, t ∈ tests

/-- A scan that failed found nothing. -/
theorem foundWithin_of_error {e : Failure} {descriptors tests : Set Text}
    (h : v.answer = .error e) : v.FoundWithin descriptors tests := by
  simp [FoundWithin, classes, Visit.tests, h]

/-- What a scan finds are classes of its file, with their descriptors. -/
theorem descriptor_eq {namer : ClassNamer} (ha : v.answer = v.file.scan namer v.known) :
    ∀ m ∈ v.classes, m.classDef ∈ v.file.image.classes ∧
      v.file.image.descriptorOf m.classDef = .ok m.descriptor := by
  intro m hm
  cases answer : v.answer with
  | error e => simp [classes, answer] at hm
  | ok scan =>
    simp only [classes, answer] at hm
    exact DexFile.descriptor_eq_of_scan (ha.symm.trans answer) m hm

/-- What a scan finds lies in each closed set that holds what it saw, and its tests are tests of
classes that extend a member of this set. -/
theorem foundWithin_of_closed {namer : ClassNamer} {R : Set Text} {files : List DexFile}
    (hf : v.file ∈ files) (ha : v.answer = v.file.scan namer v.known) (sub : Members v.known ⊆ R)
    (closed : v.file.image.ClosedUnder R) : v.FoundWithin R (testsUnder namer files R) := by
  cases answer : v.answer with
  | error e => exact foundWithin_of_error answer
  | ok scan =>
    have hs : v.file.scan namer v.known = .ok scan := ha.symm.trans answer
    have found := DexFile.subset_of_scan hs sub closed
    simp only [FoundWithin, classes, tests, answer]
    refine ⟨fun m hm => (found m hm).1, fun t ht => ?_⟩
    obtain ⟨m, hm, test⟩ := (DexFile.mem_tests_iff hs).mp ht
    have hc := (DexFile.descriptor_eq_of_scan hs m hm).1
    exact ⟨v.file, hf, m.classDef, hc, (found m hm).2, test⟩

end Visit

namespace Closure

variable {search : Search} {c next last before after : Closure} {file : DexFile}
  {files : List DexFile}

/-! ## The visits of a run -/

/-- The scans of some files in order, from a state, up to the first that ends the run. -/
def visitsFrom (search : Search) : List DexFile → Closure → List Visit
  | [], _ => []
  | file :: rest, c =>
    { file, known := c.known, answer := file.scan search.namer c.known } ::
      match visit search c file with
      | .ok next => visitsFrom search rest next
      | .error _ => []

/-- The state in which a pass begins. -/
def opened (c : Closure) : Closure :=
  { c with working := [], passes := c.passes + 1 }

/-- The scans of one pass. -/
def visitsOfPass (search : Search) (c : Closure) : List Visit :=
  visitsFrom search c.working c.opened

/-- The scans of a run. -/
def visits (search : Search) (c : Closure) : List Visit :=
  if c.working = [] then []
  else
    match _answer : pass search c with
    | .error _ => visitsOfPass search c
    | .ok after =>
      if after.known.size = c.known.size then visitsOfPass search c
      else visitsOfPass search c ++ visits search after
termination_by c.pending.length
decreasing_by exact pending_lt ‹_› ‹_›

/-! ## One scan -/

theorem members_extend {classes : List Match} {targets : DescriptorSet} :
    Members (Scan.extend classes targets) =
      Members targets ∪ {d | ∃ m ∈ classes, m.descriptor = d} := by
  ext d
  exact mem_extend

theorem members_foldl_insert {tests : List Text} {s : Std.TreeSet Text} :
    Members (tests.foldl (fun s t => s.insert t) s) = Members s ∪ {t | t ∈ tests} := by
  induction tests generalizing s with
  | nil => simp
  | cons t rest ih =>
    rw [List.foldl_cons, ih, members_insert]
    ext x
    simp only [Set.mem_union, Set.mem_insert_iff, Set.mem_ofPred_eq, List.mem_cons]
    tauto

/-- How scans lead from one state to another: what becomes known, which tests are found and which
files are dropped, and that no failure occurred but those that a lenient run passes over. -/
structure Advances (search : Search) (before : Closure) (log : List Visit) (after : Closure) :
    Prop where
  known : Members after.known = Members before.known ∪ Visit.descriptors log
  tests : Members after.tests = Members before.tests ∪ Visit.identifiers log
  skipped : after.skipped = before.skipped ++ Visit.dropped log
  tolerated : ∀ v ∈ log, ∀ e, v.answer = .error e →
    search.policy = .lenient ∧ ∃ fault, e = .malformed fault

theorem Advances.refl : Advances search c [] c where
  known := by simp [Visit.descriptors]
  tests := by simp [Visit.identifiers]
  skipped := by simp [Visit.dropped]
  tolerated := fun v hv => absurd hv List.not_mem_nil

theorem Advances.trans {first second : List Visit} (h : Advances search before first next)
    (h' : Advances search next second after) : Advances search before (first ++ second) after where
  known := by rw [h'.known, h.known, Visit.descriptors_append, Set.union_assoc]
  tests := by rw [h'.tests, h.tests, Visit.identifiers_append, Set.union_assoc]
  skipped := by rw [h'.skipped, h.skipped, Visit.dropped_append, List.append_assoc]
  tolerated := fun v hv =>
    (List.mem_append.mp hv).elim (h.tolerated v) (h'.tolerated v)

theorem advances_visit (h : visit search c file = .ok next) :
    let v : Visit := { file, known := c.known, answer := file.scan search.namer c.known }
    Advances search c [v] next ∧ next.working = c.working ++ Visit.kept [v] := by
  unfold visit at h
  split at h
  · rename_i scan hs
    obtain rfl := Except.ok.inj h
    simp only [hs]
    refine ⟨⟨?_, ?_, ?_, ?_⟩, ?_⟩
    · simp [members_extend, Visit.descriptors, Visit.classes]
    · simp [members_foldl_insert, Visit.identifiers, Visit.tests]
    · simp [Visit.dropped, Except.isOk, Except.toBool]
    · simp
    · simp [Visit.kept, Except.isOk, Except.toBool]
  · rename_i fault hs
    split at h
    · exact absurd h (by simp)
    · rename_i lenient
      obtain rfl := Except.ok.inj h
      simp only [hs]
      refine ⟨⟨?_, ?_, ?_, ?_⟩, ?_⟩
      · simp [Visit.descriptors, Visit.classes]
      · simp [Visit.identifiers, Visit.tests]
      · simp [Visit.dropped, Except.isOk, Except.toBool]
      · simp [lenient]
      · simp [Visit.kept, Except.isOk, Except.toBool]
  · exact absurd h (by simp)

/-- A scan that ends the run failed for the reason that the run gives, and a lenient run does not
pass over it. -/
theorem answer_of_visit {stopped : Stopped} (h : visit search c file = .error stopped) :
    file.scan search.namer c.known = .error stopped.cause ∧
      (search.policy = .lenient → ∀ fault, stopped.cause ≠ .malformed fault) := by
  unfold visit at h
  split at h
  · exact absurd h (by simp)
  · rename_i fault hs
    split at h
    · rename_i strict
      obtain rfl := Except.error.inj h
      exact ⟨hs, fun lenient => by simp [strict] at lenient⟩
    · exact absurd h (by simp)
  · rename_i cause other hs
    obtain rfl := Except.error.inj h
    exact ⟨hs, fun _ => other⟩

/-! ## The scans of one pass -/

theorem advances_foldlM (h : files.foldlM (visit search) before = .ok after) :
    Advances search before (visitsFrom search files before) after ∧
      after.working = before.working ++ Visit.kept (visitsFrom search files before) ∧
        (visitsFrom search files before).map Visit.file = files := by
  induction files generalizing before with
  | nil =>
    obtain rfl := pure_eq_ok.mp h
    exact ⟨.refl, by simp [visitsFrom, Visit.kept], rfl⟩
  | cons file rest ih =>
    obtain ⟨next, hv, h⟩ := bind_eq_ok.mp (List.foldlM_cons.symm.trans h)
    obtain ⟨step, work⟩ := advances_visit hv
    obtain ⟨later, work', list⟩ := ih h
    simp only [visitsFrom, hv]
    refine ⟨step.trans later, ?_, by simp [list]⟩
    rw [work', work, List.append_assoc, ← Visit.kept_append]
    rfl

theorem linked_visitsFrom : Visit.Linked (Members c.known) (visitsFrom search files c) := by
  induction files generalizing c with
  | nil => exact trivial
  | cons file rest ih =>
    refine ⟨rfl, ?_⟩
    cases hv : visit search c file with
    | error stopped => exact trivial
    | ok next => exact (advances_visit hv).1.known ▸ ih

theorem mem_visitsFrom {v : Visit} (h : v ∈ visitsFrom search files c) :
    v.file ∈ files ∧ v.answer = v.file.scan search.namer v.known := by
  induction files generalizing c with
  | nil => exact absurd h List.not_mem_nil
  | cons file rest ih =>
    rcases List.mem_cons.mp h with rfl | h
    · exact ⟨List.mem_cons_self, rfl⟩
    · split at h
      · exact ⟨List.mem_cons_of_mem _ (ih h).1, (ih h).2⟩
      · exact absurd h List.not_mem_nil

theorem stopped_of_foldlM {stopped : Stopped} (h : files.foldlM (visit search) c = .error stopped) :
    ∃ v ∈ visitsFrom search files c, v.answer = .error stopped.cause ∧
      (search.policy = .lenient → ∀ fault, stopped.cause ≠ .malformed fault) := by
  induction files generalizing c with
  | nil => exact absurd h pure_ne_error
  | cons file rest ih =>
    rcases bind_eq_error.mp (List.foldlM_cons.symm.trans h) with hv | ⟨next, hv, h⟩
    · exact ⟨_, List.mem_cons_self, answer_of_visit hv⟩
    · obtain ⟨v, mem, ha⟩ := ih h
      simp only [visitsFrom, hv]
      exact ⟨v, List.mem_cons_of_mem _ mem, ha⟩

/-- What a pass does: its visits are the working files in order, and those that could be scanned
go on working. -/
theorem advances_pass (h : pass search c = .ok after) :
    Advances search c (visitsOfPass search c) after ∧
      after.working = Visit.kept (visitsOfPass search c) ∧
        (visitsOfPass search c).map Visit.file = c.working := by
  obtain ⟨visited, hv, rfl⟩ := map_eq_ok.mp h
  have fold : c.working.foldlM (visit search) c.opened = .ok visited := hv
  obtain ⟨step, work, list⟩ := advances_foldlM fold
  exact ⟨⟨step.known, step.tests, step.skipped, step.tolerated⟩, work, list⟩

theorem linked_visitsOfPass :
    Visit.Linked (Members c.known) (visitsOfPass search c) :=
  linked_visitsFrom (c := c.opened)

theorem stopped_of_pass {stopped : Stopped} (h : pass search c = .error stopped) :
    ∃ v ∈ visitsOfPass search c, v.answer = .error stopped.cause ∧
      (search.policy = .lenient → ∀ fault, stopped.cause ≠ .malformed fault) :=
  stopped_of_foldlM (map_eq_error.mp h)

/-! ## The scans of a run -/

theorem run_of_stopped {stopped : Stopped} (nonempty : c.working ≠ [])
    (hp : pass search c = .error stopped) : run search c = .error stopped := by
  rw [run, if_neg nonempty]
  split
  · rename_i hp'
    rw [← hp, hp']
  · rename_i hp'
    exact absurd (hp.symm.trans hp') (by simp)

theorem run_of_pass (nonempty : c.working ≠ []) (hp : pass search c = .ok after) :
    run search c = if after.known.size = c.known.size then .ok after else run search after := by
  rw [run, if_neg nonempty]
  split
  · rename_i hp'
    exact absurd (hp.symm.trans hp') (by simp)
  · rename_i hp'
    obtain rfl := Except.ok.inj (hp.symm.trans hp')
    rfl

/-- Induction over a run that ends with a state: it has no pass, or a last one that adds nothing,
or a first one that adds something. -/
theorem run_induction {motive : Closure → List Visit → Closure → Prop}
    (idle : ∀ c, c.working = [] → motive c [] c)
    (settled : ∀ c after, c.working ≠ [] → pass search c = .ok after →
      after.known.size = c.known.size → motive c (visitsOfPass search c) after)
    (grown : ∀ c after last, c.working ≠ [] → pass search c = .ok after →
      after.known.size ≠ c.known.size → motive after (visits search after) last →
        motive c (visitsOfPass search c ++ visits search after) last)
    (h : run search c = .ok last) : motive c (visits search c) last := by
  fun_induction visits search c with
  | case1 c empty =>
    rw [run, if_pos empty] at h
    obtain rfl := Except.ok.inj h
    exact idle c empty
  | case2 c nonempty stopped hp =>
    rw [run_of_stopped nonempty hp] at h
    exact absurd h (by simp)
  | case3 c nonempty after hp same =>
    rw [run_of_pass nonempty hp, if_pos same] at h
    obtain rfl := Except.ok.inj h
    exact settled c after nonempty hp same
  | case4 c nonempty after hp more ih =>
    rw [run_of_pass nonempty hp, if_neg more] at h
    exact grown c after last nonempty hp more (ih h)

theorem run_advances (h : run search c = .ok last) :
    Advances search c (visits search c) last := by
  refine run_induction (motive := Advances search) (fun _ _ => .refl) ?_ ?_ h
  · exact fun c after _ hp _ => (advances_pass hp).1
  · exact fun c after last _ hp _ later => (advances_pass hp).1.trans later

/-- Every scan sees what was known when the run began and what the scans before it found. -/
theorem linked_visits : Visit.Linked (Members c.known) (visits search c) := by
  fun_induction visits search c with
  | case1 => trivial
  | case2 | case3 => exact linked_visitsOfPass
  | case4 c _ after hp _ ih =>
    exact .append linked_visitsOfPass ((advances_pass hp).1.known ▸ ih)

theorem mem_visits {v : Visit} (h : v ∈ visits search c) :
    v.file ∈ c.working ∧ v.answer = v.file.scan search.namer v.known := by
  fun_induction visits search c with
  | case1 => exact absurd h List.not_mem_nil
  | case2 | case3 => exact mem_visitsFrom h
  | case4 c _ after hp _ ih =>
    rcases List.mem_append.mp h with h | h
    · exact mem_visitsFrom h
    · obtain ⟨hf, ha⟩ := ih h
      obtain ⟨_, work, list⟩ := advances_pass hp
      rw [work] at hf
      exact ⟨list ▸ Visit.kept_append_dropped_perm.subset (List.mem_append_left _ hf), ha⟩

/-- Every file either works to the end or is dropped. -/
theorem run_perm (h : run search c = .ok last) :
    (last.working ++ last.skipped).Perm (c.working ++ c.skipped) := by
  have one {c after : Closure} (hp : pass search c = .ok after) :
      (after.working ++ after.skipped).Perm (c.working ++ c.skipped) := by
    obtain ⟨step, work, list⟩ := advances_pass hp
    calc after.working ++ after.skipped
        = Visit.kept (visitsOfPass search c) ++
            (c.skipped ++ Visit.dropped (visitsOfPass search c)) := by rw [work, step.skipped]
      _ |>.Perm (Visit.kept (visitsOfPass search c) ++
            (Visit.dropped (visitsOfPass search c) ++ c.skipped)) :=
          List.perm_append_comm.append_left _
      _ |>.Perm (c.working ++ c.skipped) := by
          rw [← List.append_assoc, ← list]
          exact Visit.kept_append_dropped_perm.append_right _
  refine run_induction (motive := fun c _ last =>
    (last.working ++ last.skipped).Perm (c.working ++ c.skipped)) (fun _ _ => .refl _) ?_ ?_ h
  · exact fun c after _ hp _ => one hp
  · exact fun c after last _ hp _ later => later.trans (one hp)

/-- **The last pass.**  When a run ends, every file that still works has been scanned with all that
is known in the end, and what was found then is in the result. -/
theorem run_settled (h : run search c = .ok last) :
    ∀ f ∈ last.working, ∃ scan, f.scan search.namer last.known = .ok scan ∧
      (∀ m ∈ scan.classes, m.descriptor ∈ last.known) ∧ ∀ t ∈ scan.tests, t ∈ last.tests := by
  refine run_induction (motive := fun _ _ last => ∀ f ∈ last.working,
    ∃ scan, f.scan search.namer last.known = .ok scan ∧
      (∀ m ∈ scan.classes, m.descriptor ∈ last.known) ∧ ∀ t ∈ scan.tests, t ∈ last.tests)
    ?_ ?_ (fun _ _ _ _ _ _ later => later) h
  · intro c empty f hf
    exact absurd hf (empty ▸ List.not_mem_nil)
  · intro c after _ hp same f hf
    obtain ⟨step, work, _⟩ := advances_pass hp
    rw [work] at hf
    obtain ⟨v, hv, rfl, scan, ha⟩ := Visit.mem_kept.mp hf
    -- nothing new was found in the pass, so that each of its scans saw what is known in the end
    have grows : Members c.known ⊆ Members after.known := step.known ▸ Set.subset_union_left
    have seen : Members v.known = Members after.known := by
      refine Set.Subset.antisymm ?_ ?_
      · exact step.known ▸ linked_visitsOfPass.known_subset v hv
      · exact members_eq_of_size grows same ▸ linked_visitsOfPass.subset_known v hv
    refine ⟨scan, ?_, fun m hm => ?_, fun t ht => ?_⟩
    · exact (DexFile.scan_congr seen).mp ((mem_visitsFrom hv).2 ▸ ha)
    · have : m.descriptor ∈ Members after.known := by
        rw [step.known]
        exact .inr ⟨v, hv, m, by simpa [Visit.classes, ha] using hm, rfl⟩
      exact this
    · have : t ∈ Members after.tests := by
        rw [step.tests]
        exact .inr ⟨v, hv, by simpa [Visit.tests, ha] using ht⟩
      exact this

/-- A run that fails was ended by one of its scans, and a lenient one not by a malformed file. -/
theorem run_stopped {stopped : Stopped} (h : run search c = .error stopped) :
    ∃ v ∈ visits search c, v.answer = .error stopped.cause ∧
      (search.policy = .lenient → ∀ fault, stopped.cause ≠ .malformed fault) := by
  fun_induction visits search c with
  | case1 c empty =>
    rw [run, if_pos empty] at h
    exact absurd h (by simp)
  | case2 c nonempty stopped' hp =>
    rw [run_of_stopped nonempty hp] at h
    obtain rfl := Except.error.inj h
    exact stopped_of_pass hp
  | case3 c nonempty after hp same =>
    rw [run_of_pass nonempty hp, if_pos same] at h
    exact absurd h (by simp)
  | case4 c nonempty after hp more ih =>
    rw [run_of_pass nonempty hp, if_neg more] at h
    obtain ⟨v, hv, answer⟩ := ih h
    exact ⟨v, List.mem_append_right _ hv, answer⟩

end Closure

/-! ## Searches -/

namespace Search

variable {search : Search} {bases : DescriptorSet} {files : List DexFile} {journal : Journal}
  {c : Closure} {cause : Failure} {X : Set Text}

/-- The state in which a search begins its passes. -/
def opening (bases : DescriptorSet) (files : List DexFile) (journal : Journal) : Closure :=
  .start bases files { journal with operation := some .closure }

/-- The scans of a search. -/
def visits (search : Search) (bases : DescriptorSet) (files : List DexFile) (journal : Journal) :
    List Visit :=
  Closure.visits search (opening bases files journal)

theorem run_eq_ok :
    (search.run bases files journal).1 = .ok c ↔
      Closure.run search (opening bases files journal) = .ok c := by
  simp only [run, Journal.within, opening]
  split <;> simp [*]

theorem run_eq_error :
    (search.run bases files journal).1 = .error cause ↔
      ∃ stopped, Closure.run search (opening bases files journal) = .error stopped ∧
        stopped.cause = cause := by
  simp only [run, Journal.within, opening]
  split <;> simp [*]

theorem mem_visits {v : Visit} (h : v ∈ search.visits bases files journal) :
    v.file ∈ files ∧ v.answer = v.file.scan search.namer v.known :=
  Closure.mem_visits h

/-- A closed set around the base classes holds all that any scan of the search sees. -/
theorem known_subset_of_visits (base : Members bases ⊆ X)
    (step : ∀ v ∈ search.visits bases files journal, Members v.known ⊆ X →
      ∀ m ∈ v.classes, m.descriptor ∈ X) :
    ∀ v ∈ search.visits bases files journal, Members v.known ⊆ X :=
  Closure.linked_visits.induction base step

/-- Every scan of the search sees the base classes. -/
theorem bases_subset_known :
    ∀ v ∈ search.visits bases files journal, Members bases ⊆ Members v.known :=
  Closure.linked_visits.subset_known

/-- A search that fails was ended by one of its scans, and a lenient one not by a malformed
file. -/
theorem exists_visit_of_error (h : (search.run bases files journal).1 = .error cause) :
    ∃ v ∈ search.visits bases files journal, v.answer = .error cause ∧
      (search.policy = .lenient → ∀ fault, cause ≠ .malformed fault) := by
  obtain ⟨stopped, hr, rfl⟩ := run_eq_error.mp h
  exact Closure.run_stopped hr

section Result
variable (h : (search.run bases files journal).1 = .ok c)
include h

theorem advances : Closure.Advances search (opening bases files journal)
    (search.visits bases files journal) c :=
  Closure.run_advances (run_eq_ok.mp h)

theorem bases_subset : Members bases ⊆ Members c.known :=
  (advances h).known ▸ Set.subset_union_left

theorem descriptors_subset :
    ∀ v ∈ search.visits bases files journal, ∀ m ∈ v.classes, m.descriptor ∈ c.known := by
  intro v hv m hm
  have : m.descriptor ∈ Members c.known := (advances h).known ▸ .inr ⟨v, hv, m, hm, rfl⟩
  exact this

theorem mem_tests_iff {t : Text} :
    t ∈ c.tests ↔ ∃ v ∈ search.visits bases files journal, t ∈ v.tests := by
  rw [← mem_members, (advances h).tests]
  simp [opening, Closure.start, Visit.identifiers, Members]

/-- A set that holds the base classes and is closed under the edges of some files holds the result
of a run, if the scans of the other files found nothing outside of it. -/
theorem subset_of_kept {kept : List DexFile} {Y : Set Text} (base : Members bases ⊆ X)
    (closed : ∀ f ∈ kept, f.image.ClosedUnder X) (tests : testsUnder search.namer kept X ⊆ Y)
    (within : ∀ v ∈ search.visits bases files journal, v.file ∉ kept → v.FoundWithin X Y) :
    Members c.known ⊆ X ∧ Members c.tests ⊆ Y := by
  -- one scan finds nothing outside, be its file among the kept ones or not
  have step : ∀ v ∈ search.visits bases files journal, Members v.known ⊆ X →
      v.FoundWithin X Y := by
    intro v hv sub
    by_cases hf : v.file ∈ kept
    · have found := Visit.foundWithin_of_closed hf (mem_visits hv).2 sub (closed _ hf)
      exact ⟨found.1, fun t ht => tests (found.2 t ht)⟩
    · exact within v hv hf
  have seen := known_subset_of_visits base fun v hv sub => (step v hv sub).1
  constructor
  · rw [(advances h).known]
    refine Set.union_subset base ?_
    rintro d ⟨v, hv, m, hm, rfl⟩
    exact (step v hv (seen v hv)).1 m hm
  · intro t ht
    obtain ⟨v, hv, ht⟩ := (mem_tests_iff h).mp ht
    exact (step v hv (seen v hv)).2 t ht

/-- A set that holds the base classes and is closed under the edges of all files holds the
result. -/
theorem subset_of_closed (base : Members bases ⊆ X)
    (closed : ∀ f ∈ files, f.image.ClosedUnder X) :
    Members c.known ⊆ X ∧ Members c.tests ⊆ testsUnder search.namer files X :=
  subset_of_kept h base closed Set.Subset.rfl fun _ hv out => absurd (mem_visits hv).1 out

theorem visit_known_subset :
    ∀ v ∈ search.visits bases files journal, Members v.known ⊆ Members c.known :=
  known_subset_of_visits (bases_subset h) fun v hv _ => descriptors_subset h v hv

/-- Every file either works to the end or is skipped. -/
theorem working_append_skipped_perm : (c.working ++ c.skipped).Perm files := by
  simpa [opening, Closure.start] using Closure.run_perm (run_eq_ok.mp h)

/-- A skipped file failed in one of the scans, by being malformed. -/
theorem exists_visit_of_skipped : ∀ f ∈ c.skipped, search.policy = .lenient ∧
    ∃ v ∈ search.visits bases files journal, v.file = f ∧
      ∃ fault, v.answer = .error (.malformed fault) := by
  intro f hf
  rw [(advances h).skipped] at hf
  obtain ⟨v, hv, rfl, e, ha⟩ := Visit.mem_dropped.mp (by simpa [opening, Closure.start] using hf)
  obtain ⟨lenient, fault, rfl⟩ := (advances h).tolerated v hv e ha
  exact ⟨lenient, v, hv, rfl, fault, ha⟩

/-- The files that work to the end: they can be scanned with all that is known then, and what is
found so is in the result. -/
theorem settled : ∀ f ∈ c.working, ∃ scan, f.scan search.namer c.known = .ok scan ∧
    (∀ m ∈ scan.classes, m.descriptor ∈ c.known) ∧ ∀ t ∈ scan.tests, t ∈ c.tests :=
  Closure.run_settled (run_eq_ok.mp h)

theorem closedUnder_of_working : ∀ f ∈ c.working, f.image.ClosedUnder (Members c.known) := by
  intro f hf cls hc s hs he d hd
  obtain ⟨scan, ok, classes, _⟩ := settled h f hf
  obtain ⟨m, hm, rfl⟩ := DexFile.complete_of_scan ok cls hc s hs he
  obtain rfl := Except.ok.inj (hd.symm.trans (DexFile.descriptor_eq_of_scan ok m hm).2)
  exact classes m hm

theorem testsUnder_working_subset :
    testsUnder search.namer c.working (Members c.known) ⊆ Members c.tests := by
  rintro t ⟨f, hf, cls, hc, ⟨s, hs, he⟩, test⟩
  obtain ⟨scan, ok, _, tests⟩ := settled h f hf
  obtain ⟨m, hm, rfl⟩ := DexFile.complete_of_scan ok cls hc s hs he
  exact tests t ((DexFile.mem_tests_iff ok).mpr ⟨m, hm, test⟩)

end Result

end Search

end DexDiscovery
