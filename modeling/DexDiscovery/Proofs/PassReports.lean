import DexDiscovery.Proofs.Visits

/-!
# What the passes report

While a search goes on it records two kinds of events: that a file was skipped, and what a pass has
come to.  `Ledger.Tells` says that some events are exactly what was recorded between two states, and
that they name what was skipped in between; `Closure.Tells` says besides that the passes among them
are numbered on.  It holds of one scan, of one pass and of a run, and is transitive.

The numbers in the reports are about passes only.  `Counts` says what they are for a run: each pass
but the last has added something, the last one has added nothing and describes the state that the
run ends with, and all additions together are what has become known.  That the last pass adds
nothing needs care where it drops the last files: a run would then end because no file is left
(`working_ne_nil_of_grown` excludes it).
-/

namespace DexDiscovery

/-! ## Several events at once -/

/-- The records of some events while an operation is under way, if any. -/
def Event.stamped (operation : Option Operation) (events : List Event) : List Record :=
  events.map fun event => { event, operation }

namespace Journal

variable {j : Journal} {first second : List Event}

/-- Records some events, in order. -/
def noteAll (j : Journal) (events : List Event) : Journal :=
  { j with records := j.records ++ Event.stamped j.operation events }

@[simp]
theorem noteAll_nil : j.noteAll [] = j := by
  simp [noteAll, Event.stamped]

theorem noteAll_append : j.noteAll (first ++ second) = (j.noteAll first).noteAll second := by
  simp [noteAll, Event.stamped]

end Journal

/-! ## The two kinds of events -/

/-- What a pass reports: its number, how many classes it has added, how many tests are known since,
and how many files are left. -/
structure PassReport where
  number : Nat
  newClasses : Nat
  tests : Nat
  files : Nat
deriving DecidableEq, Repr

/-- How many classes some passes have added together. -/
def PassReport.totalAdded (reports : List PassReport) : Nat :=
  reports.foldr (fun r total => r.newClasses + total) 0

/-- Passes of which each but the last has added a class have added one each, but for one pass. -/
theorem PassReport.length_le_totalAdded {reports : List PassReport}
    (positive : ∀ r ∈ reports.dropLast, 0 < r.newClasses) :
    reports.length ≤ totalAdded reports + 1 := by
  induction reports with
  | nil => exact Nat.zero_le _
  | cons r rest ih =>
    have step : totalAdded (r :: rest) = r.newClasses + totalAdded rest := rfl
    by_cases last : rest = []
    · subst last
      exact Nat.le_add_left _ _
    · rw [List.dropLast_cons_of_ne_nil last, List.forall_mem_cons] at positive
      obtain ⟨first, others⟩ := positive
      have bound := ih others
      rw [List.length_cons, step]
      omega

namespace Event

/-- The name that an event reports as skipped. -/
def skippedName? : Event → Option Text
  | skipped name _ => some name
  | _ => none

/-- The report of a pass. -/
def report? : Event → Option PassReport
  | passed number newClasses tests files => some { number, newClasses, tests, files }
  | _ => none

/-- The events of a search: a file was skipped, or a pass is over. -/
def OfSearch (event : Event) : Prop :=
  event.skippedName?.isSome ∨ event.report?.isSome

/-- The names that some events report as skipped. -/
def skippedNames (events : List Event) : List Text :=
  events.filterMap skippedName?

/-- The reports of the passes among some events. -/
def reports (events : List Event) : List PassReport :=
  events.filterMap report?

variable {first second : List Event}

@[simp]
theorem skippedNames_append :
    skippedNames (first ++ second) = skippedNames first ++ skippedNames second :=
  List.filterMap_append

@[simp]
theorem reports_append : reports (first ++ second) = reports first ++ reports second :=
  List.filterMap_append

end Event

/-! ## What a part of a run records -/

/-- What has been recorded, and the names of what has been skipped. -/
structure Ledger where
  journal : Journal
  skipped : List Text

/-- What a search has recorded and skipped. -/
def Closure.ledger (c : Closure) : Ledger where
  journal := c.journal
  skipped := c.skipped.map DexFile.name

namespace Ledger

variable {kind : Event → Prop} {ledger before middle after : Ledger} {event : Event}
  {events first second : List Event}

/-- Some events of a kind **tell** how one ledger has become another. -/
structure Tells (kind : Event → Prop) (before : Ledger) (events : List Event) (after : Ledger) :
    Prop where
  /-- They are what has been recorded in between. -/
  journal : after.journal = before.journal.noteAll events
  /-- They are of this kind. -/
  kinds : ∀ event ∈ events, kind event
  /-- They name what has been skipped, in order. -/
  skipped : after.skipped = before.skipped ++ Event.skippedNames events

namespace Tells

theorem refl : Tells kind ledger [] ledger where
  journal := Journal.noteAll_nil.symm
  kinds := fun _ mem => absurd mem List.not_mem_nil
  skipped := (List.append_nil _).symm

theorem single (h : kind event) (journal : after.journal = before.journal.note event)
    (skipped : after.skipped = before.skipped ++ Event.skippedNames [event]) :
    Tells kind before [event] after where
  journal := journal
  kinds := List.forall_mem_singleton.mpr h
  skipped := skipped

theorem trans (h : Tells kind before first middle) (h' : Tells kind middle second after) :
    Tells kind before (first ++ second) after where
  journal := by rw [h'.journal, h.journal, Journal.noteAll_append]
  kinds := fun event mem => (List.mem_append.mp mem).elim (h.kinds event) (h'.kinds event)
  skipped := by rw [h'.skipped, h.skipped, Event.skippedNames_append, List.append_assoc]

theorem records (h : Tells kind before events after) : after.journal.records =
    before.journal.records ++ Event.stamped before.journal.operation events := by
  rw [h.journal]
  rfl

theorem operation (h : Tells kind before events after) :
    after.journal.operation = before.journal.operation := by
  rw [h.journal]
  rfl

end Tells

/-- Steps that are told each are told together. -/
theorem exists_tells_of_foldlM {σ α : Type} {step : σ → α → Except Stopped σ} {ledger : σ → Ledger}
    (steps : ∀ s a t, step s a = .ok t → ∃ events, Tells kind (ledger s) events (ledger t))
    {l : List α} {s t : σ} (h : l.foldlM step s = .ok t) :
    ∃ events, Tells kind (ledger s) events (ledger t) := by
  refine rel_of_foldlM (R := fun s t => ∃ events, Tells kind (ledger s) events (ledger t))
    (fun _ => ⟨[], .refl⟩) ?_ steps h
  rintro s m t ⟨first, told⟩ ⟨second, told'⟩
  exact ⟨first ++ second, told.trans told'⟩

end Ledger

namespace Closure

variable {search : Search} {c next last before middle after : Closure} {file : DexFile}
  {files : List DexFile} {events first second : List Event} {reports later : List PassReport}

/-! ## What a search records -/

/-- Some events tell how a search has come from one state to another. -/
structure Tells (before : Closure) (events : List Event) (after : Closure) : Prop where
  /-- They are what it has recorded. -/
  recorded : before.ledger.Tells Event.OfSearch events after.ledger
  /-- There is a report for each pass. -/
  passes : after.passes = before.passes + (Event.reports events).length
  /-- The passes are numbered on. -/
  numbers : (Event.reports events).map PassReport.number =
    List.range' (before.passes + 1) (Event.reports events).length

namespace Tells

theorem refl : Tells c [] c := ⟨.refl, rfl, rfl⟩

theorem trans (h : Tells before first middle) (h' : Tells middle second after) :
    Tells before (first ++ second) after where
  recorded := h.recorded.trans h'.recorded
  passes := by
    rw [h'.passes, h.passes, Event.reports_append, List.length_append, Nat.add_assoc]
  numbers := by
    rw [Event.reports_append, List.map_append, List.length_append, h.numbers, h'.numbers, h.passes,
      Nat.add_right_comm, List.range'_append_1]

end Tells

/-- A scan is told by nothing, or by its file being skipped. -/
theorem tells_visit (h : visit search before file = .ok after) :
    ∃ events, Tells before events after ∧ Event.reports events = [] := by
  unfold visit at h
  split at h
  · obtain rfl := Except.ok.inj h
    exact ⟨[], ⟨.refl, rfl, rfl⟩, rfl⟩
  · rename_i fault _
    split at h
    · exact absurd h (by simp)
    · obtain rfl := Except.ok.inj h
      have skips : (before.skipped ++ [file]).map DexFile.name =
          before.skipped.map DexFile.name ++ [file.name] := List.map_append
      exact ⟨[.skipped file.name fault], ⟨.single (.inl rfl) rfl skips, rfl, rfl⟩, rfl⟩
  · exact absurd h (by simp)

/-- Some scans are told by the files that are skipped. -/
theorem tells_foldlM (h : files.foldlM (visit search) before = .ok after) :
    ∃ events, Tells before events after ∧ Event.reports events = [] := by
  refine rel_of_foldlM (R := fun before after => ∃ events, Tells before events after ∧
    Event.reports events = []) (fun _ => ⟨[], .refl, rfl⟩) ?_ (fun _ _ _ => tells_visit) h
  rintro before middle after ⟨first, told, none⟩ ⟨second, told', none'⟩
  exact ⟨first ++ second, told.trans told', by rw [Event.reports_append, none, none']; rfl⟩

/-- What a pass reports in the end. -/
def report (before after : Closure) : PassReport where
  number := before.passes + 1
  newClasses := after.known.size - before.known.size
  tests := after.tests.size
  files := after.working.length

/-- A pass is told by the files that it drops, and then by its report. -/
theorem tells_pass (h : pass search before = .ok after) :
    ∃ events, Tells before events after ∧ Event.reports events = [report before after] := by
  obtain ⟨visited, hv, rfl⟩ := map_eq_ok.mp h
  have fold : before.working.foldlM (visit search) before.opened = .ok visited := hv
  obtain ⟨events, told, none⟩ := tells_foldlM fold
  -- no pass is reported by the scans, so that they begin and end in the pass with this number
  have number : visited.passes = before.passes + 1 := by
    rw [told.passes, none]
    rfl
  let reported : Event := .passed visited.passes (visited.known.size - before.known.size)
    visited.tests.size visited.working.length
  have reports : Event.reports (events ++ [reported]) = [report before visited] := by
    rw [Event.reports_append, none, report, ← number]
    rfl
  have nothing : Event.skippedNames [reported] = [] := rfl
  have last : visited.ledger.Tells Event.OfSearch [reported]
      { visited.ledger with journal := visited.journal.note reported } :=
    .single (.inr rfl) rfl (by rw [nothing, List.append_nil])
  refine ⟨events ++ [reported], ⟨told.recorded.trans last, ?_, ?_⟩, reports⟩
  · rw [reports]
    exact number
  · rw [reports]
    rfl

/-! ## What the reports of a run add up to -/

/-- Some reports count the passes of a run from one state to another. -/
structure Counts (before : Closure) (reports : List PassReport) (after : Closure) : Prop where
  /-- There is no pass if and only if there is no file. -/
  idle : reports = [] ↔ before.working = []
  /-- Each pass but the last has added a class. -/
  positive : ∀ r ∈ reports.dropLast, 0 < r.newClasses
  /-- The last pass has added none, and has reported what the run ends with. -/
  last : ∀ r ∈ reports.getLast?,
    r.newClasses = 0 ∧ r.tests = after.tests.size ∧ r.files = after.working.length
  /-- What the passes have added is what has become known. -/
  total : before.known.size + PassReport.totalAdded reports = after.known.size
  /-- Tests are never lost. -/
  tests : (before.tests.size :: reports.map PassReport.tests).IsChain (· ≤ ·)

theorem known_size_le_of_pass (h : pass search before = .ok after) :
    before.known.size ≤ after.known.size :=
  size_le_of_subset ((advances_pass h).1.known ▸ Set.subset_union_left)

theorem tests_size_le_of_pass (h : pass search before = .ok after) :
    before.tests.size ≤ after.tests.size :=
  size_le_of_subset ((advances_pass h).1.tests ▸ Set.subset_union_left)

/-- A pass that adds a class keeps the file that it stands in. -/
theorem working_ne_nil_of_grown (h : pass search before = .ok after)
    (more : after.known.size ≠ before.known.size) : after.working ≠ [] := by
  intro empty
  obtain ⟨step, work, _⟩ := advances_pass h
  have failed : ∀ v ∈ visitsOfPass search before, v.classes = [] := by
    intro v hv
    cases answer : v.answer with
    | error e => simp [Visit.classes, answer]
    | ok scan =>
      have kept : v.file ∈ after.working := work ▸ Visit.mem_kept.mpr ⟨v, hv, rfl, scan, answer⟩
      rw [empty] at kept
      exact absurd kept List.not_mem_nil
  have nothing : Visit.descriptors (visitsOfPass search before) = ∅ := by
    refine Set.eq_empty_iff_forall_notMem.mpr ?_
    rintro d ⟨v, hv, m, hm, _⟩
    rw [failed v hv] at hm
    exact absurd hm List.not_mem_nil
  have same : Members after.known = Members before.known := by
    rw [step.known, nothing, Set.union_empty]
  exact more (size_eq_of_mem_iff fun d => Set.ext_iff.mp same d)

namespace Counts

/-- A run without a file makes no pass. -/
theorem of_idle (empty : c.working = []) : Counts c [] c where
  idle := iff_of_true rfl empty
  positive := by simp
  last := by simp
  total := rfl
  tests := .singleton _

/-- A run may end with a pass that adds nothing. -/
theorem of_settled (nonempty : c.working ≠ []) (hp : pass search c = .ok after)
    (same : after.known.size = c.known.size) : Counts c [report c after] after where
  idle := iff_of_false (List.cons_ne_nil _ _) nonempty
  positive := by simp
  last := by simp [report, same]
  total := by simp [PassReport.totalAdded, report, same]
  tests := by simpa [report] using tests_size_le_of_pass hp

/-- A pass that adds something comes before the others. -/
theorem of_grown (nonempty : c.working ≠ []) (hp : pass search c = .ok after)
    (more : after.known.size ≠ c.known.size) (h : Counts after later last) :
    Counts c (report c after :: later) last := by
  have goesOn : later ≠ [] := mt h.idle.mp (working_ne_nil_of_grown hp more)
  have grows : c.known.size ≤ after.known.size := known_size_le_of_pass hp
  refine ⟨iff_of_false (List.cons_ne_nil _ _) nonempty, ?_, ?_, ?_, ?_⟩
  · rw [List.dropLast_cons_of_ne_nil goesOn, List.forall_mem_cons]
    refine ⟨?_, h.positive⟩
    show 0 < after.known.size - c.known.size
    omega
  · rw [List.getLast?_cons_of_ne_nil goesOn]
    exact h.last
  · have total := h.total
    show c.known.size + ((after.known.size - c.known.size) + PassReport.totalAdded later) =
      last.known.size
    omega
  · exact .cons_cons (tests_size_le_of_pass hp) h.tests

/-- Each pass but the last has added a class of its own. -/
theorem length_le (h : Counts before reports after) :
    reports.length ≤ after.known.size - before.known.size + 1 := by
  have added := PassReport.length_le_totalAdded h.positive
  have total := h.total
  omega

end Counts

/-- **Reports of a run.**  A run that ends with a state has recorded the files that it has skipped
and a report of each of its passes, nothing else; and the reports count what it has found. -/
theorem exists_events_of_run (h : run search c = .ok last) :
    ∃ events, Tells c events last ∧ Counts c (Event.reports events) last := by
  refine run_induction (motive := fun c _ last =>
    ∃ events, Tells c events last ∧ Counts c (Event.reports events) last) ?_ ?_ ?_ h
  · exact fun c empty => ⟨[], .refl, .of_idle empty⟩
  · intro c after nonempty hp same
    obtain ⟨events, told, one⟩ := tells_pass hp
    exact ⟨events, told, one ▸ .of_settled nonempty hp same⟩
  · rintro c after last nonempty hp more ⟨later, told', counts⟩
    obtain ⟨events, told, one⟩ := tells_pass hp
    refine ⟨events ++ later, told.trans told', ?_⟩
    rw [Event.reports_append, one]
    exact .of_grown nonempty hp more counts

end Closure

/-! ## Reports of a search -/

namespace Search

variable {search : Search} {bases : DescriptorSet} {files : List DexFile} {journal : Journal}
  {c : Closure} {reports : List PassReport}

section Result
variable (h : (search.run bases files journal).1 = .ok c)
  (counts : Closure.Counts (opening bases files journal) reports c)
include h counts

/-- The passes have found the classes that are known in the end and are no base classes. -/
theorem totalAdded_eq : PassReport.totalAdded reports =
    (c.known.toList.filter (· ∉ bases)).length := by
  have total : bases.size + PassReport.totalAdded reports = c.known.size := counts.total
  have found := size_add_length_filter (bases_subset h)
  omega

/-- The last pass reports the files that have not been skipped. -/
theorem files_of_last : ∀ r ∈ reports.getLast?, r.files + c.skipped.length = files.length := by
  intro r hr
  obtain ⟨_, _, left⟩ := counts.last r hr
  rw [left, ← List.length_append]
  exact (working_append_skipped_perm h).length_eq

end Result

end Search

end DexDiscovery
