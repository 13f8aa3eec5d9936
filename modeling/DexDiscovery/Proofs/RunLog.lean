import DexDiscovery.Proofs.FileRuns
import DexDiscovery.Proofs.PassReports
import DexDiscovery.Proofs.Policies

/-!
# The log of a run

A discovery logs the images that it loads, the files that it leaves out and the passes of its
search.  `Trace` keeps the events of loading apart from those of the search, and `Trace.records` is
all that a run with this trace and a result logs: each event stamped with the part of the run that
it belongs to.

`Faithful` says in which ways the log of a run can be read back as its result.  The warnings name
the skipped files in order; the reports of the passes are numbered from one, and what they count
adds up to the result.  What loading contributes is followed step by step (`tells_loadPath`,
`tells_loadBuffer`); what the search does is said by `Closure.exists_events_of_run`.
`log_faithful` joins the two for runs over paths and over buffers, and says that no run, whether it
returns or fails, leaves an operation under way.
-/

namespace DexDiscovery

/-! ## What can be read off records -/

namespace Event

/-- The events of loading: an image was loaded, or an input was left out. -/
def OfLoading (event : Event) : Prop :=
  event.skippedName?.isSome ∨ ∃ name size, event = .loaded name size

end Event

namespace Record

variable {records first second : List Record}

/-- The names in the warnings among some records. -/
def warnings (records : List Record) : List (Option Text) :=
  (records.filter fun r => r.event.level = .warning).map fun r => r.event.skippedName?

/-- The reports of the passes among some records. -/
def reports (records : List Record) : List PassReport :=
  Event.reports (records.map event)

theorem warnings_append : warnings (first ++ second) = warnings first ++ warnings second := by
  simp [warnings]

theorem reports_append : reports (first ++ second) = reports first ++ reports second := by
  simp [reports]

theorem warnings_stamped {operation : Option Operation} {events : List Event} :
    warnings (Event.stamped operation events) = (Event.skippedNames events).map some := by
  induction events with
  | nil => rfl
  | cons event rest ih =>
    have head : warnings (Event.stamped operation [event]) =
        (Event.skippedNames [event]).map some := by
      cases event <;> rfl
    have parts : Event.stamped operation (event :: rest) =
        Event.stamped operation [event] ++ Event.stamped operation rest := rfl
    rw [parts, warnings_append, head, ih, ← List.map_append, ← Event.skippedNames_append,
      List.singleton_append]

theorem reports_stamped {operation : Option Operation} {events : List Event} :
    reports (Event.stamped operation events) = Event.reports events := by
  simp [reports, Event.stamped, Function.comp_def]

end Record

namespace Journal

variable {j : Journal} {α : Type}

/-- Events that are recorded one by one. -/
theorem foldl_note {g : α → Event} {l : List α} :
    l.foldl (fun j a => j.note (g a)) j = j.noteAll (l.map g) := by
  induction l generalizing j with
  | nil => exact noteAll_nil.symm
  | cons a rest ih =>
    rw [List.foldl_cons, ih, List.map_cons, ← List.singleton_append, noteAll_append]
    rfl

end Journal

namespace Engine

variable {e : Engine} {tree : FileTree} {paths : List Text} {path name : Text}
  {buffers : List Bytes} {journal log : Journal} {before after loaded : Loaded}
  {files : List DexFile} {failure? : Option Failure} {stopped : Stopped} {d : Discovery}

/-! ## Loading -/

/-- What has been recorded and left out while loading. -/
def Loaded.ledger (loaded : Loaded) : Ledger where
  journal := loaded.journal
  skipped := loaded.skipped

theorem tells_enter (h : e.enter before name files failure? = .ok after) :
    ∃ events, before.ledger.Tells Event.OfLoading events after.ledger := by
  unfold enter at h
  split at h
  · obtain rfl := Except.ok.inj h
    exact ⟨[], .refl⟩
  · rename_i fault _
    obtain rfl := Except.ok.inj h
    exact ⟨[.skipped name fault], .single (.inl rfl) rfl rfl⟩
  · exact absurd h (by simp)

theorem journal_of_enter (h : e.enter before name files failure? = .error stopped) :
    stopped.journal = before.journal := by
  unfold enter at h
  split at h
  · exact absurd h (by simp)
  · exact absurd h (by simp)
  · obtain rfl := Except.error.inj h
    rfl

/-- A path is told by the images that could be loaded, and by what was wrong with the next one. -/
theorem tells_loadPath (h : e.loadPath tree before path = .ok after) :
    ∃ events, before.ledger.Tells Event.OfLoading events after.ledger := by
  unfold loadPath at h
  rcases attempts : Loader.upToFailure (Loader.dexFilesOf tree e.settings.sizeLimit path) with
    ⟨found, failure?⟩
  simp only [attempts, Journal.foldl_note] at h
  let images := found.map fun file => Event.loaded file.name file.image.bytes.size
  have none : Event.skippedNames images = [] := by
    simp [images, Event.skippedNames, List.filterMap_map, Function.comp_def, Event.skippedName?]
  have told : before.ledger.Tells Event.OfLoading images
      { before.ledger with journal := before.journal.noteAll images } := by
    refine ⟨rfl, fun event mem => ?_, by rw [none, List.append_nil]⟩
    obtain ⟨file, _, rfl⟩ := List.mem_map.mp mem
    exact .inr ⟨_, _, rfl⟩
  obtain ⟨events, entered⟩ := tells_enter h
  exact ⟨images ++ events, told.trans entered⟩

theorem tells_loadBuffer {b : Bytes × Nat} (h : e.loadBuffer before b = .ok after) :
    ∃ events, before.ledger.Tells Event.OfLoading events after.ledger := by
  cases read : DexFile.ofBytes (bufferName b.2) b.1 with
  | ok file => exact tells_enter (by simpa only [loadBuffer, read] using h)
  | error error => exact tells_enter (by simpa only [loadBuffer, read] using h)

theorem journal_of_loadBuffer {b : Bytes × Nat} (h : e.loadBuffer before b = .error stopped) :
    stopped.journal = before.journal := by
  cases read : DexFile.ofBytes (bufferName b.2) b.1 with
  | ok file => exact journal_of_enter (by simpa only [loadBuffer, read] using h)
  | error error => exact journal_of_enter (by simpa only [loadBuffer, read] using h)

theorem tells_foldlM_loadPath (h : paths.foldlM (e.loadPath tree) before = .ok after) :
    ∃ events, before.ledger.Tells Event.OfLoading events after.ledger :=
  Ledger.exists_tells_of_foldlM (fun _ _ _ => tells_loadPath) h

theorem tells_foldlM_loadBuffer {l : List (Bytes × Nat)}
    (h : l.foldlM e.loadBuffer before = .ok after) :
    ∃ events, before.ledger.Tells Event.OfLoading events after.ledger :=
  Ledger.exists_tells_of_foldlM (fun _ _ _ => tells_loadBuffer) h

/-- What loading leaves in the log: the operation is the one from before, and if it returns, it has
recorded certain events, all with one stamp, which name what was left out. -/
structure LoadLog (before : Journal) (stamp : Option Operation)
    (load : Except Failure Loaded × Journal) : Prop where
  operation : load.2.operation = before.operation
  returned : ∀ loaded, load.1 = .ok loaded → ∃ events,
    load.2.records = before.records ++ Event.stamped stamp events ∧
      (∀ event ∈ events, event.OfLoading) ∧ loaded.skipped = Event.skippedNames events

theorem exists_recorded_of_settle {start : Journal} {answer : Except Stopped Loaded}
    (told : ∀ last, answer = .ok last → ∃ events,
      Ledger.Tells Event.OfLoading { journal := start, skipped := [] } events last.ledger)
    (h : (settle answer).1 = .ok loaded) : ∃ events,
      (settle answer).2.records = start.records ++ Event.stamped start.operation events ∧
        (∀ event ∈ events, event.OfLoading) ∧ loaded.skipped = Event.skippedNames events := by
  cases answer with
  | error stopped => simp [settle] at h
  | ok last =>
    obtain rfl : last = loaded := Except.ok.inj h
    obtain ⟨events, told⟩ := told last rfl
    exact ⟨events, told.records, told.kinds, told.skipped⟩

theorem loadLog_loadPaths :
    LoadLog journal (some .load) (e.loadPaths tree paths journal) where
  operation := rfl
  returned := by
    intro loaded h
    let start : Loaded := { journal := { journal with operation := some .load } }
    have settled : (settle (paths.foldlM (e.loadPath tree) start)).1 = .ok loaded := h
    exact exists_recorded_of_settle (fun _ ok => tells_foldlM_loadPath ok) settled

theorem loadLog_loadBuffers :
    LoadLog journal journal.operation (e.loadBuffers buffers journal) where
  operation := by
    unfold loadBuffers
    cases fold : buffers.zipIdx.foldlM e.loadBuffer { journal } with
    | error stopped =>
      obtain ⟨earlier, b, _, m, _, ok, failed⟩ := exists_of_foldlM_eq_error fold
      obtain ⟨events, told⟩ := tells_foldlM_loadBuffer ok
      show stopped.journal.operation = journal.operation
      rw [journal_of_loadBuffer failed]
      exact told.operation
    | ok last =>
      obtain ⟨events, told⟩ := tells_foldlM_loadBuffer fold
      exact told.operation
  returned := by
    intro loaded h
    exact exists_recorded_of_settle (fun _ ok => tells_foldlM_loadBuffer ok) h

/-! ## What a log says about a result -/

/-- What a run that returns has recorded while loading and while searching. -/
structure Trace where
  loading : List Event
  searching : List Event

/-- The records of a run with a trace and a result, where loading stamps them with `stamp`. -/
def Trace.records (t : Trace) (stamp : Option Operation) (d : Discovery) : List Record :=
  Event.stamped stamp t.loading ++ Event.stamped none [.closureStarted]
    ++ Event.stamped (some .closure) t.searching
    ++ Event.stamped none [.closureCompleted,
      .found d.testCount d.testClasses.length d.files.length d.passes.toNat]

/-- The reports of the passes **add up** to a result, of which the search has skipped some files. -/
structure AddUp (reports : List PassReport) (skipped : Nat) (d : Discovery) : Prop where
  /-- There is a report for each pass. -/
  passes : d.passes = reports.length
  /-- The passes are numbered from one. -/
  numbers : reports.map PassReport.number = List.range' 1 reports.length
  /-- Each pass but the last has found a class. -/
  positive : ∀ r ∈ reports.dropLast, 0 < r.newClasses
  /-- The passes have found the classes of the result. -/
  total : PassReport.totalAdded reports = d.testClasses.length
  /-- The number of tests never decreases. -/
  tests : (reports.map PassReport.tests).Pairwise (· ≤ ·)
  /-- The last pass has found no class, and reports the tests of the result and the files that have
  not been skipped. -/
  last : ∀ r ∈ reports.getLast?,
    r.newClasses = 0 ∧ r.tests = d.testCount ∧ r.files + skipped = d.files.length

/-- The log of a run is **faithful** to its result, with a trace that tells what was recorded by
which part of the run. -/
structure Faithful (e : Engine) (before : Journal) (stamp : Option Operation)
    (load : Except Failure Loaded × Journal) (t : Trace) (d : Discovery) (log : Journal) :
    Prop where
  /-- The trace is what has been recorded, everything with its stamp. -/
  records : log.records = before.records ++ t.records stamp d
  /-- The first part is what loading records. -/
  loading : load.2.records = before.records ++ Event.stamped stamp t.loading
  /-- The other part is what the search through the loaded files records. -/
  searching : ∃ loaded, load.1 = .ok loaded ∧
    (e.search.run e.bases loaded.files (load.2.note .closureStarted)).2.records =
      (load.2.note .closureStarted).records ++ Event.stamped (some .closure) t.searching
  /-- Loading records what it loads and what it leaves out. -/
  loads : ∀ event ∈ t.loading, event.OfLoading
  /-- The search records which files it skips and what its passes come to. -/
  searches : ∀ event ∈ t.searching, event.OfSearch
  /-- The warnings name what is skipped, in order. -/
  warnings : Record.warnings (t.records stamp d) = d.skipped.map some
  /-- The reports of the passes add up to the result. -/
  reports : AddUp (Record.reports (t.records stamp d)) (Event.skippedNames t.searching).length d

/-- What is skipped is named by the warnings of loading and then by those of the search. -/
theorem Trace.warnings_records {t : Trace} {stamp : Option Operation} :
    Record.warnings (t.records stamp d) =
      (Event.skippedNames t.loading ++ Event.skippedNames t.searching).map some := by
  simp only [Trace.records, Record.warnings_append, Record.warnings_stamped, List.map_append]
  show _ ++ [] ++ _ ++ [] = _
  rw [List.append_nil, List.append_nil]

/-- All passes are reported by the search. -/
theorem Trace.reports_records {t : Trace} {stamp : Option Operation}
    (loads : ∀ event ∈ t.loading, event.OfLoading) :
    Record.reports (t.records stamp d) = Event.reports t.searching := by
  have none : Event.reports t.loading = [] := by
    refine List.filterMap_eq_nil_iff.mpr fun event mem => ?_
    rcases loads event mem with skipped | ⟨name, size, rfl⟩
    · cases event with
      | skipped => rfl
      | _ => simp [Event.skippedName?] at skipped
    · rfl
  simp only [Trace.records, Record.reports_append, Record.reports_stamped, none]
  show [] ++ [] ++ _ ++ [] = _
  rw [List.append_nil]
  rfl

/-- Searching leaves the operation that was under way. -/
theorem operation_searchLoaded :
    (e.searchLoaded loaded).2.operation = loaded.journal.operation := by
  rw [searchLoaded_eq]
  have inner : (e.search.run e.bases loaded.files
      (loaded.journal.note .closureStarted)).2.operation = loaded.journal.operation := rfl
  rcases search : e.search.run e.bases loaded.files (loaded.journal.note .closureStarted) with
    ⟨failure | c, log⟩
  · rw [search] at inner
    exact inner
  · rw [search] at inner
    cases e.settings.separator.hasSurrogate <;> exact inner

theorem operation_afterLoading {load : Except Failure Loaded × Journal} :
    (afterLoading e.searchLoaded load).2.operation = load.2.operation := by
  rcases load with ⟨failure | loaded, log⟩
  · rfl
  · exact operation_searchLoaded

section Search
variable {c : Closure} {searching : List Event}

/-- The reports of a search add up to the result that is made up from it. -/
theorem addUp_of_counts
    (h : (e.search.run e.bases loaded.files journal).1 = .ok c)
    (told : Closure.Tells (Search.opening e.bases loaded.files journal) searching c)
    (counts : Closure.Counts (Search.opening e.bases loaded.files journal)
      (Event.reports searching) c) :
    AddUp (Event.reports searching) (Event.skippedNames searching).length (e.result loaded c) where
  passes := by
    have number : c.passes = (Event.reports searching).length :=
      told.passes.trans (Nat.zero_add _)
    rw [← number]
    rfl
  numbers := told.numbers
  positive := counts.positive
  total := Search.totalAdded_eq h counts
  tests := by
    have chain := List.isChain_iff_pairwise.mp counts.tests
    exact (List.pairwise_cons.mp chain).2
  last := by
    intro r hr
    obtain ⟨none, tests, _⟩ := counts.last r hr
    have skipped : c.skipped.map DexFile.name = Event.skippedNames searching :=
      told.recorded.skipped
    have files := Search.files_of_last h counts r hr
    refine ⟨none, tests.trans Std.TreeSet.length_toList.symm, ?_⟩
    rw [← skipped, List.length_map, files]
    exact List.length_map _ |>.symm

end Search

/-- A run that returns has loaded files and found its result in them; what loading logs is known,
and the search adds its part. -/
theorem exists_faithful {stamp : Option Operation} {load : Except Failure Loaded × Journal}
    (idle : journal.operation = none) (loadLog : LoadLog journal stamp load)
    (h : afterLoading e.searchLoaded load = (.ok d, log)) :
    ∃ t, Faithful e journal stamp load t d log := by
  rcases load with ⟨failure | loaded, loadedLog⟩
  · simp [afterLoading] at h
  obtain ⟨loading, recorded, kinds, leftOut⟩ := loadLog.returned loaded rfl
  replace recorded : loadedLog.records = journal.records ++ Event.stamped stamp loading := recorded
  have quiet : loadedLog.operation = none := loadLog.operation.trans idle
  obtain ⟨c, inner, search, _, rfl, rfl⟩ := searchLoaded_eq_ok.mp h
  obtain ⟨run, rfl⟩ := Search.run_eq_ok_with_log.mp search
  obtain ⟨searching, told, counts⟩ := Closure.exists_events_of_run run
  let found := e.result { loaded with journal := loadedLog } c
  let t : Trace := { loading, searching }
  -- the search has logged in its own operation, behind the line that announces it
  have searched : c.journal.records =
      (loadedLog.note .closureStarted).records ++ Event.stamped (some .closure) searching :=
    told.recorded.records
  have skipped : c.skipped.map DexFile.name = Event.skippedNames searching := told.recorded.skipped
  have counted : AddUp (Event.reports searching) (Event.skippedNames searching).length found :=
    addUp_of_counts (congrArg Prod.fst search) told counts
  refine ⟨t, ?_⟩
  exact {
    records := by
      simp [Journal.note, searched, recorded, quiet, Trace.records, Event.stamped, result, t]
    loading := recorded
    searching := ⟨loaded, rfl, by rw [search, searched]⟩
    loads := kinds
    searches := told.recorded.kinds
    warnings := by
      rw [Trace.warnings_records, ← leftOut, ← skipped]
      rfl
    reports := by
      rw [Trace.reports_records kinds]
      exact counted }

/-- **The log is faithful to the result.**  A run that begins while no operation is under way ends
so, be it with a result or with a failure; and if it returns, its log is faithful to its result,
with what loads paths stamped as loading and what loads buffers not stamped. -/
theorem log_faithful (e : Engine) (journal : Journal) (idle : journal.operation = none) :
    (∀ tree paths, (e.discover tree paths journal).2.operation = none ∧
      ∀ d log, e.discover tree paths journal = (.ok d, log) →
        ∃ t, Faithful e journal (some .load) (e.loadPaths tree paths journal) t d log) ∧
      ∀ buffers, (e.discoverBuffers buffers journal).2.operation = none ∧
        ∀ d log, e.discoverBuffers buffers journal = (.ok d, log) →
          ∃ t, Faithful e journal none (e.loadBuffers buffers journal) t d log := by
  constructor
  · intro tree paths
    have loadLog : LoadLog journal (some .load) (e.loadPaths tree paths journal) :=
      loadLog_loadPaths
    refine ⟨?_, fun d log h => exists_faithful idle loadLog h⟩
    exact operation_afterLoading.trans (loadLog.operation.trans idle)
  · intro buffers
    have loadLog : LoadLog journal none (e.loadBuffers buffers journal) :=
      idle ▸ loadLog_loadBuffers
    refine ⟨?_, fun d log h => exists_faithful idle loadLog h⟩
    exact operation_afterLoading.trans (loadLog.operation.trans idle)

/-- One buffer is left out while loading, and the file in another one after a scan: the log names
both, in this order. -/
theorem faithful_on_mixed :
    ∃ (d : Discovery) (log : Journal) (t : Trace),
      (Sample.engine .lenient).discoverBuffers Sample.mixed {} = (.ok d, log) ∧
        d.skipped = [("<memory:1>" : Text), "<memory:0>"] ∧
          Faithful (Sample.engine .lenient) {} none
            ((Sample.engine .lenient).loadBuffers Sample.mixed {}) t d log := by
  obtain ⟨d, returns, _, skipped⟩ := Sample.exists_run_of_mixed
  obtain ⟨_, buffers⟩ := log_faithful (Sample.engine .lenient) {} rfl
  obtain ⟨_, faithful⟩ := buffers Sample.mixed
  -- with a variable for the run, which is not to be evaluated
  have pair {run : Except Failure Discovery × Journal} (h : run.1 = .ok d) :
      ∃ log, run = (.ok d, log) := ⟨run.2, Prod.ext h rfl⟩
  obtain ⟨log, run⟩ := pair returns
  obtain ⟨t, traced⟩ := faithful d log run
  exact ⟨d, log, t, run, skipped, traced⟩

end Engine

end DexDiscovery
