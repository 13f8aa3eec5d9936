import DexDiscovery.Engine
import DexDiscovery.Proofs.LenientClosure

/-!
# Discovery in buffers

A discovery in buffers loads an image from each of them and searches those that could be loaded.
`filesOf` and `unreadable` say what loading comes to without a run: which dex files the buffers
hold, under the names that their places give them, and which names stand for none.  Loading that
returns has loaded the former and left out the latter (`files_of_loaded`), and only a strict engine
refuses to load at all (`exists_loaded_of_lenient`, `exists_unreadable_of_error`).

`discoverBuffers_eq_ok` and `discoverBuffers_eq_error` take the outcome apart: it is a matter of
loading, of the search, and of the check of the result, which refuses a separator without an
encoding only (`check_result`).
-/

namespace DexDiscovery

/-! ## Sample buffers -/

namespace Sample

/-- Four bytes, the least significant first. -/
def word (n : Nat) : List UInt8 :=
  [n, n / 0x100, n / 0x10000, n / 0x1000000].map UInt8.ofNat

/-- A stored string: its number of code units, which are ASCII here, the units and a zero. -/
def stored (t : Text) : List UInt8 :=
  UInt8.ofNat t.length :: t.map (fun c => UInt8.ofNat c.val) ++ [0]

/-- An image with one class, which extends the test case of the platform and has one virtual
method.  Its three strings are its three types as well, and the class data come last. -/
def dex (cls method : Text) : Bytes :=
  let strings : List (List UInt8) :=
    [stored cls, stored "Ljunit/framework/TestCase;", stored method]
  let start := 176
  let second := start + cls.length + 2
  let third := second + 28
  let data := third + method.length + 2
  let header := Header.magic ++ [0x30, 0x33, 0x35, 0] ++ List.replicate 28 0
    ++ [112, Header.littleEndianTag, 0, 0, 0, 3, 112, 3, 124, 0, 0, 0, 0, 1, 136, 1, 144, 0, 0
      ].flatMap word
  let tables :=
    [start, second, third, 0, 1, 2, 0, 2, 0, 0, 1, 0, 0xFFFFFFFF, 0, data, 0].flatMap word
  (header ++ tables ++ strings.flatten ++ [0, 0, 0, 1, 0, 1, 0]).toArray

/-- An engine with the bases of the platform. -/
def engine (policy : Policy) : Engine where
  settings := { policy }
  separator_ne_nil := List.cons_ne_nil _ _

/-- An image whose class data are cut off, a buffer that holds none, and an image. -/
def mixed : List Bytes := [(dex "LB;" "testX").pop, #[], dex "LA;" "testX"]

/-- The second buffer is left out while loading, and the first one after a scan. -/
theorem exists_run_of_mixed :
    ∃ d, ((engine .lenient).discoverBuffers mixed {}).1 = .ok d ∧
      d.tests = [("A#testX" : Text)] ∧
      d.skipped = [("<memory:1>" : Text), "<memory:0>"] := by
  have found : (((engine .lenient).discoverBuffers mixed {}).1.toOption.map
      fun d => (d.tests, d.skipped)) =
        some ([("A#testX" : Text)], [("<memory:1>" : Text), "<memory:0>"]) := by
    decide +kernel
  obtain ⟨d, returns, parts⟩ := exists_ok_of_toOption_map found
  simp only [Prod.mk.injEq] at parts
  exact ⟨d, returns, parts⟩

end Sample

namespace Engine

variable {e : Engine} {buffers : List Bytes} {journal log : Journal} {before after loaded : Loaded}
  {d : Discovery} {c : Closure} {failure : Failure}

/-! ## What is loaded -/

/-- The dex files that some buffers hold, each under the name of its place. -/
def filesOf (buffers : List Bytes) : List DexFile :=
  buffers.zipIdx.filterMap fun b => (DexFile.ofBytes (bufferName b.2) b.1).toOption

/-- The names of the buffers that hold no dex file. -/
def unreadable (buffers : List Bytes) : List Text :=
  (buffers.zipIdx.filter fun b => !(DexFile.ofBytes (bufferName b.2) b.1).isOk).map
    fun b => bufferName b.2

/-- A buffer that holds a dex file is loaded; one that does not is put aside. -/
theorem loadBuffer_eq_ok {b : Bytes × Nat} (h : e.loadBuffer before b = .ok after) :
    (∃ file, DexFile.ofBytes (bufferName b.2) b.1 = .ok file ∧
        after = { before with files := before.files ++ [file] }) ∨
      ∃ error, DexFile.ofBytes (bufferName b.2) b.1 = .error error ∧
        e.settings.policy = .lenient ∧ after.files = before.files ∧
          after.skipped = before.skipped ++ [bufferName b.2] := by
  cases hb : DexFile.ofBytes (bufferName b.2) b.1 with
  | ok file =>
    simp only [loadBuffer, hb, enter, Except.ok.injEq] at h
    exact .inl ⟨file, rfl, h.symm⟩
  | error error =>
    cases policy : e.settings.policy with
    | strict => simp [loadBuffer, hb, enter, policy, Failure.ofDex] at h
    | lenient =>
      simp only [loadBuffer, hb, enter, policy, Failure.ofDex, Except.ok.injEq] at h
      subst h
      exact .inr ⟨error, rfl, rfl, rfl, rfl⟩

/-- Only a strict engine refuses a buffer, and only one that holds no dex file. -/
theorem loadBuffer_eq_error {b : Bytes × Nat} {stopped : Stopped}
    (h : e.loadBuffer before b = .error stopped) :
    e.settings.policy = .strict ∧ ∃ error, stopped.cause = .ofDex error := by
  cases hb : DexFile.ofBytes (bufferName b.2) b.1 with
  | ok file => simp [loadBuffer, hb, enter] at h
  | error error =>
    cases policy : e.settings.policy with
    | strict =>
      simp only [loadBuffer, hb, enter, policy, Failure.ofDex, Except.error.injEq] at h
      subst h
      exact ⟨rfl, error, rfl⟩
    | lenient => simp [loadBuffer, hb, enter, policy, Failure.ofDex] at h

theorem loadBuffers_eq_ok :
    (e.loadBuffers buffers journal).1 = .ok loaded ↔
      buffers.zipIdx.foldlM e.loadBuffer { journal } = .ok loaded := by
  unfold loadBuffers
  cases buffers.zipIdx.foldlM e.loadBuffer { journal } <;> simp [settle]

theorem loadBuffers_eq_error :
    (e.loadBuffers buffers journal).1 = .error failure ↔
      ∃ stopped, buffers.zipIdx.foldlM e.loadBuffer { journal } = .error stopped ∧
        stopped.cause = failure := by
  unfold loadBuffers
  cases buffers.zipIdx.foldlM e.loadBuffer { journal } <;> simp [settle]

/-- Loading that returns has loaded the dex files of the buffers and put the other names aside. -/
theorem files_of_loaded (h : (e.loadBuffers buffers journal).1 = .ok loaded) :
    loaded.files = filesOf buffers ∧ loaded.skipped = unreadable buffers := by
  have run {l : List (Bytes × Nat)} {before : Loaded}
      (h : l.foldlM e.loadBuffer before = .ok loaded) :
      loaded.files = before.files ++
          l.filterMap (fun b => (DexFile.ofBytes (bufferName b.2) b.1).toOption) ∧
        loaded.skipped = before.skipped ++
          (l.filter fun b => !(DexFile.ofBytes (bufferName b.2) b.1).isOk).map
            fun b => bufferName b.2 := by
    induction l generalizing before with
    | nil =>
      obtain rfl := pure_eq_ok.mp h
      simp
    | cons b rest ih =>
      obtain ⟨next, hb, h⟩ := bind_eq_ok.mp (List.foldlM_cons.symm.trans h)
      obtain ⟨files, skipped⟩ := ih h
      rcases loadBuffer_eq_ok hb with ⟨file, holds, rfl⟩ | ⟨error, holds, _, files', skipped'⟩
      · simp [files, skipped, holds, Except.toOption, Except.isOk, Except.toBool]
      · simp [files, skipped, files', skipped', holds, Except.toOption, Except.isOk, Except.toBool]
  simpa [filesOf, unreadable] using run (loadBuffers_eq_ok.mp h)

/-- Loading fails in a strict engine only, because of a buffer that holds no dex file. -/
theorem exists_unreadable_of_error (h : (e.loadBuffers buffers journal).1 = .error failure) :
    e.settings.policy = .strict ∧ ∃ error, failure = .ofDex error := by
  obtain ⟨stopped, fold, rfl⟩ := loadBuffers_eq_error.mp h
  obtain ⟨_, b, _, before, _, _, failed⟩ := exists_of_foldlM_eq_error fold
  exact loadBuffer_eq_error failed

/-- A lenient engine always loads what can be loaded. -/
theorem exists_loaded_of_lenient (lenient : e.settings.policy = .lenient) :
    ∃ loaded, (e.loadBuffers buffers journal).1 = .ok loaded := by
  refine exists_ok_iff.mpr fun failure h => ?_
  obtain ⟨strict, _⟩ := exists_unreadable_of_error h
  simp [lenient] at strict

/-! ## What is searched -/

/-- A result is refused if its separator has no encoding. -/
theorem check_result :
    (e.result loaded c).check =
      if e.settings.separator.hasSurrogate then .error .invalidResult
      else .ok (e.result loaded c) := by
  simp [Discovery.check, result, e.separator_ne_nil]

/-- Searching what has been loaded, in one step. -/
theorem searchLoaded_eq :
    e.searchLoaded loaded =
      match e.search.run e.bases loaded.files (loaded.journal.note .closureStarted) with
      | (.error failure, inner) => (.error failure, inner.note .closureCompleted)
      | (.ok c, inner) =>
        let d := e.result loaded c
        if e.settings.separator.hasSurrogate then
          (.error .invalidResult, inner.note .closureCompleted)
        else (.ok d, (inner.note .closureCompleted).note
          (.found d.testCount d.testClasses.length loaded.files.length c.passes)) := by
  have search : e.closure e.search.namer loaded =
      ((e.search.run e.bases loaded.files (loaded.journal.note .closureStarted)).1,
        (e.search.run e.bases loaded.files
          (loaded.journal.note .closureStarted)).2.note .closureCompleted) := rfl
  rw [searchLoaded, search]
  rcases e.search.run e.bases loaded.files (loaded.journal.note .closureStarted) with
    ⟨failure | c, inner⟩
  · rfl
  · simp only [Except.bind, check_result]
    cases e.settings.separator.hasSurrogate <;> rfl

/-- Searching returns what is made up from the result of the closure. -/
theorem searchLoaded_eq_ok :
    e.searchLoaded loaded = (.ok d, log) ↔
      ∃ c inner, e.search.run e.bases loaded.files (loaded.journal.note .closureStarted)
          = (.ok c, inner) ∧
        e.settings.separator.hasSurrogate = false ∧ e.result loaded c = d ∧
          (inner.note .closureCompleted).note
            (.found d.testCount d.testClasses.length loaded.files.length c.passes) = log := by
  rw [searchLoaded_eq]
  rcases e.search.run e.bases loaded.files (loaded.journal.note .closureStarted) with
    ⟨failure | c, inner⟩
  · simp
  · cases e.settings.separator.hasSurrogate with
    | true => simp
    | false =>
      simp only [Bool.false_eq_true, if_false, Prod.mk.injEq, Except.ok.injEq, true_and]
      constructor
      · rintro ⟨rfl, rfl⟩
        exact ⟨c, inner, ⟨rfl, rfl⟩, rfl, rfl⟩
      · rintro ⟨_, _, ⟨rfl, rfl⟩, rfl, rfl⟩
        exact ⟨rfl, rfl⟩

/-- Searching fails where the closure does, and where the result is refused. -/
theorem searchLoaded_eq_error :
    (e.searchLoaded loaded).1 = .error failure ↔
      (e.search.run e.bases loaded.files (loaded.journal.note .closureStarted)).1
          = .error failure ∨
        (∃ c, (e.search.run e.bases loaded.files (loaded.journal.note .closureStarted)).1
            = .ok c) ∧
          e.settings.separator.hasSurrogate = true ∧ failure = .invalidResult := by
  rw [searchLoaded_eq]
  rcases e.search.run e.bases loaded.files (loaded.journal.note .closureStarted) with
    ⟨failure | c, inner⟩
  · simp
  · cases e.settings.separator.hasSurrogate <;> simp [eq_comm]

/-! ## The outcome -/

theorem discoverBuffers_eq_ok :
    e.discoverBuffers buffers journal = (.ok d, log) ↔
      ∃ loaded, (e.loadBuffers buffers journal).1 = .ok loaded ∧
        e.searchLoaded loaded = (.ok d, log) := by
  unfold discoverBuffers loadBuffers
  cases buffers.zipIdx.foldlM e.loadBuffer { journal } <;> simp [settle, afterLoading]

/-- What a result is made up from. -/
theorem exists_result_of_discoverBuffers (h : (e.discoverBuffers buffers journal).1 = .ok d) :
    ∃ loaded c, (e.loadBuffers buffers journal).1 = .ok loaded ∧
      (e.search.run e.bases loaded.files (loaded.journal.note .closureStarted)).1 = .ok c ∧
        e.result loaded c = d := by
  obtain ⟨loaded, load, found⟩ := discoverBuffers_eq_ok.mp (Prod.ext h rfl)
  obtain ⟨c, inner, run, _, made, _⟩ := searchLoaded_eq_ok.mp found
  exact ⟨loaded, c, load, congrArg Prod.fst run, made⟩

theorem discoverBuffers_eq_error :
    (e.discoverBuffers buffers journal).1 = .error failure ↔
      (e.loadBuffers buffers journal).1 = .error failure ∨
        ∃ loaded, (e.loadBuffers buffers journal).1 = .ok loaded ∧
          (e.searchLoaded loaded).1 = .error failure := by
  unfold discoverBuffers loadBuffers
  cases buffers.zipIdx.foldlM e.loadBuffer { journal } <;> simp [settle, afterLoading]

end Engine

end DexDiscovery
