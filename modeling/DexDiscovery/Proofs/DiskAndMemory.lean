import DexDiscovery.Proofs.ArchiveImages

/-!
# Discovery on disk and in memory

Files and buffers are loaded by two loops.  The one looks at the size and at the first bytes of a
file before its image is read; the other reads every buffer at once, and names it by its place.  For
buffers of an accepted size that are no archives this makes no difference: what the first loop
refuses to read, the second cannot read (`startsWith_magic_of_ofBytes`).

So the two loops stay side by side: after each input, the loaded files have the same images, and the
inputs that were left out stand at the same places (`loadPath_sideBySide`).  From there on the names
of the files are not read any more, and both discoveries end alike (`disk_and_memory_agree`).

A third loop loads files for their own sake.  A strict discovery loads what it does.
-/

namespace DexDiscovery

/-! ## Reading an image under two names -/

/-- Of an image only its name changes with the name that it is read under. -/
theorem DexFile.ofBytes_sideBySide {name name' : Text} {b : Bytes} :
    SideBySide Eq
      (fun f g => f = { g with name := f.name } ∧ f.name = name ∧ g.name = name')
      (DexFile.ofBytes name b) (DexFile.ofBytes name' b) := by
  unfold DexFile.ofBytes
  cases Header.read b with
  | error error => exact .failures rfl
  | ok header =>
    simp only [bind, Except.bind]
    rcases Image.readTables { bytes := b } header with ⟨image, _ | error⟩
    · exact .values ⟨rfl, rfl, rfl⟩
    · exact .failures rfl

/-- What can be read begins as an image does. -/
theorem startsWith_magic_of_ofBytes {name : Text} {b : Bytes} {file : DexFile}
    (h : DexFile.ofBytes name b = .ok file) : b.startsWith Header.magic = true := by
  obtain ⟨header, read, _⟩ := bind_eq_ok.mp h
  obtain ⟨_, check, _⟩ := bind_eq_ok.mp read
  unfold Header.check at check
  split at check
  · exact absurd check (by simp [throw, throwThe, MonadExceptOf.throw, bind, Except.bind])
  · obtain ⟨mark, sliced, check⟩ := bind_eq_ok.mp check
    split at check
    · exact absurd check (by simp [throw, throwThe, MonadExceptOf.throw, bind, Except.bind])
    · rename_i magic
      unfold Bytes.slice at sliced
      split at sliced
      · obtain rfl := Except.ok.inj sliced
        exact beq_iff_eq.mpr (not_not.mp magic)
      · exact absurd sliced (by simp)

namespace Sample

/-- Three files with the contents of `mixed`. -/
def desk : FileTree where
  files := [
    ([("a.dex" : Text)], (dex "LB;" "testX").pop),
    ([("b.dex" : Text)], #[]),
    ([("c.dex" : Text)], dex "LA;" "testX")]

/-- The paths of all three. -/
def deskPaths : List Text := ["a.dex", "b.dex", "c.dex"]

end Sample

namespace Engine

variable {e : Engine} {tree : FileTree} {paths : List Text} {buffers : List Bytes} {path : Text}
  {b : Bytes} {i : Nat} {before before' : Loaded} {journal journal' : Journal}

/-! ## The same inputs -/

/-- A path leads to a file that holds a buffer, of an accepted size and no archive. -/
structure Holds (e : Engine) (tree : FileTree) (path : Text) (b : Bytes) : Prop where
  found : tree.find (Path.shown path) = .ok (.file b)
  admits : e.settings.sizeLimit.admits b.size = true
  bare : b.startsWith Archive.headerMark = false

/-- A name of the file at some place among the paths, as it is given or as it is shown, and the
name of the buffer at the same place. -/
def SamePlace (paths : List Text) (name name' : Text) : Prop :=
  ∃ i path, paths[i]? = some path ∧ (name = path ∨ name = Path.shown path) ∧ name' = bufferName i

/-- Two files that have been loaded from the same place, and differ in their names only. -/
def Twins (paths : List Text) (f g : DexFile) : Prop :=
  f = { g with name := f.name } ∧ SamePlace paths f.name g.name

/-- What has been loaded on disk and in memory. -/
structure Alike (paths : List Text) (l l' : Loaded) : Prop where
  files : List.Forall₂ (Twins paths) l.files l'.files
  skipped : List.Forall₂ (SamePlace paths) l.skipped l'.skipped

/-- Two failures that are the same, or both faults of an input. -/
def SameKind (failure failure' : Failure) : Prop :=
  failure = failure' ∨
    (∃ fault, failure = .malformed fault) ∧ ∃ fault, failure' = .malformed fault

/-! ## Loading side by side -/

/-- The only attempt at the images of a file that holds a buffer comes to what reading the buffer
comes to. -/
theorem exists_attempt (held : e.Holds tree path b) (place : paths[i]? = some path) :
    ∃ attempt, Loader.dexFilesOf tree e.settings.sizeLimit path = [attempt] ∧
      SideBySide (fun failure _ => ∃ fault, failure = .malformed fault) (Twins paths) attempt
        (DexFile.ofBytes (bufferName i) b) := by
  have names : SamePlace paths (Path.shown path) (bufferName i) :=
    ⟨i, path, place, .inr rfl, rfl⟩
  unfold Loader.dexFilesOf
  rw [Loader.imagesOf_of_find held.found, Loader.nodeImages, Node.size,
    if_neg (not_not_intro held.admits)]
  -- with the mark of an image both read it; without, the file is refused and reading would fail
  by_cases magic : b.startsWith Header.magic = true
  · have kind : FileKind.ofBytes b = .dex := by simp [FileKind.ofBytes, magic]
    simp only [kind]
    refine ⟨_, rfl, ?_⟩
    have both : SideBySide Eq (fun f g => f = { g with name := f.name } ∧
        f.name = Path.shown path ∧ g.name = bufferName i)
        (DexFile.ofBytes (Path.shown path) b) (DexFile.ofBytes (bufferName i) b) :=
      DexFile.ofBytes_sideBySide
    show SideBySide _ _ ((DexFile.ofBytes (Path.shown path) b).mapError Failure.ofDex) _
    refine SideBySide.mapError_left ?_
    refine both.imp (fun _ _ _ => ⟨_, rfl⟩) ?_
    rintro f g ⟨same, name, name'⟩
    exact ⟨same, name ▸ name' ▸ names⟩
  · have kind : FileKind.ofBytes b = .unknown := by simp [FileKind.ofBytes, magic, held.bare]
    simp only [kind]
    refine ⟨_, rfl, ?_⟩
    cases read : DexFile.ofBytes (bufferName i) b with
    | ok file => exact absurd (startsWith_magic_of_ofBytes read) magic
    | error error => exact .failures ⟨_, rfl⟩

/-- One input is loaded alike from a file and from a buffer. -/
theorem loadPath_sideBySide (held : e.Holds tree path b) (place : paths[i]? = some path)
    (same : Alike paths before before') :
    SideBySide (fun stopped stopped' => SameKind stopped.cause stopped'.cause) (Alike paths)
      (e.loadPath tree before path) (e.loadBuffer before' (b, i)) := by
  obtain ⟨attempt, only, both⟩ := exists_attempt held place
  unfold loadPath loadBuffer
  rw [only]
  cases read : DexFile.ofBytes (bufferName i) b with
  | ok g =>
    rw [read] at both
    cases both with
    | @values f _ twins =>
      have files : List.Forall₂ (Twins paths) (before.files ++ [f]) (before'.files ++ [g]) :=
        List.rel_append same.files (.cons twins .nil)
      simp only [Loader.upToFailure, enter, read]
      exact .values ⟨files, same.skipped⟩
  | error error =>
    rw [read] at both
    cases both with
    | failures fault =>
      obtain ⟨fault, rfl⟩ := fault
      simp only [Loader.upToFailure, List.foldl_nil, enter, Failure.ofDex, read]
      cases e.settings.policy with
      | strict => exact .failures (.inr ⟨⟨fault, rfl⟩, ⟨_, rfl⟩⟩)
      | lenient =>
        have names : SamePlace paths path (bufferName i) := ⟨i, path, place, .inl rfl, rfl⟩
        exact .values ⟨same.files, List.rel_append same.skipped (.cons names .nil)⟩

/-- The inputs, each of the buffers with its place. -/
theorem forall₂_zipIdx (held : List.Forall₂ (e.Holds tree) paths buffers) :
    List.Forall₂ (fun path buffer => e.Holds tree path buffer.1 ∧ paths[buffer.2]? = some path)
      paths buffers.zipIdx := by
  rw [List.forall₂_iff_get] at held ⊢
  obtain ⟨length, each⟩ := held
  refine ⟨by simp [length], fun i h h' => ?_⟩
  have bound : i < buffers.length := by simpa using h'
  simpa using each i h bound

/-- All inputs are loaded alike. -/
theorem loadPaths_loadBuffers (held : List.Forall₂ (e.Holds tree) paths buffers) :
    SideBySide SameKind (Alike paths) (e.loadPaths tree paths journal).1
      (e.loadBuffers buffers journal').1 := by
  rw [loadPaths_fst]
  have settled : (e.loadBuffers buffers journal').1 =
      (buffers.zipIdx.foldlM e.loadBuffer { journal := journal' }).mapError Stopped.cause :=
    settle_fst
  rw [settled]
  refine SideBySide.mapError_left (SideBySide.mapError_right ?_)
  refine SideBySide.foldlM ?_ (forall₂_zipIdx held) ⟨.nil, .nil⟩
  rintro before before' path ⟨b, i⟩ same ⟨holds, place⟩
  exact loadPath_sideBySide holds place same

/-! ## Results side by side -/

/-- Two results with the same tests and the same test classes, found in the same passes, whose
files differ in their names only and whose inputs were left out at the same places. -/
structure SameFindings (paths : List Text) (d d' : Discovery) : Prop where
  tests : d.tests = d'.tests
  testClasses : d.testClasses = d'.testClasses
  passes : d.passes = d'.passes
  separator : d.separator = d'.separator
  files : List.Forall₂ (fun s s' => s = { s' with name := s.name } ∧ SamePlace paths s.name s'.name)
    d.files d'.files
  skipped : List.Forall₂ (SamePlace paths) d.skipped d'.skipped

theorem Twins.image {f g : DexFile} (h : Twins paths f g) : f.image = g.image := by
  rw [h.1]

theorem Twins.summary {f g : DexFile} (h : Twins paths f g) :
    f.summary = { g.summary with name := f.summary.name } ∧
      SamePlace paths f.summary.name g.summary.name := by
  obtain ⟨same, place⟩ := h
  refine ⟨?_, place⟩
  rw [same]
  rfl

/-- Results are made up alike from what has been loaded and searched alike. -/
theorem sameFindings_result {l l' : Loaded} {c c' : Closure} (loaded : Alike paths l l')
    (state : Closure.Parallel (Twins paths) c c') :
    SameFindings paths (e.result l c) (e.result l' c') where
  tests := congrArg Std.TreeSet.toList state.tests
  testClasses := by simp only [result, state.known]
  passes := congrArg Int.ofNat state.passes
  separator := rfl
  files := by
    rw [result, result, List.forall₂_map_left_iff, List.forall₂_map_right_iff]
    exact loaded.files.imp fun f g twins => twins.summary
  skipped := by
    refine List.rel_append loaded.skipped ?_
    rw [List.forall₂_map_left_iff, List.forall₂_map_right_iff]
    exact state.skipped.imp fun f g twins => twins.2

/-- A strict engine loads all dex files of all paths. -/
theorem map_files_loadPaths (strict : e.settings.policy = .strict) (paths : List Text)
    (journal : Journal) :
    (e.loadPaths tree paths journal).1.map Loaded.files =
      Loader.loadDexFiles tree e.settings.sizeLimit paths := by
  have all : (paths.filter fun path => !e.passesOver tree path) = paths := by
    simp [passesOver, strict]
  have loaded := e.loadPaths_sideBySide tree paths journal
  rw [all] at loaded
  rw [Loader.loadDexFiles_eq]
  refine SideBySide.eq_map (SideBySide.map_left ?_)
  exact loaded.imp (fun _ _ => id) fun _ _ parts => parts.1

/-- **On disk and in memory.**  Discovery in files, and in buffers that the files hold, ends in the
same findings, or fails in both with faults of the input or with the same failure.  A strict
discovery loads from any paths the files that are loaded from them for their own sake, and fails to
load with the same failure. -/
theorem disk_and_memory_agree (e : Engine) (tree : FileTree) :
    (∀ (paths : List Text) (buffers : List Bytes) (journal journal' : Journal),
        List.Forall₂ (e.Holds tree) paths buffers →
          SideBySide SameKind (SameFindings paths) (e.discover tree paths journal).1
            (e.discoverBuffers buffers journal').1) ∧
      (e.settings.policy = .strict → ∀ (paths : List Text) (journal : Journal),
        (e.loadPaths tree paths journal).1.map Loaded.files =
            Loader.loadDexFiles tree e.settings.sizeLimit paths ∧
          (∀ failure, Loader.loadDexFiles tree e.settings.sizeLimit paths = .error failure →
            (e.discover tree paths journal).1 = .error failure) ∧
          ∀ d, (e.discover tree paths journal).1 = .ok d →
            ∃ files, Loader.loadDexFiles tree e.settings.sizeLimit paths = .ok files ∧
              d.files = files.map DexFile.summary) := by
  constructor
  · intro paths buffers journal journal' held
    refine (parallel_afterLoading (fun _ => .inl rfl) (fun f g => Twins.image)
      (fun l l' => Alike.files) (loadPaths_loadBuffers held)).imp (fun _ _ => id) ?_
    rintro _ _ ⟨l, l', c, c', loaded, state, rfl, rfl⟩
    exact sameFindings_result loaded state
  · intro strict paths journal
    rw [← map_files_loadPaths strict paths journal]
    refine ⟨rfl, fun failure fails => discover_of_error (map_eq_error.mp fails),
      fun d returns => ?_⟩
    obtain ⟨loaded, load, files⟩ := exists_loaded_of_discover returns
    exact ⟨loaded.files, map_eq_ok.mpr ⟨loaded, load, rfl⟩, files⟩

/-- One of three images is found, and the other inputs are left out at the same places. -/
theorem agree_on_mixed :
    List.Forall₂ ((Sample.engine .lenient).Holds Sample.desk) Sample.deskPaths Sample.mixed ∧
      (∃ d d', ((Sample.engine .lenient).discover Sample.desk Sample.deskPaths {}).1 = .ok d ∧
        ((Sample.engine .lenient).discoverBuffers Sample.mixed {}).1 = .ok d' ∧
        SameFindings Sample.deskPaths d d' ∧ d.tests = [("A#testX" : Text)] ∧
        d'.skipped = [("<memory:1>" : Text), "<memory:0>"]) ∧
      ((Sample.engine .strict).loadPaths Sample.desk Sample.deskPaths {}).1.map Loaded.files =
        Loader.loadDexFiles Sample.desk SizeLimit.default Sample.deskPaths := by
  have first : (Sample.engine .lenient).Holds Sample.desk "a.dex" (Sample.dex "LB;" "testX").pop :=
    ⟨rfl, by decide +kernel, by decide +kernel⟩
  have second : (Sample.engine .lenient).Holds Sample.desk "b.dex" #[] :=
    ⟨rfl, by decide +kernel, by decide +kernel⟩
  have third : (Sample.engine .lenient).Holds Sample.desk "c.dex" (Sample.dex "LA;" "testX") :=
    ⟨rfl, by decide +kernel, by decide +kernel⟩
  have held : List.Forall₂ ((Sample.engine .lenient).Holds Sample.desk) Sample.deskPaths
      Sample.mixed := .cons first (.cons second (.cons third .nil))
  obtain ⟨d', returns', tests, skipped⟩ := Sample.exists_run_of_mixed
  have both := (disk_and_memory_agree (Sample.engine .lenient) Sample.desk).1 _ _ {} {} held
  obtain ⟨d, returns⟩ := both.exists_ok_iff.mpr ⟨d', returns'⟩
  obtain ⟨d'', again, same⟩ := both.of_ok returns
  obtain rfl : d' = d'' := Except.ok.inj (returns'.symm.trans again)
  have strict := (disk_and_memory_agree (Sample.engine .strict) Sample.desk).2 rfl
    Sample.deskPaths {}
  refine ⟨held, ⟨d, d', returns, returns', same, ?_, skipped⟩, strict.1⟩
  rw [same.tests, tests]

end Engine

end DexDiscovery
