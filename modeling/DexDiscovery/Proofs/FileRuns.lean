import DexDiscovery.Proofs.Namelessness

/-!
# Discovery in files

The images of a file come one by one, and loading stops at the first that fails.  `filesAt` says
what loading one path comes to: all of its dex files, or the failure.  A path is **bad** if that
failure is a fault of its content; a lenient engine passes over bad paths, and over nothing else.

So loading some paths comes to loading each that is not passed over, completely
(`loadPaths_sideBySide`).  From this the outcome of loading is read off without going through the
loop again.
-/

namespace DexDiscovery

namespace Loader

variable {α β : Type} {tree : FileTree} {limit : SizeLimit}

/-- The dex files of the file at a path, if all of its images can be loaded. -/
def filesAt (tree : FileTree) (limit : SizeLimit) (path : Text) : Except Failure (List DexFile) :=
  complete (dexFilesOf tree limit path)

/-- Attempts that are complete are a list of answers. -/
theorem complete_eq_mapM {attempts : List (Except Failure α)} :
    complete attempts = attempts.mapM id := by
  induction attempts with
  | nil => rfl
  | cons a rest ih =>
    rw [List.mapM_cons, ← ih]
    cases a with
    | error failure => rfl
    | ok a =>
      unfold complete
      rw [upToFailure]
      rcases upToFailure rest with ⟨found, _ | failure⟩ <;> rfl

/-- Attempts for several things are complete if those for each of them are. -/
theorem complete_flatMap {f : β → List (Except Failure α)} {l : List β} :
    complete (l.flatMap f) = (l.mapM fun b => complete (f b)).map List.flatten := by
  simp only [complete_eq_mapM]
  induction l with
  | nil => rfl
  | cons b rest ih =>
    rw [List.flatMap_cons, List.mapM_append, ih, List.mapM_cons]
    cases (f b).mapM id with
    | error failure => rfl
    | ok found => cases rest.mapM fun b => (f b).mapM id <;> rfl

/-- Loading some paths is loading each of them completely. -/
theorem loadDexFiles_eq {paths : List Text} :
    loadDexFiles tree limit paths = (paths.mapM (filesAt tree limit)).map List.flatten :=
  complete_flatMap

/-- The dex files at a path are those of its images, in order. -/
theorem filesAt_eq_mapM {path : Text} :
    filesAt tree limit path =
      (imagesOf tree limit path).mapM fun attempt => attempt.bind Source.toDexFile := by
  rw [filesAt, complete_eq_mapM, dexFilesOf, List.mapM_map]
  rfl

end Loader

namespace Engine

variable {e : Engine} {tree : FileTree} {paths : List Text} {path : Text} {journal : Journal}
  {failure : Failure} {d : Discovery}

/-- Whether the content of the file at a path is at fault, so that it cannot be loaded. -/
def isBad (e : Engine) (tree : FileTree) (path : Text) : Bool :=
  match Loader.filesAt tree e.settings.sizeLimit path with
  | .error (.malformed _) => true
  | _ => false

/-- Whether a path is left out: a lenient engine does so with bad ones. -/
def passesOver (e : Engine) (tree : FileTree) (path : Text) : Bool :=
  match e.settings.policy with
  | .strict => false
  | .lenient => e.isBad tree path

theorem isBad_iff :
    e.isBad tree path = true ↔
      ∃ fault, Loader.filesAt tree e.settings.sizeLimit path = .error (.malformed fault) := by
  unfold isBad
  split
  · rename_i fault h
    exact iff_of_true rfl ⟨fault, h⟩
  · rename_i other
    exact iff_of_false Bool.false_ne_true fun ⟨fault, h⟩ => other fault h

theorem passesOver_iff :
    e.passesOver tree path = true ↔ e.settings.policy = .lenient ∧ e.isBad tree path = true := by
  unfold passesOver
  cases e.settings.policy <;> simp

/-- A path that is passed over adds its name to those that are left out. -/
theorem loadPath_of_passesOver (before : Loaded) (h : e.passesOver tree path = true) :
    ∃ log, e.loadPath tree before path =
      .ok { before with skipped := before.skipped ++ [path], journal := log } := by
  obtain ⟨lenient, bad⟩ := passesOver_iff.mp h
  obtain ⟨fault, fails⟩ := isBad_iff.mp bad
  unfold Loader.filesAt Loader.complete at fails
  unfold loadPath
  rcases attempts : Loader.upToFailure (Loader.dexFilesOf tree e.settings.sizeLimit path) with
    ⟨found, _ | failure⟩
  · simp [attempts] at fails
  · obtain rfl : failure = .malformed fault := by simpa [attempts] using fails
    simp [enter, lenient]

/-- What is not passed over ends the run. -/
theorem enter_eq_error {before : Loaded} {name : Text} {files : List DexFile} {failure : Failure}
    (h : e.settings.policy = .lenient → ∀ fault, failure ≠ .malformed fault) :
    e.enter before name files (some failure) =
      .error { cause := failure, journal := before.journal } := by
  cases policy : e.settings.policy with
  | strict => cases failure <;> simp [enter, policy]
  | lenient =>
    cases failure with
    | malformed fault => exact absurd rfl (h policy fault)
    | _ => simp [enter]

/-- A path that is not passed over adds its dex files, all of them, or ends the run. -/
theorem loadPath_of_not_passesOver (before : Loaded) (h : ¬ e.passesOver tree path = true) :
    SideBySide (fun stopped failure => stopped.cause = failure)
      (fun after files => after.files = before.files ++ files ∧ after.skipped = before.skipped)
      (e.loadPath tree before path) (Loader.filesAt tree e.settings.sizeLimit path) := by
  rw [passesOver_iff, isBad_iff, not_and] at h
  unfold Loader.filesAt Loader.complete at h ⊢
  unfold loadPath
  rcases attempts : Loader.upToFailure (Loader.dexFilesOf tree e.settings.sizeLimit path) with
    ⟨found, _ | failure⟩
  · exact .values ⟨rfl, rfl⟩
  · have ends : e.settings.policy = .lenient → ∀ fault, failure ≠ .malformed fault := by
      rintro lenient fault rfl
      exact h lenient ⟨fault, by simp [attempts]⟩
    simp only [enter_eq_error ends]
    exact .failures rfl

/-- Going through some paths loads those that are not passed over. -/
theorem foldlM_loadPath (before : Loaded) :
    SideBySide (fun stopped failure => stopped.cause = failure)
      (fun after images => after.files = before.files ++ images.flatten ∧
        after.skipped = before.skipped ++ paths.filter (e.passesOver tree))
      (paths.foldlM (e.loadPath tree) before)
      ((paths.filter fun path => !e.passesOver tree path).mapM
        (Loader.filesAt tree e.settings.sizeLimit)) := by
  induction paths generalizing before with
  | nil => exact .values (by simp)
  | cons path rest ih =>
    rw [List.foldlM_cons]
    by_cases left : e.passesOver tree path = true
    · have kept : (path :: rest).filter (fun p => !e.passesOver tree p)
          = rest.filter fun p => !e.passesOver tree p := List.filter_cons_of_neg (by simp [left])
      have out : (path :: rest).filter (e.passesOver tree)
          = path :: rest.filter (e.passesOver tree) := List.filter_cons_of_pos left
      obtain ⟨log, entered⟩ := loadPath_of_passesOver before left
      rw [entered, kept, out]
      refine (ih _).imp (fun _ _ same => same) fun after images ⟨files, skipped⟩ => ⟨files, ?_⟩
      rw [skipped, List.append_assoc, List.singleton_append]
    · have kept : (path :: rest).filter (fun p => !e.passesOver tree p)
          = path :: rest.filter fun p => !e.passesOver tree p :=
        List.filter_cons_of_pos (by simp [left])
      have out : (path :: rest).filter (e.passesOver tree)
          = rest.filter (e.passesOver tree) := List.filter_cons_of_neg left
      rw [kept, out, List.mapM_cons]
      refine (loadPath_of_not_passesOver before left).bind fun next files ⟨files', skipped'⟩ => ?_
      -- the images of this path come before those of the others
      rw [← bind_pure (rest.foldlM (e.loadPath tree) next)]
      refine (ih next).bind fun after images ⟨later, others⟩ => .values ⟨?_, ?_⟩
      · rw [later, files', List.flatten_cons, List.append_assoc]
      · rw [others, skipped']

theorem settle_fst {answer : Except Stopped Loaded} :
    (settle answer).1 = answer.mapError Stopped.cause := by
  cases answer <;> rfl

/-- Loading some paths, the journal put aside. -/
theorem loadPaths_fst :
    (e.loadPaths tree paths journal).1 =
      (paths.foldlM (e.loadPath tree) { journal := { journal with operation := some .load } }
        ).mapError Stopped.cause :=
  settle_fst

/-- **Loading in full.**  What is loaded from some paths are the dex files of those that are not
passed over, all of them and in order; the others are left out. -/
theorem loadPaths_sideBySide (e : Engine) (tree : FileTree) (paths : List Text)
    (journal : Journal) :
    SideBySide Eq
      (fun loaded images => loaded.files = images.flatten ∧
        loaded.skipped = paths.filter (e.passesOver tree))
      (e.loadPaths tree paths journal).1
      ((paths.filter fun path => !e.passesOver tree path).mapM
        (Loader.filesAt tree e.settings.sizeLimit)) := by
  rw [loadPaths_fst]
  exact (foldlM_loadPath
    { journal := { journal with operation := some .load } }).mapError_left

/-! ## Runs -/

/-- A run that fails to load fails. -/
theorem discover_of_error (h : (e.loadPaths tree paths journal).1 = .error failure) :
    (e.discover tree paths journal).1 = .error failure := by
  unfold discover
  rcases load : e.loadPaths tree paths journal with ⟨cause | loaded, log⟩
  · obtain rfl : cause = failure := by simpa [load] using h
    rfl
  · simp [load] at h

/-- The files of a result are those that have been loaded. -/
theorem exists_loaded_of_discover (h : (e.discover tree paths journal).1 = .ok d) :
    ∃ loaded, (e.loadPaths tree paths journal).1 = .ok loaded ∧
      d.files = loaded.files.map DexFile.summary := by
  unfold discover at h
  rcases load : e.loadPaths tree paths journal with ⟨_ | loaded, log⟩
  · simp [load, afterLoading] at h
  · rw [load, afterLoading, searchLoaded_fst] at h
    obtain ⟨c, _, made⟩ := bind_eq_ok.mp h
    rw [check_result] at made
    split at made
    · exact absurd made (by simp)
    · obtain rfl := Except.ok.inj made
      exact ⟨loaded, rfl, rfl⟩

end Engine

end DexDiscovery
