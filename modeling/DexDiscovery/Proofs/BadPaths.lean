import DexDiscovery.Proofs.ArchiveImages

/-!
# Bad paths are invisible

A lenient engine passes over a path whose file is at fault, and the rest of the run does not notice.
Loading some paths comes to loading those that are not bad, so a run over all paths and a run over
the others search the same files.  They end in the same result, but for the bad paths that the first
one reports (`discover_without_bad`).

A path is passed over as a whole: an archive with one image that cannot be read contributes none,
and a path that is not bad contributes all that its file holds.
-/

namespace DexDiscovery

namespace Sample

/-- An archive whose only image is empty, and a bare image. -/
def shelf : FileTree where
  files := [
    ([("damaged.apk" : Text)], archive [{ name := "classes.dex", content := #[] }]),
    ([("bare.dex" : Text)], dex "LA;" "testX")]

/-- The paths of both. -/
def shelfPaths : List Text := ["damaged.apk", "bare.dex"]

end Sample

namespace Engine

variable {e : Engine} {tree : FileTree} {paths : List Text} {journal journal' : Journal}
  {d : Discovery}

/-- The paths whose files are not at fault. -/
def goodPaths (e : Engine) (tree : FileTree) (paths : List Text) : List Text :=
  paths.filter fun path => !e.isBad tree path

/-- The paths whose files are at fault. -/
def badPaths (e : Engine) (tree : FileTree) (paths : List Text) : List Text :=
  paths.filter (e.isBad tree)

theorem goodPaths_goodPaths :
    e.goodPaths tree (e.goodPaths tree paths) = e.goodPaths tree paths := by
  simp [goodPaths]

theorem badPaths_goodPaths : e.badPaths tree (e.goodPaths tree paths) = [] := by
  simp [goodPaths, badPaths]

section
variable (lenient : e.settings.policy = .lenient)
include lenient

/-- A lenient engine passes over the bad paths. -/
theorem passesOver_of_lenient : e.passesOver tree = e.isBad tree := by
  funext path
  simp [passesOver, lenient]

/-- What a lenient engine loads are the dex files of the good paths. -/
theorem loadPaths_of_lenient (tree : FileTree) (paths : List Text) (journal : Journal) :
    SideBySide Eq
      (fun loaded images => loaded.files = images.flatten ∧
        loaded.skipped = e.badPaths tree paths)
      (e.loadPaths tree paths journal).1
      ((e.goodPaths tree paths).mapM (Loader.filesAt tree e.settings.sizeLimit)) := by
  unfold goodPaths badPaths
  rw [← passesOver_of_lenient lenient]
  exact e.loadPaths_sideBySide tree paths journal

/-- Loading all paths and loading the good ones comes to the same, but for the bad paths. -/
theorem loadPaths_goodPaths :
    SideBySide Eq
      (fun loaded loaded' => loaded.files = loaded'.files ∧
        loaded.skipped = e.badPaths tree paths ∧ loaded'.skipped = [])
      (e.loadPaths tree paths journal).1
      (e.loadPaths tree (e.goodPaths tree paths) journal').1 := by
  have all := loadPaths_of_lenient lenient tree paths journal
  have good := loadPaths_of_lenient lenient tree (e.goodPaths tree paths) journal'
  rw [goodPaths_goodPaths, badPaths_goodPaths] at good
  -- both runs are compared with reading the good paths, and so with one another
  refine (all.join good).imp ?_ ?_
  · rintro _ _ ⟨failure, rfl, rfl⟩
    rfl
  · rintro loaded loaded' ⟨images, ⟨files, bad⟩, files', none⟩
    exact ⟨files.trans files'.symm, bad, none⟩

/-- The run over the good paths ends in the same result, but for the bad paths. -/
theorem discover_goodPaths :
    (e.discover tree paths journal).1 =
      (e.discover tree (e.goodPaths tree paths) journal').1.map fun d =>
        { d with skipped := e.badPaths tree paths ++ d.skipped } := by
  refine SideBySide.eq_map ?_
  refine (parallel_afterLoading (R := Eq) (fun _ => rfl) (fun _ _ => congrArg DexFile.image)
    (fun l l' h => List.forall₂_eq_eq_eq.symm ▸ h.1)
    (loadPaths_goodPaths lenient)).imp (fun _ _ => id) ?_
  rintro _ _ ⟨l, l', c, c', ⟨files, bad, none⟩, state, rfl, rfl⟩
  have skipped : c.skipped = c'.skipped := List.forall₂_eq_eq_eq ▸ state.skipped
  simp only [result, files, bad, none, skipped, state.tests, state.known, state.passes,
    List.nil_append]

end

/-- **Bad paths are invisible.**  A lenient run fails if and only if the run over the good paths
does, and for the same reason.  Otherwise both have the same result, but that the first also skips
the bad paths, before all others.  The files of the result are all the images that the files at the
good paths hold, in the order of the paths. -/
theorem discover_without_bad (e : Engine) (lenient : e.settings.policy = .lenient)
    (tree : FileTree) (paths : List Text) (journal journal' : Journal) :
    (e.discover tree paths journal).1 =
        (e.discover tree (e.goodPaths tree paths) journal').1.map (fun d =>
          { d with skipped := e.badPaths tree paths ++ d.skipped }) ∧
      ∀ d, (e.discover tree paths journal).1 = .ok d →
        ∃ images : List (List DexFile),
          List.Forall₂ (fun path files => ∃ content,
              tree.find (Path.shown path) = .ok (.file content) ∧
                Loader.HoldsFiles tree.offsetLimit (Path.shown path) content files)
            (e.goodPaths tree paths) images ∧
          d.files = images.flatten.map DexFile.summary := by
  refine ⟨discover_goodPaths lenient, fun d returns => ?_⟩
  obtain ⟨loaded, load, files⟩ := exists_loaded_of_discover returns
  obtain ⟨images, complete, all, _⟩ := (loadPaths_of_lenient lenient tree paths journal).of_ok load
  refine ⟨images, (mapM_eq_ok.mp complete).imp fun path files loaded => ?_, ?_⟩
  · exact Loader.holdsFiles_of_filesAt loaded
  · rw [files, all]

/-- The archive is skipped, and the bare image is searched as if the archive were not there. -/
theorem discover_without_damaged :
    (Sample.engine .lenient).badPaths Sample.shelf Sample.shelfPaths = [("damaged.apk" : Text)] ∧
      ∃ d, ((Sample.engine .lenient).discover Sample.shelf Sample.shelfPaths {}).1 = .ok d ∧
        d.tests = [("A#testX" : Text)] ∧ d.skipped = [("damaged.apk" : Text)] ∧
        d.files.map Summary.name = [("bare.dex" : Text)] := by
  have bad : (Sample.engine .lenient).badPaths Sample.shelf Sample.shelfPaths =
      [("damaged.apk" : Text)] := by
    decide +kernel
  have reduced : ((Sample.engine .lenient).discover Sample.shelf
      ((Sample.engine .lenient).goodPaths Sample.shelf Sample.shelfPaths) {}).1.toOption.map
        (fun d => (d.tests, d.skipped, d.files.map Summary.name)) =
      some ([("A#testX" : Text)], [], [("bare.dex" : Text)]) := by
    decide +kernel
  obtain ⟨d, returns, parts⟩ := exists_ok_of_toOption_map reduced
  simp only [Prod.mk.injEq] at parts
  obtain ⟨tests, skipped, names⟩ := parts
  obtain ⟨whole, _⟩ := discover_without_bad (Sample.engine .lenient) rfl Sample.shelf
    Sample.shelfPaths {} {}
  rw [returns, bad] at whole
  refine ⟨bad, _, whole, ?_, ?_, ?_⟩
  · exact tests
  · show [("damaged.apk" : Text)] ++ d.skipped = _
    rw [skipped, List.append_nil]
  · exact names

end Engine

end DexDiscovery
