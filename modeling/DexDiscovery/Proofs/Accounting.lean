import DexDiscovery.Proofs.CodePointOrder
import DexDiscovery.Proofs.Policies
import Mathlib.Data.List.Nodup

/-!
# Accounting for every buffer

A buffer is named by its place, and no two places have the same name (`bufferName_injective`).  When
a discovery returns, each of these names is found once: in the files of the result if the buffer
could be read, and at the beginning of the skipped names if it could not (`files_with_unreadable`).
What is skipped besides are files that a scan found malformed, in the order of these scans.  A
search drops a file at most once, so no name is skipped twice.

`Accounts` collects what a result says about its inputs, together with the order of its lists, and
`accounts_of_discoverBuffers` shows that every result does.
-/

namespace DexDiscovery

/-! ## Names of places -/

theorem CodePoint.ofChar_injective : Function.Injective CodePoint.ofChar := by
  intro c c' same
  exact Char.toNat_inj.mp (congrArg (fun p : CodePoint => p.val) same)

/-- Different numbers are written differently. -/
theorem Text.ofNat_injective : Function.Injective Text.ofNat := by
  intro n m same
  have digits : Nat.toDigits 10 n = Nat.toDigits 10 m :=
    List.map_injective_iff.mpr CodePoint.ofChar_injective same
  rw [← Nat.ofDigitChars_ten_toDigits (n := n), digits, Nat.ofDigitChars_ten_toDigits]

/-- A dex file has the name that it is read under. -/
theorem DexFile.name_of_ofBytes {name : Text} {b : Bytes} {f : DexFile}
    (h : DexFile.ofBytes name b = .ok f) : f.name = name := by
  obtain ⟨header, _, h⟩ := bind_eq_ok.mp h
  split at h
  · exact (congrArg DexFile.name (pure_eq_ok.mp h)).symm
  · exact absurd h (by simp [throw, throwThe, MonadExceptOf.throw])

namespace Search

variable {search : Search} {bases : DescriptorSet} {files : List DexFile} {journal : Journal}
  {c : Closure} (h : (search.run bases files journal).1 = .ok c)
include h

/-- What a search has skipped are the files whose scans failed. -/
theorem skipped_eq_dropped : c.skipped = Visit.dropped (search.visits bases files journal) := by
  simpa [opening, Closure.start] using (advances h).skipped

/-- What is known in the end and was not at first is a class of a file. -/
theorem exists_class_of_known {t : Text} (known : t ∈ c.known) (new : t ∉ bases) :
    ∃ f ∈ files, ∃ cls ∈ f.image.classes, f.image.descriptorOf cls = .ok t := by
  have found : t ∈ Members c.known := known
  rw [(advances h).known] at found
  rcases found with base | ⟨v, hv, m, hm, rfl⟩
  · exact absurd base new
  · obtain ⟨mem, answer⟩ := mem_visits hv
    obtain ⟨cls, descriptor⟩ := Visit.descriptor_eq answer m hm
    exact ⟨v.file, mem, m.classDef, cls, descriptor⟩

end Search

namespace Engine

variable {e : Engine} {buffers : List Bytes} {journal : Journal} {loaded : Loaded} {d : Discovery}
  {c : Closure}

/-- Different places have different names. -/
theorem bufferName_injective : Function.Injective bufferName := by
  intro i j same
  unfold bufferName at same
  exact Text.ofNat_injective (List.append_cancel_left (List.append_cancel_right same))

/-! ## Buffers with and without a dex file -/

/-- A buffer, given with its place, holds a dex file. -/
def isReadable (buffer : Bytes × Nat) : Bool :=
  (DexFile.ofBytes (bufferName buffer.2) buffer.1).isOk

/-- There is one dex file for each buffer that holds one, in order. -/
theorem forall₂_filesOf :
    List.Forall₂ (fun b f => DexFile.ofBytes (bufferName b.2) b.1 = .ok f)
      (buffers.zipIdx.filter isReadable) (filesOf buffers) := by
  unfold filesOf
  induction buffers.zipIdx with
  | nil => exact .nil
  | cons b rest ih =>
    cases read : DexFile.ofBytes (bufferName b.2) b.1 with
    | ok f =>
      rw [List.filter_cons_of_pos (by simp [isReadable, read, Except.isOk, Except.toBool]),
        List.filterMap_cons_some (b := f) (by simp [read, Except.toOption])]
      exact .cons read ih
    | error error =>
      rw [List.filter_cons_of_neg (by simp [isReadable, read, Except.isOk, Except.toBool]),
        List.filterMap_cons_none (by simp [read, Except.toOption])]
      exact ih

/-- The files have the names of their places. -/
theorem map_name_filesOf :
    (filesOf buffers).map DexFile.name =
      (buffers.zipIdx.filter isReadable).map fun b => bufferName b.2 := by
  rw [← List.forall₂_eq_eq_eq, List.forall₂_map_left_iff, List.forall₂_map_right_iff]
  exact forall₂_filesOf.flip.imp fun f b read => DexFile.name_of_ofBytes read

/-- The names of the files and of the buffers without one are the names of all places. -/
theorem files_with_unreadable :
    ((filesOf buffers).map DexFile.name ++ unreadable buffers).Perm
      ((List.range buffers.length).map bufferName) := by
  have places : buffers.zipIdx.map (fun b => bufferName b.2) =
      (List.range buffers.length).map bufferName := by
    rw [List.range_eq_range', ← List.zipIdx_map_snd, List.map_map]
    rfl
  rw [map_name_filesOf, ← places]
  have split := (List.filter_append_perm isReadable buffers.zipIdx).map fun b => bufferName b.2
  rw [List.map_append] at split
  exact split

/-- No name is given twice. -/
theorem nodup_files_unreadable :
    ((filesOf buffers).map DexFile.name ++ unreadable buffers).Nodup :=
  files_with_unreadable.nodup_iff.mpr (List.Nodup.map bufferName_injective List.nodup_range)

/-! ## What a result says -/

/-- A result **accounts** for the buffers: what it says about each of them, with the scans of its
search. -/
structure Accounts (e : Engine) (buffers : List Bytes) (scans : List Visit) (d : Discovery) :
    Prop where
  /-- The files are the summaries of the dex files in the buffers that hold one, in order. -/
  files : List.Forall₂ (fun b s => ∃ f, DexFile.ofBytes (bufferName b.2) b.1 = .ok f ∧
    s = f.summary ∧ s.name = bufferName b.2) (buffers.zipIdx.filter isReadable) d.files
  /-- Skipped are the buffers that hold none, and then files in the order of their failed scans. -/
  skipped : d.skipped = unreadable buffers ++ (Visit.dropped scans).map DexFile.name
  /-- The files whose scans failed have been loaded. -/
  loaded : ∀ f ∈ Visit.dropped scans, f ∈ filesOf buffers
  /-- Nothing is skipped twice. -/
  once : d.skipped.Nodup
  /-- A strict engine skips nothing. -/
  strict : e.settings.policy = .strict → d.skipped = []
  /-- Every buffer is among the files, or is one that holds none. -/
  places : (d.files.map Summary.name ++ unreadable buffers).Perm
    ((List.range buffers.length).map bufferName)
  /-- The tests are in strictly ascending order. -/
  tests : d.tests.Pairwise Text.Before
  /-- The test classes are in strictly ascending order. -/
  testClasses : d.testClasses.Pairwise Text.Before
  /-- No test class is a base class, be it one of the platform or a further one. -/
  notBases : ∀ t ∈ d.testClasses, t ∉ Closure.platformBases ∧
    t ∉ e.settings.extraBases.map ClassName.toDescriptor
  /-- Every test class is a class of a file that has been loaded. -/
  classes : ∀ t ∈ d.testClasses, ∃ f ∈ filesOf buffers, ∃ cls ∈ f.image.classes,
    f.image.descriptorOf cls = .ok t

/-- The members of a set that is made from a list. -/
theorem mem_descriptorSet {t : Text} {descriptors : List Text} :
    t ∈ Closure.descriptorSet descriptors ↔ t ∈ descriptors := by
  have members : Members (Closure.descriptorSet descriptors) = _ := Closure.members_foldl_insert
  rw [← mem_members, members]
  simp [Members]

theorem mem_bases {t : Text} :
    t ∈ e.bases ↔ t ∈ Closure.platformBases ∨
      t ∈ e.settings.extraBases.map ClassName.toDescriptor := by
  rw [bases, mem_descriptorSet, List.mem_append]

section
variable (h : (e.search.run e.bases loaded.files journal).1 = .ok c)
include h

/-- No name is skipped twice, be it while buffers are loaded or while their files are searched. -/
theorem nodup_skipped (files : loaded.files = filesOf buffers) :
    (unreadable buffers ++ c.skipped.map DexFile.name).Nodup := by
  have parts : ((c.working ++ c.skipped).map DexFile.name).Perm
      ((filesOf buffers).map DexFile.name) :=
    files ▸ (Search.working_append_skipped_perm h).map DexFile.name
  have nodup : ((c.working ++ c.skipped).map DexFile.name ++ unreadable buffers).Nodup :=
    (parts.append_right _).nodup_iff.mpr nodup_files_unreadable
  -- the files that are still searched come first, and are not needed
  rw [List.map_append, List.append_assoc] at nodup
  exact List.perm_append_comm.nodup_iff.mp nodup.of_append_right

end

/-- A strict engine skips nothing. -/
theorem skipped_of_strict (strict : e.settings.policy = .strict)
    (h : (e.discoverBuffers buffers journal).1 = .ok d) : d.skipped = [] := by
  have same : e.withPolicy .strict = e := by
    obtain ⟨settings, _⟩ := e
    obtain ⟨_, _, policy, _⟩ := settings
    obtain rfl : policy = .strict := strict
    rfl
  rw [← same] at h
  exact (discoverBuffers_strict_iff.mp (Prod.ext h rfl)).2

/-- **Accounting for every buffer.**  A result of a discovery in buffers accounts for all of them,
with the scans of the dex files that they hold. -/
theorem accounts_of_discoverBuffers (e : Engine) (buffers : List Bytes) (journal : Journal)
    (d : Discovery) (h : (e.discoverBuffers buffers journal).1 = .ok d) :
    ∃ loaded, (e.loadBuffers buffers journal).1 = .ok loaded ∧
      Accounts e buffers
        (e.search.visits e.bases loaded.files (loaded.journal.note .closureStarted)) d := by
  have strict := fun strict => skipped_of_strict strict h
  obtain ⟨loaded, c, load, run, rfl⟩ := exists_result_of_discoverBuffers h
  obtain ⟨files, skipped⟩ := files_of_loaded load
  have dropped := Search.skipped_eq_dropped run
  have names : (e.result loaded c).files.map Summary.name =
      (filesOf buffers).map DexFile.name := by
    rw [result, List.map_map, files]
    rfl
  have new {t : Text} (mem : t ∈ (e.result loaded c).testClasses) :
      t ∈ c.known ∧ t ∉ e.bases := by
    obtain ⟨known, new⟩ := List.mem_filter.mp mem
    exact ⟨Std.TreeSet.mem_toList.mp known, of_decide_eq_true new⟩
  refine ⟨loaded, load, ?_⟩
  exact {
    files := by
      rw [result, files, List.forall₂_map_right_iff]
      exact forall₂_filesOf.imp fun b f read => ⟨f, read, rfl, DexFile.name_of_ofBytes read⟩
    skipped := by rw [result, skipped, dropped]
    loaded := by
      intro f mem
      rw [← dropped] at mem
      exact files ▸ (Search.working_append_skipped_perm run).subset (List.mem_append_right _ mem)
    once := by
      rw [result, skipped]
      exact nodup_skipped run files
    strict := strict
    places := by
      rw [names]
      exact files_with_unreadable
    tests := pairwise_before_toList c.tests
    testClasses := (pairwise_before_toList c.known).sublist List.filter_sublist
    notBases := fun t mem => not_or.mp (mt mem_bases.mpr (new mem).2)
    classes := fun t mem => files ▸ Search.exists_class_of_known run (new mem).1 (new mem).2 }

/-- Of three buffers one holds no dex file, and one holds a dex file whose scan fails.  Both are
skipped, once each, in this order. -/
theorem accounts_for_mixed :
    ∃ (d : Discovery) (loaded : Loaded),
      ((Sample.engine .lenient).discoverBuffers Sample.mixed {}).1 = .ok d ∧
      d.skipped = [("<memory:1>" : Text), "<memory:0>"] ∧
        Accounts (Sample.engine .lenient) Sample.mixed
          ((Sample.engine .lenient).search.visits (Sample.engine .lenient).bases loaded.files
            (loaded.journal.note .closureStarted)) d := by
  obtain ⟨d, returns, _, skipped⟩ := Sample.exists_run_of_mixed
  obtain ⟨loaded, _, accounts⟩ :=
    accounts_of_discoverBuffers (Sample.engine .lenient) Sample.mixed {} d returns
  exact ⟨d, loaded, returns, skipped, accounts⟩

end Engine

end DexDiscovery
