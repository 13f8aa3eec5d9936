import DexDiscovery.Proofs.ArchiveFaults
import DexDiscovery.Proofs.BadPaths

/-!
# What is not taken for a fault

Whatever a file holds, loading should end with its images or with a fault of the file, so that a
lenient run can pass over it.  That is so for files of any size and of any kind but for one: an
archive that is odd, which is not reported as damage, ends the run.  An encrypted entry is enough
(`not_all_faults`).

`Escapes` says which archives do so: the reason lies in the directory, in the number of an image, or
in the first entry that cannot be read.  `regular_files_outcome` shows that nothing else does, and
that a lenient run gets through loading if and only if no path leads to such an archive.
-/

namespace DexDiscovery

namespace Loader

variable {β : Type} {use : Source → Except Failure β} {tree : FileTree} {limit : SizeLimit}
  {path name : Text} {content : Bytes} {offsetLimit : Nat} {failure : Failure}

/-- Something is done with each image of an archive, and this ends with a failure that is not taken
for a fault. -/
inductive Escapes (use : Source → Except Failure β) (offsetLimit : Nat) (name : Text)
    (content : Bytes) : Failure → Prop where
  /-- The directory is odd. -/
  | directory {error : Archive.Error} {record : Archive.EndRecord}
      (unread : Archive.ofBytes offsetLimit content = .error error)
      (found : Archive.endRecord content = .ok record)
      (odd : Archive.OddDirectory content record error) :
      Escapes use offsetLimit name content (archiveFailure name error)
  /-- The number of an image has too many digits. -/
  | number {archive : Archive} {digits : Text}
      (read : Archive.ofBytes offsetLimit content = .ok archive)
      (first : (archive.names.filterMap entryDigits?).find? (digitLimit < ·.length) = some digits) :
      Escapes use offsetLimit name content (.numberTooLong digits.length)
  /-- An entry is odd, and its turn comes: those before it can be read, and their images are
  accepted. -/
  | entry {archive : Archive} {before after : List Text} {entry : Text} {error : Archive.Error}
      {listing : Archive.Entry} {place : Nat}
      (read : Archive.ofBytes offsetLimit content = .ok archive)
      (ordered : imageEntries archive.names = .ok (before ++ entry :: after))
      (accepted : ∀ earlier ∈ before, ∃ bytes, archive.content earlier = .ok bytes ∧
        ∃ b, use { name := name ++ .exclamation :: earlier, bytes } = .ok b)
      (unread : archive.content entry = .error error)
      (listed : archive.find? entry = some (listing, place))
      (odd : Archive.OddEntry archive listing error) :
      Escapes use offsetLimit name content (archiveFailure name error)

/-- What a path leads to is an archive that is not too large, from which a failure escapes. -/
def EscapesAt (use : Source → Except Failure β) (tree : FileTree) (limit : SizeLimit) (path : Text)
    (failure : Failure) : Prop :=
  ∃ content, tree.find (Path.shown path) = .ok (.file content) ∧
    limit.admits content.size = true ∧ FileKind.ofBytes content = .archive ∧
      Escapes use tree.offsetLimit (Path.shown path) content failure

theorem archiveFailure_ne_malformed {error : Archive.Error} (other : error ≠ .corrupt)
    (fault : InputFault) : archiveFailure name error ≠ .malformed fault := by
  cases error with
  | corrupt => exact absurd rfl other
  | _ => simp [archiveFailure]

/-- An earlier entry is accepted if its image can be read and is accepted. -/
theorem exists_use_entryImage {archive : Archive} {entry : Text} :
    (∃ b, (entryImage name archive entry).bind use = .ok b) ↔
      ∃ bytes, archive.content entry = .ok bytes ∧
        ∃ b, use { name := name ++ .exclamation :: entry, bytes } = .ok b := by
  constructor
  · rintro ⟨b, h⟩
    obtain ⟨source, image, used⟩ := bind_eq_ok.mp h
    obtain ⟨bytes, content, rfl⟩ := entryImage_eq_ok.mp image
    exact ⟨bytes, content, b, used⟩
  · rintro ⟨bytes, content, b, used⟩
    have image : entryImage name archive entry =
        .ok { name := name ++ .exclamation :: entry, bytes } :=
      entryImage_eq_ok.mpr ⟨bytes, content, rfl⟩
    exact ⟨b, bind_eq_ok.mpr ⟨_, image, used⟩⟩

section
variable (faults : ∀ source failure, use source = .error failure →
  ∃ fault, failure = .malformed fault)
include faults

/-- What ends the use of an opened archive is a fault, or an entry is odd. -/
theorem escapes_of_entries {archive : Archive} {entries : List Text}
    (opened : openArchive offsetLimit name content = .ok (archive, entries))
    (h : (entries.mapM fun entry => (entryImage name archive entry).bind use) = .error failure)
    (other : ∀ fault, failure ≠ .malformed fault) :
    Escapes use offsetLimit name content failure := by
  obtain ⟨read, ordered, _⟩ := openArchive_eq_ok.mp opened
  -- the first entry that fails: those before it were read and used, so its turn has come
  obtain ⟨before, entry, after, found, rfl, passed, fails⟩ := mapM_eq_error.mp h
  have accepted : ∀ earlier ∈ before, ∃ bytes, archive.content earlier = .ok bytes ∧
      ∃ b, use { name := name ++ .exclamation :: earlier, bytes } = .ok b := by
    intro earlier mem
    exact exists_use_entryImage.mp (exists_mapM_eq_ok_iff.mp ⟨found, passed⟩ earlier mem)
  rcases bind_eq_error.mp fails with unread | ⟨source, _, refused⟩
  · obtain ⟨error, lost, rfl⟩ := entryImage_eq_error.mp unread
    rcases Archive.corrupt_or_odd_of_content lost with rfl | ⟨listing, place, listed, odd⟩
    · exact absurd rfl (other _)
    · exact .entry read ordered accepted lost listed odd
  · obtain ⟨fault, rfl⟩ := faults source failure refused
    exact absurd rfl (other fault)

/-- What ends the use of an archive is a fault, or it escapes. -/
theorem escapes_of_archive
    (h : (openArchive offsetLimit name content >>= fun opened =>
      opened.2.mapM fun entry => (entryImage name opened.1 entry).bind use) = .error failure)
    (other : ∀ fault, failure ≠ .malformed fault) :
    Escapes use offsetLimit name content failure := by
  rcases bind_eq_error.mp h with closed | ⟨⟨archive, entries⟩, opened, h⟩
  · rcases openArchive_eq_error.mp closed with
      ⟨error, unread, rfl⟩ | ⟨archive, read, disorder | ⟨_, rfl⟩⟩
    · rcases Archive.corrupt_or_odd_of_ofBytes unread with rfl | ⟨record, found, odd⟩
      · exact absurd rfl (other _)
      · exact .directory unread found odd
    · obtain ⟨digits, first, rfl⟩ := imageEntries_eq_error.mp disorder
      exact .number read first
    · exact absurd rfl (other _)
  · exact escapes_of_entries faults opened h other

end

/-- A failure that escapes ends the use of the archive, and is not a fault. -/
theorem archive_of_escapes (h : Escapes use offsetLimit name content failure) :
    (openArchive offsetLimit name content >>= fun opened =>
      opened.2.mapM fun entry => (entryImage name opened.1 entry).bind use) = .error failure ∧
      ∀ fault, failure ≠ .malformed fault := by
  rw [bind_eq_error]
  cases h with
  | directory unread found odd =>
    refine ⟨.inl (openArchive_eq_error.mpr (.inl ⟨_, unread, rfl⟩)), ?_⟩
    exact archiveFailure_ne_malformed odd.ne_corrupt
  | number read first =>
    have disorder := imageEntries_eq_error.mpr ⟨_, first, rfl⟩
    exact ⟨.inl (openArchive_eq_error.mpr (.inr ⟨_, read, .inl disorder⟩)), by simp⟩
  | entry read ordered accepted unread listed odd =>
    refine ⟨.inr ⟨_, openArchive_eq_ok.mpr ⟨read, ordered, by simp⟩, ?_⟩,
      archiveFailure_ne_malformed odd.ne_corrupt⟩
    obtain ⟨found, passed⟩ := exists_mapM_eq_ok_iff.mpr fun earlier mem =>
      exists_use_entryImage.mpr (accepted earlier mem)
    refine mapM_eq_error.mpr ⟨_, _, _, found, rfl, passed, bind_eq_error.mpr (.inl ?_)⟩
    exact entryImage_eq_error.mpr ⟨_, unread, rfl⟩

/-- **What escapes.**  The use of the images of a regular file ends with a failure that is not a
fault if and only if the file is an archive from which the failure escapes. -/
theorem escapesAt_iff
    (faults : ∀ source failure, use source = .error failure → ∃ fault, failure = .malformed fault)
    (found : tree.find (Path.shown path) = .ok (.file content)) :
    ((imagesOf tree limit path).mapM fun attempt => attempt.bind use) = .error failure ∧
        (∀ fault, failure ≠ .malformed fault) ↔
      EscapesAt use tree limit path failure := by
  rw [imagesOf_of_find found, mapM_nodeImages]
  constructor
  · rintro ⟨h, other⟩
    split at h
    · exact absurd (Except.error.inj h).symm (other _)
    · rename_i admits
      split at h
      · obtain ⟨fault, rfl⟩ := faults _ _ (map_eq_error.mp h)
        exact absurd rfl (other fault)
      · rename_i kind
        exact ⟨content, found, not_not.mp admits, kind, escapes_of_archive faults h other⟩
      · exact absurd (Except.error.inj h).symm (other _)
  · rintro ⟨content', found', admits, kind, escapes⟩
    obtain rfl : content = content' := by simpa using found.symm.trans found'
    rw [if_neg (not_not_intro admits), kind]
    exact archive_of_escapes escapes

/-! ## What is done with the images -/

theorem fault_of_toDexFile (source : Source) (failure : Failure)
    (h : source.toDexFile = .error failure) : ∃ fault, failure = .malformed fault := by
  obtain ⟨error, _, rfl⟩ := mapError_eq_error.mp h
  exact ⟨_, rfl⟩

/-- Going through the images of a file to the end. -/
theorem complete_imagesOf :
    complete (imagesOf tree limit path) =
      (imagesOf tree limit path).mapM fun attempt => attempt.bind .ok := by
  have same : (fun attempt : Except Failure Source => attempt.bind Except.ok) = id := by
    funext attempt
    cases attempt <;> rfl
  rw [complete_eq_mapM, same]

end Loader

namespace Sample

/-- An archive with an encrypted entry, and a bare image. -/
def vault : FileTree where
  files := [
    ([("secret.apk" : Text)], archive [{ name := "classes.dex", content := #[], flags := 1 }]),
    ([("bare.dex" : Text)], dex "LA;" "testX")]

theorem complete_of_secret :
    Loader.complete (Loader.imagesOf vault SizeLimit.default "secret.apk")
      = .error .encryptedEntry := by
  decide +kernel

theorem loadPaths_of_secret :
    ((engine .lenient).loadPaths vault [("secret.apk" : Text), "bare.dex"] {}).1
      = .error .encryptedEntry := by
  decide +kernel

end Sample

namespace Engine

open Loader

variable {e : Engine} {tree : FileTree} {paths : List Text} {path : Text} {journal : Journal}
  {failure : Failure}

/-- A failure escapes from a regular file if it ends loading the file and the file is not bad. -/
theorem escapesAt_iff_of_regular
    (regular : ∃ content, tree.find (Path.shown path) = .ok (.file content)) :
    EscapesAt Source.toDexFile tree e.settings.sizeLimit path failure ↔
      e.isBad tree path = false ∧
        filesAt tree e.settings.sizeLimit path = .error failure := by
  obtain ⟨content, found⟩ := regular
  rw [← escapesAt_iff fault_of_toDexFile found, ← filesAt_eq_mapM, Bool.eq_false_iff, ne_eq,
    isBad_iff]
  constructor
  · rintro ⟨fails, other⟩
    refine ⟨?_, fails⟩
    rintro ⟨fault, bad⟩
    exact other fault (Except.error.inj (fails.symm.trans bad))
  · rintro ⟨good, fails⟩
    refine ⟨fails, ?_⟩
    rintro fault rfl
    exact good ⟨fault, fails⟩

section
variable (lenient : e.settings.policy = .lenient)
  (regular : ∀ path ∈ paths, ∃ content, tree.find (Path.shown path) = .ok (.file content))
include lenient regular

/-- A lenient run over regular files gets through loading if and only if no failure escapes. -/
theorem exists_loaded_iff_of_regular :
    (∃ loaded, (e.loadPaths tree paths journal).1 = .ok loaded) ↔
      ∀ path ∈ paths, ∀ failure,
        ¬ EscapesAt Source.toDexFile tree e.settings.sizeLimit path failure := by
  rw [(loadPaths_of_lenient lenient tree paths journal).exists_ok_iff, exists_mapM_eq_ok_iff]
  simp only [goodPaths, List.mem_filter, Bool.not_eq_true', and_imp]
  refine forall₂_congr fun path mem => ?_
  simp only [escapesAt_iff_of_regular (regular path mem), not_and, DexDiscovery.exists_ok_iff]
  exact forall_comm

/-- What ends loading regular files in a lenient run has escaped from one of them. -/
theorem exists_escapesAt_of_error (h : (e.loadPaths tree paths journal).1 = .error failure) :
    ∃ path ∈ paths, EscapesAt Source.toDexFile tree e.settings.sizeLimit path failure := by
  obtain ⟨_, fails, rfl⟩ := (loadPaths_of_lenient lenient tree paths journal).of_error h
  obtain ⟨path, good, fails⟩ := exists_of_mapM_eq_error fails
  obtain ⟨mem, good⟩ := List.mem_filter.mp good
  exact ⟨path, mem, (escapesAt_iff_of_regular (regular path mem)).mpr ⟨by simpa using good, fails⟩⟩

end

/-- **What ends a run over regular files.**  Going through the images of a regular file ends with
all of them, with a fault, or with a failure that escapes, and nothing escapes but what `EscapesAt`
says.  A lenient run gets through loading if and only if no failure escapes from a file while it is
loaded.  It then has skipped the bad paths, in order; otherwise one of these failures ends it. -/
theorem regular_files_outcome (tree : FileTree) (paths : List Text)
    (regular : ∀ path ∈ paths, ∃ content, tree.find (Path.shown path) = .ok (.file content)) :
    (∀ path ∈ paths, ∀ limit failure,
        complete (imagesOf tree limit path) = .error failure ∧
            (∀ fault, failure ≠ .malformed fault) ↔
          EscapesAt .ok tree limit path failure) ∧
      ∀ (e : Engine) (journal : Journal), e.settings.policy = .lenient →
        ((∃ loaded, (e.loadPaths tree paths journal).1 = .ok loaded) ↔
          ∀ path ∈ paths, ∀ failure,
            ¬ EscapesAt Source.toDexFile tree e.settings.sizeLimit path failure) ∧
        (∀ loaded, (e.loadPaths tree paths journal).1 = .ok loaded →
          loaded.skipped = e.badPaths tree paths) ∧
        ∀ failure, (e.loadPaths tree paths journal).1 = .error failure →
          ∃ path ∈ paths,
            EscapesAt Source.toDexFile tree e.settings.sizeLimit path failure := by
  refine ⟨fun path mem limit failure => ?_,
    fun e journal lenient => ⟨?_, fun loaded load => ?_, ?_⟩⟩
  · obtain ⟨content, found⟩ := regular path mem
    rw [complete_imagesOf]
    exact escapesAt_iff (fun _ _ h => absurd h (by simp)) found
  · exact exists_loaded_iff_of_regular lenient regular
  · obtain ⟨images, _, _, skipped⟩ := (loadPaths_of_lenient lenient tree paths journal).of_ok load
    exact skipped
  · exact fun failure h => exists_escapesAt_of_error lenient regular h

/-- An encrypted entry escapes. -/
theorem escapesAt_of_encrypted :
    (∃ content, Sample.vault.find "secret.apk" = .ok (.file content)) ∧
      EscapesAt .ok Sample.vault SizeLimit.default "secret.apk" .encryptedEntry := by
  have found : ∃ content, Sample.vault.find "secret.apk" = .ok (.file content) := ⟨_, rfl⟩
  have regular : ∀ path ∈ [("secret.apk" : Text)],
      ∃ content, Sample.vault.find (Path.shown path) = .ok (.file content) := by
    intro path mem
    obtain rfl := List.mem_singleton.mp mem
    exact found
  obtain ⟨outcome, _⟩ := regular_files_outcome Sample.vault [("secret.apk" : Text)] regular
  refine ⟨found, (outcome _ (List.mem_singleton_self _) _ _).mp ?_⟩
  exact ⟨Sample.complete_of_secret, by simp⟩

/-- **An encrypted entry is not taken for a fault.**  Neither ends going through the images of a
regular file with all of them or with a fault, nor does a lenient run get through loading whatever
its files hold. -/
theorem not_all_faults :
    (¬ ∀ (tree : FileTree) (limit : SizeLimit) (path : Text) (content : Bytes),
        tree.find (Path.shown path) = .ok (.file content) →
          (∃ images, complete (imagesOf tree limit path) = .ok images) ∨
            ∃ fault, complete (imagesOf tree limit path) = .error (.malformed fault)) ∧
      ¬ ∀ (e : Engine) (tree : FileTree) (paths : List Text) (journal : Journal),
        e.settings.policy = .lenient →
          (∀ path ∈ paths, ∃ content, tree.find (Path.shown path) = .ok (.file content)) →
            ∃ loaded, (e.loadPaths tree paths journal).1 = .ok loaded := by
  constructor
  · intro contract
    rcases contract Sample.vault SizeLimit.default "secret.apk" _ rfl with
      ⟨images, complete⟩ | ⟨fault, complete⟩
    · exact absurd (complete.symm.trans Sample.complete_of_secret) (by simp)
    · exact absurd (complete.symm.trans Sample.complete_of_secret) (by simp)
  · intro contract
    have regular : ∀ path ∈ [("secret.apk" : Text), "bare.dex"],
        ∃ content, Sample.vault.find (Path.shown path) = .ok (.file content) := by
      simp only [List.mem_cons, List.not_mem_nil, or_false, forall_eq_or_imp, forall_eq]
      exact ⟨⟨_, rfl⟩, ⟨_, rfl⟩⟩
    obtain ⟨loaded, load⟩ := contract (Sample.engine .lenient) Sample.vault
      [("secret.apk" : Text), "bare.dex"] {} rfl regular
    exact absurd (load.symm.trans Sample.loadPaths_of_secret) (by simp)

end Engine

end DexDiscovery
