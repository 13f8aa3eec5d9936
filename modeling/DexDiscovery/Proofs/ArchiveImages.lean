import DexDiscovery.Proofs.FileRuns
import DexDiscovery.Proofs.ImageEntries

/-!
# What a file holds

`HoldsFiles` says, without going through the file, which dex files it holds: a bare image is its
only one, and an archive holds those in its image entries, in the order of their numbers.  If all
images at a path can be loaded, they are exactly these (`holdsFiles_of_filesAt`).

What becomes of the images of a file depends on its size, its first bytes and, if it is an archive,
on its entries one after the other; `mapM_nodeImages` says so once, for whatever is done with each
image.
-/

namespace DexDiscovery

/-! ## Sample archives -/

namespace Sample

/-- Two bytes, the least significant first. -/
def half (n : Nat) : List UInt8 :=
  [n, n / 0x100].map UInt8.ofNat

/-- An entry of a sample archive, whose data are stored as they are.  Its name is ASCII. -/
structure Stored where
  name : Text
  content : Bytes
  flags : Nat := 0

namespace Stored

/-- The name of an entry, as it is written. -/
def nameBytes (e : Stored) : List UInt8 :=
  e.name.map fun c => UInt8.ofNat c.val

/-- What the header in front of the data and the directory both say of an entry. -/
def fields (e : Stored) : List UInt8 :=
  [20, e.flags, 0, 0, 0].flatMap half
    ++ [Crc32.checksum e.content, e.content.size, e.content.size].flatMap word
    ++ [e.name.length, 0].flatMap half

/-- The header of an entry, with its data. -/
def record (e : Stored) : List UInt8 :=
  Archive.headerMark ++ e.fields ++ e.nameBytes ++ e.content.toList

/-- What the directory says of an entry at an offset. -/
def listing (e : Stored) (offset : Nat) : List UInt8 :=
  Archive.directoryMark ++ half 20 ++ e.fields ++ [0, 0, 0].flatMap half
    ++ [0, offset].flatMap word ++ e.nameBytes

/-- The directory of some entries that stand in a row. -/
def listings : List Stored → (offset : Nat) → List UInt8
  | [], _ => []
  | e :: rest, offset => e.listing offset ++ listings rest (offset + e.record.length)

end Stored

/-- An archive of some entries. -/
def archive (entries : List Stored) : Bytes :=
  let data := entries.flatMap Stored.record
  let directory := Stored.listings entries 0
  let ending := Archive.endMark ++ [0, 0, entries.length, entries.length].flatMap half
    ++ [directory.length, data.length].flatMap word ++ half 0
  (data ++ directory ++ ending).toArray

end Sample

namespace Loader

variable {β : Type} {tree : FileTree} {limit : SizeLimit} {path name : Text} {content : Bytes}
  {offsetLimit : Nat} {archive : Archive} {entries : List Text} {files : List DexFile}

/-- The dex files that a file holds, if it can be read from any offset up to a limit. -/
inductive HoldsFiles (offsetLimit : Nat) (name : Text) (content : Bytes) : List DexFile → Prop where
  /-- A bare image is the only one. -/
  | bare {file : DexFile} (kind : FileKind.ofBytes content = .dex)
      (image : DexFile.ofBytes name content = .ok file) :
      HoldsFiles offsetLimit name content [file]
  /-- The images of an archive are those in its image entries, in ascending order. -/
  | archive {archive : Archive} {entries : List Text} {files : List DexFile}
      (kind : FileKind.ofBytes content = .archive)
      (read : Archive.ofBytes offsetLimit content = .ok archive)
      (all : entries.Perm (archive.names.filter isImageEntry)) (order : entries.Pairwise ImageLe)
      (images : List.Forall₂ (fun entry file => ∃ bytes, archive.content entry = .ok bytes ∧
        DexFile.ofBytes (name ++ .exclamation :: entry) bytes = .ok file) entries files) :
      HoldsFiles offsetLimit name content files

/-! ## Archives -/

/-- The archive that a file holds, with the names of its image entries in order. -/
def openArchive (offsetLimit : Nat) (name : Text) (content : Bytes) :
    Except Failure (Archive × List Text) := do
  let archive ← (Archive.ofBytes offsetLimit content).mapError (archiveFailure name)
  let entries ← imageEntries archive.names
  if entries = [] then throw (.malformed (.noImages name))
  return (archive, entries)

/-- The image in an entry of an archive. -/
def entryImage (name : Text) (archive : Archive) (entry : Text) : Except Failure Source :=
  ((archive.content entry).mapError (archiveFailure name)).map fun bytes =>
    { name := name ++ .exclamation :: entry, bytes }

/-- The images of an archive are those in its entries, if it can be opened. -/
theorem archiveImages_eq :
    archiveImages offsetLimit name content =
      match openArchive offsetLimit name content with
      | .error failure => [.error failure]
      | .ok (archive, entries) => entries.map (entryImage name archive) := rfl

/-- An archive that can be opened has image entries. -/
theorem openArchive_eq_ok :
    openArchive offsetLimit name content = .ok (archive, entries) ↔
      Archive.ofBytes offsetLimit content = .ok archive ∧ imageEntries archive.names = .ok entries ∧
        entries ≠ [] := by
  unfold openArchive
  simp only [bind_eq_ok, mapError_eq_ok]
  constructor
  · rintro ⟨a, read, es, ordered, h⟩
    split at h
    · exact absurd h (by simp [throw, throwThe, MonadExceptOf.throw])
    · rename_i some
      obtain ⟨rfl, rfl⟩ := Prod.mk.inj (pure_eq_ok.mp h)
      exact ⟨read, ordered, some⟩
  · rintro ⟨read, ordered, some⟩
    refine ⟨archive, read, entries, ordered, ?_⟩
    rw [if_neg some]
    rfl

/-- An archive cannot be opened if its directory or the numbers of its images cannot be read, or if
it holds no image. -/
theorem openArchive_eq_error {failure : Failure} :
    openArchive offsetLimit name content = .error failure ↔
      (∃ e, Archive.ofBytes offsetLimit content = .error e ∧ archiveFailure name e = failure) ∨
        ∃ archive, Archive.ofBytes offsetLimit content = .ok archive ∧
          (imageEntries archive.names = .error failure ∨
            imageEntries archive.names = .ok [] ∧ failure = .malformed (.noImages name)) := by
  unfold openArchive
  simp only [bind_eq_error, mapError_eq_error, mapError_eq_ok]
  refine or_congr_right (exists_congr fun archive => and_congr_right fun _ => or_congr_right ?_)
  constructor
  · rintro ⟨es, ordered, h⟩
    split at h
    · rename_i none
      exact ⟨none ▸ ordered, (Except.error.inj h).symm⟩
    · exact absurd h pure_ne_error
  · rintro ⟨ordered, rfl⟩
    exact ⟨[], ordered, rfl⟩

theorem entryImage_eq_ok {entry : Text} {source : Source} :
    entryImage name archive entry = .ok source ↔
      ∃ bytes, archive.content entry = .ok bytes ∧
        source = { name := name ++ .exclamation :: entry, bytes } := by
  rw [entryImage, map_eq_ok]
  exact exists_congr fun bytes => and_congr mapError_eq_ok eq_comm

theorem entryImage_eq_error {entry : Text} {failure : Failure} :
    entryImage name archive entry = .error failure ↔
      ∃ e, archive.content entry = .error e ∧ archiveFailure name e = failure := by
  rw [entryImage, map_eq_error, mapError_eq_error]

/-! ## Files -/

/-- Nothing is done where the only attempt has failed. -/
theorem mapM_failed {k : Source → Except Failure β} {failure : Failure} :
    [(.error failure : Except Failure Source)].mapM (fun attempt => attempt.bind k)
      = .error failure := rfl

/-- What becomes of the images of a file when something is done with each. -/
theorem mapM_nodeImages {k : Source → Except Failure β} :
    (nodeImages offsetLimit limit name (.file content)).mapM (fun attempt => attempt.bind k) =
      if ¬ limit.admits content.size then
        .error (.malformed (.tooLarge name content.size limit))
      else match FileKind.ofBytes content with
        | .dex => (k { name, bytes := content }).map fun b => [b]
        | .archive => openArchive offsetLimit name content >>= fun opened =>
            opened.2.mapM fun entry => (entryImage name opened.1 entry).bind k
        | .unknown => .error (.malformed (.unknownFormat name)) := by
  unfold nodeImages Node.size
  by_cases admits : limit.admits content.size = true
  · rw [if_neg (not_not_intro admits), if_neg (not_not_intro admits)]
    cases kind : FileKind.ofBytes content with
    | dex =>
      simp only [kind, List.mapM_cons, List.mapM_nil, Except.bind]
      cases k { name, bytes := content } <;> rfl
    | archive =>
      simp only [kind, archiveImages_eq]
      cases openArchive offsetLimit name content with
      | error failure => rfl
      | ok opened =>
        simp only [List.mapM_map]
        rfl
    | unknown =>
      simp only [kind]
      rfl
  · rw [if_pos admits, if_pos admits]
    rfl

theorem imagesOf_of_find {node : Node} (h : tree.find (Path.shown path) = .ok node) :
    imagesOf tree limit path = nodeImages tree.offsetLimit limit (Path.shown path) node := by
  unfold imagesOf
  simp only [h]

/-- Images can be loaded from files only. -/
theorem exists_content_of_filesAt (h : filesAt tree limit path = .ok files) :
    ∃ content, tree.find (Path.shown path) = .ok (.file content) := by
  rw [filesAt_eq_mapM] at h
  cases found : tree.find (Path.shown path) with
  | error failure =>
    have none : imagesOf tree limit path = [.error failure] := by
      unfold imagesOf
      simp only [found]
    rw [none, mapM_failed] at h
    exact absurd h (by simp)
  | ok node =>
    cases node with
    | file content => exact ⟨content, rfl⟩
    | directory size =>
      rw [imagesOf_of_find found, nodeImages] at h
      split at h
      · rw [mapM_failed] at h
        exact absurd h (by simp)
      · rw [mapM_failed] at h
        exact absurd h (by simp)

/-- **All images and in order.**  What is loaded from a path are the dex files that its file
holds. -/
theorem holdsFiles_of_filesAt (h : filesAt tree limit path = .ok files) :
    ∃ content, tree.find (Path.shown path) = .ok (.file content) ∧
      HoldsFiles tree.offsetLimit (Path.shown path) content files := by
  obtain ⟨content, found⟩ := exists_content_of_filesAt h
  refine ⟨content, found, ?_⟩
  rw [filesAt_eq_mapM, imagesOf_of_find found, mapM_nodeImages] at h
  split at h
  · exact absurd h (by simp)
  · split at h
    · rename_i kind
      obtain ⟨file, image, rfl⟩ := map_eq_ok.mp h
      exact .bare kind (mapError_eq_ok.mp image)
    · rename_i kind
      obtain ⟨⟨archive, entries⟩, opened, h⟩ := bind_eq_ok.mp h
      obtain ⟨read, ordered, _⟩ := openArchive_eq_ok.mp opened
      refine .archive kind read (perm_of_imageEntries ordered) (pairwise_of_imageEntries ordered) ?_
      refine (mapM_eq_ok.mp h).imp fun entry file loaded => ?_
      obtain ⟨source, image, loaded⟩ := bind_eq_ok.mp loaded
      obtain ⟨bytes, content, rfl⟩ := entryImage_eq_ok.mp image
      exact ⟨bytes, content, mapError_eq_ok.mp loaded⟩
    · exact absurd h (by simp)

end Loader

end DexDiscovery
