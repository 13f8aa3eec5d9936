import DexDiscovery.Archive.Basic
import DexDiscovery.DexFile
import DexDiscovery.FileTree
import DexDiscovery.Text.DecimalDigit

/-!
# Loading images from files

An input file is a bare image or an archive; which of the two is told by its first bytes, never by
its name.  An archive contributes its entries `classes.dex`, `classes2.dex`, … in numeric order.

The images of a file come one by one, and one that cannot be read is only noticed when its turn
comes.  `imagesOf` therefore answers a list of **attempts**; what comes after the first failed one
does not count.
-/

namespace DexDiscovery

/-- The kinds of input files. -/
inductive FileKind where
  | dex
  | archive
  | unknown
deriving DecidableEq, Repr

namespace FileKind

/-- The kind of a file, by its first four bytes. -/
def ofBytes (b : Bytes) : FileKind :=
  if b.startsWith Header.magic then dex
  else if b.startsWith Archive.headerMark then archive
  else unknown

end FileKind

namespace Loader

/-! ## The images of an archive -/

/-- The greatest number of digits that the number of an entry may have. -/
def digitLimit : Nat := 4300

/-- The part of an entry name between `classes` and `.dex`, where one line feed may follow, if
it consists of decimal digits. -/
def entryDigits? (name : Text) : Option Text :=
  let start : Text := "classes"
  let stop : Text := ".dex"
  let body := if name.getLast? = some .lineFeed then name.dropLast else name
  if start.isPrefixOf body ∧ stop.isSuffixOf (body.drop start.length) then
    let digits := (body.drop start.length).take (body.length - start.length - stop.length)
    if digits.all (·.digitValue?.isSome) then some digits else none
  else none

/-- The number of the image that an entry holds: 1 where the name gives none. -/
def entryNumber (digits : Text) : Except Failure Nat :=
  if digits = [] then .ok 1
  else if digitLimit < digits.length then .error (.numberTooLong digits.length)
  else .ok ((Text.digitsValue? digits).getD 0)

/-- The entries that hold images, each with its number. -/
def numbered : List Text → Except Failure (List (Nat × Text))
  | [] => .ok []
  | name :: rest =>
    match entryDigits? name with
    | none => numbered rest
    | some digits => do
      let number ← entryNumber digits
      return (number, name) :: (← numbered rest)

/-- The order of images: by number, then by name. -/
def entryLe (a b : Nat × Text) : Bool :=
  if a.1 = b.1 then Text.le a.2 b.2 else decide (a.1 ≤ b.1)

/-- The names among those of an archive that hold images, in the order of their numbers. -/
def imageEntries (names : List Text) : Except Failure (List Text) := do
  return ((← numbered names).mergeSort entryLe).map Prod.snd

/-- A fault of an archive, as a failure of the run. -/
def archiveFailure (path : Text) : Archive.Error → Failure
  | .corrupt => .malformed (.corruptArchive path)
  | .outOfFile => .entryOutOfFile
  | .outOfReach => .entryOutOfReach
  | .nameEncoding => .entryNameEncoding
  | .encrypted => .encryptedEntry
  | .unsupported => .unsupportedEntry
  | .cutOff => .entryCutOff
  | .notBzip2 => .entryNotBzip2
  | .notLzma => .entryNotLzma

/-! ## The images of a file -/

/-- A named buffer that should hold an image. -/
structure Source where
  name : Text
  bytes : Bytes
deriving DecidableEq, Repr

/-- The images of an archive, one attempt for each, in a file that can be read from any offset up to
a limit. -/
def archiveImages (offsetLimit : Nat) (path : Text) (b : Bytes) : List (Except Failure Source) :=
  let opened : Except Failure (Archive × List Text) := do
    let archive ← (Archive.ofBytes offsetLimit b).mapError (archiveFailure path)
    let entries ← imageEntries archive.names
    if entries = [] then throw (.malformed (.noImages path))
    return (archive, entries)
  match opened with
  | .error e => [.error e]
  | .ok (archive, entries) =>
    entries.map fun entry =>
      ((archive.content entry).mapError (archiveFailure path)).map fun bytes =>
        { name := path ++ .exclamation :: entry, bytes }

/-- The images of what a path leads to, one attempt for each. -/
def nodeImages (offsetLimit : Nat) (limit : SizeLimit) (path : Text) (node : Node) :
    List (Except Failure Source) :=
  if ¬ limit.admits node.size then
    [.error (.malformed (.tooLarge path node.size limit))]
  else match node with
    | .directory _ => [.error (.isDirectory path)]
    | .file content =>
      match FileKind.ofBytes content with
      | .dex => [.ok { name := path, bytes := content }]
      | .archive => archiveImages offsetLimit path content
      | .unknown => [.error (.malformed (.unknownFormat path))]

/-- The images of the file at a path, one attempt for each. -/
def imagesOf (tree : FileTree) (limit : SizeLimit) (path : Text) : List (Except Failure Source) :=
  let shown := Path.shown path
  match tree.find shown with
  | .ok node => nodeImages tree.offsetLimit limit shown node
  | .error failure => [.error failure]

/-- The attempts up to the first failed one, and its failure if there is one. -/
def upToFailure {α : Type} : List (Except Failure α) → List α × Option Failure
  | [] => ([], none)
  | .error e :: _ => ([], some e)
  | .ok x :: rest => (x :: (upToFailure rest).1, (upToFailure rest).2)

/-- All the attempts, if none fails. -/
def complete {α : Type} (attempts : List (Except Failure α)) : Except Failure (List α) :=
  match upToFailure attempts with
  | (found, none) => .ok found
  | (_, some e) => .error e

/-- The dex file of a source. -/
def Source.toDexFile (s : Source) : Except Failure DexFile :=
  (DexFile.ofBytes s.name s.bytes).mapError .ofDex

/-- The dex files of the file at a path, one attempt for each. -/
def dexFilesOf (tree : FileTree) (limit : SizeLimit) (path : Text) :
    List (Except Failure DexFile) :=
  (imagesOf tree limit path).map fun attempt => attempt.bind Source.toDexFile

/-- The images of the files at some paths, in order. -/
def loadImages (tree : FileTree) (limit : SizeLimit) (paths : List Text) :
    Except Failure (List Source) :=
  complete (paths.flatMap (imagesOf tree limit))

/-- The dex files of the files at some paths, in order. -/
def loadDexFiles (tree : FileTree) (limit : SizeLimit) (paths : List Text) :
    Except Failure (List DexFile) :=
  complete (paths.flatMap (dexFilesOf tree limit))

end Loader

namespace DexFile

/-- The dex file of a bare image in a file. -/
def ofPath (tree : FileTree) (path : Text) : Except Failure DexFile := do
  let content ← tree.read path
  (ofBytes (Path.shown path) content).mapError .ofDex

end DexFile

end DexDiscovery
