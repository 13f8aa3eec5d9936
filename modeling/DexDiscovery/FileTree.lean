import DexDiscovery.Bytes
import DexDiscovery.Failure
import DexDiscovery.Text.Utf8

/-!
# Paths and files

A path is a sequence of names with slashes between them.  It is **shown** without empty names and
without the name `.`, which lead nowhere; `..` is kept when a path is shown, and leads to the
directory above when it is followed.

A file tree is a set of files, each at a sequence of names from the root; the directories are those
that hold a file at any depth, and those that are known without.  `FileTree.find` follows a path,
`FileTree.write` puts a file at its end and makes the directories on the way.

Two things depend on the file system and not on the files: what size is reported of a directory, and
from how great an offset a file can be read.
-/

namespace DexDiscovery

/-- A surrogate that stands for one byte of a file's name that is not well-formed UTF-8. -/
def CodePoint.isStrayByte (c : CodePoint) : Bool :=
  0xDC80 ≤ c.val && c.val < 0xDD00

namespace Path

/-- What a path begins with if it starts from the root of the file system.  Of several slashes only
two are not the same as one. -/
def root (path : Text) : Text :=
  match path.takeWhile (· = .slash) with
  | [] => []
  | [.slash, .slash] => [.slash, .slash]
  | _ => [.slash]

/-- Whether a path starts from the root of the file system. -/
def isAbsolute (path : Text) : Bool :=
  path.head? == some CodePoint.slash

/-- The names of a path that lead somewhere. -/
def names (path : Text) : List Text :=
  (path.splitOn .slash).filter fun name => name ≠ [] ∧ name ≠ [.point]

/-- The path of some names; without a name it leads to where it starts. -/
def ofNames (root : Text) (names : List Text) : Text :=
  match root ++ Text.join [.slash] names with
  | [] => [.point]
  | path => path

/-- A path as it is shown. -/
def shown (path : Text) : Text :=
  ofNames (root path) (names path)

/-- A path followed by a further one, which replaces it if it is absolute. -/
def append (directory path : Text) : Text :=
  if isAbsolute path then shown path
  else ofNames (root directory) (names directory ++ names path)

/-- The directory in which a path lies. -/
def parent (path : Text) : Text :=
  ofNames (root path) (names path).dropLast

/-- The number of bytes that a path or a name takes. -/
def size (path : Text) : Nat :=
  (path.map fun c => if c.isStrayByte then 1 else c.utf8.length).foldl (· + ·) 0

/-- The greatest number of bytes of a name. -/
def nameLimit : Nat := 255

/-- The greatest number of bytes of a path. -/
def sizeLimit : Nat := 4095

/-- What keeps a path from being followed at all. -/
def fault? (path : Text) : Option Failure :=
  if path.any fun c => c.isSurrogate && !c.isStrayByte then some .unencodable
  else if path.contains 0 then some .zeroInPath
  else none

end Path

/-- The files that a run can see.  Each stands at the names that lead to it from the root. -/
structure FileTree where
  /-- The files; of two at one place, the first one counts. -/
  files : List (List Text × Bytes) := []
  /-- Directories that are there whether they hold a file or not. -/
  directories : List (List Text) := []
  /-- The directory from which a path leads that does not start from the root. -/
  here : List Text := []
  /-- The size that is reported of the directory at some names. -/
  directorySize : List Text → Nat := fun _ => 0
  /-- The greatest offset from which a file can be read, however large it is; a greater one than the
  default cannot be asked for. -/
  offsetLimit : Nat := 0x7FFFFFFFFFFFFFFF

/-- What a path leads to. -/
inductive Node where
  | file (content : Bytes)
  | directory (size : Nat)
deriving DecidableEq, Repr

namespace Node

/-- The size of a file, or the one that is reported of a directory. -/
def size : Node → Nat
  | file content => content.size
  | directory size => size

/-- Whether a path leads to a directory. -/
def isDirectory : Node → Bool
  | file _ => false
  | directory _ => true

end Node

/-- Why a path leads nowhere. -/
inductive Absence where
  | missing
  /-- Some name on the way is that of a file. -/
  | belowFile
  /-- Some name on the way, or the path, is longer than any can be. -/
  | tooLong
deriving DecidableEq, Repr

/-- The failure of a path that leads nowhere. -/
def Absence.failure (path : Text) : Absence → Failure
  | missing => .noSuchFile path
  | belowFile => .notDirectory path
  | tooLong => .nameTooLong path

namespace FileTree

/-! ## Following a path -/

/-- The name that leads to the directory above. -/
def parentName : Text := [.point, .point]

/-- Where a path starts. -/
def start (tree : FileTree) (path : Text) : List Text :=
  if Path.isAbsolute path then [] else tree.here

/-- The names that lead from the root to where a path leads. -/
def locate (tree : FileTree) (path : Text) : List Text :=
  (Path.names path).foldl
    (fun above name => if name = parentName then above.dropLast else above ++ [name])
    (tree.start path)

/-- The path from the root to where a path leads. -/
def absolute (tree : FileTree) (path : Text) : Text :=
  Path.ofNames [.slash] (tree.locate path)

/-- What lies at a sequence of names from the root. -/
def nodeAt? (tree : FileTree) (names : List Text) : Option Node :=
  match tree.files.lookup names with
  | some content => some (.file content)
  | none =>
    let holdsSomething := (tree.files.map Prod.fst ++ tree.directories).any names.isPrefixOf
    if names.isPrefixOf tree.here ∨ holdsSomething then some (.directory (tree.directorySize names))
    else none

/-- Follows names from a directory, whose own names are given last first.  Above the root there is
the root again. -/
def follow (tree : FileTree) : (above names : List Text) → Except Absence Node
  | above, [] => (tree.nodeAt? above.reverse).elim (.error .missing) .ok
  | above, name :: rest =>
    match tree.nodeAt? above.reverse with
    | none => .error .missing
    | some (.file _) => .error .belowFile
    | some (.directory _) =>
      if Path.nameLimit < Path.size name then .error .tooLong
      else tree.follow (if name = parentName then above.tail else name :: above) rest

/-- What a path leads to. -/
def find (tree : FileTree) (path : Text) : Except Failure Node :=
  match Path.fault? path with
  | some failure => .error failure
  | none =>
    let node :=
      if Path.sizeLimit < Path.size path then .error .tooLong
      else tree.follow (tree.start path).reverse (Path.names path)
    node.mapError (·.failure (Path.shown path))

/-- What a path leads to if every slash counts: nothing without a name, and no file with a slash
behind its name. -/
def findExactly (tree : FileTree) (path : Text) : Except Failure Node := do
  if path = [] then throw (Absence.failure path .missing)
  let node ← tree.find path
  let last := (path.splitOn .slash).getLastD []
  if !node.isDirectory ∧ (last = [] ∨ last = [.point]) then
    throw (Absence.failure path .belowFile)
  return node

/-- The content of a file. -/
def read (tree : FileTree) (path : Text) : Except Failure Bytes := do
  match ← tree.find (Path.shown path) with
  | .file content => return content
  | .directory _ => throw (.isDirectory (Path.shown path))

/-! ## Writing -/

/-- Asks for a directory at a path; where there is nothing, `make` makes it. -/
def claimDirectory (tree : FileTree) (path : Text) (make : Except Failure FileTree) :
    Except Failure FileTree :=
  match tree.find path with
  | .ok (.directory _) => .ok tree
  | .ok (.file _) => .error (.fileExists path)
  | .error (.noSuchFile _) => make
  | .error failure => .error failure

/-- Makes a directory, whose names are given last first, and those above it, where they are
missing. -/
def makeDirectory (tree : FileTree) (root : Text) : (names : List Text) → Except Failure FileTree
  | [] => .ok tree
  | name :: above =>
    let path := Path.ofNames root (name :: above).reverse
    tree.claimDirectory path do
      let tree ← tree.makeDirectory root above
      tree.claimDirectory path
        (.ok { tree with directories := tree.locate path :: tree.directories })

/-- Makes the directory in which a path lies. -/
def makeParent (tree : FileTree) (path : Text) : Except Failure FileTree :=
  tree.makeDirectory (Path.root path) (Path.names path).reverse.tail

/-- Opens a file that is written to, in a directory that is there; it is made if it is missing. -/
def openFile (tree : FileTree) (path : Text) : Except Failure FileTree :=
  match tree.find path with
  | .ok (.directory _) => .error (.isDirectory path)
  | .ok (.file _) => .ok tree
  | .error (.noSuchFile _) => .ok { tree with files := (tree.locate path, #[]) :: tree.files }
  | .error failure => .error failure

/-- Opens a file in order to write behind what it holds; the directory in which it lies is made if
it is missing. -/
def openLog (tree : FileTree) (path : Text) : Except Failure FileTree := do
  (← tree.makeParent path).openFile (tree.absolute path)

/-- Writes a file in place of what is at a path; the directory in which it lies is made if it is
missing. -/
def write (tree : FileTree) (path : Text) (content : Bytes) : Except Failure FileTree := do
  let tree ← (← tree.makeParent path).openFile (Path.shown path)
  return { tree with files := (tree.locate path, content) :: tree.files }

/-- A tree of files that are given by their paths from the directory `here`, written in order; what
cannot be written is left out. -/
def ofFiles (here : List Text) (files : List (Text × Bytes)) : FileTree :=
  files.foldl (fun tree (path, content) => (tree.write path content).toOption.getD tree) { here }

end FileTree

end DexDiscovery
