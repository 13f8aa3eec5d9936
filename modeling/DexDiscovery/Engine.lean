import DexDiscovery.Closure
import DexDiscovery.Discovery
import DexDiscovery.Loader

/-!
# Discovering tests

The engine puts the parts together: it loads the images, searches them for test classes and makes
up the result.  Everything that happens is recorded in a journal, also when the run fails.

**Policy.**  A strict run ends with the first malformed input.  A lenient one leaves it out, notes
it in the result, and uses nothing of it: an archive contributes all of its images or none.
-/

namespace DexDiscovery

/-- How a discovery is to be made. -/
structure Settings where
  separator : Text := ClassName.defaultSeparator
  /-- Further base classes, as dotted names or as descriptors. -/
  extraBases : List Text := []
  policy : Policy := .strict
  /-- The largest size of an input file. -/
  sizeLimit : SizeLimit := SizeLimit.default
deriving DecidableEq, Repr

/-- Settings that have been accepted. -/
structure Engine where
  settings : Settings
  separator_ne_nil : settings.separator ≠ []

namespace Engine

/-- Accepts settings with a separator. -/
def ofSettings (settings : Settings) : Except Failure Engine :=
  if h : settings.separator = [] then .error (.emptySeparator none)
  else .ok { settings, separator_ne_nil := h }

/-- The base classes: those of the platform and the further ones. -/
def bases (e : Engine) : DescriptorSet :=
  Closure.descriptorSet
    (Closure.platformBases ++ e.settings.extraBases.map ClassName.toDescriptor)

/-- The search that the settings describe. -/
def search (e : Engine) : Search where
  namer := ClassName.dotted e.settings.separator
  policy := e.settings.policy

/-! ## Loading -/

/-- What has been loaded. -/
structure Loaded where
  files : List DexFile := []
  /-- The inputs that were left out, in order. -/
  skipped : List Text := []
  journal : Journal
deriving DecidableEq, Repr

/-- Enters what was loaded from one input, or leaves it out because of a fault. -/
def enter (e : Engine) (before : Loaded) (name : Text) (files : List DexFile)
    (failure? : Option Failure) : Except Stopped Loaded :=
  match failure?, e.settings.policy with
  | none, _ => .ok { before with files := before.files ++ files }
  | some (.malformed fault), .lenient =>
    .ok { before with
      skipped := before.skipped ++ [name]
      journal := before.journal.note (.skipped name fault) }
  | some cause, _ => .error { cause, journal := before.journal }

/-- Loads the images of one path. -/
def loadPath (e : Engine) (tree : FileTree) (before : Loaded) (path : Text) :
    Except Stopped Loaded :=
  let (files, failure?) := Loader.upToFailure (Loader.dexFilesOf tree e.settings.sizeLimit path)
  let journal := files.foldl
    (fun journal file => journal.note (.loaded file.name file.image.bytes.size)) before.journal
  e.enter { before with journal } path files failure?

/-- The name of a buffer that is given by its place. -/
def bufferName (place : Nat) : Text :=
  "<memory:" ++ Text.ofNat place ++ ">"

/-- Loads one buffer, which is given with its place. -/
def loadBuffer (e : Engine) (before : Loaded) (buffer : Bytes × Nat) : Except Stopped Loaded :=
  let name := bufferName buffer.2
  match DexFile.ofBytes name buffer.1 with
  | .ok file => e.enter before name [file] none
  | .error error => e.enter before name [] (some (.ofDex error))

/-! ## Runs -/

/-- Makes up the result of a search. -/
def result (e : Engine) (loaded : Loaded) (c : Closure) : Discovery where
  tests := c.tests.toList
  files := loaded.files.map DexFile.summary
  testClasses := c.known.toList.filter (· ∉ e.bases)
  passes := c.passes
  skipped := loaded.skipped ++ c.skipped.map DexFile.name
  separator := e.settings.separator

/-- Searches what has been loaded for test classes, whose tests are named by `namer`. -/
def closure (e : Engine) (namer : ClassNamer) (loaded : Loaded) :
    Except Failure Closure × Journal :=
  let (answer, journal) :=
    { e.search with namer }.run e.bases loaded.files (loaded.journal.note .closureStarted)
  (answer, journal.note .closureCompleted)

/-- Searches what has been loaded. -/
def searchLoaded (e : Engine) (loaded : Loaded) : Except Failure Discovery × Journal :=
  let (answer, journal) := e.closure e.search.namer loaded
  match answer.bind fun c => (e.result loaded c).check.map fun d => (c, d) with
  | .error failure => (.error failure, journal)
  | .ok (c, d) =>
    (.ok d, journal.note (.found d.testCount d.testClasses.length loaded.files.length c.passes))

/-- The outcome of loading, with the journal taken out of it. -/
def settle : Except Stopped Loaded → Except Failure Loaded × Journal
  | .ok loaded => (.ok loaded, loaded.journal)
  | .error stopped => (.error stopped.cause, stopped.journal)

/-- Loads the images at some paths. -/
def loadPaths (e : Engine) (tree : FileTree) (paths : List Text) (journal : Journal) :
    Except Failure Loaded × Journal :=
  journal.within .load fun journal => settle (paths.foldlM (e.loadPath tree) { journal })

/-- Loads the images in some buffers. -/
def loadBuffers (e : Engine) (buffers : List Bytes) (journal : Journal) :
    Except Failure Loaded × Journal :=
  settle (buffers.zipIdx.foldlM e.loadBuffer { journal })

/-- Goes on with what has been loaded, if loading has not failed. -/
def afterLoading (search : Loaded → Except Failure Discovery × Journal) :
    Except Failure Loaded × Journal → Except Failure Discovery × Journal
  | (.ok loaded, journal) => search { loaded with journal }
  | (.error failure, journal) => (.error failure, journal)

/-- Discovers the tests in the files at some paths. -/
def discover (e : Engine) (tree : FileTree) (paths : List Text) (journal : Journal) :
    Except Failure Discovery × Journal :=
  afterLoading e.searchLoaded (e.loadPaths tree paths journal)

/-- Discovers the tests in some buffers. -/
def discoverBuffers (e : Engine) (buffers : List Bytes) (journal : Journal) :
    Except Failure Discovery × Journal :=
  afterLoading e.searchLoaded (e.loadBuffers buffers journal)

end Engine

end DexDiscovery
