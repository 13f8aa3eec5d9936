import DexDiscovery.ClassName
import DexDiscovery.Dex.Image
import DexDiscovery.Sha256
import Std.Data.TreeSet

/-!
# Dex files and their test classes

A dex file is a named image with all of its tables.  `DexFile.scan` asks it the one question that
test discovery is built on: which of its classes extend one of the given **targets**, directly or
through classes defined before them in the same file, and which of their virtual methods are
tests?  The answer names the matched classes, and leaves the targets alone.

`DexFile.findSubclasses` and `DexFile.findTests` answer the same question to a caller who wants its
set of targets extended.  Such a scan reads the set while it goes on, and can fail at any class; so
it puts its discoveries together elsewhere, and adds them to the set in one step at the end.
-/

namespace DexDiscovery

/-- A set of class descriptors. -/
abbrev DescriptorSet := Std.TreeSet Text

/-- A named image with its header and all of its tables. -/
structure DexFile where
  name : Text
  header : Header
  image : Image
deriving DecidableEq, Repr

/-- What is shown about a dex file. -/
structure Summary where
  name : Text := []
  size : Int := 0
  version : Text := []
  sha256 : Text := []
  stringCount : Int := 0
  typeCount : Int := 0
  methodCount : Int := 0
  classCount : Int := 0
deriving DecidableEq, Repr

/-- A class whose superclass is a target, with its descriptor. -/
structure Match where
  classDef : ClassDef
  descriptor : Text
deriving DecidableEq, Repr

/-- What a scan of a dex file finds. -/
structure Scan where
  /-- The matched classes, in the order of their definitions. -/
  classes : List Match
  /-- The identifiers of their tests, class by class and in encoded order. -/
  tests : List Text
deriving DecidableEq, Repr

namespace DexFile

/-- The name of a file that has none of its own. -/
def memoryName : Text := "<memory>"

/-- The dex file of a buffer; the buffer has to hold a header and complete tables. -/
def ofBytes (name : Text) (b : Bytes) : Except DexError DexFile := do
  let header ← Header.read b
  match Image.readTables { bytes := b } header with
  | (image, none) => return { name, header, image }
  | (_, some e) => throw e

/-- The short description of a file: its quoted name and its number of classes. -/
def description (f : DexFile) : Text :=
  "DexFile(" ++ Text.quoted f.name ++ ", classes=" ++ Text.ofNat f.image.classes.size ++ ")"

/-- The descriptors of the classes that a file defines, in order. -/
def classDescriptors (f : DexFile) : Except DexError (List Text) :=
  f.image.classes.toList.mapM f.image.descriptorOf

/-- The summary of a file. -/
def summary (f : DexFile) : Summary where
  name := f.name
  size := f.image.bytes.size
  version := f.header.version
  sha256 := Sha256.hex f.image.bytes
  stringCount := f.image.strings.size
  typeCount := f.image.types.size
  methodCount := f.image.methods.size
  classCount := f.image.classes.size

/-! ## Scanning -/

/-- Goes through class definitions in order and collects, behind `found` (last first), those
whose superclass is in `known`, which grows by the descriptor of each match. -/
def matchesOnto (image : Image) : List ClassDef → (known : DescriptorSet) →
    (found : List Match) → Except DexError (List Match)
  | [], _, found => .ok found.reverse
  | c :: rest, known, found =>
    match c.superclass? with
    | none => matchesOnto image rest known found
    | some index => do
      let superclass ← image.descriptor index
      if superclass ∈ known then
        let descriptor ← image.descriptorOf c
        matchesOnto image rest (known.insert descriptor) ({ classDef := c, descriptor } :: found)
      else matchesOnto image rest known found

/-- The classes of a file whose superclass is a target or the class of an earlier match. -/
def subclassesOf (f : DexFile) (targets : DescriptorSet) : Except DexError (List Match) :=
  matchesOnto f.image f.image.classes.toList targets []

/-- What begins the name of every test method. -/
def testMark : Text := "test"

/-- The test identifiers of a matched class. -/
def testsOf (f : DexFile) (namer : ClassNamer) (m : Match) : Except Failure (List Text) := do
  let className ← namer m.descriptor
  let methods ← (f.image.virtualMethodNames m.classDef).mapError .ofDex
  return (methods.filter testMark.isPrefixOf).map (className ++ ·)

/-- The matched classes and the tests of a file, for the given targets. -/
def scan (f : DexFile) (namer : ClassNamer) (targets : DescriptorSet) : Except Failure Scan := do
  let classes ← (f.subclassesOf targets).mapError .ofDex
  let tests ← classes.mapM (f.testsOf namer)
  return { classes, tests := tests.flatten }

end DexFile

namespace Scan

/-- The targets together with the descriptors of the matched classes. -/
def extend (classes : List Match) (targets : DescriptorSet) : DescriptorSet :=
  classes.foldl (fun known m => known.insert m.descriptor) targets

end Scan

/-! ## Scanning for the caller's targets -/

/-- Steps with the caller's targets at hand: each answers or fails, and leaves the targets as it has
made them by then. -/
abbrev TargetM (ε : Type) := EStateM ε DescriptorSet

namespace TargetM

variable {ε α : Type}

/-- Goes on with an answer, or fails like it. -/
def ofAnswer : Except ε α → TargetM ε α
  | .ok x => pure x
  | .error e => throw e

/-- The targets together with further descriptors. -/
def union (targets found : DescriptorSet) : DescriptorSet :=
  found.toList.foldl (fun targets d => targets.insert d) targets

/-- Adds descriptors to the targets. -/
def takeIn (found : DescriptorSet) : TargetM ε Unit :=
  modify fun targets => union targets found

/-- The answer of some steps, and what becomes of the targets. -/
def outcome (steps : TargetM ε α) (targets : DescriptorSet) : Except ε α × DescriptorSet :=
  match steps.run targets with
  | .ok x after => (.ok x, after)
  | .error e after => (.error e, after)

/-- Runs steps on a copy of the targets, and answers what becomes of the copy as well. -/
def onCopy (steps : TargetM ε α) : TargetM ε (α × DescriptorSet) := do
  match steps.outcome (← get) with
  | (.ok x, copy) => return (x, copy)
  | (.error e, _) => throw e

end TargetM

namespace DexFile

/-- Goes through class definitions in order and collects, behind `found` (last first), those whose
superclass is a target or has been discovered.  The targets are not written to on the way: the
descriptors of the matches go into `discovered`. -/
def discoverOnto (image : Image) : List ClassDef → (discovered : DescriptorSet) →
    (found : List Match) → TargetM DexError (List Match × DescriptorSet)
  | [], discovered, found => return (found.reverse, discovered)
  | c :: rest, discovered, found =>
    match c.superclass? with
    | none => discoverOnto image rest discovered found
    | some index => do
      let superclass ← TargetM.ofAnswer (image.descriptor index)
      if superclass ∈ (← get) ∨ superclass ∈ discovered then
        let descriptor ← TargetM.ofAnswer (image.descriptorOf c)
        discoverOnto image rest (discovered.insert descriptor)
          ({ classDef := c, descriptor } :: found)
      else discoverOnto image rest discovered found

/-- Finds the classes whose superclass is a target or the class of an earlier match, and makes them
targets when all of them have been found. -/
def findSubclasses (f : DexFile) : TargetM DexError (List Match) := do
  let (found, discovered) ← discoverOnto f.image f.image.classes.toList {} []
  TargetM.takeIn discovered
  return found

/-- Finds the tests of these classes.  The classes become targets of a copy first, and of the caller
when all tests have been named. -/
def findTests (f : DexFile) (namer : ClassNamer) : TargetM Failure (List Text) := do
  let (classes, extended) ← f.findSubclasses.onCopy.adaptExcept .ofDex
  let tests ← classes.mapM fun m => TargetM.ofAnswer (f.testsOf namer m)
  TargetM.takeIn extended
  return tests.flatten

/-- The matched classes, and what becomes of the targets. -/
def subclassesInto (f : DexFile) (targets : DescriptorSet) :
    Except DexError (List Match) × DescriptorSet :=
  f.findSubclasses.outcome targets

/-- The tests of the matched classes, and what becomes of the targets. -/
def testsInto (f : DexFile) (namer : ClassNamer) (targets : DescriptorSet) :
    Except Failure (List Text) × DescriptorSet :=
  (f.findTests namer).outcome targets

end DexFile

end DexDiscovery
