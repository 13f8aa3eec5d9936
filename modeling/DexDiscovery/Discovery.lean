import DexDiscovery.DexFile

/-!
# Results of a discovery

What a run has found, and the one view that all reports share: the tests **grouped by class**.  A
test identifier is split at the last occurrence of the separator; the classes come in the order of
their first tests, and the methods of a class in the order of its tests.
-/

namespace DexDiscovery

/-- What a run has found. -/
structure Discovery where
  tests : List Text := []
  files : List Summary := []
  /-- The descriptors of the test classes, without the base classes. -/
  testClasses : List Text := []
  passes : Int := 0
  /-- The names of the inputs that were left out. -/
  skipped : List Text := []
  separator : Text := ClassName.defaultSeparator
deriving DecidableEq, Repr

namespace Discovery

/-- The number of tests. -/
def testCount (d : Discovery) : Nat :=
  d.tests.length

/-- The class and the method of a test identifier; without a separator, all of it is the
method. -/
def splitTest (separator test : Text) : Text × Text :=
  (Text.splitAtLast? separator test).getD ([], test)

/-- Enters a method under its class, behind the methods that are there. -/
def addMethod (cls method : Text) : List (Text × List Text) → List (Text × List Text)
  | [] => [(cls, [method])]
  | (name, methods) :: rest =>
    if name = cls then (name, methods ++ [method]) :: rest
    else (name, methods) :: addMethod cls method rest

/-- The methods of the given tests by class, on top of those in `groups`. -/
def groupOnto (separator : Text) (groups : List (Text × List Text)) (tests : List Text) :
    List (Text × List Text) :=
  tests.foldl (fun groups test =>
    let (cls, method) := splitTest separator test
    addMethod cls method groups) groups

/-- The methods of the tests by class. -/
def testsByClass (d : Discovery) : List (Text × List Text) :=
  groupOnto d.separator [] d.tests

/-- Refuses a result whose separator is empty or has no encoding. -/
def check (d : Discovery) : Except Failure Discovery :=
  if d.separator = [] ∨ d.separator.hasSurrogate then .error .invalidResult else .ok d

end Discovery

/-- A result with the time that the run has taken, in seconds. -/
structure TimedDiscovery where
  discovery : Discovery
  seconds : Float

namespace TimedDiscovery

/-- A result with its duration, which must not be negative. -/
def ofDiscovery (discovery : Discovery) (seconds : Float) : Except Failure TimedDiscovery := do
  let discovery ← discovery.check
  if 0 ≤ seconds then return { discovery, seconds } else throw .invalidResult

end TimedDiscovery

end DexDiscovery
