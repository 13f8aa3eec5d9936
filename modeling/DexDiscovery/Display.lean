import DexDiscovery.Console.Item
import DexDiscovery.Discovery

/-!
# Showing a result

A result is shown as a table of the files read, a table of the test classes in code-point order of
their names, a warning for every input left out, and one line of totals.
-/

namespace DexDiscovery

namespace Display

/-- A duration with two places, a tie in the last going to the even one. -/
def seconds (x : Float) : Text :=
  match Double.ofFloat x with
  | .finite negative magnitude => (if negative then ("-" : Text) else []) ++ magnitude.fixed 2
  | .infinite negative => if negative then "-inf" else "inf"
  | .nan => "nan"

/-- How many digits of a digest are shown. -/
def digestLength : Nat := 16

/-- The row of a file. -/
def fileRow (s : Summary) : List Json :=
  [.string s.name, .string s.version, .string (Text.grouped s.size), .integer s.classCount,
   .integer s.methodCount, .string (s.sha256.take digestLength)]

/-- The table of the files. -/
def fileTable (d : Discovery) : Item :=
  .table "Dex Files" ["File", "Version", "Size", "Classes", "Methods", "SHA-256"]
    (d.files.map fileRow) (some ["bold", "", "", "bright_cyan", "bright_cyan", "dim"])

/-- The order of the class table. -/
def groupLe (a b : Text × List Text) : Bool :=
  Text.le a.1 b.1

/-- The row of a test class; its methods are listed if `showTests` asks for them. -/
def classRow (showTests : Bool) (group : Text × List Text) : List Json :=
  let row : List Json := [.string group.1, .integer group.2.length]
  if showTests then row ++ [.string (Text.join ", " group.2)] else row

/-- The table of the test classes, or a warning that there are none. -/
def classTable (showTests : Bool) (d : Discovery) : Item :=
  let groups := d.testsByClass
  let columns : List Text := ["Test Class", "Tests"]
  if groups = [] then .warning "No JUnit3 tests found."
  else
    .table "Test Classes" (if showTests then columns ++ [("Methods" : Text)] else columns)
      ((groups.mergeSort groupLe).map (classRow showTests)) none

/-- The line of totals. -/
def totals (t : TimedDiscovery) : Item :=
  let d := t.discovery
  .info (Text.ofNat d.testCount ++ " test(s) in " ++ Text.ofNat d.testsByClass.length
    ++ " class(es), " ++ Text.ofInt d.passes ++ " pass(es), " ++ seconds t.seconds ++ "s")

/-- Everything that is shown about a result. -/
def items (showTests : Bool) (t : TimedDiscovery) : List Item :=
  let d := t.discovery
  [.heading "dexsift -- JUnit3 Test Discovery", fileTable d, classTable showTests d]
    ++ d.skipped.map (fun name => .warning (("Skipped malformed file: " : Text) ++ name))
    ++ [.blank 1, totals t]

end Display

end DexDiscovery
