import DexDiscovery.Discovery
import DexDiscovery.Json

/-!
# Reports

Two files tell what a discovery has found: the **test list**, one identifier per line in code-point
order, and the **JSON report**.  Both are written in UTF-8, so neither can be written if it would
hold a surrogate.
-/

namespace DexDiscovery

namespace Report

/-- A text that can be written to a file. -/
def encodable (t : Text) : Except Failure Text :=
  if t.hasSurrogate then .error .unencodable else .ok t

/-- The sorted tests, each with a line feed after it. -/
def testLines (d : Discovery) : Text :=
  (Text.sort d.tests).flatMap (· ++ [.lineFeed])

/-- The test list as it is written. -/
def testList (d : Discovery) : Except Failure Text :=
  encodable (testLines d)

/-- Texts as a JSON array. -/
def texts (l : List Text) : Json :=
  .array (l.map .string)

/-- A summary as a JSON object. -/
def summary (s : Summary) : Json :=
  .object [
    ("name", .string s.name),
    ("size", .integer s.size),
    ("version", .string s.version),
    ("sha256", .string s.sha256),
    ("string_count", .integer s.stringCount),
    ("type_count", .integer s.typeCount),
    ("method_count", .integer s.methodCount),
    ("class_count", .integer s.classCount)]

/-- The report of a result, which was made at the given time. -/
def json (generatedAt : Text) (t : TimedDiscovery) : Json :=
  let d := t.discovery
  .object [
    ("report_type", .string "dexsift_junit3_discovery"),
    ("version", .string "1.0.0"),
    ("generated_at", .string generatedAt),
    ("test_count", .integer d.testCount),
    ("tests_by_class", .object (d.testsByClass.map fun group => (group.1, texts group.2))),
    ("tests", texts d.tests),
    ("files", .array (d.files.map summary)),
    ("test_base_descriptors", texts d.testClasses),
    ("passes", .integer d.passes),
    ("skipped", texts d.skipped),
    ("separator", .string d.separator),
    ("duration_seconds", .number t.seconds)]

/-- The report as it is written. -/
def text (generatedAt : Text) (t : TimedDiscovery) : Except Failure Text :=
  encodable (json generatedAt t).pretty

end Report

end DexDiscovery
