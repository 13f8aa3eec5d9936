import DexDiscovery.ClassName
import DexDiscovery.FileTree
import DexDiscovery.Text.Utf8
import DexDiscovery.Toml.Document

/-!
# Configuration files

A configuration is a TOML file with two sections: **`global`** tells where things are written and
what is logged, **`sift`** how tests are searched for.  Keys that are not given have defaults, and
unknown ones are ignored.  The values are kept as they are: nothing is said about their types until
they are used.

The one thing that is checked is the separator of test identifiers, which must not be blank.
-/

namespace DexDiscovery

/-- What is written, and where. -/
structure OutputSettings where
  logLevel : Toml.Value := .string "INFO"
  /-- The log file; a blank value is none. -/
  logFile : Toml.Value := .string []
  /-- Whether the log file is written in JSON. -/
  logJson : Toml.Value := .bool false
  /-- The directory of the test list. -/
  outputDirectory : Toml.Value := .string "."
  version : Toml.Value := .string "1.0.0"

/-- How tests are searched for. -/
structure SearchSettings where
  separator : Toml.Value := .string ClassName.defaultSeparator
  /-- Further base classes, as dotted names or as descriptors. -/
  extraBases : Toml.Value := .array []
  /-- Whether a malformed input ends the run. -/
  strict : Toml.Value := .bool true
  /-- The largest size of an input file. -/
  sizeLimit : Toml.Value := .integer 268435456
  /-- The name of the test list. -/
  testListName : Toml.Value := .string "AllTests.txt"

/-- The content of a configuration file. -/
structure Configuration where
  output : OutputSettings := {}
  search : SearchSettings := {}

namespace OutputSettings

/-- The settings in a table. -/
def ofTable (members : List (Text × Toml.Value)) : OutputSettings :=
  let defaults : OutputSettings := {}
  let value (key : Text) (default : Toml.Value) : Toml.Value := (members.lookup key).getD default
  { logLevel := value "log_level" defaults.logLevel
    logFile := value "log_file" defaults.logFile
    logJson := value "log_json" defaults.logJson
    outputDirectory := value "output_dir" defaults.outputDirectory
    version := value "version" defaults.version }

/-- The settings as a table. -/
def toTable (s : OutputSettings) : List (Text × Toml.Value) := [
  ("log_level", s.logLevel),
  ("log_file", s.logFile),
  ("log_json", s.logJson),
  ("output_dir", s.outputDirectory),
  ("version", s.version)]

end OutputSettings

namespace SearchSettings

/-- The settings in a table. -/
def ofTable (members : List (Text × Toml.Value)) : SearchSettings :=
  let defaults : SearchSettings := {}
  let value (key : Text) (default : Toml.Value) : Toml.Value := (members.lookup key).getD default
  { separator := value "separator" defaults.separator
    extraBases := value "extra_descriptors" defaults.extraBases
    strict := value "strict" defaults.strict
    sizeLimit := value "max_file_size" defaults.sizeLimit
    testListName := value "test_list_name" defaults.testListName }

/-- The settings as a table. -/
def toTable (s : SearchSettings) : List (Text × Toml.Value) := [
  ("separator", s.separator),
  ("extra_descriptors", s.extraBases),
  ("strict", s.strict),
  ("max_file_size", s.sizeLimit),
  ("test_list_name", s.testListName)]

end SearchSettings

namespace Configuration

/-- The name of the section about output. -/
def outputSection : Text := "global"

/-- The name of the section about the search. -/
def searchSection : Text := "sift"

/-- The members of a section; a section that is not given is empty. -/
def sectionTable (document : List (Text × Toml.Value)) (name : Text) :
    Except Failure (List (Text × Toml.Value)) :=
  match document.lookup name with
  | none => .ok []
  | some (.table members) => .ok members
  | some _ => .error .sectionNotTable

/-- The configuration in a document, which was read from `path`. -/
def ofDocument (path : Text) (document : List (Text × Toml.Value)) :
    Except Failure Configuration := do
  let search := SearchSettings.ofTable (← sectionTable document searchSection)
  if search.separator.isBlank then throw (.emptySeparator (some path))
  let output := OutputSettings.ofTable (← sectionTable document outputSection)
  return { output, search }

/-- A fault of a configuration file, as a failure. -/
def faultFailure : Toml.Fault → Failure
  | .illFormed => .invalidConfiguration
  | .numberTooLong digits => .numberTooLong digits
  | .tooDeep => .nestedTooDeeply

/-- The configuration in the content of a file at `path`. -/
def ofBytes (path : Text) (content : Bytes) : Except Failure Configuration :=
  match Text.ofUtf8? content.toList with
  | none => .error .invalidConfiguration
  | some t => ((Toml.parse t).mapError faultFailure).bind (ofDocument path)

/-- The file that is read if it is there and no other one is asked for. -/
def defaultPath : Text := "dexsift.toml"

/-- Reads the configuration at a path, which must be there, or the default one if it is there. -/
def load (tree : FileTree) (path? : Option Text) : Except Failure Configuration :=
  let path := Path.shown (path?.getD defaultPath)
  match tree.find path with
  | .ok (.file content) => ofBytes path content
  | .ok (.directory _) => .error (.isDirectory path)
  | .error (.nameTooLong _) => .error (.nameTooLong path)
  | .error _ => if path?.isSome then .error (.noConfiguration path) else .ok {}

end Configuration

end DexDiscovery
