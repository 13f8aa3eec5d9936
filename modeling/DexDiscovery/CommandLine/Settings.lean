import DexDiscovery.CommandLine.Arguments
import DexDiscovery.Configuration
import DexDiscovery.Engine
import DexDiscovery.Json.Literal
import DexDiscovery.Log.Level

/-!
# What a configuration means

The values of a configuration have any type until they are used.  Here is what each of them has to
be, and what the arguments of a command line put in its place.  A value of the wrong type is a
failure; where that failure only comes up later in a run, the settings are made up without it.
-/

namespace DexDiscovery

namespace SizeLimit

/-- The greatest whole number that is not above a double; none if there is no such number. -/
def floor? (x : Float) : Option Int :=
  match Double.ofFloat x with
  | .finite negative magnitude =>
    let (n, d) := magnitude.overPowerOfTen 0
    some ((if negative then -(n : Int) else n) / d)
  | _ => none

/-- The text of a number with a comma between groups of three digits in front of its point. -/
def groupWhole (t : Text) : Text :=
  let sign := t.takeWhile (· = .minus)
  let whole := (t.drop sign.length).takeWhile CodePoint.isDigit
  sign ++ (Text.groupReversed whole.reverse).reverse ++ t.drop (sign.length + whole.length)

/-- A limit that need not be whole.  One that is infinite or no number at all admits every size,
unless it is below zero. -/
def ofFloat (x : Float) : SizeLimit where
  greatest? :=
    match floor? x with
    | some greatest => some greatest
    | none => if x < 0 then some (-1) else none
  shown := groupWhole (Json.literalFormat.text x)

/-- The limit that a value is. -/
def ofValue? : Toml.Value → Option SizeLimit
  | .integer i => some (ofInt i)
  | .bool b => some (ofInt (if b then 1 else 0))
  | .float x => some (ofFloat x)
  | _ => none

end SizeLimit

namespace SearchSettings

/-- The texts in a value that is a list of texts. -/
def textsOf? : Toml.Value → Option (List Text)
  | .array items => items.mapM fun
    | .string t => some t
    | _ => none
  | _ => none

/-- A setting that is used once the inputs have been loaded, and is of a wrong type. -/
inductive Unusable where
  | extraBases
  | separator
deriving DecidableEq, Repr

/-- The settings of an engine, without those that are going to be unusable. -/
def engineSettings (s : SearchSettings) : Except Failure (Settings × Option Unusable) := do
  let some sizeLimit := SizeLimit.ofValue? s.sizeLimit
    | throw (.unusableSetting "max_file_size")
  let settings : Settings :=
    { sizeLimit, policy := if s.strict.isBlank then .lenient else .strict }
  match textsOf? s.extraBases, s.separator with
  | some extraBases, .string separator => return ({ settings with separator, extraBases }, none)
  | some extraBases, _ => return ({ settings with extraBases }, some .separator)
  | none, _ => return (settings, some .extraBases)

end SearchSettings

namespace OutputSettings

/-- The threshold of the log; a verbose run has the lowest one. -/
def threshold (verbose : Bool) (s : OutputSettings) : Except Failure Level :=
  if verbose then .ok .debug
  else match s.logLevel with
    | .string name => Level.ofName name
    | _ => .error (.unusableSetting "log_level")

/-- The path of the log file, if there is one. -/
def logPath? (s : OutputSettings) : Except Failure (Option Text) :=
  if s.logFile.isBlank then .ok none
  else match s.logFile with
    | .string path => .ok (some path)
    | _ => .error (.unusableSetting "log_file")

end OutputSettings

namespace Configuration

/-- The further base classes, with those of the arguments behind them. -/
def extendBases (a : Arguments) (c : Configuration) : Except Failure Configuration :=
  match c.search.extraBases with
  | .array items =>
    let extraBases : Toml.Value := .array (items ++ a.baseClasses.map .string)
    .ok { c with search := { c.search with extraBases } }
  | _ => .error (.unusableSetting "extra_descriptors")

/-- The configuration with what the arguments say instead. -/
def override (a : Arguments) (c : Configuration) : Except Failure Configuration :=
  let separator := (a.separator?.map .string).getD c.search.separator
  let strict := (a.policy?.map fun policy => .bool (policy = .strict)).getD c.search.strict
  extendBases a { c with search := { c.search with separator, strict } }

/-- The path of the test list. -/
def testListPath (a : Arguments) (c : Configuration) : Except Failure Text := do
  let directory ← match a.outputDirectory?, c.output.outputDirectory with
    | some (first :: rest), _ => pure (first :: rest)
    | _, .string directory => pure directory
    | _, _ => throw (.unusableSetting "output_dir")
  match c.search.testListName with
  | .string name => return Path.append directory name
  | _ => throw (.unusableSetting "test_list_name")

end Configuration

end DexDiscovery
