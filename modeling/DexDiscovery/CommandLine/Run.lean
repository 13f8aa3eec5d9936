import DexDiscovery.CommandLine.Settings
import DexDiscovery.Display
import DexDiscovery.Log.Logger
import DexDiscovery.Report

/-!
# Running a command line

A run has three stages.  **Preparing** reads the arguments and the configuration, and makes up a
plan; **discovering** searches for tests as the plan says; **finishing** makes up everything that is
written and shown.  Only the second one takes time, which the third one is told by a clock.

A run ends with one of three exit codes: 0, 1 after a failure, and 2 if the arguments are wrong.
Failures that lie in the input are told to the user; any other one is **raised**, and nothing after
it is done.  An archive that ends before the data of an entry do is taken for an interruption, and
the run is **aborted**.
-/

namespace DexDiscovery

namespace CommandLine

/-- What is written to a file. -/
inductive Document where
  | text (t : Text)
  | report (j : Json)
  | log (l : Logger)

/-- What a run has done. -/
structure Outcome where
  exitCode : Nat
  /-- The failure that ended the run without being told to the user. -/
  raised? : Option Failure := none
  /-- Whether the run was aborted. -/
  aborted : Bool := false
  /-- The files that were written, in order. -/
  files : List (Text × Document) := []
  /-- What was shown. -/
  shown : Text := []
  /-- The report that was printed. -/
  printed? : Option Json := none
  /-- What was logged. -/
  logged : List LogEntry := []

/-- The times that a run shows. -/
structure Clock where
  /-- The time of day. -/
  now : Text
  /-- How long the search has taken, in seconds, as it is logged. -/
  elapsed : Text
  /-- How long the run has taken, in seconds. -/
  seconds : Float

/-! ## Progress -/

/-- What has been written and shown so far. -/
structure Progress where
  tree : FileTree
  /-- Whether items are shown where errors are, beside a report that is printed. -/
  aside : Bool
  files : List (Text × Document) := []
  shown : Text := []

namespace Progress

/-- The outcome of a run that ends here. -/
def outcome (s : Progress) (exitCode : Nat) : Outcome :=
  { exitCode, files := s.files, shown := s.shown }

/-- The outcome of a failure here that is not told to the user. -/
def raise (s : Progress) (failure : Failure) : Outcome :=
  let aborted : Bool := failure = .entryCutOff
  { s.outcome 1 with aborted, raised? := if aborted then none else some failure }

/-- Shows an item.  A surrogate in it can only be shown where errors are. -/
def display (s : Progress) (item : Item) : Except Outcome Progress := do
  let drawn ← item.text.mapError s.raise
  if drawn.hasSurrogate ∧ ¬ s.aside then throw (s.raise .unencodable)
  return { s with shown := s.shown ++ drawn }

/-- Tells a failure to the user. -/
def tell (s : Progress) (what : Text) (cause : Text) : Except Outcome Progress :=
  s.display (.error (what ++ (": " : Text) ++ cause))

/-- Writes a file. -/
def write (s : Progress) (path : Text) (document : Document) : Except Outcome Progress := do
  let tree ← (s.tree.write path #[]).mapError s.raise
  return { s with tree, files := s.files ++ [(path, document)] }

end Progress

/-- The outcome, whether all was done or not. -/
def concluded : Except Outcome Outcome → Outcome
  | .ok outcome | .error outcome => outcome

/-! ## Preparing -/

/-- What is going to be done. -/
structure Plan where
  arguments : Arguments
  configuration : Configuration
  engine : Engine
  logger : Logger
  /-- The log file, if there is one. -/
  logPath? : Option Text
  /-- The files that can be seen, among them the log file. -/
  tree : FileTree
  /-- The setting that the engine has to do without, if there is one. -/
  unusable? : Option SearchSettings.Unusable

/-- The outcome of wrong arguments. -/
def usageError : Outcome := { exitCode := 2 }

/-- The log file as it is written in the end. -/
def logFiles (path? : Option Text) (logger : Logger) : List (Text × Document) :=
  path?.toList.map (·, .log logger)

/-- Makes up a plan from arguments and a configuration, or tells how the run ends. -/
def planOf (s : Progress) (arguments : Arguments) (c : Configuration) : Except Outcome Plan := do
  if arguments.separator? = some [] then throw usageError
  let configuration ← (c.override arguments).mapError s.raise
  let output := configuration.output
  let threshold ← (output.threshold arguments.verbose).mapError s.raise
  let logPath? ← output.logPath?.mapError s.raise
  let tree ← match logPath? with
    | none => pure s.tree
    | some path => (s.tree.openLog path).mapError s.raise
  let logger : Logger :=
    { component := "cli", threshold, format := if output.logJson.isBlank then .plain else .json }
  let s := { s with tree, files := logFiles logPath? logger }
  let (settings, unusable?) ← configuration.search.engineSettings.mapError s.raise
  let engine ← (Engine.ofSettings settings).mapError s.raise
  return { arguments, configuration, engine, logger, logPath?, tree, unusable? }

/-- Reads a command line, or tells how the run ends. -/
def prepare (tree : FileTree) (args : List Text) : Except Outcome Plan := do
  let some arguments := Arguments.parse? args | throw usageError
  if arguments.help then throw { exitCode := 0 }
  let s : Progress := { tree, aside := arguments.json }
  if ¬ (← (arguments.check tree).mapError s.raise) then throw usageError
  match Configuration.load tree arguments.config? with
  | .ok configuration => planOf s arguments configuration
  | .error failure =>
    let s ← s.tell "Invalid configuration" (failure.message?.getD "not a configuration file")
    throw (s.outcome 1)

/-! ## Discovering -/

/-- Searches what has been loaded without a separator: no class can be named, and no result can be
made up. -/
def searchUnnamed (e : Engine) (loaded : Engine.Loaded) : Except Failure Discovery × Journal :=
  let (answer, journal) := e.closure (ClassName.unnamed (.unusableSetting "separator")) loaded
  (answer.bind fun _ => .error .invalidResult, journal)

/-- Searches for tests as planned. -/
def Plan.discover (p : Plan) : Except Failure Discovery × Journal :=
  let search (loaded : Engine.Loaded) : Except Failure Discovery × Journal :=
    match p.unusable? with
    | none => p.engine.searchLoaded loaded
    | some .separator => searchUnnamed p.engine loaded
    | some .extraBases => (.error (.unusableSetting "extra_descriptors"), loaded.journal)
  Engine.afterLoading search (p.engine.loadPaths p.tree p.arguments.paths {})

/-! ## Finishing -/

/-- Whether a failure is told to the user: the content of an input, or its place. -/
def isTold : Failure → Bool
  | .malformed _ | .noSuchFile _ | .isDirectory _ | .notDirectory _ | .fileExists _
  | .nameTooLong _ | .entryOutOfFile | .entryNotBzip2 => true
  | _ => false

namespace Plan

/-- Writes the report, if one is asked for. -/
def writeReport (p : Plan) (clock : Clock) (t : TimedDiscovery) (s : Progress) :
    Except Outcome Progress :=
  match p.arguments.report? with
  | none | some [] => .ok s
  | some path => do
    let s ← s.write path (.report (Report.json clock.now t))
    let _ ← (Report.text clock.now t).mapError s.raise
    s.display (.success (("JSON report saved: " : Text) ++ s.tree.absolute path))

/-- Writes the test list; one that has no encoding leaves an empty file. -/
def writeTestList (p : Plan) (t : TimedDiscovery) (s : Progress) : Except Outcome Progress := do
  let path ← (p.configuration.testListPath p.arguments).mapError s.raise
  match Report.testList t.discovery with
  | .error failure => throw ((← s.write path (.text [])).raise failure)
  | .ok list =>
    let s ← s.write path (.text list)
    s.display (.success (("Test list saved: " : Text) ++ s.tree.absolute path))

/-- Writes and shows a result. -/
def publish (p : Plan) (clock : Clock) (t : TimedDiscovery) (s : Progress) :
    Except Outcome Outcome := do
  let s ← p.writeReport clock t s
  if p.arguments.json then
    let _ ← (Report.text clock.now t).mapError s.raise
    return { s.outcome 0 with printed? := some (Report.json clock.now t) }
  let s ← (Display.items p.arguments.showTests t).foldlM Progress.display s
  return (← p.writeTestList t s).outcome 0

/-- The entry about a failure, for a verbose run. -/
def failureEntry : LogEntry where
  level := .error
  message := "Discovery failed"
  backtrace := .handled

/-- Tells the user why nothing was found, and logs it in a verbose run. -/
def reportFailure (p : Plan) (logger : Logger) (failure : Failure) (s : Progress) :
    Except Outcome (Outcome × Logger) := do
  let s ← s.tell "Discovery failed" (failure.message?.getD [])
  return (s.outcome 1, if p.arguments.verbose then logger.write failureEntry else logger)

/-- Makes up the outcome of a run. -/
def finish (p : Plan) (clock : Clock) (run : Except Failure Discovery × Journal) : Outcome :=
  let logger := p.logger.writeJournal clock.elapsed run.2
  let s : Progress := { tree := p.tree, aside := p.arguments.json }
  let logged (outcome : Outcome) (logger : Logger) : Outcome :=
    { outcome with
      files := logFiles p.logPath? logger ++ outcome.files
      logged := logger.entries }
  match run.1.bind fun d => TimedDiscovery.ofDiscovery d clock.seconds with
  | .ok t => logged (concluded (p.publish clock t s)) logger
  | .error failure =>
    if isTold failure then
      match p.reportFailure logger failure s with
      | .ok (outcome, logger) => logged outcome logger
      | .error outcome => logged outcome logger
    else logged (s.raise failure) logger

end Plan

/-- A whole run, when the clock is known beforehand. -/
def run (tree : FileTree) (clock : Clock) (args : List Text) : Outcome :=
  match prepare tree args with
  | .error outcome => outcome
  | .ok plan => plan.finish clock plan.discover

end CommandLine

end DexDiscovery
