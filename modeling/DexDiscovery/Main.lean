import DexDiscovery.CommandLine.Run
import Std.Time.Format

/-!
# The command

`dexsift [OPTIONS] PATHS...` finds the tests in dex files and archives of them.  What is done here
is to look at the files that the arguments name, to measure the time, and to write and show the
outcome; what the outcome is, is said by `CommandLine.prepare`, `Plan.discover` and `Plan.finish`.
-/

namespace DexDiscovery

namespace CommandLine

/-- What the command says about its use. -/
def usage : String :=
  "Usage: dexsift [OPTIONS] PATHS...\n\n"
    ++ "  Find the JUnit3 tests in dex files and APKs.\n\n"
    ++ "Options:\n"
    ++ "  -o, --output-dir DIRECTORY  Directory for the test list.\n"
    ++ "  --json                      Print the JSON report instead of writing the test list.\n"
    ++ "  --report FILE               Also write a JSON report to this path.\n"
    ++ "  --separator TEXT            Separator between class and method name.\n"
    ++ "  -b, --base-class TEXT       Extra JUnit3 base class; may be repeated.\n"
    ++ "  --strict / --lenient        Abort on a malformed dex file, or skip it.\n"
    ++ "  --show-tests                List every test method in the summary.\n"
    ++ "  --config FILE               TOML configuration file.\n"
    ++ "  -v, --verbose               Enable debug logging.\n"
    ++ "  --help                      Show this message and exit."

/-- Adds what is at a path to a tree. -/
def lookAt (tree : FileTree) (path : Text) : IO FileTree := do
  let target := (← IO.currentDir) / (Path.shown path).toDisplay
  let names := tree.locate path
  if ← target.isDir then
    let size := (← target.metadata).byteSize.toNat
    return { tree with
      directories := names :: tree.directories
      directorySize := fun other => if other = names then size else tree.directorySize other }
  else if ← target.pathExists then
    let content ← IO.FS.readBinFile target
    return { tree with files := (names, content.data) :: tree.files }
  else return tree

/-- What is at the paths that the arguments name. -/
def surroundings (args : List Text) : IO FileTree := do
  let here := Path.names (Text.ofString (← IO.currentDir).toString)
  let a := (Arguments.parse? args).getD {}
  let named := a.outputDirectory?.toList ++ a.report?.toList ++ a.config?.toList
  (a.paths ++ named ++ [Configuration.defaultPath]).foldlM lookAt { here }

/-- The time of day. -/
def timeOfDay : IO Text := do
  let zone := Std.Time.TimeZone.ZoneRules.ofTimeZone .UTC
  return (Std.Time.DateTime.ofTimestamp (← Std.Time.Timestamp.now) zone).toISO8601String

/-- A number of nanoseconds, in seconds. -/
def secondsOf (nanoseconds : Nat) : Float :=
  Float.ofScientific nanoseconds true 9

/-- The clock after a search that has taken some nanoseconds. -/
def clockAfter (nanoseconds : Nat) : IO Clock := do
  let seconds := secondsOf nanoseconds
  let elapsed : Text :=
    match Double.ofFloat seconds with
    | .finite _ magnitude => magnitude.fixed 3
    | _ => "0.000"
  return { now := ← timeOfDay, elapsed, seconds }

/-- Writes a document; a log is written behind what is there. -/
def save (now : Text) (file : Text × Document) : IO Unit := do
  let target := (← IO.currentDir) / (Path.shown file.1).toDisplay
  if let some parent := target.parent then IO.FS.createDirAll parent
  match file.2 with
  | .text t => IO.FS.writeFile target t.toDisplay
  | .report j => IO.FS.writeFile target j.pretty.toDisplay
  | .log l => IO.FS.withFile target .append fun handle =>
    (l.lines now).forM fun line => handle.putStrLn line.toDisplay

/-- Writes and shows the outcome of a run, and answers the exit code. -/
def settle (now : Text) (outcome : Outcome) : IO UInt32 := do
  outcome.files.forM (save now)
  let output ← IO.getStdout
  let errors ← IO.getStderr
  for entry in outcome.logged do
    errors.putStrLn (Text.padRight 8 .blank entry.level.name ++ entry.message).toDisplay
  let console := if outcome.printed?.isSome then errors else output
  console.putStr outcome.shown.toDisplay
  if let some report := outcome.printed? then output.putStrLn report.pretty.toDisplay
  if let some failure := outcome.raised? then
    errors.putStrLn ((failure.message?.getD "the run has failed").toDisplay)
  if outcome.aborted then errors.putStrLn "\nAborted!"
  if outcome.exitCode == 2 then errors.putStrLn usage
  return outcome.exitCode.toUInt32

/-- Runs a command line. -/
def command (args : List Text) : IO UInt32 := do
  let tree ← surroundings args
  match prepare tree args with
  | .error outcome =>
    if outcome.exitCode == 0 then IO.println usage
    settle (← timeOfDay) outcome
  | .ok plan =>
    let started ← IO.monoNanosNow
    let run ← IO.lazyPure fun () => plan.discover
    let clock ← clockAfter ((← IO.monoNanosNow) - started)
    settle clock.now (plan.finish clock run)

end CommandLine

end DexDiscovery

/-- Runs the command line. -/
def main (args : List String) : IO UInt32 :=
  DexDiscovery.CommandLine.command (args.map DexDiscovery.Text.ofString)
