import DexDiscovery.Closure
import DexDiscovery.FileTree

/-!
# Command line arguments

An argument is a path, or it begins with a minus sign and gives options.  Behind two minus signs
stands the name of one option, with its value behind an equals sign or in the next argument; behind
a single one stand the letters of several, of which the last may take a value, from the rest of the
argument or from the next one.  After an argument of two minus signs alone there are only paths.

`scan?` reads the arguments one by one, `Arguments.ofTokens` collects what they say.  Of an option
that is given several times the last value counts, but base classes add up.  `Arguments.check` looks
at what lies at the paths that are given.
-/

namespace DexDiscovery

namespace CommandLine

/-- The options without a value. -/
inductive Flag where
  | json
  | strict
  | lenient
  | showTests
  | verbose
  | help
deriving DecidableEq, Repr

/-- The options with a value. -/
inductive Parameter where
  | outputDirectory
  | report
  | separator
  | baseClass
  | config
deriving DecidableEq, Repr

/-- An option. -/
inductive Choice where
  | flag (f : Flag)
  | parameter (p : Parameter)
deriving DecidableEq, Repr

/-- The options by their names. -/
def longNames : List (Text × Choice) := [
  ("output-dir", .parameter .outputDirectory),
  ("json", .flag .json),
  ("report", .parameter .report),
  ("separator", .parameter .separator),
  ("base-class", .parameter .baseClass),
  ("strict", .flag .strict),
  ("lenient", .flag .lenient),
  ("show-tests", .flag .showTests),
  ("config", .parameter .config),
  ("verbose", .flag .verbose),
  ("help", .flag .help)]

/-- The options by their letters. -/
def letters : List (CodePoint × Choice) := [
  ('o', .parameter .outputDirectory),
  ('b', .parameter .baseClass),
  ('v', .flag .verbose)]

/-- What an argument, or a part of it, says. -/
inductive Token where
  | path (t : Text)
  | flag (f : Flag)
  | parameter (p : Parameter) (value : Text)
deriving DecidableEq, Repr

/-- What one argument says; an option at its end may wait for a value. -/
structure Scanned where
  tokens : List Token := []
  waiting? : Option Parameter := none
deriving DecidableEq, Repr

/-- Reads the letters of an argument. -/
def scanLetters? : Text → Option Scanned
  | [] => some {}
  | letter :: rest =>
    match letters.lookup letter with
    | none => none
    | some (.flag f) => (scanLetters? rest).map fun s => { s with tokens := .flag f :: s.tokens }
    | some (.parameter p) =>
      if rest = [] then some { waiting? := some p } else some { tokens := [.parameter p rest] }

/-- Reads a named option. -/
def scanName? (t : Text) : Option Scanned :=
  let name := t.takeWhile (· ≠ .equals)
  match longNames.lookup name, t.drop name.length with
  | some (.flag f), [] => some { tokens := [.flag f] }
  | some (.parameter p), [] => some { waiting? := some p }
  | some (.parameter p), _ :: value => some { tokens := [.parameter p value] }
  | _, _ => none

/-- Reads one argument. -/
def scanArgument? : Text → Option Scanned
  | .minus :: .minus :: name => scanName? name
  | .minus :: letter :: rest => scanLetters? (letter :: rest)
  | path => some { tokens := [.path path] }

/-- Reads the arguments; `none` if there is an unknown option, or one lacks its value. -/
def scan? : List Text → Option (List Token)
  | [] => some []
  | argument :: rest =>
    if argument = [.minus, .minus] then some (rest.map .path)
    else match scanArgument? argument, rest with
      | none, _ => none
      | some { tokens, waiting? := none }, rest => (scan? rest).map (tokens ++ ·)
      | some { waiting? := some _, .. }, [] => none
      | some { tokens, waiting? := some p }, value :: rest =>
        (scan? rest).map (tokens ++ .parameter p value :: ·)

end CommandLine

/-- What the arguments say. -/
structure Arguments where
  paths : List Text := []
  outputDirectory? : Option Text := none
  /-- Whether the report is printed instead of writing the test list. -/
  json : Bool := false
  /-- Where a report is to be written. -/
  report? : Option Text := none
  separator? : Option Text := none
  baseClasses : List Text := []
  policy? : Option Policy := none
  showTests : Bool := false
  config? : Option Text := none
  verbose : Bool := false
  help : Bool := false
  /-- The options with a value, in the order in which they first come up. -/
  given : List CommandLine.Parameter := []
deriving DecidableEq, Repr

namespace Arguments

open CommandLine

/-- Enters the value of an option. -/
def enterValue (a : Arguments) (value : Text) : Parameter → Arguments
  | .outputDirectory => { a with outputDirectory? := some value }
  | .report => { a with report? := some value }
  | .separator => { a with separator? := some value }
  | .baseClass => { a with baseClasses := a.baseClasses ++ [value] }
  | .config => { a with config? := some value }

/-- Enters what a token says. -/
def enter (a : Arguments) : Token → Arguments
  | .path t => { a with paths := a.paths ++ [t] }
  | .flag .json => { a with json := true }
  | .flag .strict => { a with policy? := some .strict }
  | .flag .lenient => { a with policy? := some .lenient }
  | .flag .showTests => { a with showTests := true }
  | .flag .verbose => { a with verbose := true }
  | .flag .help => { a with help := true }
  | .parameter p value =>
    { a.enterValue value p with given := if p ∈ a.given then a.given else a.given ++ [p] }

/-- What a sequence of tokens says. -/
def ofTokens (tokens : List Token) : Arguments :=
  tokens.foldl enter {}

/-- The arguments of a command line; `none` if it is ill-formed. -/
def parse? (args : List Text) : Option Arguments :=
  (scan? args).map ofTokens

/-! ## Looking at the paths -/

/-- Whether there is a file. -/
def isFile (node? : Option Node) : Bool :=
  node? matches some (.file _)

/-- Whether there is a directory. -/
def isDirectory (node? : Option Node) : Bool :=
  node?.any Node.isDirectory

/-- The path in the value of an option, with what has to be there. -/
def demandOf? (a : Arguments) : Parameter → Option (Text × (Option Node → Bool))
  | .outputDirectory => a.outputDirectory?.map (·, (!isFile ·))
  | .report => a.report?.map (·, (!isDirectory ·))
  | .config => a.config?.map (·, isFile)
  | .separator | .baseClass => none

/-- The paths that are given, each with what has to be there: those in options first. -/
def demands (a : Arguments) : List (Text × (Option Node → Bool)) :=
  a.given.filterMap a.demandOf? ++ a.paths.map (·, isFile)

/-- Whether what is at a path fits.  A path that no name of a file can be is a failure; any other
one that leads nowhere is only one with nothing there. -/
def meets (tree : FileTree) (path : Text) (fits : Option Node → Bool) : Except Failure Bool :=
  match tree.findExactly path with
  | .ok node => .ok (fits (some node))
  | .error .unencodable => .error .unencodable
  | .error .zeroInPath => .error .zeroInPath
  | .error _ => .ok (fits none)

/-- Whether all demands are met, in order up to the first that is not. -/
def meetsAll (tree : FileTree) : List (Text × (Option Node → Bool)) → Except Failure Bool
  | [] => .ok true
  | (path, fits) :: rest => do
    if ← meets tree path fits then meetsAll tree rest else return false

/-- Whether there is an input, and all paths fit what is there: every input and the configuration
must be files, the output directory must not be a file, and the report must not be a directory. -/
def check (a : Arguments) (tree : FileTree) : Except Failure Bool := do
  return (← meetsAll tree a.demands) && !a.paths.isEmpty

end Arguments

end DexDiscovery
