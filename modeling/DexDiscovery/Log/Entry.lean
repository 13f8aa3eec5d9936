import DexDiscovery.Json
import DexDiscovery.Log.Journal

/-!
# Entries of a log file

A log file is written in one of two formats.  In **JSON** an entry is an object on a line of its
own.  In **plain text** it is a line with the time, the level, the name of the logger and the
message between bars; numbers recorded beside the message are not shown.

Log files are in UTF-8: an entry that would hold a surrogate is not written.
-/

namespace DexDiscovery

/-- How a log file is written. -/
inductive LogFormat where
  | plain
  | json
deriving DecidableEq, Repr

/-- The failure that an entry is to show beside its message. -/
inductive Backtrace where
  /-- None was asked for. -/
  | unasked
  /-- One was asked for, but no failure was being handled. -/
  | empty
  /-- One was asked for while a failure was being handled. -/
  | handled
deriving DecidableEq, Repr

/-- What is written to a log file at a time. -/
structure LogEntry where
  level : Level
  message : Text
  operation? : Option Text := none
  /-- What is recorded beside the message. -/
  payload? : Option Json := none
  backtrace : Backtrace := .unasked

namespace LogEntry

/-- The entry of a record of a journal. -/
def ofRecord (elapsed : Text) (record : Record) : LogEntry where
  level := record.event.level
  message := record.event.message elapsed
  operation? := record.operation.map Operation.name
  payload? :=
    match record.event.fields with
    | [] => none
    | fields => some (.object (fields.map fun (name, n) => (name, .integer n)))

/-- The name of the logger of a component. -/
def loggerName (component : Text) : Text :=
  "dexsift." ++ component

/-- An entry as a JSON object; the time comes first, if there is one. -/
def toJson (component : Text) (time? : Option Text) (e : LogEntry) : Json :=
  let optional (name : Text) (value? : Option Json) : List (Text × Json) :=
    value?.toList.map (name, ·)
  let always : List (Text × Json) := [
    ("level", .string e.level.name),
    ("logger", .string (loggerName component)),
    ("message", .string e.message),
    ("component", .string component)]
  .object (
    optional "timestamp" (time?.map .string)
    ++ always
    ++ optional "operation" (e.operation?.map .string)
    ++ optional "extra" e.payload?
    ++ optional "exc_info" (if e.backtrace = .handled then some (.bool true) else none))

/-- What stands behind a line in plain text if a failure was asked for and there was none; it begins
a line of its own. -/
def withoutFailure (line : Text) : Text :=
  (if line.getLast? = some .lineFeed then [] else [.lineFeed]) ++ ("NoneType: None" : Text)

/-- An entry in plain text. -/
def toPlain (component time : Text) (e : LogEntry) : Text :=
  let bar : Text := " | "
  let line := time ++ bar ++ Text.padRight 8 .blank e.level.name ++ bar ++ loggerName component
    ++ bar ++ e.message
  line ++ if e.backtrace = .empty then withoutFailure line else []

/-- An entry as it is written at a time. -/
def text (format : LogFormat) (component time : Text) (e : LogEntry) : Text :=
  match format with
  | .json => (e.toJson component (some time)).compact
  | .plain => e.toPlain component time

/-- Whether an entry can be written. -/
def encodable (format : LogFormat) (component : Text) (e : LogEntry) : Bool :=
  !(e.text format component []).hasSurrogate

end LogEntry

end DexDiscovery
