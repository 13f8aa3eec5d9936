import DexDiscovery.Log.Entry
import DexDiscovery.Log.Template

/-!
# Loggers

A logger belongs to a component and keeps a log file.  It knows the **operation** under way, with
which it stamps its entries, and the **contexts** that have been opened and not closed: an
operation, which lasts until its context is closed, or the timing of a task, whose beginning and
end are entries of their own.

A call may be given fields by name.  Some of them are parts of the call, and must be of the right
kind; all others are recorded beside the message.  A call whose level is below the threshold has no
effect at all; above it, a field that would replace a part of the record itself is a failure, and a
message that cannot be made up is left out.
-/

namespace DexDiscovery

namespace Json

/-- Whether a value is nothing, or the empty or the zero value of its kind. -/
def isBlank : Json → Bool
  | null => true
  | bool b => !b
  | integer i => i == 0
  | number x => x == 0.0
  | string t => t.isEmpty
  | array items => items.isEmpty
  | object members => members.isEmpty

/-- Whether a value is a number, or counts as one. -/
def isNumber : Json → Bool
  | integer _ | number _ | bool _ => true
  | _ => false

end Json

/-- A call of a logger. -/
structure LogCall where
  level : Level
  /-- The message, or a template for it if there are arguments. -/
  message : Text
  args : List Json := []
  /-- Whether the failure being handled is to be shown. -/
  showsFailure : Bool := false
  /-- How far from the call the origin of the record is sought, which has to be a number. -/
  depth : Json := .integer 1
  /-- Attributes that are added to the record. -/
  attributes : List (Text × Json) := []
  /-- What is recorded beside the message. -/
  payload : List (Text × Json) := []

namespace LogCall

/-- The name of the field that asks for the failure being handled. -/
def failureField : Text := "exc_info"

/-- The name of the field with attributes of the record. -/
def attributesField : Text := "extra"

/-- The name of the field that tells how far from the call its origin is sought. -/
def depthField : Text := "stacklevel"

/-- The names of the fields that are not recorded beside the message. -/
def ownFields : List Text :=
  [failureField, attributesField, "stack_info", depthField]

/-- The names of what a call is given in its place, and not as a field. -/
def placeNames : List Text :=
  ["msg", "self"]

/-- The attributes in a value: none if it is blank, and otherwise it has to be an object. -/
def attributesOf (value : Json) : Except Failure (List (Text × Json)) :=
  match value with
  | .object members => .ok members
  | value => if value.isBlank then .ok [] else .error (.unusableField attributesField)

/-- A call with fields; whether it shows the failure being handled may be told by one of them. -/
def ofFields (level : Level) (showsFailure : Bool) (message : Text) (args : List Json)
    (fields : List (Text × Json)) : Except Failure LogCall := do
  if let some (name, _) := fields.find? fun (name, _) => name ∈ placeNames then
    throw (.unusableField name)
  let attributes ← attributesOf ((fields.lookup attributesField).getD .null)
  return {
    level
    message
    args
    showsFailure :=
      match fields.lookup failureField with
      | some value => !value.isBlank
      | none => showsFailure
    depth := (fields.lookup depthField).getD (.integer 1)
    attributes
    payload := fields.filter fun (name, _) => name ∉ ownFields }

/-- The attributes that every record has of itself. -/
def reserved : List Text := [
  "args", "asctime", "created", "exc_info", "exc_text", "filename", "funcName", "levelname",
  "levelno", "lineno", "message", "module", "msecs", "msg", "name", "pathname", "process",
  "processName", "relativeCreated", "stack_info", "thread", "threadName"]

/-- The attribute under which a record keeps what is recorded beside its message. -/
def payloadAttribute : Text := "sift_extra"

/-- What is recorded beside the message, if anything. -/
def payload? (call : LogCall) : Option Json :=
  if ¬ call.payload.isEmpty then some (.object call.payload)
  else match call.attributes.lookup payloadAttribute with
    | some .null => none
    | other => other

end LogCall

/-- What has been opened and not closed yet. -/
inductive LogContext where
  /-- An operation, with the one before. -/
  | operation (before? : Option Text)
  /-- The timing of a task. -/
  | timing (label : Text)
deriving DecidableEq, Repr

/-- A logger with its log file. -/
structure Logger where
  component : Text
  threshold : Level
  format : LogFormat
  operation? : Option Text := none
  /-- What has been opened and not closed, the last first. -/
  contexts : List LogContext := []
  entries : List LogEntry := []

namespace Logger

/-- Writes an entry if its level is at or above the threshold and it can be written. -/
def write (l : Logger) (e : LogEntry) : Logger :=
  if l.threshold.allows e.level ∧ e.encodable l.format l.component then
    { l with entries := l.entries ++ [e] }
  else l

/-- The entry of a call; none if its message cannot be made up. -/
def entry? (l : Logger) (call : LogCall) : Option LogEntry :=
  (Template.message? call.message call.args).map fun message => {
    level := call.level
    message
    operation? := l.operation?
    payload? := call.payload?
    backtrace := if call.showsFailure then .empty else .unasked }

/-- Carries out a call, while no failure is being handled. -/
def log (l : Logger) (call : LogCall) : Except Failure Logger :=
  if ¬ l.threshold.allows call.level then .ok l
  else if ¬ call.depth.isNumber then .error (.unusableField LogCall.depthField)
  else match call.attributes.find? (·.1 ∈ LogCall.reserved) with
    | some (name, _) => .error (.reservedField name)
    | none => .ok ((l.entry? call).elim l l.write)

/-- Opens an operation. -/
def enter (l : Logger) (operation : Text) : Logger :=
  { l with
    operation? := some operation
    contexts := .operation l.operation? :: l.contexts }

/-- An entry about a task that is timed. -/
def timingEntry (l : Logger) (message : Text) : LogEntry where
  level := .debug
  message
  operation? := l.operation?

/-- Opens the timing of a task. -/
def startTiming (l : Logger) (label : Text) : Logger :=
  { l.write (l.timingEntry ("Started: " ++ label)) with contexts := .timing label :: l.contexts }

/-- Closes what has been opened last; `elapsed` is the time that a task has taken, in seconds. -/
def exit (l : Logger) (elapsed : Text) : Logger :=
  match l.contexts with
  | [] => l
  | .operation before? :: contexts => { l with operation? := before?, contexts }
  | .timing label :: contexts =>
    { l.write (l.timingEntry ("Completed: " ++ label ++ " (" ++ elapsed ++ " sec)")) with
      contexts }

/-- Enters the records of a journal. -/
def writeJournal (l : Logger) (elapsed : Text) (journal : Journal) : Logger :=
  journal.records.foldl (fun l record => l.write (.ofRecord elapsed record)) l

/-- The lines of the log file, without a line feed at the end of each. -/
def lines (l : Logger) (time : Text) : List Text :=
  l.entries.flatMap fun e => Text.lines (e.text l.format l.component time)

end Logger

end DexDiscovery
