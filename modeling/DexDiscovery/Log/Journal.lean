import DexDiscovery.Failure
import DexDiscovery.Log.Level

/-!
# The journal of a run

A run keeps a journal: the **events** that happened, in order, each stamped with the operation that
was under way.  Events are data; their level and their wording are functions of them.
-/

namespace DexDiscovery

/-- The parts of a run that stamp their records. -/
inductive Operation where
  | load
  | closure
deriving DecidableEq, Repr

/-- The word for an operation. -/
def Operation.name : Operation → Text
  | load => "load"
  | closure => "closure"

/-- What is recorded during a run. -/
inductive Event where
  /-- An image of `size` bytes was read. -/
  | loaded (name : Text) (size : Nat)
  /-- An input was left out because of a fault. -/
  | skipped (name : Text) (fault : InputFault)
  /-- The search for test classes begins. -/
  | closureStarted
  /-- A pass ended: how many classes it added, how many tests are known since, and how many files
  are left. -/
  | passed (number newClasses tests files : Nat)
  /-- The search for test classes ended, successfully or not. -/
  | closureCompleted
  /-- The run ended with a result. -/
  | found (tests classes files passes : Nat)
deriving DecidableEq, Repr

/-- An event with the operation under way. -/
structure Record where
  event : Event
  operation : Option Operation
deriving DecidableEq, Repr

/-- The records of a run so far, and the operation under way. -/
structure Journal where
  records : List Record := []
  operation : Option Operation := none
deriving DecidableEq, Repr

namespace Event

/-- The level at which an event is recorded. -/
def level : Event → Level
  | loaded .. | closureStarted | passed .. | closureCompleted => .debug
  | found .. => .info
  | skipped .. => .warning

/-- The message of an event; `elapsed` is the time that a completed part has taken, in seconds. -/
def message (elapsed : Text) : Event → Text
  | loaded name _ => "Loaded " ++ name
  | skipped name fault => "Skipping " ++ name ++ ": " ++ fault.message
  | closureStarted => "Started: inheritance closure"
  | passed number newClasses tests _ =>
    "Pass " ++ Text.ofNat number ++ ": " ++ Text.ofNat newClasses ++ " new test class(es), "
      ++ Text.ofNat tests ++ " test(s) so far"
  | closureCompleted => "Completed: inheritance closure (" ++ elapsed ++ " sec)"
  | found tests classes files passes =>
    "Found " ++ Text.ofNat tests ++ " test(s) in " ++ Text.ofNat classes
      ++ " test class(es) across " ++ Text.ofNat files ++ " dex file(s), " ++ Text.ofNat passes
      ++ " pass(es)"

/-- The numbers recorded beside the message, by name. -/
def fields : Event → List (Text × Nat)
  | loaded _ size => [("size", size)]
  | passed _ _ _ files => [("files", files)]
  | _ => []

end Event

namespace Journal

/-- Records an event. -/
def note (j : Journal) (event : Event) : Journal :=
  { j with records := j.records ++ [{ event, operation := j.operation }] }

/-- Runs `body` with an operation under way and then restores the one before. -/
def within {α : Type} (j : Journal) (operation : Operation) (body : Journal → α × Journal) :
    α × Journal :=
  let (answer, after) := body { j with operation := some operation }
  (answer, { after with operation := j.operation })

end Journal

end DexDiscovery
