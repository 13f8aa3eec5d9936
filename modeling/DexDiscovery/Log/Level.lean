import DexDiscovery.Failure

/-!
# Levels of severity

A log keeps the records at or above its threshold.  A threshold is chosen by name, in upper or
lower case; `WARN` and `FATAL` are second names, a name that is none of them means `INFO`, and
`NOTSET` leaves the threshold at `WARNING`.  Two further names belong to the layouts of log lines,
and are refused.
-/

namespace DexDiscovery

/-- The severity of a log record. -/
inductive Level where
  | debug
  | info
  | warning
  | error
  | critical
deriving DecidableEq, Repr

namespace Level

/-- The place of a level in the order of severity. -/
def rank : Level → Nat
  | debug => 10
  | info => 20
  | warning => 30
  | error => 40
  | critical => 50

/-- The name of a level in log lines. -/
def name : Level → Text
  | debug => "DEBUG"
  | info => "INFO"
  | warning => "WARNING"
  | error => "ERROR"
  | critical => "CRITICAL"

/-- Whether a threshold lets a level through. -/
def allows (threshold level : Level) : Bool :=
  threshold.rank ≤ level.rank

/-- The capitals of a letter, as far as these are ASCII letters; besides the ASCII letters the
dotless i, the long s and two ligatures have such capitals. -/
def capitals (c : CodePoint) : Text :=
  if 0x61 ≤ c.val ∧ c.val ≤ 0x7A then [c - 0x20]
  else if c = 0x131 then "I"
  else if c = 0x17F then "S"
  else if c = 0xFB05 ∨ c = 0xFB06 then "ST"
  else [c]

/-- The levels by their names. -/
def names : List (Text × Level) := [
  ("DEBUG", debug),
  ("INFO", info),
  ("WARNING", warning),
  ("WARN", warning),
  ("ERROR", error),
  ("CRITICAL", critical),
  ("FATAL", critical),
  ("NOTSET", warning)]

/-- The name of the basic layout of log lines. -/
def layoutName : Text := "BASIC_FORMAT"

/-- The basic layout of log lines. -/
def layout : Text := "%(levelname)s:%(name)s:%(message)s"

/-- The name of the collection of layouts. -/
def layoutsName : Text := "_STYLES"

/-- The threshold that a name stands for. -/
def ofName (name : Text) : Except Failure Level :=
  let name := name.flatMap capitals
  if name = layoutName then .error (.unknownLevel layout)
  else if name = layoutsName then .error (.unusableField name)
  else .ok ((names.lookup name).getD info)

end Level

end DexDiscovery
