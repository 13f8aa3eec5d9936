import DexDiscovery.Text.Basic

/-!
# Values of a configuration file

What a TOML file can hold.  Dates and times are kept as their text, for nothing is computed with
them.  A value is **blank** if it is the empty or the zero value of its kind.
-/

namespace DexDiscovery

namespace Toml

/-- A value of a configuration file. -/
inductive Value where
  | string (t : Text)
  | integer (i : Int)
  | float (x : Float)
  | bool (b : Bool)
  | dateTime (t : Text)
  | array (items : List Value)
  | table (members : List (Text × Value))

/-- Whether a value is the empty or the zero value of its kind. -/
def Value.isBlank : Value → Bool
  | string t => t.isEmpty
  | integer i => i == 0
  | float x => x == 0.0
  | bool b => !b
  | dateTime _ => false
  | array items => items.isEmpty
  | table members => members.isEmpty

end Toml

end DexDiscovery
