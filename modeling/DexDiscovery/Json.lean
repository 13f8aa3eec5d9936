import DexDiscovery.Decimal.Shortest

/-!
# JSON values

Reports and log lines are JSON.  The members of an object stay in the order in which they are
given.  Two layouts are written: **indented**, with two blanks for each level, and **on one line**,
with a blank after each comma and colon.  In strings only the quote, the backslash and what lies
below the blank are escaped.
-/

namespace DexDiscovery

/-- A JSON value. -/
inductive Json where
  | null
  | bool (b : Bool)
  | integer (i : Int)
  | number (x : Float)
  | string (t : Text)
  | array (items : List Json)
  | object (members : List (Text × Json))

instance : Inhabited Json := ⟨.null⟩

namespace Json

/-- Doubles are written in positional notation from `0.0001` up to below `10 ^ 16`. -/
def numberFormat : DoubleFormat where
  infinity := "Infinity"
  nan := "NaN"
  leastPlace := -4
  greatestPlace := 16
  exponentDigits := 2

/-- A code point inside a string. -/
def escape (c : CodePoint) : Text :=
  if c = .quote ∨ c = .backslash then [.backslash, c]
  else if 0x20 ≤ c.val then [c]
  else if c = 0x08 then "\\b"
  else if c = .tab then "\\t"
  else if c = .lineFeed then "\\n"
  else if c = 0x0C then "\\f"
  else if c = .carriageReturn then "\\r"
  else ("\\u" : Text) ++ paddedHex c.val
where
  /-- Four hexadecimal digits. -/
  paddedHex (n : Nat) : Text := Text.padLeft 4 .zero (Text.ofNatBase 16 n)

/-- A string between its quotes. -/
def quote (t : Text) : Text :=
  .quote :: t.flatMap escape ++ [.quote]

/-- A value without parts. -/
def scalarText : Json → Text
  | null => "null"
  | bool true => "true"
  | bool false => "false"
  | integer i => Text.ofInt i
  | number x => numberFormat.text x
  | string t => quote t
  | array _ => "[]"
  | object _ => "\x7b\x7d"

/-- The text between the parts of a value: what opens it, what separates two parts and what closes
it, at a given depth. -/
structure Layout where
  /-- What stands before the first part, at the depth of the parts. -/
  opening : Nat → Text
  /-- What stands between two parts, at the depth of the parts. -/
  between : Nat → Text
  /-- What stands after the last part, at the depth around them. -/
  closing : Nat → Text

/-- A line break and two blanks for each level. -/
def newLine (depth : Nat) : Text :=
  .lineFeed :: List.replicate (2 * depth) .blank

/-- Each part on a line of its own. -/
def indented : Layout where
  opening := newLine
  between depth := .comma :: newLine depth
  closing := newLine

/-- Everything on one line. -/
def oneLine : Layout where
  opening _ := []
  between _ := ", "
  closing _ := []

mutual

/-- The text of a value at a depth. -/
def render (l : Layout) (depth : Nat) : Json → Text
  | array (item :: items) =>
    .openBracket :: l.opening (depth + 1) ++ render l (depth + 1) item
      ++ renderItems l (depth + 1) items ++ l.closing depth ++ [.closeBracket]
  | object (member :: members) =>
    .openBrace :: l.opening (depth + 1) ++ renderMember l (depth + 1) member
      ++ renderMembers l (depth + 1) members ++ l.closing depth ++ [.closeBrace]
  | scalar => scalarText scalar

/-- The text of the parts after the first. -/
def renderItems (l : Layout) (depth : Nat) : List Json → Text
  | [] => []
  | item :: items => l.between depth ++ render l depth item ++ renderItems l depth items

/-- The text of one member of an object. -/
def renderMember (l : Layout) (depth : Nat) : Text × Json → Text
  | (name, value) => quote name ++ (": " : Text) ++ render l depth value

/-- The text of the members after the first. -/
def renderMembers (l : Layout) (depth : Nat) : List (Text × Json) → Text
  | [] => []
  | member :: members =>
    l.between depth ++ renderMember l depth member ++ renderMembers l depth members

end

/-- The text of a value with each part on a line of its own. -/
def pretty (j : Json) : Text :=
  render indented 0 j

/-- The text of a value on one line. -/
def compact (j : Json) : Text :=
  render oneLine 0 j

end Json

end DexDiscovery
