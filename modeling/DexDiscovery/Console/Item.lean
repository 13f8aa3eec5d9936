import DexDiscovery.Console.Markup
import DexDiscovery.Console.Table
import DexDiscovery.Json.Literal

/-!
# Console output

What is shown to the user is a sequence of **items**: headings, messages of four kinds, values,
tables and blank lines.  `Item.text` draws one without colours, on a console of `Console.width`
columns.  All text in it is marked up, so an item whose text closes what is not open cannot be
drawn.
-/

namespace DexDiscovery

/-- What is shown on the console. -/
inductive Item where
  /-- A title with a rule on either side of it. -/
  | heading (title : Text)
  | success (message : Text)
  | warning (message : Text)
  | error (message : Text)
  | info (message : Text)
  /-- A number of blank lines. -/
  | blank (count : Int)
  /-- Values on one line, with blanks between them. -/
  | plain (values : List Json)
  /-- A table; the styles of its columns, where given, are the names of colours. -/
  | table (title : Text) (columns : List Text) (rows : List (List Json))
      (styles? : Option (List Text))

namespace Console

/-- A text in lines that fit the console. -/
def paragraph (t : Text) : Text :=
  (wrap .ragged .fold width t).flatMap (· ++ [.lineFeed])

/-- A message behind a word about its kind, which is not marked up. -/
def message (kind t : Text) : Except Failure Text :=
  (Markup.read t).map fun t => paragraph (kind ++ .blank :: t)

/-- The columns that the rule on either side of a title takes at least. -/
def leastRule : Nat := 1

/-- A rule across the console with a title in it, and a blank line. -/
def heading (title : Text) : Except Failure Text :=
  let blanks : Text := "  "
  (Markup.read (blanks ++ title ++ blanks)).map fun title =>
    let title := truncate .ellipsis (width - 2 * (leastRule + 1))
      (expandTabs (title.replaceAll .lineFeed .blank))
    let side := (width - title.columns) / 2
    let dash : CodePoint := 0x2500
    let rule := run (side - 1) dash ++ .blank :: title ++ .blank :: run (side + 1) dash
    rule.fit width ++ [.lineFeed, .lineFeed]

/-! ## Values -/

/-- A part of a line of values. -/
inductive Part where
  /-- What stands on one line with its neighbours. -/
  | inline (t : Text)
  /-- What stands on lines of its own. -/
  | block (t : Text)
deriving DecidableEq, Repr

/-- A value as a part of a line; only a text is marked up. -/
def partOf : Json → Except Failure Part
  | .string t => (Markup.read t).map .inline
  | .array items => .ok (.block (Json.shown (.array items)))
  | .object members => .ok (.block (Json.shown (.object members)))
  | value => .ok (.inline (Json.shown value))

/-- Parts in paragraphs: those on one line are joined by blanks. -/
def paragraphs : List Part → List Text
  | [] => []
  | .block t :: rest => t :: paragraphs rest
  | .inline t :: rest =>
    match rest, paragraphs rest with
    | .inline _ :: _, next :: others => (t ++ .blank :: next) :: others
    | _, others => t :: others

/-- Values on one line, or an empty line without any. -/
def values (values : List Json) : Except Failure Text := do
  match ← values.mapM partOf with
  | [] => return [.lineFeed]
  | parts => return (paragraphs parts).flatMap paragraph

/-- A table whose texts are marked up.  The title of one without columns is not even read. -/
def table (title : Text) (columns : List Text) (rows : List (List Json)) : Except Failure Text := do
  let columns ← columns.mapM Markup.read
  let rows ← rows.mapM fun row => row.mapM fun cell => Markup.read cell.shown
  let untitled : Table := { columns, rows }
  if title = [] ∨ untitled.columnCount = 0 then return untitled.draw
  return { untitled with title? := ← Markup.read title : Table }.draw

end Console

namespace Item

/-- An item as it is drawn. -/
def text : Item → Except Failure Text
  | heading title => Console.heading title
  | success message => Console.message "[✔] SUCCESS:" message
  | warning message => Console.message "[⚠] WARNING:" message
  | error message => Console.message "[✘] ERROR:" message
  | info message => Console.message "[ℹ] INFO:" message
  | blank count => .ok (Console.run count.toNat .lineFeed)
  | plain values => Console.values values
  | table title columns rows _ => Console.table title columns rows

end Item

namespace Console

/-- The items as they are drawn; a quiet console shows nothing of them. -/
def transcript (quiet : Bool) (items : List Item) : Except Failure Text :=
  (items.mapM Item.text).map fun drawn => if quiet then [] else drawn.flatten

end Console

end DexDiscovery
