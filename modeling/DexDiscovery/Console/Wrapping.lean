import DexDiscovery.Text.Glyph
import DexDiscovery.Text.Words

/-!
# Wrapping lines

A text is fitted into a number of columns.  Its lines are broken in front of words; a word that is
wider than a line by itself is broken too, or cut off with an ellipsis, as the **overflow** says.
Then every line is brought to its place, as the **alignment** says.
-/

namespace DexDiscovery

namespace Console

/-- The number of columns of the console. -/
def width : Nat := 100

/-- One code point repeated. -/
def run (count : Nat) (c : CodePoint) : Text :=
  List.replicate count c

/-- What becomes of a word that is wider than a line. -/
inductive Overflow where
  /-- It is broken. -/
  | fold
  /-- It is cut off, with an ellipsis at the end. -/
  | ellipsis
deriving DecidableEq, Repr

/-- Where a line stands in its columns. -/
inductive Alignment where
  /-- At the left, without blanks behind it. -/
  | ragged
  /-- At the left, filled up with blanks. -/
  | left
  | center
deriving DecidableEq, Repr

/-! ## Tabs -/

/-- The distance of tab stops. -/
def tabSize : Nat := 8

/-- A line with blanks in place of its tabs, from a column on; `fuel` bounds their number. -/
def expandTabsFrom : (fuel : Nat) → (column : Nat) → Text → Text
  | 0, _, t => t
  | fuel + 1, column, t =>
    let before := t.takeWhile (· ≠ .tab)
    match t.drop before.length with
    | [] => before
    | _ :: rest =>
      let reached := column + Text.columns (before ++ [.blank])
      let filled := (tabSize - reached % tabSize) % tabSize
      before ++ .blank :: run filled .blank ++ expandTabsFrom fuel (reached + filled) rest

/-- A line with blanks in place of its tabs. -/
def expandTabs (t : Text) : Text :=
  expandTabsFrom (t.length + 1) 0 t

/-! ## Breaking -/

/-- Lines under construction. -/
structure Breaking where
  /-- The complete lines, the last first. -/
  complete : List Text := []
  /-- The line at hand, with the columns that it takes. -/
  line : Text := []
  used : Nat := 0

namespace Breaking

/-- Begins a new line with some text; at the very beginning there is one. -/
def startLine (b : Breaking) (t : Text) : Breaking :=
  { complete := if b.complete = [] ∧ b.line = [] then [] else b.line :: b.complete
    line := t
    used := t.columns }

/-- Adds a word, which comes with the blanks behind it. -/
def add (overflow : Overflow) (width : Nat) (b : Breaking) (word : Text) : Breaking :=
  let needed := (Text.trimEnd word).columns
  if b.used + needed ≤ width then
    { b with line := b.line ++ word, used := b.used + word.columns }
  else if width < needed then
    match overflow with
    | .fold => (word.chop width).foldl startLine b
    | .ellipsis => b.startLine word
  else b.startLine word

/-- All lines. -/
def lines (b : Breaking) : List Text :=
  (b.line :: b.complete).reverse

end Breaking

/-- A line broken in front of words. -/
def breakLine (overflow : Overflow) (width : Nat) (t : Text) : List Text :=
  match t.words with
  | [] => [t]
  | words => (words.foldl (Breaking.add overflow width) {}).lines

/-! ## Fitting -/

/-- The ellipsis. -/
def ellipsis : CodePoint := 0x2026

/-- A line without the blanks at its end, as far as it has more than `width` code points. -/
def dropOverhang (width : Nat) (t : Text) : Text :=
  t.take (max (Text.trimEnd t).length (min t.length width))

/-- A line that takes at most `width` columns. -/
def truncate (overflow : Overflow) (width : Nat) (t : Text) : Text :=
  if width < t.columns then
    match overflow with
    | .fold => t.fit width
    | .ellipsis => t.fit (width - 1) ++ [ellipsis]
  else t

/-- A line in the middle of `width` columns; of an odd rest, the right side gets more. -/
def centre (width : Nat) (t : Text) : Text :=
  let left := run ((width - t.columns) / 2) .blank ++ t
  left ++ run (width - left.columns) .blank

/-- A line in its place. -/
def align (alignment : Alignment) (overflow : Overflow) (width : Nat) (t : Text) : Text :=
  match alignment with
  | .ragged => truncate overflow width t
  | .left => (truncate overflow width t).fit width
  | .center => centre width (truncate overflow width (Text.trimEnd t))

/-- The lines of a text in `width` columns. -/
def wrap (alignment : Alignment) (overflow : Overflow) (width : Nat) (t : Text) : List Text :=
  t.lines.flatMap fun line =>
    (breakLine overflow width (expandTabs line)).map fun part =>
      align alignment overflow width (dropOverhang width part)

end Console

end DexDiscovery
