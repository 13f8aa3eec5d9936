import DexDiscovery.Console.Wrapping
import DexDiscovery.Decimal.Rounding

/-!
# Tables

A table is drawn with a title above it, a heavy frame around the names of its columns, and a light
one around its rows.  Each cell has a blank on either side of its lines.

A column is as wide as its widest line, if all columns fit beside each other.  Otherwise the widest
ones give way, all of them alike, down to the width of the next ones, and so on.  A cell is wrapped
into its column, and a word that does not fit is cut off.
-/

namespace DexDiscovery

/-- A table whose cells are plain text. -/
structure Table where
  title? : Option Text := none
  columns : List Text
  rows : List (List Text)
deriving DecidableEq, Repr

namespace Table

open Console

/-! ## The grid -/

/-- How many columns are drawn: those with a name, or more if a row is longer. -/
def columnCount (t : Table) : Nat :=
  t.rows.foldl (fun count row => max count row.length) t.columns.length

/-- A row filled up with empty cells. -/
def fillRow (count : Nat) (row : List Text) : List Text :=
  row ++ List.replicate (count - row.length) []

/-- The names of the columns and the rows, all of the same length. -/
def grid (t : Table) : List Text × List (List Text) :=
  (fillRow t.columnCount t.columns, t.rows.map (fillRow t.columnCount))

/-! ## Widths -/

/-- The columns that the widest line of a cell takes. -/
def lineWidth (cell : Text) : Nat :=
  ((cell.splitOnP CodePoint.isLineEnd).map Text.columns).foldl max 0

/-- The columns that a cell takes with its blanks, if there are `limit`. -/
def cellWidth (limit : Nat) (cell : Text) : Nat :=
  if limit < 3 then limit else min limit (lineWidth cell + 2)

/-- The columns that all cells of a column take, if there are `limit`. -/
def columnWidth (limit : Nat) (cells : List Text) : Nat :=
  (cells.map (cellWidth limit)).foldl max 0

/-- Takes `total` off from numbers in equal shares, rounded to the nearest, a tie to the even one;
only the numbers equal to `chosen` are reduced, each by `most` at most.  `count` of them are
left. -/
def reduce (chosen most : Nat) : (total count : Nat) → List Nat → List Nat
  | _, _, [] => []
  | total, count, width :: rest =>
    if width = chosen then
      let share := min most (roundDiv total count)
      (width - share) :: reduce chosen most (total - share) (count - 1) rest
    else width :: reduce chosen most total count rest

/-- The sum of some numbers. -/
def total (widths : List Nat) : Nat :=
  widths.foldl (· + ·) 0

/-- Lets the widest columns give way until all take `limit` together; `fuel` bounds the number of
steps, of which each takes off at least one. -/
def collapse (limit : Nat) : (fuel : Nat) → List Nat → List Nat
  | 0, widths => widths
  | fuel + 1, widths =>
    let excess := total widths - limit
    let widest := widths.foldl max 0
    let next := (widths.filter (· < widest)).foldl max 0
    if excess = 0 then widths
    else
      collapse limit fuel
        (reduce widest (min excess (widest - next)) excess (widths.count widest) widths)

/-- The widths of columns, given by their cells, if they have to share `limit`. -/
def columnWidths (limit : Nat) (columns : List (List Text)) : List Nat :=
  let natural := columns.map fun cells => max 1 (columnWidth limit cells)
  if total natural ≤ limit then natural
  else
    List.zipWith columnWidth (collapse limit (total natural) natural) columns

/-! ## Drawing -/

/-- A drawn line, as far as the console reaches. -/
def line (t : Text) : Text :=
  t.cut Console.width ++ [.lineFeed]

/-- A line of a table: an edge, the parts with separators between them, and an edge. -/
def drawLine (left between right : CodePoint) (parts : List Text) : Text :=
  line (left :: Text.join [between] parts ++ [right])

/-- A line of a table that holds no text. -/
def border (left dash between right : CodePoint) (widths : List Nat) : Text :=
  drawLine left between right (widths.map (run · dash))

/-- The lines of a cell in its column, with a blank at either end. -/
def cellLines (width : Nat) (cell : Text) : List Text :=
  if width < 3 then []
  else (wrap .left .ellipsis (width - 2) cell).map fun part => .blank :: part ++ [.blank]

/-- Where the lines of a cell stand in its row, if other cells have more of them. -/
inductive Place where
  | top
  | bottom
deriving DecidableEq, Repr

/-- The lines of a cell, filled up to the height of its row. -/
def Place.fill (place : Place) (height width : Nat) (lines : List Text) : List Text :=
  let blank := List.replicate (height - lines.length) (run width .blank)
  match place with
  | .top => lines ++ blank
  | .bottom => blank ++ lines

/-- A row of cells, with the same sign for the edges and between the cells. -/
def drawRow (edge : CodePoint) (place : Place) (widths : List Nat) (cells : List Text) : Text :=
  let lines := List.zipWith cellLines widths cells
  let height := (lines.map List.length).foldl max 1
  let filled := List.zipWith (place.fill height) widths lines
  (List.range height).flatMap fun i => drawLine edge edge edge (filled.map (·.getD i []))

/-- A table as it is drawn; one without columns is an empty line. -/
def draw (t : Table) : Text :=
  let (names, rows) := t.grid
  if t.columnCount = 0 then [.lineFeed]
  else
    let extra := t.columnCount + 1
    let columns := names.zipIdx.map fun (name, i) => name :: rows.map (·.getD i [])
    let widths := columnWidths (Console.width - extra) columns
    t.title?.toList.flatMap (fun title =>
        (wrap .center .fold (total widths + extra) title).flatMap line)
      ++ border 0x250F 0x2501 0x2533 0x2513 widths
      ++ drawRow 0x2503 .bottom widths names
      ++ border 0x2521 0x2501 0x2547 0x2529 widths
      ++ rows.flatMap (drawRow 0x2502 .top widths)
      ++ border 0x2514 0x2500 0x2534 0x2518 widths

end Table

end DexDiscovery
