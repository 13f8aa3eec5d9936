import DexDiscovery.Text.Width

/-!
# Glyphs

A glyph is what a terminal shows as one sign: a code point that takes columns, with all that is
shown as part of it.  A text is cut between its glyphs only.  Where a cut would go through a glyph
of two columns, a blank takes the place of its first half.
-/

namespace DexDiscovery

/-- A sign as it is shown, and the columns that it takes. -/
structure Glyph where
  text : Text
  columns : Nat
deriving DecidableEq, Repr

namespace Glyph

/-- A glyph with one more code point, which is shown as part of it. -/
def attach (g : Glyph) (c : CodePoint) (gain : Nat) : Glyph :=
  { text := g.text ++ [c], columns := g.columns + gain }

/-- The glyphs of the rest of a text behind an unfinished one: `joined` tells whether the first code
point belongs to that one, and `last?` is the last code point that took a column, as long as it has
not been widened. -/
def split (g : Glyph) : (joined : Bool) → (last? : Option CodePoint) → Text → List Glyph
  | _, _, [] => [g]
  | true, last?, c :: rest => split (g.attach c 0) false last? rest
  | false, last?, c :: rest =>
    if c = .joiner then split (g.attach c 0) true last? rest
    else if c = .pictureSelector then
      let gain := last?.elim 0 CodePoint.pictureGain
      split (g.attach c gain) false (if gain = 0 then last? else none) rest
    else if c.columns = 0 then split (g.attach c 0) false last? rest
    else g :: split { text := [c], columns := c.columns } false (some c) rest

end Glyph

namespace Text

/-- The glyphs of a text. -/
def glyphs : Text → List Glyph
  | [] => []
  | c :: rest =>
    let first : Glyph := { text := [c], columns := c.columns }
    first.split false (if c.columns = 0 then none else some c) rest

/-- The glyphs that fit into `width` columns, with a blank for a half that fits. -/
def cutGlyphs : (width : Nat) → List Glyph → Text
  | 0, _ => []
  | _ + 1, [] => []
  | width + 1, g :: rest =>
    if g.columns ≤ width + 1 then g.text ++ cutGlyphs (width + 1 - g.columns) rest else [.blank]
termination_by _ l => l.length

/-- A text cut to `width` columns. -/
def cut (width : Nat) (t : Text) : Text :=
  cutGlyphs width t.glyphs

/-- A text cut or filled up with blanks to `width` columns. -/
def fit (width : Nat) (t : Text) : Text :=
  if width < t.columns then cut width t
  else t ++ List.replicate (width - t.columns) .blank

/-- Glyphs in pieces that do not take more than `width` columns; `piece` is begun and takes
`used`. -/
def chopGlyphs (width : Nat) : (piece : Text) → (used : Nat) → List Glyph → List Text
  | piece, _, [] => [piece]
  | piece, used, g :: rest =>
    if width < used + g.columns then piece :: chopGlyphs width g.text g.columns rest
    else chopGlyphs width (piece ++ g.text) (used + g.columns) rest

/-- A text in pieces that do not take more than `width` columns. -/
def chop (width : Nat) (t : Text) : List Text :=
  chopGlyphs width [] 0 t.glyphs

end Text

end DexDiscovery
