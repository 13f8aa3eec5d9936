import DexDiscovery.Text.Basic

/-!
# Words and lines

A text falls into **words** at its blanks, which are the code points that Unicode calls white
space, with the four separators of ASCII.  A word is taken together with the blanks behind it, so
that nothing of a text is lost; only blanks in front of the first word belong to that one.
-/

namespace DexDiscovery

namespace CodePoint

/-- White space, and the separators of ASCII. -/
def isSpace (c : CodePoint) : Bool :=
  (0x09 ≤ c.val && c.val ≤ 0x0D) || (0x1C ≤ c.val && c.val ≤ 0x20)
    || (0x2000 ≤ c.val && c.val ≤ 0x200A)
    || [0x85, 0xA0, 0x1680, 0x2028, 0x2029, 0x202F, 0x205F, 0x3000].contains c.val

/-- What ends a line of a text. -/
def isLineEnd (c : CodePoint) : Bool :=
  (0x0A ≤ c.val && c.val ≤ 0x0D) || (0x1C ≤ c.val && c.val ≤ 0x1E)
    || [0x85, 0x2028, 0x2029].contains c.val

end CodePoint

namespace Text

/-- The first word of a text with the blanks around it, and the rest; none if there are only
blanks. -/
def firstWord? (t : Text) : Option (Text × Text) :=
  let blanks := t.takeWhile CodePoint.isSpace
  let body := (t.drop blanks.length).takeWhile (!·.isSpace)
  let behind := (t.drop (blanks.length + body.length)).takeWhile CodePoint.isSpace
  if body = [] then none
  else some (blanks ++ body ++ behind, t.drop (blanks.length + body.length + behind.length))

/-- The words of a text; `fuel` bounds their number. -/
def wordsWithin : (fuel : Nat) → Text → List Text
  | 0, _ => []
  | fuel + 1, t =>
    match firstWord? t with
    | none => []
    | some (word, rest) => word :: wordsWithin fuel rest

/-- The words of a text, each with the blanks behind it. -/
def words (t : Text) : List Text :=
  wordsWithin t.length t

/-- A text without the blanks at its end. -/
def trimEnd (t : Text) : Text :=
  (t.reverse.dropWhile CodePoint.isSpace).reverse

/-- A text without the blanks at either end. -/
def trim (t : Text) : Text :=
  trimEnd (t.dropWhile CodePoint.isSpace)

end Text

end DexDiscovery
