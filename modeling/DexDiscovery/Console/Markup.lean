import DexDiscovery.Console.Shortcode
import DexDiscovery.Console.Style
import DexDiscovery.Failure

/-!
# Marked-up text

What is shown may be marked up by **tags** in brackets.  A tag opens a style, or with a slash it
closes the last open one, or the last one of a name; a backslash in front of it makes it plain text,
and brackets that do not look like a tag are plain text anyway.  Styles leave no trace in the text
itself, so reading it only takes the tags away.

A tag that closes what is not open is a failure.  Styles may be left open.
-/

namespace DexDiscovery

namespace Markup

/-- A part of marked-up text. -/
inductive Piece where
  | plain (t : Text)
  | opening (style : Text)
  /-- A closing tag, with the name of what it closes if it has one. -/
  | closing (style? : Option Text)
deriving DecidableEq, Repr

/-- What a tag begins with: a small letter, a number sign, a slash or an at sign. -/
def beginsTag (c : CodePoint) : Bool :=
  (0x61 ≤ c.val && c.val ≤ 0x7A) || c == .hash || c == .slash || c == 0x40

/-- The tag at the front of a text, which begins behind its bracket, and the rest. -/
def readTag? : Text → Option (Text × Text)
  | [] => none
  | c :: rest =>
    if beginsTag c then
      let body := rest.takeWhile fun c => c ≠ .openBracket ∧ c ≠ .closeBracket
      match rest.drop body.length with
      | .closeBracket :: rest => some (c :: body, rest)
      | _ => none
    else none

/-- What a tag does; what stands behind an equals sign has no part in it. -/
def ofTag (tag : Text) : Piece :=
  match tag.takeWhile (· ≠ .equals) with
  | .slash :: name =>
    .closing (if Text.trim name = [] then none else some (StyleName.canonical (Text.trim name)))
  | name => .opening (StyleName.canonical name)

/-- The pieces of a text, of which `plain` has been read, last first; `fuel` bounds their
number. -/
def piecesOnto : (fuel : Nat) → (plain : Text) → Text → List Piece
  | 0, plain, _ => [.plain plain.reverse]
  | _ + 1, plain, [] => [.plain plain.reverse]
  | fuel + 1, plain, c :: rest =>
    let escapes := (c :: rest).takeWhile (· = .backslash)
    let tag? :=
      match (c :: rest).drop escapes.length with
      | .openBracket :: body => readTag? body
      | _ => none
    match tag? with
    | none => piecesOnto fuel (c :: plain) rest
    | some (tag, after) =>
      let kept := List.replicate (escapes.length / 2) CodePoint.backslash
      let piece :=
        if escapes.length % 2 = 1 then .plain (.openBracket :: tag ++ [.closeBracket])
        else ofTag tag
      .plain plain.reverse :: .plain kept :: piece :: piecesOnto fuel [] after

/-- The pieces of a text. -/
def pieces (t : Text) : List Piece :=
  piecesOnto (t.length + 1) [] t

/-- A text without the backslash in front of any opening bracket. -/
def unescape : Text → Text
  | .backslash :: .openBracket :: rest => .openBracket :: unescape rest
  | c :: rest => c :: unescape rest
  | [] => []

/-- A text without the control characters that would move the cursor. -/
def withoutControls (t : Text) : Text :=
  t.filter fun c => ¬ c.val ∈ [0x07, 0x08, 0x0B, 0x0C, 0x0D]

/-- The plain text of pieces, while the styles in `opened` are open, the last first. -/
def plainText (opened : List Text) : List Piece → Except Failure Text
  | [] => .ok []
  | .plain t :: rest =>
    (plainText opened rest).map (withoutControls (Shortcode.replace (unescape t)) ++ ·)
  | .opening style :: rest => plainText (style :: opened) rest
  | .closing none :: rest =>
    match opened with
    | [] => .error .nothingToClose
    | _ :: opened => plainText opened rest
  | .closing (some style) :: rest =>
    if style ∈ opened then plainText (opened.erase style) rest else .error .nothingToClose

/-- The plain text of marked-up text. -/
def read (t : Text) : Except Failure Text :=
  plainText [] (pieces t)

end Markup

end DexDiscovery
