import DexDiscovery.Text.CodePoint

/-!
# Text as code points

Strings of a dex image are UTF-16, and nothing in the format keeps a surrogate from standing
alone.  A text is therefore a list of code points below `0x110000` in which **surrogates are
allowed**; `String`, which excludes them, serves for literals only.

Texts are compared code point by code point (the order of `List` over `Fin`), and every sorted
answer of the library is sorted in that order.
-/

namespace DexDiscovery

/-- A sequence of code points. -/
abbrev Text := List CodePoint

namespace Text

/-- The text of a literal. -/
def ofString (s : String) : Text :=
  s.toList.map CodePoint.ofChar

instance : Coe String Text := ⟨ofString⟩

/-- The characters of a text, each surrogate replaced by U+FFFD: for showing a text where only
well-formed Unicode can be shown. -/
def toDisplay (t : Text) : String :=
  String.ofList (t.map fun c => if c.isSurrogate then '\uFFFD' else Char.ofNat c.val)

/-- Whether some surrogate occurs, so that the text has no UTF-8 form. -/
def hasSurrogate (t : Text) : Bool :=
  t.any CodePoint.isSurrogate

/-! ## Order -/

/-- Code-point order, as a test: the first place where two texts differ decides. -/
def le : Text → Text → Bool
  | [], _ => true
  | _ :: _, [] => false
  | a :: s, b :: t => if a.val = b.val then le s t else a.val < b.val

/-- The texts in ascending order; equal texts are all kept. -/
def sort (l : List Text) : List Text :=
  l.mergeSort le

/-! ## Parts of a text -/

/-- The texts in order, with `sep` between neighbours. -/
def join (sep : Text) : List Text → Text
  | [] => []
  | [t] => t
  | t :: rest => t ++ sep ++ join sep rest

/-- Every occurrence of one code point replaced by another. -/
def replaceAll (old new : CodePoint) (t : Text) : Text :=
  t.map fun c => if c = old then new else c

/-- What stands before and after the **last** occurrence of `sep`, if there is one. -/
def splitAtLast? (sep : Text) : Text → Option (Text × Text)
  | [] => if sep = [] then some ([], []) else none
  | c :: rest =>
    match splitAtLast? sep rest with
    | some (before, after) => some (c :: before, after)
    | none => if sep.isPrefixOf (c :: rest) then some ([], (c :: rest).drop sep.length) else none

/-- The lines of a text: the parts between line feeds. -/
def lines (t : Text) : List Text :=
  t.splitOn .lineFeed

/-- The text filled up on the right with `fill` to at least `width` code points. -/
def padRight (width : Nat) (fill : CodePoint) (t : Text) : Text :=
  t ++ List.replicate (width - t.length) fill

/-- The text filled up on the left with `fill` to at least `width` code points. -/
def padLeft (width : Nat) (fill : CodePoint) (t : Text) : Text :=
  List.replicate (width - t.length) fill ++ t

/-! ## Numbers -/

/-- The digits of `n` in the given base (at most sixteen), lower case. -/
def ofNatBase (base n : Nat) : Text :=
  (Nat.toDigits base n).map CodePoint.ofChar

/-- A number in decimal. -/
def ofNat (n : Nat) : Text :=
  ofNatBase 10 n

/-- Digits of the magnitude in the given base, behind a minus sign if the number is negative. -/
def ofIntBase (base : Nat) (i : Int) : Text :=
  (if i < 0 then ("-" : Text) else []) ++ ofNatBase base i.natAbs

/-- An integer in decimal. -/
def ofInt (i : Int) : Text :=
  ofIntBase 10 i

/-- An integer in lower-case hexadecimal, the sign first. -/
def hex (i : Int) : Text :=
  ofIntBase 16 i

/-- A byte as two lower-case hexadecimal digits. -/
def hexByte (b : UInt8) : Text :=
  padLeft 2 .zero (ofNatBase 16 b.toNat)

/-- Digits with a comma before every group of three that ends a multiple of three from the
right; `digits` holds the least significant digit first. -/
def groupReversed : Text → Text
  | a :: b :: c :: d :: rest => a :: b :: c :: .comma :: groupReversed (d :: rest)
  | digits => digits

/-- An integer in decimal with a comma between groups of three digits. -/
def grouped (i : Int) : Text :=
  (if i < 0 then ("-" : Text) else []) ++ (groupReversed (ofNat i.natAbs).reverse).reverse

end Text

end DexDiscovery
