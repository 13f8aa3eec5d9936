/-!
# Code points

A code point is a number below `0x110000`.  The surrogates, which stand for nothing by themselves,
are code points like all others.
-/

namespace DexDiscovery

/-- A Unicode code point; the surrogates `0xD800 … 0xDFFF` are included. -/
abbrev CodePoint := Fin 0x110000

namespace CodePoint

/-- There are code points, so that numerals stand for them. -/
instance : @NeZero Nat Zero.ofOfNat0 0x110000 := ⟨by decide⟩

/-- Code points are compared by their numbers. -/
instance : LawfulBEq CodePoint := inferInstance

/-- The code point of a character. -/
def ofChar (c : Char) : CodePoint :=
  ⟨c.toNat, by
    have h := c.valid
    simp only [UInt32.isValidChar, Nat.isValidChar] at h
    have : c.toNat = c.val.toNat := rfl
    omega⟩

instance : Coe Char CodePoint := ⟨ofChar⟩

/-- The code point of number `n`, which is at most `0x10FFFF`; larger numbers give U+FFFD. -/
def ofNat (n : Nat) : CodePoint :=
  if h : n < 0x110000 then ⟨n, h⟩ else 0xFFFD

/-- A high or low surrogate. -/
def isSurrogate (c : CodePoint) : Bool :=
  0xD800 ≤ c.val && c.val < 0xE000

/-- The ASCII digits. -/
def isDigit (c : CodePoint) : Bool :=
  0x30 ≤ c.val && c.val ≤ 0x39

/-- A letter in its small form, as far as it is an ASCII letter. -/
def small (c : CodePoint) : CodePoint :=
  if 0x41 ≤ c.val ∧ c.val ≤ 0x5A then c + 0x20 else c

/-! ## Signs

The names of the signs that formats are made of. -/

/-- The tab. -/
@[match_pattern]
abbrev tab : CodePoint := 0x09

/-- The line feed. -/
@[match_pattern]
abbrev lineFeed : CodePoint := 0x0A

/-- The carriage return. -/
@[match_pattern]
abbrev carriageReturn : CodePoint := 0x0D

/-- The blank. -/
@[match_pattern]
abbrev blank : CodePoint := 0x20

/-- The exclamation mark. -/
@[match_pattern]
abbrev exclamation : CodePoint := 0x21

/-- The double quote. -/
@[match_pattern]
abbrev quote : CodePoint := 0x22

/-- The number sign. -/
@[match_pattern]
abbrev hash : CodePoint := 0x23

/-- The percent sign. -/
@[match_pattern]
abbrev percent : CodePoint := 0x25

/-- The single quote. -/
@[match_pattern]
abbrev apostrophe : CodePoint := 0x27

/-- The opening parenthesis. -/
@[match_pattern]
abbrev openParen : CodePoint := 0x28

/-- The closing parenthesis. -/
@[match_pattern]
abbrev closeParen : CodePoint := 0x29

/-- The asterisk. -/
@[match_pattern]
abbrev star : CodePoint := 0x2A

/-- The plus sign. -/
@[match_pattern]
abbrev plus : CodePoint := 0x2B

/-- The comma. -/
@[match_pattern]
abbrev comma : CodePoint := 0x2C

/-- The minus sign. -/
@[match_pattern]
abbrev minus : CodePoint := 0x2D

/-- The full stop. -/
@[match_pattern]
abbrev point : CodePoint := 0x2E

/-- The slash. -/
@[match_pattern]
abbrev slash : CodePoint := 0x2F

/-- The digit zero. -/
@[match_pattern]
abbrev zero : CodePoint := 0x30

/-- The colon. -/
@[match_pattern]
abbrev colon : CodePoint := 0x3A

/-- The semicolon. -/
@[match_pattern]
abbrev semicolon : CodePoint := 0x3B

/-- The equals sign. -/
@[match_pattern]
abbrev equals : CodePoint := 0x3D

/-- The opening bracket. -/
@[match_pattern]
abbrev openBracket : CodePoint := 0x5B

/-- The backslash. -/
@[match_pattern]
abbrev backslash : CodePoint := 0x5C

/-- The closing bracket. -/
@[match_pattern]
abbrev closeBracket : CodePoint := 0x5D

/-- The underscore. -/
@[match_pattern]
abbrev underscore : CodePoint := 0x5F

/-- The opening brace. -/
@[match_pattern]
abbrev openBrace : CodePoint := 0x7B

/-- The closing brace. -/
@[match_pattern]
abbrev closeBrace : CodePoint := 0x7D

end CodePoint

end DexDiscovery
