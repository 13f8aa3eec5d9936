import DexDiscovery.Text.Printable

/-!
# Quoted text

The form in which error messages show a text or a byte sequence: between single quotes, or between
double quotes if the text holds a single quote and no double one; a backslash and the quote in use
are escaped by a backslash, tab, line feed and carriage return are `\t`, `\n` and `\r`, and every
other unprintable code point is `\xhh`, `\uhhhh` or `\Uhhhhhhhh`, whichever is the shortest that
can hold it.
-/

namespace DexDiscovery

namespace Text

/-- The quote that encloses a text: double only where it saves escaping a single one. -/
def quoteFor (t : Text) : CodePoint :=
  if .apostrophe ∈ t ∧ .quote ∉ t then .quote else .apostrophe

/-- A hexadecimal escape `\x..`, `\u....` or `\U........`. -/
def hexEscape (c : CodePoint) : Text :=
  if c.val < 0x100 then ("\\x" : Text) ++ padLeft 2 .zero (ofNatBase 16 c.val)
  else if c.val < 0x10000 then ("\\u" : Text) ++ padLeft 4 .zero (ofNatBase 16 c.val)
  else ("\\U" : Text) ++ padLeft 8 .zero (ofNatBase 16 c.val)

/-- A code point as it stands between `quote`s; `plain` tells which may stand for themselves. -/
def escapeWith (plain : CodePoint → Bool) (quote c : CodePoint) : Text :=
  if c = quote ∨ c = .backslash then [.backslash, c]
  else if c = .tab then "\\t"
  else if c = .lineFeed then "\\n"
  else if c = .carriageReturn then "\\r"
  else if plain c then [c]
  else hexEscape c

/-- The quoted form of a text. -/
def quoted (t : Text) : Text :=
  let quote := quoteFor t
  quote :: t.flatMap (escapeWith CodePoint.isPrintable quote) ++ [quote]

/-- The quoted form of a text in ASCII: every code point above `0x7E` is escaped. -/
def quotedAscii (t : Text) : Text :=
  let quote := quoteFor t
  quote :: t.flatMap (escapeWith (fun c => 0x20 ≤ c.val && c.val < 0x7F) quote) ++ [quote]

/-- The quoted form of a byte sequence, marked by a leading `b`. -/
def quotedBytes (bytes : List UInt8) : Text :=
  'b' :: quotedAscii (bytes.map fun b => CodePoint.ofNat b.toNat)

end Text

end DexDiscovery
