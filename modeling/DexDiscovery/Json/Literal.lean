import DexDiscovery.Json
import DexDiscovery.Text.Quoted

/-!
# Values as literals

Inside a line of text, as in a log message or on the console, values are spelled as literals:
`None`, `True` and `False`, numbers, quoted strings, lists in brackets and dictionaries in braces.
A string by itself stands without quotes.
-/

namespace DexDiscovery

namespace Json

/-- Doubles inside a line of text. -/
def literalFormat : DoubleFormat where
  infinity := "inf"
  nan := "nan"
  leastPlace := -4
  greatestPlace := 16
  exponentDigits := 2

mutual

/-- A value as a literal; `quoteString` is the way in which strings are quoted. -/
def literal (quoteString : Text → Text) : Json → Text
  | null => "None"
  | bool true => "True"
  | bool false => "False"
  | integer i => Text.ofInt i
  | number x => literalFormat.text x
  | string t => quoteString t
  | array items => .openBracket :: Text.join ", " (literals quoteString items) ++ [.closeBracket]
  | object members =>
    .openBrace :: Text.join ", " (memberLiterals quoteString members) ++ [.closeBrace]

/-- Several values as literals. -/
def literals (quoteString : Text → Text) : List Json → List Text
  | [] => []
  | item :: items => literal quoteString item :: literals quoteString items

/-- The members of a dictionary as literals. -/
def memberLiterals (quoteString : Text → Text) : List (Text × Json) → List Text
  | [] => []
  | (name, value) :: members =>
    (quoteString name ++ (": " : Text) ++ literal quoteString value)
      :: memberLiterals quoteString members

end

/-- A value as it stands in a line of text. -/
def shown : Json → Text
  | string t => t
  | value => literal Text.quoted value

end Json

end DexDiscovery
