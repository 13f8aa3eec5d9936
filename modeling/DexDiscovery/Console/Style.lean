import DexDiscovery.Text.Words

/-!
# Names of styles

A style is named by words: attributes such as `bold`, which may be denied by a `not`, a colour, and
the colour of the background behind an `on`.  One style has many names; `StyleName.canonical` is the
one among them that lists the attributes in a fixed order before the colours.  What is not the name
of a style stands for itself, in small letters.
-/

namespace DexDiscovery

namespace StyleName

/-- The attributes in their order, each with its other names. -/
def attributes : List (Text × List Text) := [
  ("bold", ["b"]),
  ("dim", ["d"]),
  ("italic", ["i"]),
  ("underline", ["u"]),
  ("blink", []),
  ("blink2", []),
  ("reverse", ["r"]),
  ("conceal", ["c"]),
  ("strike", ["s"]),
  ("underline2", ["uu"]),
  ("frame", []),
  ("encircle", []),
  ("overline", ["o"])]

/-- The attribute that a word names. -/
def attribute? (word : Text) : Option Text :=
  (attributes.find? fun (name, others) => word == name || others.contains word).map Prod.fst

/-- The colours that have names of their own; each of them but the first is also `bright_`. -/
def colours : List Text :=
  ["default", "black", "red", "green", "yellow", "blue", "magenta", "cyan", "white"]

/-- Whether a word is a colour: a name, or a number sign with six hexadecimal digits. -/
def isColour (word : Text) : Bool :=
  let bright : Text := "bright_"
  match word with
  | .hash :: digits => digits.length == 6 && digits.all (· ∈ ("0123456789abcdef" : Text))
  | _ =>
    if bright.isPrefixOf word then colours.tail.contains (word.drop bright.length)
    else colours.contains word

/-- What the words of a name have said so far. -/
structure Reading where
  /-- The attributes, with whether they hold; the last word about each comes first. -/
  said : List (Text × Bool) := []
  colour? : Option Text := none
  background? : Option Text := none

/-- Reads the words of a name; `none` if they name no style. -/
def read? (r : Reading) : List Text → Option Reading
  | [] => some r
  | word :: rest =>
    if word = "on" then
      match rest with
      | colour :: rest =>
        if isColour colour then read? { r with background? := some colour } rest else none
      | [] => none
    else if word = "not" then
      match rest with
      | denied :: rest =>
        (attribute? denied).bind fun name => read? { r with said := (name, false) :: r.said } rest
      | [] => none
    else match attribute? word with
      | some name => read? { r with said := (name, true) :: r.said } rest
      | none => if isColour word then read? { r with colour? := some word } rest else none

/-- The canonical name of what has been read. -/
def Reading.name (r : Reading) : Text :=
  let attributes := attributes.filterMap fun (name, _) =>
    (r.said.lookup name).map fun holds => if holds then name else ("not " : Text) ++ name
  let colours := r.colour?.toList ++ r.background?.toList.map (("on " : Text) ++ ·)
  match attributes ++ colours with
  | [] => "none"
  | parts => Text.join [.blank] parts

/-- The canonical name of a style. -/
def canonical (name : Text) : Text :=
  let words := name.words.map fun word => (Text.trim word).map CodePoint.small
  if words = [("none" : Text)] then "none"
  else ((read? {} words).map Reading.name).getD ((Text.trim name).map CodePoint.small)

end StyleName

end DexDiscovery
