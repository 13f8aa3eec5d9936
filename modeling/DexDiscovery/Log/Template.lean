import DexDiscovery.Json.Literal

/-!
# Message templates

A log message may be a template: each **directive** in it begins with a percent sign and takes the
next argument, or the one that it names in parentheses, if the only argument is a dictionary.
Between the percent sign and the letter that tells how the argument is written there may be flags,
a width and a precision, of which the latter two may be taken from the arguments as well.  Two
percent signs stand for one.

A template that does not fit its arguments has no message.
-/

namespace DexDiscovery

namespace Template

/-- How an argument is to be written. -/
structure Directive where
  /-- Blanks are filled in on the right. -/
  leftAligned : Bool := false
  /-- Numbers that are not negative get a plus sign. -/
  plus : Bool := false
  /-- Numbers that are not negative get a blank. -/
  blank : Bool := false
  /-- The base of a number is shown, and its point is kept. -/
  alternate : Bool := false
  /-- Numbers are filled up with zeros. -/
  zeros : Bool := false
  width : Nat := 0
  precision? : Option Nat := none

/-- The arguments that have not been taken. -/
structure Arguments where
  next : List Json
  /-- The members of the only argument, if that is a dictionary. -/
  named? : Option (List (Text × Json)) := none

/-- The arguments of a message. -/
def Arguments.ofList : List Json → Arguments
  | [.object (member :: members)] =>
    { next := [.object (member :: members)], named? := some (member :: members) }
  | args => { next := args }

/-- Takes the next argument. -/
def Arguments.take? (a : Arguments) : Option (Json × Arguments) :=
  match a.next with
  | [] => none
  | x :: rest => some (x, { a with next := rest })

/-- Makes a named argument the next one. -/
def Arguments.select? (a : Arguments) (name : Text) : Option Arguments := do
  let members ← a.named?
  let value ← members.lookup name
  return { a with next := [value] }

/-! ## Numbers -/

/-- Whether an argument is a whole number, and which. -/
def wholeOf? : Json → Option Int
  | .integer i => some i
  | .bool b => some (if b then 1 else 0)
  | _ => none

/-- The whole number that is left of a number without its fraction. -/
def truncated? : Json → Option Int
  | .number x =>
    match Double.ofFloat x with
    | .finite negative magnitude =>
      let n : Int := (magnitude.overPowerOfTen 0).1 / (magnitude.overPowerOfTen 0).2
      some (if negative then -n else n)
    | _ => none
  | value => wholeOf? value

/-- The double nearest to a whole number, unless that is beyond all doubles. -/
def nearestDouble? (i : Int) : Option Double :=
  match Double.ofFloat (Float.ofScientific i.natAbs false 0) with
  | .finite _ magnitude => some (.finite (i < 0) magnitude)
  | _ => none

/-- The number that an argument is. -/
def doubleOf? : Json → Option Double
  | .number x => some (Double.ofFloat x)
  | value => (wholeOf? value).bind nearestDouble?

/-- A number in parts: its sign, the mark of its base, and its digits. -/
structure Parts where
  negative : Bool
  mark : Text := []
  digits : Text

/-- A text in capitals, as far as it is ASCII. -/
def capitals (t : Text) : Text :=
  t.map fun c => if 0x61 ≤ c.val ∧ c.val ≤ 0x7A then c - 0x20 else c

/-- A whole number in a base, with at least as many digits as the precision says. -/
def wholeParts (d : Directive) (base : Nat) (mark : Text) (i : Int) : Parts where
  negative := i < 0
  mark := if d.alternate then mark else []
  digits := Text.padLeft (d.precision?.getD 1) .zero (Text.ofNatBase base i.natAbs)

/-- The greatest number of digits that a whole number can be asked to have at least. -/
def digitLimit : Nat := 0x7FFFFFFC

/-- A whole number in a base, in its width; none if too many digits are asked for. -/
def placeWhole? (d : Directive) (place : Directive → Parts → Text) (base : Nat) (mark : Text)
    (i : Int) : Option Text :=
  if digitLimit < d.precision?.getD 0 then none else some (place d (wholeParts d base mark i))

/-- An exponent, with its letter, its sign and at least two digits. -/
def exponentText (e : Int) : Text :=
  'e' :: (if e < 0 then .minus else .plus) :: paddedDigits 2 e.natAbs

/-- Digits with a point behind the first; the point is left out if nothing follows, unless it is
to be kept. -/
def withPoint (keep : Bool) (whole fraction : Text) : Text :=
  if fraction = [] ∧ ¬ keep then whole else whole ++ .point :: fraction

/-- A fraction without the zeros at its end. -/
def trimZeros (t : Text) : Text :=
  (t.reverse.dropWhile (· == .zero)).reverse

/-- A magnitude in positional notation, with `places` places. -/
def fixedText (keep : Bool) (places : Nat) (x : Dyadic) : Text :=
  x.fixed places ++ if places = 0 ∧ keep then [.point] else []

/-- A magnitude with an exponent, with `places` places. -/
def scientificText (keep : Bool) (places : Nat) (x : Dyadic) : Text :=
  let (n, place) := x.rounded (places + 1)
  let digits := Text.padRight (places + 1) .zero (Text.ofNat n)
  withPoint keep (digits.take 1) (digits.drop 1) ++ exponentText (place - 1)

/-- A magnitude with `count` digits, in the shorter of the two notations. -/
def generalText (keep : Bool) (count : Nat) (x : Dyadic) : Text :=
  let count := max count 1
  let (n, place) := x.rounded count
  let digits := Text.padRight count .zero (Text.ofNat n)
  let trim (t : Text) : Text := if keep then t else trimZeros t
  if place - 1 < -4 ∨ count < place then
    withPoint keep (digits.take 1) (trim (digits.drop 1)) ++ exponentText (place - 1)
  else if place ≤ 0 then
    withPoint keep [.zero] (trim (List.replicate (-place).toNat .zero ++ digits))
  else withPoint keep (digits.take place.toNat) (trim (digits.drop place.toNat))

/-- A number with a fraction, in parts. -/
def fractionParts (layout : Bool → Nat → Dyadic → Text) (d : Directive) (x : Double) : Parts :=
  match x with
  | .finite negative magnitude =>
    { negative, digits := layout d.alternate (d.precision?.getD 6) magnitude }
  | .infinite negative => { negative, digits := "inf" }
  | .nan => { negative := false, digits := "nan" }

/-! ## Writing -/

/-- A text in its width. -/
def place (d : Directive) (t : Text) : Text :=
  if d.leftAligned then Text.padRight d.width .blank t else Text.padLeft d.width .blank t

/-- A number in its width: zeros come behind the sign, blanks in front of it. -/
def placeNumber (d : Directive) (p : Parts) : Text :=
  let sign : Text :=
    if p.negative then "-" else if d.plus then "+" else if d.blank then " " else []
  let front := sign ++ p.mark
  if d.zeros ∧ ¬ d.leftAligned then
    front ++ Text.padLeft (d.width - front.length) .zero p.digits
  else place d (front ++ p.digits)

/-- A number in its width, in capitals. -/
def placeCapitals (d : Directive) (p : Parts) : Text :=
  placeNumber d { p with mark := capitals p.mark, digits := capitals p.digits }

/-- A text in its width, cut to the precision. -/
def placeText (d : Directive) (t : Text) : Text :=
  place d (match d.precision? with
    | some count => t.take count
    | none => t)

/-- The character that an argument is, or that has its number. -/
def character? : Json → Option Text
  | .string [c] => some [c]
  | value => do
    let i ← wholeOf? value
    if 0 ≤ i ∧ i < 0x110000 then some [CodePoint.ofNat i.toNat] else none

/-- Writes an argument in the way that a letter says. -/
def write? (d : Directive) (letter : CodePoint) (value : Json) : Option Text :=
  let double? (layout : Bool → Nat → Dyadic → Text) : Option Parts :=
    (doubleOf? value).map (fractionParts layout d)
  if letter = 's' then some (placeText d value.shown)
  else if letter = 'r' then some (placeText d (value.literal Text.quoted))
  else if letter = 'a' then some (placeText d (value.literal Text.quotedAscii))
  else if letter = 'c' then (character? value).map (place d)
  else if letter ∈ ("diu" : Text) then
    (truncated? value).bind (placeWhole? d placeNumber 10 [])
  else if letter = 'o' then (wholeOf? value).bind (placeWhole? d placeNumber 8 "0o")
  else if letter = 'x' then (wholeOf? value).bind (placeWhole? d placeNumber 16 "0x")
  else if letter = 'X' then (wholeOf? value).bind (placeWhole? d placeCapitals 16 "0x")
  else if letter = 'f' then (double? fixedText).map (placeNumber d)
  else if letter = 'F' then (double? fixedText).map (placeCapitals d)
  else if letter = 'e' then (double? scientificText).map (placeNumber d)
  else if letter = 'E' then (double? scientificText).map (placeCapitals d)
  else if letter = 'g' then (double? generalText).map (placeNumber d)
  else if letter = 'G' then (double? generalText).map (placeCapitals d)
  else none

/-! ## Reading directives -/

/-- The name in parentheses at the front of a text, whose parentheses are balanced; `depth` are
open. -/
def readName? : (depth : Nat) → Text → Option (Text × Text)
  | _, [] => none
  | depth, c :: rest =>
    if c = .closeParen ∧ depth = 0 then some ([], rest)
    else
      let depth :=
        if c = .openParen then depth + 1 else if c = .closeParen then depth - 1 else depth
      (readName? depth rest).map fun (name, rest) => (c :: name, rest)

/-- The flags at the front of a text. -/
def readFlags (d : Directive) : Text → Directive × Text
  | [] => (d, [])
  | c :: rest =>
    if c = .minus then readFlags { d with leftAligned := true } rest
    else if c = .plus then readFlags { d with plus := true } rest
    else if c = .blank then readFlags { d with blank := true } rest
    else if c = .hash then readFlags { d with alternate := true } rest
    else if c = .zero then readFlags { d with zeros := true } rest
    else (d, c :: rest)

/-- The number that the digits at the front of a text write; without digits it is zero. -/
def readNumber (t : Text) : Nat × Text :=
  let digits := t.takeWhile CodePoint.isDigit
  (digits.foldl (fun n c => 10 * n + (c.val - 0x30)) 0, t.drop digits.length)

/-- The greatest width and the greatest precision that can be asked for. -/
def sizeLimit : Nat := 0x7FFFFFFF

/-- A width or a precision, unless it is beyond the limit. -/
def limited? (size : Nat) : Option Nat :=
  if size ≤ sizeLimit then some size else none

/-- The precision that an argument asks for, unless it is beyond the limit on either side; a
negative one asks for none at all. -/
def precisionOf? (i : Int) : Option Nat :=
  if -(sizeLimit : Int) - 1 ≤ i ∧ i ≤ sizeLimit then some i.toNat else none

/-- The width: a number, or a star for the next argument; a negative one aligns to the left. -/
def readWidth? (d : Directive) (a : Arguments) : Text → Option (Directive × Arguments × Text)
  | .star :: rest => do
    let (value, a) ← a.take?
    let i ← wholeOf? value
    let width ← limited? i.natAbs
    return ({ d with width, leftAligned := d.leftAligned || i < 0 }, a, rest)
  | t => do
    let (width, rest) := readNumber t
    return ({ d with width := ← limited? width }, a, rest)

/-- The precision: a point with a number, or with a star for the next argument. -/
def readPrecision? (d : Directive) (a : Arguments) : Text → Option (Directive × Arguments × Text)
  | .point :: .star :: rest => do
    let (value, a) ← a.take?
    let i ← wholeOf? value
    return ({ d with precision? := some (← precisionOf? i) }, a, rest)
  | .point :: t => do
    let (precision, rest) := readNumber t
    return ({ d with precision? := some (← limited? precision) }, a, rest)
  | t => some (d, a, t)

/-- Leaves out one letter that has no meaning here. -/
def skipSize : Text → Text
  | c :: rest => if c ∈ ("hlL" : Text) then rest else c :: rest
  | [] => []

/-- Reads the directive behind a percent sign and carries it out. -/
def expandDirective? (a : Arguments) (t : Text) : Option (Text × Arguments × Text) := do
  let (a, t) ← match t with
    | .openParen :: rest => do
      let (name, rest) ← readName? 0 rest
      let a ← a.select? name
      pure (a, rest)
    | _ => pure (a, t)
  let (d, t) := readFlags {} t
  let (d, a, t) ← readWidth? d a t
  let (d, a, t) ← readPrecision? d a t
  match skipSize t with
  | [] => none
  | letter :: rest => do
    let (value, a) ← a.take?
    return (← write? d letter value, a, rest)

/-- Writes a template with its arguments; `fuel` bounds the number of directives. -/
def expandFrom? : (fuel : Nat) → Arguments → Text → Option Text
  | 0, _, _ => none
  | fuel + 1, a, t =>
    let literal := t.takeWhile (· ≠ .percent)
    match t.drop literal.length with
    | [] => if a.next.isEmpty || a.named?.isSome then some literal else none
    | .percent :: .percent :: rest => return literal ++ .percent :: (← expandFrom? fuel a rest)
    | _ :: rest => do
      let (written, a, rest) ← expandDirective? a rest
      return literal ++ written ++ (← expandFrom? fuel a rest)

/-- The message of a template with arguments.  Without arguments it is not a template, and stands
for itself. -/
def message? (template : Text) (args : List Json) : Option Text :=
  if args.isEmpty then some template
  else expandFrom? (template.length + 1) (.ofList args) template

end Template

end DexDiscovery
