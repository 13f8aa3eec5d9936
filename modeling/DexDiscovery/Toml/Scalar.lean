import DexDiscovery.Toml.Value

/-!
# Scalars of a configuration file

Readers of the values without parts.  A reader takes what it recognises from the front of a text
and answers it with the rest; `none` means that the text does not begin with it.  A carriage return
before a line feed has been removed beforehand, and no other control character than the tab may
stand in a string or a comment.

What a file can be refused for is a **fault**: besides being ill-formed it may ask for a whole
number or for a depth of values that are beyond the limits.
-/

namespace DexDiscovery

namespace Toml

/-- Why a configuration file is refused. -/
inductive Fault where
  | illFormed
  /-- A whole number has more digits than can be read. -/
  | numberTooLong (digits : Nat)
  /-- Values are nested too deeply. -/
  | tooDeep
deriving DecidableEq, Repr

/-- What has been read, which has to be there. -/
def required {α : Type} (x? : Option α) : Except Fault α :=
  x?.elim (.error .illFormed) .ok

/-- Reads a value from the front of a text. -/
abbrev Reader (α : Type) := Text → Option (α × Text)

/-- A blank or a tab. -/
def isBlank (c : CodePoint) : Bool :=
  c == .blank || c == .tab

/-- A control character other than the tab. -/
def isControl (c : CodePoint) : Bool :=
  (c.val < 0x20 && c != .tab) || c == 0x7F

/-- Leaves out blanks. -/
def skipBlanks (t : Text) : Text :=
  t.dropWhile isBlank

/-- Leaves out blanks and line feeds. -/
def skipLines (t : Text) : Text :=
  t.dropWhile fun c => isBlank c || c == .lineFeed

/-- Leaves out a comment, if the text begins with one. -/
def skipComment? : Text → Option Text
  | .hash :: rest =>
    if (rest.takeWhile (· ≠ .lineFeed)).any isControl then none
    else some (rest.dropWhile (· ≠ .lineFeed))
  | t => some t

/-- The rest of a text behind a given beginning. -/
def after? (start t : Text) : Option Text :=
  if start.isPrefixOf t then some (t.drop start.length) else none

/-! ## Digits -/

/-- The value of a digit in the given base, which is at most sixteen. -/
def digitIn? (base : Nat) (c : CodePoint) : Option Nat :=
  let value? : Option Nat :=
    if 0x30 ≤ c.val ∧ c.val ≤ 0x39 then some (c.val - 0x30)
    else if 0x41 ≤ c.val ∧ c.val ≤ 0x46 then some (c.val - 0x41 + 10)
    else if 0x61 ≤ c.val ∧ c.val ≤ 0x66 then some (c.val - 0x61 + 10)
    else none
  value?.filter (· < base)

/-- Takes digits from the front, between which single underscores may stand; `last` tells whether
the one before was a digit. -/
def takeDigits (base : Nat) (last : Bool) : Text → List Nat × Text
  | [] => ([], [])
  | c :: rest =>
    match digitIn? base c with
    | some digit =>
      let (digits, rest) := takeDigits base true rest
      (digit :: digits, rest)
    | none =>
      match c, rest with
      | .underscore, d :: _ =>
        if last ∧ (digitIn? base d).isSome then takeDigits base false rest else ([], c :: rest)
      | _, _ => ([], c :: rest)

/-- The number that digits write, most significant first. -/
def ofDigits (base : Nat) (digits : List Nat) : Nat :=
  digits.foldl (fun n digit => base * n + digit) 0

/-- A number of exactly `count` decimal digits. -/
def fixedDigits (count : Nat) : Reader Nat := fun t =>
  let digits := (t.take count).filterMap (digitIn? 10)
  if digits.length = count then some (ofDigits 10 digits, t.drop count) else none

/-! ## Numbers -/

/-- The double nearest to the number of some decimal digits times a power of ten; what is out of
range becomes zero or infinite. -/
def nearestFloat (digits : List Nat) (exponent : Int) : Float :=
  match digits.dropWhile (· = 0) with
  | [] => 0.0
  | digits =>
    let place := exponent + digits.length
    if 400 < place then 1.0 / 0.0
    else if place < -400 then 0.0
    else Float.ofScientific (ofDigits 10 digits) (exponent < 0) exponent.natAbs

/-- A sign, if there is one: whether it is a minus. -/
def readSign : Text → Bool × Text
  | .minus :: rest => (true, rest)
  | .plus :: rest => (false, rest)
  | t => (false, t)

/-- The digits of a whole number: a zero alone, or digits that do not begin with zero. -/
def readWhole : Reader (List Nat)
  | .zero :: rest => some ([0], rest)
  | t =>
    match takeDigits 10 false t with
    | ([], _) => none
    | found => some found

/-- The digits behind a mark, if there are any: those of a fraction. -/
def readFraction : Text → Option (List Nat) × Text
  | .point :: rest =>
    match takeDigits 10 false rest with
    | ([], _) => (none, .point :: rest)
    | (digits, rest) => (some digits, rest)
  | t => (none, t)

/-- An exponent, if there is one. -/
def readExponent : Text → Option Int × Text
  | c :: rest =>
    if c = 'e' ∨ c = 'E' then
      let (negative, digits) := readSign rest
      match takeDigits 10 false digits with
      | ([], _) => (none, c :: rest)
      | (digits, rest) =>
        let n : Int := ofDigits 10 digits
        (some (if negative then -n else n), rest)
    else (none, c :: rest)
  | [] => (none, [])

/-- A decimal number as it is written. -/
structure DecimalNumber where
  negative : Bool
  whole : List Nat
  fraction? : Option (List Nat)
  exponent? : Option Int

/-- The greatest number of digits that a whole number may have. -/
def digitLimit : Nat := 4300

/-- The value of a decimal number: whole, if it has neither a fraction nor an exponent. -/
def DecimalNumber.value (x : DecimalNumber) : Except Fault Value :=
  if x.fraction?.isNone ∧ x.exponent?.isNone then
    let n : Int := ofDigits 10 x.whole
    if digitLimit < x.whole.length then .error (.numberTooLong x.whole.length)
    else .ok (.integer (if x.negative then -n else n))
  else
    let fraction := x.fraction?.getD []
    let y := nearestFloat (x.whole ++ fraction) (x.exponent?.getD 0 - fraction.length)
    .ok (.float (if x.negative then -y else y))

/-- A decimal number. -/
def readDecimal : Reader DecimalNumber := fun t => do
  let (negative, t) := readSign t
  let (whole, t) ← readWhole t
  let (fraction?, t) := readFraction t
  let (exponent?, t) := readExponent t
  return ({ negative, whole, fraction?, exponent? }, t)

/-- A number in another base behind its mark, such as `0x`. -/
def readBased (base : Nat) (mark : Text) : Reader Value := fun t => do
  match takeDigits base false (← after? mark t) with
  | ([], _) => none
  | (digits, rest) => some (.integer (ofDigits base digits), rest)

/-- A number that is infinite or none at all. -/
def readSpecial : Reader Value := fun t =>
  let (negative, rest) := readSign t
  match after? "inf" rest with
  | some rest => some (.float (if negative then -1.0 / 0.0 else 1.0 / 0.0), rest)
  | none => (after? "nan" rest).map fun rest => (.float (0.0 / 0.0), rest)

/-! ## Dates and times -/

/-- A number of two digits, not above `greatest`. -/
def twoDigits (greatest : Nat) : Reader Nat := fun t =>
  (fixedDigits 2 t).filter fun (n, _) => n ≤ greatest

/-- A number with at least `width` digits, as text. -/
def padded (width n : Nat) : Text :=
  Text.padLeft width .zero (Text.ofNat n)

/-- A time of day; of a fraction of a second, six places are kept. -/
def readTime : Reader Text := fun t => do
  let (hour, t) ← twoDigits 23 t
  let t ← after? ":" t
  let (minute, t) ← twoDigits 59 t
  let t ← after? ":" t
  let (second, t) ← twoDigits 59 t
  let shown := padded 2 hour ++ ":" ++ padded 2 minute ++ ":" ++ padded 2 second
  match t with
  | .point :: rest =>
    let digits := rest.takeWhile CodePoint.isDigit
    if digits = [] then return (shown, t)
    let micros := (digits ++ List.replicate 6 CodePoint.zero).take 6
    let rest := rest.drop digits.length
    if micros.all (· == .zero) then return (shown, rest)
    return (shown ++ .point :: micros, rest)
  | _ => return (shown, t)

/-- The number of days of a month. -/
def daysOfMonth (year month : Nat) : Nat :=
  if month = 2 then
    if year % 4 = 0 ∧ (year % 100 ≠ 0 ∨ year % 400 = 0) then 29 else 28
  else if month ∈ [4, 6, 9, 11] then 30
  else 31

/-- The distance of a time from universal time, if it is given. -/
def readZone (t : Text) : Text × Text :=
  match t with
  | c :: rest =>
    if c = 'Z' ∨ c = 'z' then ("+00:00", rest)
    else if c = .plus ∨ c = .minus then
      let zone? : Option (Text × Text) := do
        let (hour, rest) ← twoDigits 23 rest
        let rest ← after? ":" rest
        let (minute, rest) ← twoDigits 59 rest
        let sign : CodePoint := if hour = 0 ∧ minute = 0 then .plus else c
        return (sign :: padded 2 hour ++ ":" ++ padded 2 minute, rest)
      zone?.getD ([], t)
    else ([], t)
  | [] => ([], [])

/-- What may follow a date: a time of day with its zone. -/
def readTimeOfDate : Text → Text × Text
  | c :: rest =>
    if c = 'T' ∨ c = 't' ∨ c = .blank then
      match readTime rest with
      | some (time, rest) =>
        let (zone, rest) := readZone rest
        (.blank :: time ++ zone, rest)
      | none => ([], c :: rest)
    else ([], c :: rest)
  | [] => ([], [])

/-- A date in digits, as year, month and day. -/
def readDate : Reader (Nat × Nat × Nat) := fun t => do
  let (year, t) ← fixedDigits 4 t
  let t ← after? "-" t
  let (month, t) ← (twoDigits 12 t).filter fun (n, _) => 1 ≤ n
  let t ← after? "-" t
  let (day, t) ← (twoDigits 31 t).filter fun (n, _) => 1 ≤ n
  return ((year, month, day), t)

/-- A date, with or without a time.  Once a text looks like a date, it has to be one. -/
def readDateTime? (t : Text) : Option (Option (Value × Text)) :=
  (readDate t).map fun ((year, month, day), rest) =>
    let (time, rest) := readTimeOfDate rest
    if 1 ≤ year ∧ day ≤ daysOfMonth year month then
      some (.dateTime (padded 4 year ++ "-" ++ padded 2 month ++ "-" ++ padded 2 day ++ time),
        rest)
    else none

/-! ## Strings -/

/-- A code point given by `count` hexadecimal digits. -/
def readHex (count : Nat) : Reader CodePoint := fun t => do
  let digits := (t.take count).filterMap (digitIn? 16)
  let n := ofDigits 16 digits
  if digits.length = count ∧ (n < 0xD800 ∨ (0xE000 ≤ n ∧ n < 0x110000)) then
    return (CodePoint.ofNat n, t.drop count)
  none

/-- What an escape stands for, read behind its backslash. -/
def readEscape : Reader CodePoint
  | 'u' :: rest => readHex 4 rest
  | 'U' :: rest => readHex 8 rest
  | c :: rest =>
    let plain : List (CodePoint × CodePoint) :=
      [('b', 0x08), ('t', .tab), ('n', .lineFeed), ('f', 0x0C), ('r', .carriageReturn),
       (.quote, .quote), (.backslash, .backslash)]
    (plain.lookup c).map fun value => (value, rest)
  | [] => none

/-- Reads to the closing quote of a string with escapes; `read` holds what came before, last
first. -/
def readBasic : (fuel : Nat) → (read : Text) → Reader Text
  | 0, _, _ => none
  | fuel + 1, read, t =>
    match t with
    | [] => none
    | .quote :: rest => some (read.reverse, rest)
    | .backslash :: rest => do
      let (c, rest) ← readEscape rest
      readBasic fuel (c :: read) rest
    | c :: rest => if isControl c then none else readBasic fuel (c :: read) rest

/-- A line end that a backslash takes out of a string of several lines, with the blanks and line
feeds behind it. -/
def joinLines? (t : Text) : Option Text :=
  match t with
  | .lineFeed :: rest => some (skipLines rest)
  | c :: _ =>
    if isBlank c then
      match skipBlanks t with
      | [] => some []
      | .lineFeed :: rest => some (skipLines rest)
      | _ => none
    else none
  | [] => none

/-- At most two further quotes belong to a string of several lines. -/
def moreQuotes (quote : CodePoint) (t : Text) : Text × Text :=
  let count := min 2 (t.takeWhile (· == quote)).length
  (t.take count, t.drop count)

/-- Reads to the three closing quotes of a string of several lines with escapes. -/
def readMultiBasic : (fuel : Nat) → (read : Text) → Reader Text
  | 0, _, _ => none
  | fuel + 1, read, t =>
    match t with
    | [] => none
    | .quote :: .quote :: .quote :: rest =>
      let (quotes, rest) := moreQuotes .quote rest
      some (read.reverse ++ quotes, rest)
    | .backslash :: rest =>
      match joinLines? rest with
      | some rest => readMultiBasic fuel read rest
      | none => do
        let (c, rest) ← readEscape rest
        readMultiBasic fuel (c :: read) rest
    | c :: rest =>
      if isControl c && c != .lineFeed then none else readMultiBasic fuel (c :: read) rest

/-- Reads to the closing apostrophe of a string without escapes. -/
def readLiteral : Reader Text := fun t =>
  let body := t.takeWhile (· ≠ .apostrophe)
  match t.drop body.length with
  | [] => none
  | _ :: rest => if body.any isControl then none else some (body, rest)

/-- Reads to the three closing apostrophes of a string of several lines without escapes. -/
def readMultiLiteral : (read : Text) → Reader Text
  | _, [] => none
  | read, c :: rest =>
    if c = .apostrophe ∧ [.apostrophe, .apostrophe].isPrefixOf rest then
      let (quotes, rest) := moreQuotes .apostrophe (rest.drop 2)
      some (read.reverse ++ quotes, rest)
    else if isControl c && c != .lineFeed then none
    else readMultiLiteral (c :: read) rest

/-- Leaves out one line feed. -/
def skipLineFeed : Text → Text
  | .lineFeed :: rest => rest
  | t => t

/-- A string on one line. -/
def readLineString : Reader Text
  | .quote :: rest => readBasic (rest.length + 1) [] rest
  | .apostrophe :: rest => readLiteral rest
  | _ => none

/-- A string of any kind. -/
def readString : Reader Text
  | .quote :: .quote :: .quote :: rest =>
    let rest := skipLineFeed rest
    readMultiBasic (rest.length + 1) [] rest
  | .apostrophe :: .apostrophe :: .apostrophe :: rest => readMultiLiteral [] (skipLineFeed rest)
  | t => readLineString t

/-! ## Scalars -/

/-- The first answer of two. -/
def orElse (first second : Option (Value × Text)) : Option (Value × Text) :=
  match first with
  | some found => some found
  | none => second

/-- A truth value, a time of day, or a number in another base. -/
def readPlain : Reader Value := fun t =>
  orElse ((after? "true" t).map fun rest => (.bool true, rest))
  (orElse ((after? "false" t).map fun rest => (.bool false, rest))
  (orElse ((readTime t).map fun (time, rest) => (.dateTime time, rest))
  (orElse (readBased 16 "0x" t)
  (orElse (readBased 2 "0b" t)
  (readBased 8 "0o" t)))))

/-- A value without parts.  What looks like a date is one, and only then is it tried as a
number. -/
def readScalar (t : Text) : Except Fault (Value × Text) :=
  match t with
  | .quote :: _ | .apostrophe :: _ =>
    required ((readString t).map fun (text, rest) => (.string text, rest))
  | _ =>
    match readDateTime? t, readPlain t, readDecimal t with
    | some found, _, _ => required found
    | none, some found, _ => .ok found
    | none, none, some (number, rest) => number.value.map (·, rest)
    | none, none, none => required (readSpecial t)

end Toml

end DexDiscovery
