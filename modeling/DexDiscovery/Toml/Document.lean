import DexDiscovery.Toml.Scalar

/-!
# Configuration documents

A TOML file is a sequence of **statements**: an assignment, the heading of a table, or the heading
of one more table of an array.  A document is built by carrying them out in order; a statement that
would define something twice, or reach into what is already complete, makes the file ill-formed.

A table that only comes up on the way to another stays open.  It is complete once it has had a
heading, or once dotted keys have filled it and their section has ended.

Faults are noticed in the order of the text: a statement is carried out before the next one is read.
-/

namespace DexDiscovery

namespace Toml

/-- The names that lead to a value or a table. -/
abbrev Key := List Text

/-- A line of a configuration file. -/
inductive Statement where
  | assign (key : Key) (value : Value)
  | table (key : Key)
  | arrayItem (key : Key)

/-! ## Keys and values -/

/-- What a key without quotes consists of. -/
def isBareKey (c : CodePoint) : Bool :=
  c.isDigit || (0x41 ≤ c.val && c.val ≤ 0x5A) || (0x61 ≤ c.val && c.val ≤ 0x7A)
    || c == .minus || c == .underscore

/-- One name of a key. -/
def readName : Reader Text := fun t =>
  match t.takeWhile isBareKey with
  | [] => readLineString t
  | name => some (name, t.drop name.length)

/-- A key: names with points between them. -/
def readKey : (fuel : Nat) → Reader Key
  | 0, _ => none
  | fuel + 1, t => do
    let (name, t) ← readName t
    match skipBlanks t with
    | .point :: rest =>
      let (names, rest) ← readKey fuel (skipBlanks rest)
      return (name :: names, rest)
    | rest => return ([name], rest)

/-- Leaves out blanks, line feeds and comments between the items of an array. -/
def skipFiller : (fuel : Nat) → Text → Option Text
  | 0, t => some t
  | fuel + 1, t =>
    match skipLines t with
    | .hash :: rest => do skipFiller fuel (← skipComment? (.hash :: rest))
    | rest => some rest

/-! ## Tables inside a value -/

/-- A table under construction. -/
inductive Draft where
  | value (v : Value)
  | table (members : List (Text × Draft))

/-- The member of a name. -/
def member? {α : Type} (members : List (Text × α)) (name : Text) : Option α :=
  members.lookup name

/-- The members with one of them replaced, or added at the end. -/
def setMember {α : Type} (name : Text) (x : α) : List (Text × α) → List (Text × α)
  | [] => [(name, x)]
  | (other, y) :: rest =>
    if other = name then (name, x) :: rest else (other, y) :: setMember name x rest

namespace Draft

/-- Adds a value at a key; every name on the way leads to a table, and the last one is new. -/
def put (members : List (Text × Draft)) (v : Value) : Key → Option (List (Text × Draft))
  | [] => none
  | [name] =>
    match member? members name with
    | none => some (setMember name (.value v) members)
    | some _ => none
  | name :: rest =>
    match member? members name with
    | none => (put [] v rest).map fun inner => setMember name (.table inner) members
    | some (.table inner) =>
      (put inner v rest).map fun inner => setMember name (.table inner) members
    | some (.value _) => none

mutual

/-- The finished value. -/
def toValue : Draft → Value
  | .value v => v
  | .table members => .table (toMembers members)

/-- The finished members. -/
def toMembers : List (Text × Draft) → List (Text × Value)
  | [] => []
  | (name, draft) :: rest => (name, draft.toValue) :: toMembers rest

end

end Draft

/-- How deeply values may be nested: the sum of what each array and each table costs that lies
around another value. -/
def roomLimit : Nat := 983

/-- What an array takes of the room for the values in it. -/
def arrayCost : Nat := 2

/-- What a table on one line takes of the room for the values in it. -/
def tableCost : Nat := 3

/-- The room that is left for the values inside another one. -/
def roomInside (cost room : Nat) : Except Fault Nat :=
  if room < cost then .error .tooDeep else .ok (room - cost)

mutual

/-- A value, nested as deeply as there is room. -/
def readValue : (fuel room : Nat) → Text → Except Fault (Value × Text)
  | 0, _, _ => .error .illFormed
  | fuel + 1, room, t =>
    match t with
    | .openBracket :: rest => do
      let room ← roomInside arrayCost room
      readItems fuel room [] (← required (skipFiller rest.length rest))
    | .openBrace :: rest => do
      let room ← roomInside tableCost room
      match skipBlanks rest with
      | .closeBrace :: rest => return (.table [], rest)
      | rest => readMembers fuel room [] rest
    | _ => readScalar t

/-- The items of an array up to its end; `read` holds those before, last first. -/
def readItems : (fuel room : Nat) → (read : List Value) → Text → Except Fault (Value × Text)
  | 0, _, _, _ => .error .illFormed
  | fuel + 1, room, read, t =>
    match t with
    | .closeBracket :: rest => .ok (.array read.reverse, rest)
    | _ => do
      let (item, t) ← readValue fuel room t
      match ← required (skipFiller t.length t) with
      | .closeBracket :: rest => return (.array (item :: read).reverse, rest)
      | .comma :: rest =>
        readItems fuel room (item :: read) (← required (skipFiller rest.length rest))
      | _ => throw .illFormed

/-- The members of a table on one line, up to its end. -/
def readMembers : (fuel room : Nat) → (read : List (Text × Draft)) → Text →
    Except Fault (Value × Text)
  | 0, _, _, _ => .error .illFormed
  | fuel + 1, room, read, t => do
    let (key, t) ← required (readKey (t.length + 1) t)
    let (value, t) ← readValue fuel room (skipBlanks (← required (after? "=" t)))
    let read ← required (Draft.put read value key)
    match skipBlanks t with
    | .closeBrace :: rest => return ((Draft.table read).toValue, rest)
    | .comma :: rest => readMembers fuel room read (skipBlanks rest)
    | _ => throw .illFormed

end

/-! ## Statements -/

/-- A statement, from the front of a line that holds one. -/
def readStatement (t : Text) : Except Fault (Statement × Text) :=
  match t with
  | .openBracket :: .openBracket :: rest => required do
    let (key, rest) ← readKey (rest.length + 1) (skipBlanks rest)
    return (.arrayItem key, ← after? "]]" rest)
  | .openBracket :: rest => required do
    let (key, rest) ← readKey (rest.length + 1) (skipBlanks rest)
    return (.table key, ← after? "]" rest)
  | _ => do
    let (key, rest) ← required (readKey (t.length + 1) t)
    let rest := skipBlanks (← required (after? "=" rest))
    let (value, rest) ← readValue (rest.length + 1) roomLimit rest
    return (.assign key value, rest)

/-! ## Documents -/

/-- What a name of a document stands for.  Sections are numbered; one begins with each heading. -/
inductive Node where
  /-- A value that an assignment has given. -/
  | value (v : Value)
  /-- A table: whether it has had a heading, the section whose dotted keys have filled it, and
  its members. -/
  | table (headed : Bool) (dottedIn : Option Nat) (members : List (Text × Node))
  /-- An array of tables: the members of the last one, and the finished ones, last first. -/
  | tables (last : List (Text × Node)) (finished : List (List (Text × Node)))

namespace Node

/-- Gives a table its heading; what stands on the way is made if it is not there. -/
def openTable (members : List (Text × Node)) : Key → Option (List (Text × Node))
  | [] => none
  | [name] =>
    match member? members name with
    | none => some (setMember name (.table true none []) members)
    | some (.table false none inner) => some (setMember name (.table true none inner) members)
    | some _ => none
  | name :: rest =>
    match member? members name with
    | none => (openTable [] rest).map fun inner => setMember name (.table false none inner) members
    | some (.table headed dotted inner) =>
      (openTable inner rest).map fun inner => setMember name (.table headed dotted inner) members
    | some (.tables last finished) =>
      (openTable last rest).map fun last => setMember name (.tables last finished) members
    | some (.value _) => none

/-- Adds one more table to an array of tables. -/
def openItem (members : List (Text × Node)) : Key → Option (List (Text × Node))
  | [] => none
  | [name] =>
    match member? members name with
    | none => some (setMember name (.tables [] []) members)
    | some (.tables last finished) => some (setMember name (.tables [] (last :: finished)) members)
    | some _ => none
  | name :: rest =>
    match member? members name with
    | none => (openItem [] rest).map fun inner => setMember name (.table false none inner) members
    | some (.table headed dotted inner) =>
      (openItem inner rest).map fun inner => setMember name (.table headed dotted inner) members
    | some (.tables last finished) =>
      (openItem last rest).map fun last => setMember name (.tables last finished) members
    | some (.value _) => none

/-- Assigns a value at a dotted key of a section.  The tables on the way must not be complete. -/
def assign (number : Nat) (members : List (Text × Node)) (v : Value) :
    Key → Option (List (Text × Node))
  | [] => none
  | [name] =>
    match member? members name with
    | none => some (setMember name (.value v) members)
    | some _ => none
  | name :: rest =>
    match member? members name with
    | none =>
      (assign number [] v rest).map fun inner =>
        setMember name (.table false (some number) inner) members
    | some (.table false dotted inner) =>
      if dotted = none ∨ dotted = some number then
        (assign number inner v rest).map fun inner =>
          setMember name (.table false (some number) inner) members
      else none
    | some _ => none

/-- Assigns a value in the section of a heading, which has been opened before. -/
def assignIn (number : Nat) (members : List (Text × Node)) (key : Key) (v : Value) :
    (heading : Key) → Option (List (Text × Node))
  | [] => assign number members v key
  | name :: rest =>
    match member? members name with
    | some (.table headed dotted inner) =>
      (assignIn number inner key v rest).map fun inner =>
        setMember name (.table headed dotted inner) members
    | some (.tables last finished) =>
      (assignIn number last key v rest).map fun last =>
        setMember name (.tables last finished) members
    | _ => none

mutual

/-- The finished value. -/
def toValue : Node → Value
  | .value v => v
  | .table _ _ members => .table (toMembers members)
  | .tables last finished => .array (toItems finished [.table (toMembers last)])

/-- The finished members. -/
def toMembers : List (Text × Node) → List (Text × Value)
  | [] => []
  | (name, node) :: rest => (name, node.toValue) :: toMembers rest

/-- The finished tables, which are given last first, before those in `later`. -/
def toItems : List (List (Text × Node)) → (later : List Value) → List Value
  | [], later => later
  | members :: rest, later => toItems rest (.table (toMembers members) :: later)

end

end Node

/-- A document under construction. -/
structure Document where
  members : List (Text × Node) := []
  /-- The heading of the section at hand. -/
  heading : Key := []
  /-- The number of the section at hand. -/
  number : Nat := 0

namespace Document

/-- Carries out one statement. -/
def apply (d : Document) : Statement → Option Document
  | .assign key value =>
    (Node.assignIn d.number d.members key value d.heading).map fun members => { d with members }
  | .table key =>
    (Node.openTable d.members key).map fun members =>
      { members, heading := key, number := d.number + 1 }
  | .arrayItem key =>
    (Node.openItem d.members key).map fun members =>
      { members, heading := key, number := d.number + 1 }

end Document

/-- A text with every carriage return before a line feed left out. -/
def normalizeLines : Text → Text
  | .carriageReturn :: .lineFeed :: rest => .lineFeed :: normalizeLines rest
  | c :: rest => c :: normalizeLines rest
  | [] => []

/-- Carries out the statements of a text in order; `fuel` bounds the number of lines. -/
def Document.read : (fuel : Nat) → Document → Text → Except Fault Document
  | 0, _, _ => .error .illFormed
  | fuel + 1, d, t =>
    match skipBlanks t with
    | [] => .ok d
    | .lineFeed :: rest => Document.read fuel d rest
    | c :: rest => do
      let (d, rest) ←
        if c = .hash then pure (d, c :: rest)
        else do
          let (statement, rest) ← readStatement (c :: rest)
          pure (← required (d.apply statement), rest)
      match ← required (skipComment? (skipBlanks rest)) with
      | [] => return d
      | .lineFeed :: rest => Document.read fuel d rest
      | _ => throw .illFormed

/-- The members of the table that a configuration file is. -/
def parse (t : Text) : Except Fault (List (Text × Value)) := do
  let t := normalizeLines t
  let document ← Document.read (t.length + 1) {} t
  return Node.toMembers document.members

end Toml

end DexDiscovery
