import DexDiscovery.Dex.Image
import DexDiscovery.Failure
import Std.Data.TreeMap

/-!
# Sessions over an image

A session answers one query after another about a buffer: it starts with nothing read, fills the
tables when it is told to `parse`, keeps the strings it has decoded, and decodes class data with a
cursor of its own.  The kept strings and the position of the cursor only save work: an answer
depends on the buffer and on whether it was parsed.
-/

namespace DexDiscovery

/-- A buffer under examination. -/
structure Session where
  image : Image
  /-- The header, once it has been read. -/
  header? : Option Header := none
  /-- The strings decoded so far, by index. -/
  decoded : Std.TreeMap Int Text := {}
  /-- Where the last class data read ended, or failed. -/
  position : Int := 0

namespace Session

/-- A session over a buffer of which nothing has been read. -/
def ofBytes (b : Bytes) : Session :=
  { image := { bytes := b } }

/-- Reads the header and then the tables; what could be read stays, also if something fails. -/
def parse (s : Session) : Except DexError Unit × Session :=
  match Header.read s.image.bytes with
  | .error e => (.error e, s)
  | .ok h =>
    let (image, fault?) := s.image.readTables h
    let s := { s with header? := some h, image }
    match fault? with
    | none => (.ok (), s)
    | some e => (.error e, s)

/-- The header, if it has been read. -/
def header (s : Session) : Except DexError Header :=
  match s.header? with
  | some h => .ok h
  | none => .error .notParsed

/-- The string of an index, kept for the next time. -/
def string (s : Session) (index : Int) : Except DexError Text × Session :=
  match s.decoded[index]? with
  | some text => (.ok text, s)
  | none =>
    match s.image.string index with
    | .error e => (.error e, s)
    | .ok text => (.ok text, { s with decoded := s.decoded.insert index text })

/-- The descriptor of a type. -/
def descriptor (s : Session) (index : Int) : Except DexError Text × Session :=
  match Image.lookup .type s.image.types index with
  | .error e => (.error e, s)
  | .ok name => s.string name

/-- The method of an index. -/
def method (s : Session) (index : Int) : Except DexError MethodId :=
  s.image.method index

/-- The name of the method of an index. -/
def methodName (s : Session) (index : Int) : Except DexError Text × Session :=
  match s.image.method index with
  | .error e => (.error e, s)
  | .ok m => s.string m.name

/-- The members of a defined class, which has some; the cursor ends behind them, or where the
reading failed. -/
def classData (s : Session) (c : ClassDef) : Except Failure ClassData × Session :=
  match c.dataOffset? with
  | none => (.error .noClassData, s)
  | some offset =>
    match (ClassData.read offset).run { bytes := s.image.bytes, position := s.position } with
    | .ok data cursor => (.ok data, { s with position := cursor.position })
    | .error e cursor => (.error (.ofDex e), { s with position := cursor.position })

/-! ## Queries -/

/-- What can be asked of a session. -/
inductive Query where
  | parse
  | header
  | string (index : Int)
  | descriptor (index : Int)
  | method (index : Int)
  | methodName (index : Int)
  | classData (c : ClassDef)
deriving DecidableEq, Repr

/-- What a session answers. -/
inductive Reply where
  | parsed
  | header (h : Header)
  | text (t : Text)
  | method (m : MethodId)
  | classData (d : ClassData)
deriving DecidableEq, Repr

/-- An answer about the image, as an answer of the session. -/
def reply {α : Type} (wrap : α → Reply) (answer : Except DexError α) : Except Failure Reply :=
  (answer.map wrap).mapError .ofDex

/-- The answer to a query and the session after it. -/
def serve (s : Session) : Query → Except Failure Reply × Session
  | .parse => (reply (fun () => .parsed) s.parse.1, s.parse.2)
  | .header => (reply .header s.header, s)
  | .string index => (reply .text (s.string index).1, (s.string index).2)
  | .descriptor index => (reply .text (s.descriptor index).1, (s.descriptor index).2)
  | .method index => (reply .method (s.method index), s)
  | .methodName index => (reply .text (s.methodName index).1, (s.methodName index).2)
  | .classData c => ((s.classData c).1.map .classData, (s.classData c).2)

/-- The session after several queries. -/
def serveAll (s : Session) (queries : List Query) : Session :=
  queries.foldl (fun s query => (s.serve query).2) s

end Session

end DexDiscovery
