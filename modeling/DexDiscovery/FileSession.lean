import DexDiscovery.Dex.Session
import DexDiscovery.DexFile

/-!
# Dex files under examination

A dex file is opened by parsing its buffer; the session that did so then serves its queries.  Each
of them asks the session for descriptors, class data and method names as it goes along, one after
the other, and leaves more strings kept and the cursor elsewhere.  `DexFile` gives the same answers
without a session.
-/

namespace DexDiscovery

/-- Steps that ask a session: each answers or fails, and leaves a session in either case. -/
abbrev SessionM := EStateM Failure Session

namespace FileSession

/-- Opens a dex file; the buffer has to hold a header and complete tables. -/
def ofBytes (b : Bytes) : Except DexError Session :=
  match (Session.ofBytes b).parse with
  | (.ok (), s) => .ok s
  | (.error e, _) => .error e

/-! ## Steps -/

/-- Asks for something that can be wrong with the image. -/
def ask {α : Type} (query : Session → Except DexError α × Session) : SessionM α := fun s =>
  match query s with
  | (.ok x, s) => .ok x s
  | (.error e, s) => .error (.ofDex e) s

/-- The class definitions, in order. -/
def classes : SessionM (List ClassDef) := fun s => .ok s.image.classes.toList s

/-- The descriptor of a type. -/
def descriptor (index : Int) : SessionM Text :=
  ask (·.descriptor index)

/-- The name of the method of an index. -/
def methodName (index : Int) : SessionM Text :=
  ask (·.methodName index)

/-- The members of a class that has some. -/
def classData (c : ClassDef) : SessionM ClassData := fun s =>
  match s.classData c with
  | (.ok data, s) => .ok data s
  | (.error e, s) => .error e s

/-- The name of a class, or the refusal of its descriptor. -/
def named (namer : ClassNamer) (descriptor : Text) : SessionM Text := fun s =>
  match namer descriptor with
  | .ok name => .ok name s
  | .error e => .error e s

/-! ## Queries -/

/-- The descriptor of a defined class. -/
def descriptorOf (c : ClassDef) : SessionM Text :=
  descriptor c.typeIndex

/-- The descriptors of the classes that the file defines, in order. -/
def classDescriptors : SessionM (List Text) := do
  (← classes).mapM descriptorOf

/-- The names of the virtual methods of a class, in encoded order. -/
def methodNames (c : ClassDef) : SessionM (List Text) := do
  match c.dataOffset? with
  | none => return []
  | some _ =>
    let data ← classData c
    data.virtualIndices.mapM methodName

/-- Goes through class definitions in order and collects, behind `found` (last first), those
whose superclass is in `known`, which grows by the descriptor of each match. -/
def matchesOnto : List ClassDef → (known : DescriptorSet) → (found : List ClassDef) →
    SessionM (List ClassDef × DescriptorSet)
  | [], known, found => return (found.reverse, known)
  | c :: rest, known, found =>
    match c.superclass? with
    | none => matchesOnto rest known found
    | some index => do
      let superclass ← descriptor index
      if superclass ∈ known then
        let own ← descriptorOf c
        matchesOnto rest (known.insert own) (c :: found)
      else matchesOnto rest known found

/-- The classes whose superclass is a target or the class of an earlier match, and the targets
with their descriptors. -/
def subclasses (targets : DescriptorSet) : SessionM (List ClassDef × DescriptorSet) := do
  matchesOnto (← classes) targets []

/-- The test identifiers of a matched class. -/
def testsOf (namer : ClassNamer) (c : ClassDef) : SessionM (List Text) := do
  let className ← named namer (← descriptorOf c)
  let methods ← methodNames c
  return (methods.filter DexFile.testMark.isPrefixOf).map (className ++ ·)

/-- The tests of the matched classes, and the targets with the descriptors of these classes. -/
def tests (namer : ClassNamer) (targets : DescriptorSet) :
    SessionM (List Text × DescriptorSet) := do
  let (classes, known) ← subclasses targets
  let tests ← classes.mapM (testsOf namer)
  return (tests.flatten, known)

/-- What can be asked of a dex file. -/
inductive Query where
  | classDescriptors
  | methodNames (c : ClassDef)
  | subclasses (targets : DescriptorSet)
  | tests (namer : ClassNamer) (targets : DescriptorSet)

/-- What a dex file answers; the targets are those after the query. -/
inductive Reply where
  | texts (texts : List Text)
  | classes (classes : List ClassDef) (targets : DescriptorSet)
  | tests (tests : List Text) (targets : DescriptorSet)

/-- Runs a query. -/
def step : Query → SessionM Reply
  | .classDescriptors => return .texts (← classDescriptors)
  | .methodNames c => return .texts (← methodNames c)
  | .subclasses targets => do
    let (classes, targets) ← subclasses targets
    return .classes classes targets
  | .tests namer targets => do
    let (tests, targets) ← tests namer targets
    return .tests tests targets

/-- The answer to a query and the session after it. -/
def serve (s : Session) (query : Query) : Except Failure Reply × Session :=
  match (step query).run s with
  | .ok reply after => (.ok reply, after)
  | .error e after => (.error e, after)

/-- The session after several queries. -/
def serveAll (s : Session) (queries : List Query) : Session :=
  queries.foldl (fun s query => (serve s query).2) s

end FileSession

namespace DexFile

/-- The answer of a dex file, without a session. -/
def answer (f : DexFile) : FileSession.Query → Except Failure FileSession.Reply
  | .classDescriptors => (f.classDescriptors.mapError .ofDex).map .texts
  | .methodNames c => ((f.image.virtualMethodNames c).mapError .ofDex).map .texts
  | .subclasses targets =>
    ((f.subclassesOf targets).mapError .ofDex).map fun found =>
      .classes (found.map Match.classDef) (Scan.extend found targets)
  | .tests namer targets =>
    (f.scan namer targets).map fun scan =>
      .tests scan.tests (Scan.extend scan.classes targets)

end DexFile

end DexDiscovery
