import DexDiscovery.FileSession
import DexDiscovery.Proofs.BufferRuns
import DexDiscovery.Proofs.ClassDataFormat
import DexDiscovery.Proofs.Scanning

/-!
# Answers do not depend on history

A session keeps the strings that it has decoded and moves its cursor.  Neither shows in an answer:
what is kept is what would be decoded again (`Session.Over`), and class data are read from an
offset, wherever the cursor stands.  So a session answers like one that has just been opened.

A session is in one of two states, unread or opened.  Nothing is kept while it is unread, since
there are no strings yet, and parsing again reads the same tables, up to the same one that fails
(`Image.readTables_readTables`).
-/

namespace DexDiscovery

namespace Image

variable {image : Image} {h : Header}

theorem bytes_readTables : (image.readTables h).1.bytes = image.bytes := by
  simp only [readTables]
  cases readTable image.bytes.u32 4 h.strings with
  | error => rfl
  | ok strings =>
  cases readTable image.bytes.u32 4 h.types with
  | error => rfl
  | ok types =>
  cases readTable (readProto image.bytes) 12 h.protos with
  | error => rfl
  | ok protos =>
  cases readTable (readMethodId image.bytes) 8 h.methods with
  | error => rfl
  | ok methods => cases readTable (readClassDef image.bytes) 32 h.classes <;> rfl

/-- Tables that have been read, up to one that fails, are read again. -/
theorem readTables_readTables :
    (image.readTables h).1.readTables h = image.readTables h := by
  simp only [readTables]
  cases hs : readTable image.bytes.u32 4 h.strings with
  | error => simp [hs]
  | ok strings =>
  cases ht : readTable image.bytes.u32 4 h.types with
  | error => simp [hs, ht]
  | ok types =>
  cases hp : readTable (readProto image.bytes) 12 h.protos with
  | error => simp [hs, ht, hp]
  | ok protos =>
  cases hm : readTable (readMethodId image.bytes) 8 h.methods with
  | error => simp [hs, ht, hp, hm]
  | ok methods =>
  cases hc : readTable (readClassDef image.bytes) 32 h.classes <;> simp [hs, ht, hp, hm, hc]

theorem virtualMethodNames_of_none {c : ClassDef} (none : c.dataOffset? = none) :
    image.virtualMethodNames c = .ok [] := by
  simp only [virtualMethodNames, classData?, none]
  rfl

theorem virtualMethodNames_of_some {c : ClassDef} {offset : Nat}
    (some : c.dataOffset? = some offset) :
    image.virtualMethodNames c = ClassData.decode image.bytes offset >>= fun data =>
      data.virtualIndices.mapM image.methodName := by
  simp only [virtualMethodNames, classData?, some]
  cases ClassData.decode image.bytes offset <;> rfl

end Image

namespace Session

variable {s s' : Session} {b : Bytes} {image : Image} {header? : Option Header}

/-- A session over these tables: the strings that it keeps are those of the tables. -/
structure Over (s : Session) (image : Image) (header? : Option Header) : Prop where
  tables : s.image = image
  header : s.header? = header?
  kept (index : Int) (t : Text) : s.decoded[index]? = some t → image.string index = .ok t

/-! ## Single queries -/

/-- A string is what the tables say, whether it was kept or not. -/
theorem string_over (hs : s.Over image header?) (index : Int) :
    (s.string index).1 = image.string index ∧ (s.string index).2.Over image header? := by
  rw [Session.string]
  cases kept : s.decoded[index]? with
  | some t => exact ⟨(hs.kept index t kept).symm, hs⟩
  | none =>
    simp only [hs.tables]
    cases decoded : image.string index with
    | error e => exact ⟨rfl, hs⟩
    | ok t =>
      refine ⟨rfl, rfl, hs.header, fun i u hu => ?_⟩
      simp only [Std.TreeMap.getElem?_insert] at hu
      split at hu
      · rename_i same
        rw [← compare_eq_iff_eq.mp same, decoded, Option.some.inj hu]
      · exact hs.kept i u hu

theorem descriptor_over (hs : s.Over image header?) (index : Int) :
    (s.descriptor index).1 = image.descriptor index ∧
      (s.descriptor index).2.Over image header? := by
  rw [Session.descriptor, Image.descriptor, hs.tables]
  cases Image.lookup .type image.types index with
  | error e => exact ⟨rfl, hs⟩
  | ok name => exact string_over hs name

theorem methodName_over (hs : s.Over image header?) (index : Int) :
    (s.methodName index).1 = image.methodName index ∧
      (s.methodName index).2.Over image header? := by
  rw [Session.methodName, Image.methodName, hs.tables]
  cases image.method index with
  | error e => exact ⟨rfl, hs⟩
  | ok m => exact string_over hs m.name

theorem classData_over (hs : s.Over image header?) (c : ClassDef) :
    (s.classData c).1 = (match c.dataOffset? with
      | none => .error .noClassData
      | some offset => (ClassData.decode image.bytes offset).mapError .ofDex) ∧
      (s.classData c).2.Over image header? := by
  rw [Session.classData]
  cases c.dataOffset? with
  | none => exact ⟨rfl, hs⟩
  | some offset =>
    have same := ClassData.decode_eq ⟨image.bytes, s.position⟩ offset
    simp only [hs.tables]
    rw [same]
    cases (ClassData.read offset).run ⟨image.bytes, s.position⟩ with
    | ok d after => exact ⟨rfl, rfl, hs.header, hs.kept⟩
    | error e after => exact ⟨rfl, rfl, hs.header, hs.kept⟩

/-! ## Parsing -/

/-- A buffer that has been parsed, as far as that could be done. -/
def opened (b : Bytes) : Session :=
  (ofBytes b).parse.2

/-- A session over a buffer that has not been parsed yet. -/
def Unread (s : Session) (b : Bytes) : Prop :=
  s.Over { bytes := b } none

/-- A session over a buffer that has been parsed. -/
def Opened (s : Session) (b : Bytes) : Prop :=
  s.Over (opened b).image (opened b).header?

theorem unread_ofBytes (b : Bytes) : (ofBytes b).Unread b :=
  ⟨rfl, rfl, fun i t h => by simp [ofBytes] at h⟩

/-- There are no strings to be kept before the tables have been read. -/
theorem Unread.decoded_eq_none (h : s.Unread b) (index : Int) : s.decoded[index]? = none := by
  cases kept : s.decoded[index]? with
  | none => rfl
  | some t =>
    have decoded := h.kept index t kept
    simp [Image.string, Image.lookup, bind, Except.bind] at decoded

theorem parse_of_refused {e : DexError} (read : Header.read s.image.bytes = .error e) :
    s.parse = (.error e, s) := by
  rw [parse, read]

theorem parse_of_read {header : Header} (read : Header.read s.image.bytes = .ok header) :
    s.parse = ((s.image.readTables header).2.elim (.ok ()) .error,
      { s with header? := some header, image := (s.image.readTables header).1 }) := by
  rw [parse, read]
  dsimp only
  rcases s.image.readTables header with ⟨image, _ | e⟩ <;> rfl

/-- Parsing answers the same and leads to the same tables, whether the session was parsed before
or not. -/
theorem parse_over (h : s.Unread b ∨ s.Opened b) :
    s.parse.1 = (ofBytes b).parse.1 ∧ s.parse.2.Opened b := by
  cases read : Header.read b with
  | error e =>
    have refused : (ofBytes b).parse = (.error e, ofBytes b) := parse_of_refused read
    have hs : s.Over { bytes := b } none := by
      rcases h with h | h
      · exact h
      · rwa [Opened, opened, refused] at h
    have same : s.parse = (.error e, s) := parse_of_refused (by rwa [hs.tables])
    rw [Opened, opened, refused, same]
    exact ⟨rfl, hs⟩
  | ok header =>
    have first := parse_of_read (s := ofBytes b) read
    have tables : (opened b).image = (Image.readTables { bytes := b } header).1 := by
      rw [opened, first]
      rfl
    have parsed : s.image.readTables header = Image.readTables { bytes := b } header := by
      rcases h with h | h
      · rw [h.tables]
      · rw [h.tables, tables, Image.readTables_readTables]
    have bytes : s.image.bytes = b := by
      rcases h with h | h
      · rw [h.tables]
      · rw [h.tables, tables, Image.bytes_readTables]
    rw [Opened, opened, first, parse_of_read (by rwa [bytes]), parsed]
    refine ⟨rfl, rfl, rfl, fun index t kept => ?_⟩
    rcases h with h | h
    · exact absurd kept (by simp [h.decoded_eq_none])
    · exact tables ▸ h.kept index t kept

/-! ## Histories -/

/-- Any other query answers as the tables say, and keeps them. -/
theorem serve_over (hs : s.Over image header?) (hs' : s'.Over image header?) {query : Query}
    (ne : query ≠ .parse) :
    (s.serve query).1 = (s'.serve query).1 ∧ (s.serve query).2.Over image header? := by
  cases query with
  | parse => exact absurd rfl ne
  | header =>
    refine ⟨?_, hs⟩
    simp only [serve, Session.header, hs.header, hs'.header]
  | string index =>
    refine ⟨?_, (string_over hs index).2⟩
    simp only [serve, (string_over hs index).1, (string_over hs' index).1]
  | descriptor index =>
    refine ⟨?_, (descriptor_over hs index).2⟩
    simp only [serve, (descriptor_over hs index).1, (descriptor_over hs' index).1]
  | method index =>
    refine ⟨?_, hs⟩
    simp only [serve, Session.method, hs.tables, hs'.tables]
  | methodName index =>
    refine ⟨?_, (methodName_over hs index).2⟩
    simp only [serve, (methodName_over hs index).1, (methodName_over hs' index).1]
  | classData c =>
    refine ⟨?_, (classData_over hs c).2⟩
    simp only [serve, (classData_over hs c).1, (classData_over hs' c).1]

/-- Every query leaves a session unread or opened. -/
theorem serve_unread_or_opened (h : s.Unread b ∨ s.Opened b) (query : Query) :
    (s.serve query).2.Unread b ∨ (s.serve query).2.Opened b := by
  by_cases parses : query = .parse
  · subst parses
    exact .inr (parse_over h).2
  · exact h.imp (fun h => (serve_over h h parses).2) fun h => (serve_over h h parses).2

/-- A query leaves an opened session opened. -/
theorem serve_opened (h : s.Opened b) (query : Query) : (s.serve query).2.Opened b := by
  by_cases parses : query = .parse
  · subst parses
    exact (parse_over (.inr h)).2
  · exact (serve_over h h parses).2

/-- What every query keeps, a history of queries keeps. -/
theorem serveAll_induction {P : Session → Prop}
    (step : ∀ s query, P s → P (serve s query).2) (h : P s) (queries : List Query) :
    P (s.serveAll queries) := by
  induction queries generalizing s with
  | nil => exact h
  | cons query rest ih => exact ih (step s query h)

/-- Wherever it was parsed first, a session is opened from then on. -/
theorem opened_of_parse (b : Bytes) (before after : List Query) :
    ((ofBytes b).serveAll (before ++ .parse :: after)).Opened b := by
  have first : ((ofBytes b).serveAll before).Unread b ∨ ((ofBytes b).serveAll before).Opened b :=
    serveAll_induction (P := fun s => s.Unread b ∨ s.Opened b)
      (fun _ query h => serve_unread_or_opened h query) (.inl (unread_ofBytes b)) before
  rw [serveAll, List.foldl_append]
  exact serveAll_induction (P := fun s => s.Opened b) (fun _ query h => serve_opened h query)
    (parse_over first).2 after

/-- Opened sessions answer alike. -/
theorem Opened.serve_eq (h : s.Opened b) (h' : s'.Opened b) (query : Query) :
    (s.serve query).1 = (s'.serve query).1 := by
  by_cases parses : query = .parse
  · subst parses
    simp only [serve, (parse_over (.inr h)).1, (parse_over (.inr h')).1]
  · exact (serve_over h h' parses).1

end Session

/-! ## Dex files -/

namespace FileSession

variable {image : Image} {header? : Option Header} {α β : Type}

/-- Over these tables, a step gives this answer, whatever was asked before. -/
def Gives (image : Image) (header? : Option Header) (step : SessionM α)
    (answer : Except Failure α) : Prop :=
  ∀ s : Session, s.Over image header? → ∃ s' : Session, s'.Over image header? ∧
    step.run s = match answer with
      | .ok x => .ok x s'
      | .error e => .error e s'

namespace Gives

theorem pure (x : α) : Gives image header? (pure x) (.ok x) :=
  fun s hs => ⟨s, hs, rfl⟩

theorem bind {step : SessionM α} {answer : Except Failure α} {next : α → SessionM β}
    {answers : α → Except Failure β} (h : Gives image header? step answer)
    (h' : ∀ x, answer = .ok x → Gives image header? (next x) (answers x)) :
    Gives image header? (step >>= next) (answer >>= answers) := by
  intro s hs
  obtain ⟨m, hs', run⟩ := h s hs
  cases answer with
  | error e => exact ⟨m, hs', run_bind_eq_error.mpr (.inl run)⟩
  | ok x =>
    obtain ⟨s', hs'', run'⟩ := h' x rfl m hs'
    refine ⟨s', hs'', ?_⟩
    show (step >>= next).run s = match answers x with
      | .ok y => EStateM.Result.ok y s'
      | .error e => EStateM.Result.error e s'
    cases last : answers x with
    | ok y => exact run_bind_eq_ok.mpr ⟨x, m, run, by rw [run', last]⟩
    | error e => exact run_bind_eq_error.mpr (.inr ⟨x, m, run, by rw [run', last]⟩)

theorem bind_ok {step : SessionM α} {x : α} {next : α → SessionM β} {answer : Except Failure β}
    (h : Gives image header? step (.ok x)) (h' : Gives image header? (next x) answer) :
    Gives image header? (step >>= next) answer := by
  intro s hs
  obtain ⟨m, hs', run⟩ := h s hs
  obtain ⟨s', hs'', run'⟩ := h' m hs'
  refine ⟨s', hs'', ?_⟩
  rw [EStateM.run_bind, run]
  exact run'

theorem bind_error {step : SessionM α} {e : Failure} {next : α → SessionM β}
    (h : Gives image header? step (.error e)) : Gives image header? (step >>= next) (.error e) := by
  intro s hs
  obtain ⟨s', hs', run⟩ := h s hs
  exact ⟨s', hs', run_bind_eq_error.mpr (.inl run)⟩

theorem map {step : SessionM α} {answer : Except Failure α} (h : Gives image header? step answer)
    (g : α → β) : Gives image header? (step >>= fun x => Pure.pure (g x)) (answer.map g) := by
  have given := h.bind fun x _ => pure (g x)
  cases answer <;> exact given

theorem mapM {steps : α → SessionM β} {answers : α → Except Failure β} {l : List α}
    (h : ∀ x ∈ l, Gives image header? (steps x) (answers x)) :
    Gives image header? (l.mapM steps) (l.mapM answers) := by
  induction l with
  | nil => exact pure []
  | cons x rest ih =>
    rw [List.mapM_cons, List.mapM_cons]
    exact (h x List.mem_cons_self).bind fun y _ =>
      (ih fun z hz => h z (List.mem_cons_of_mem _ hz)).bind fun ys _ => pure (y :: ys)

end Gives

/-! ### Steps -/

/-- What a session answers as the tables say, is given. -/
theorem gives_ask {query : Session → Except DexError α × Session} {answer : Except DexError α}
    (h : ∀ s : Session, s.Over image header? →
      (query s).1 = answer ∧ (query s).2.Over image header?) :
    Gives image header? (ask query) (answer.mapError .ofDex) := by
  intro s hs
  obtain ⟨same, hs'⟩ := h s hs
  refine ⟨(query s).2, hs', ?_⟩
  subst same
  simp only [EStateM.run, ask]
  rcases query s with ⟨_ | _, s'⟩ <;> rfl

theorem gives_descriptor (index : Int) :
    Gives image header? (descriptor index) ((image.descriptor index).mapError .ofDex) :=
  gives_ask fun _ hs => Session.descriptor_over hs index

theorem gives_methodName (index : Int) :
    Gives image header? (methodName index) ((image.methodName index).mapError .ofDex) :=
  gives_ask fun _ hs => Session.methodName_over hs index

theorem gives_classData {c : ClassDef} {offset : Nat} (h : c.dataOffset? = some offset) :
    Gives image header? (classData c)
      ((ClassData.decode image.bytes offset).mapError .ofDex) := by
  intro s hs
  obtain ⟨same, hs'⟩ := Session.classData_over hs c
  refine ⟨(s.classData c).2, hs', ?_⟩
  rw [h] at same
  simp only [EStateM.run, classData, ← same]
  rcases s.classData c with ⟨_ | _, s'⟩ <;> rfl

theorem gives_classes : Gives image header? classes (.ok image.classes.toList) :=
  fun s hs => ⟨s, hs, by rw [← hs.tables]; rfl⟩

theorem gives_named (namer : ClassNamer) (t : Text) :
    Gives image header? (named namer t) (namer t) := by
  intro s hs
  refine ⟨s, hs, ?_⟩
  simp only [EStateM.run, named]
  cases namer t <;> rfl

/-! ### Queries -/

theorem gives_descriptorOf (c : ClassDef) :
    Gives image header? (descriptorOf c) ((image.descriptorOf c).mapError .ofDex) :=
  gives_descriptor c.typeIndex

theorem gives_methodNames (c : ClassDef) :
    Gives image header? (methodNames c) ((image.virtualMethodNames c).mapError .ofDex) := by
  rw [methodNames]
  cases h : c.dataOffset? with
  | none =>
    rw [Image.virtualMethodNames_of_none h]
    exact .pure []
  | some offset =>
    simp only [Image.virtualMethodNames_of_some h, mapError_bind, mapError_mapM]
    exact (gives_classData h).bind fun data _ => .mapM fun index _ => gives_methodName index

theorem gives_classDescriptors :
    Gives image header? classDescriptors
      ((image.classes.toList.mapM image.descriptorOf).mapError .ofDex) := by
  rw [classDescriptors, mapError_mapM]
  exact gives_classes.bind_ok (.mapM fun c _ => gives_descriptorOf c)

/-- The targets grow by the descriptors of what has been found. -/
theorem gives_matchesOnto (defs : List ClassDef) (targets : DescriptorSet) (found : List Match) :
    Gives image header?
      (matchesOnto defs (Scan.extend found.reverse targets) (found.map Match.classDef))
      ((DexFile.matchesOnto image defs (Scan.extend found.reverse targets) found).mapError .ofDex >>=
        fun found => .ok (found.map Match.classDef, Scan.extend found targets)) := by
  -- what is known is what the matches so far have added to the targets
  induction defs generalizing found with
  | nil =>
    rw [matchesOnto, ← List.map_reverse]
    exact .pure _
  | cons c rest ih =>
    rw [matchesOnto, DexFile.matchesOnto]
    cases c.superclass? with
    | none => exact ih found
    | some index =>
      simp only [mapError_bind, bind_assoc]
      refine (gives_descriptor index).bind fun superclass _ => ?_
      split
      · simp only [mapError_bind, bind_assoc]
        refine (gives_descriptorOf c).bind fun own _ => ?_
        have grown : (Scan.extend found.reverse targets).insert own =
            Scan.extend (({ classDef := c, descriptor := own } : Match) :: found).reverse targets := by
          simp [Scan.extend, List.foldl_append]
        rw [grown]
        exact ih ({ classDef := c, descriptor := own } :: found)
      · exact ih found

theorem gives_subclasses (f : DexFile) (targets : DescriptorSet) :
    Gives f.image header? (subclasses targets) ((f.subclassesOf targets).mapError .ofDex >>=
      fun found => .ok (found.map Match.classDef, Scan.extend found targets)) :=
  gives_classes.bind_ok (gives_matchesOnto f.image.classes.toList targets [])

theorem gives_testsOf (f : DexFile) (namer : ClassNamer) {m : Match}
    (own : f.image.descriptorOf m.classDef = .ok m.descriptor) :
    Gives f.image header? (testsOf namer m.classDef) (f.testsOf namer m) := by
  have descriptor : Gives f.image header? (descriptorOf m.classDef)
      ((f.image.descriptorOf m.classDef).mapError .ofDex) := gives_descriptorOf m.classDef
  rw [own] at descriptor
  exact descriptor.bind_ok <| (gives_named namer m.descriptor).bind fun _ _ =>
    (gives_methodNames m.classDef).bind fun _ _ => .pure _

theorem gives_tests (f : DexFile) (namer : ClassNamer) (targets : DescriptorSet) :
    Gives f.image header? (tests namer targets) (f.scan namer targets >>=
      fun scan => .ok (scan.tests, Scan.extend scan.classes targets)) := by
  have subclasses : Gives f.image header? (subclasses targets) _ := gives_subclasses f targets
  cases matched : f.subclassesOf targets with
  | error e =>
    rw [matched] at subclasses
    have scan : f.scan namer targets = .error (.ofDex e) := by rw [DexFile.scan, matched]; rfl
    rw [scan]
    exact subclasses.bind_error
  | ok found =>
    rw [matched] at subclasses
    have scan : f.scan namer targets = found.mapM (f.testsOf namer) >>= fun tests =>
        .ok { classes := found, tests := tests.flatten } := by rw [DexFile.scan, matched]; rfl
    rw [scan, bind_assoc]
    refine subclasses.bind_ok ?_
    dsimp only
    rw [List.mapM_map]
    have own := (subclassesOf_eq_ok.mp matched).descriptor_eq
    exact (Gives.mapM fun m hm => gives_testsOf f namer (own m hm).2).bind fun _ _ => .pure _

/-- **A query of a dex file is answered without a session**, whatever was asked before. -/
theorem gives_step (f : DexFile) (query : Query) :
    Gives f.image header? (step query) (f.answer query) := by
  cases query with
  | classDescriptors => exact gives_classDescriptors.map _
  | methodNames c => exact (gives_methodNames c).map _
  | subclasses targets =>
    rw [DexFile.answer]
    have given : Gives f.image header? _ _ :=
      (gives_subclasses f targets).map fun p => Reply.classes p.1 p.2
    cases h : f.subclassesOf targets <;> rw [h] at given <;> exact given
  | tests namer targets =>
    have given : Gives f.image header? _ _ :=
      (gives_tests f namer targets).map fun p => Reply.tests p.1 p.2
    rw [DexFile.answer]
    cases h : f.scan namer targets <;> rw [h] at given <;> exact given

/-! ### Histories -/

variable {s : Session} {f : DexFile}

theorem serve_over (hs : s.Over f.image header?) (query : Query) :
    (serve s query).1 = f.answer query ∧ (serve s query).2.Over f.image header? := by
  obtain ⟨s', hs', run⟩ := gives_step f query s hs
  rw [serve, run]
  cases f.answer query <;> exact ⟨rfl, hs'⟩

theorem serveAll_over (hs : s.Over f.image header?) (queries : List Query) :
    (serveAll s queries).Over f.image header? := by
  induction queries generalizing s with
  | nil => exact hs
  | cons query rest ih => exact ih (serve_over hs query).2

/-- An opened file has the tables of the dex file in its buffer. -/
theorem over_of_ofBytes {b : Bytes} (h : ofBytes b = .ok s) (name : Text) :
    ∃ f, DexFile.ofBytes name b = .ok f ∧ s.Over f.image (some f.header) := by
  rw [ofBytes] at h
  cases read : Header.read b with
  | error e =>
    rw [Session.parse_of_refused (s := Session.ofBytes b) read] at h
    exact absurd h (by simp)
  | ok header =>
    have hs := (Session.parse_over (.inl (Session.unread_ofBytes b))).2
    rw [Session.Opened, Session.opened] at hs
    rw [Session.parse_of_read (s := Session.ofBytes b) read] at h hs
    have tables : (Session.ofBytes b).image = { bytes := b } := rfl
    rw [tables] at h hs
    rcases parsed : Image.readTables { bytes := b } header with ⟨image, _ | e⟩
    · rw [parsed] at h hs
      obtain rfl := Except.ok.inj h
      exact ⟨⟨name, header, image⟩, bind_eq_ok.mpr ⟨header, read, by rw [parsed]; rfl⟩, hs⟩
    · rw [parsed] at h
      exact absurd h (by simp)

end FileSession

/-- **Answers do not depend on history.**  Once it has been parsed, also if that failed part way, a
session answers every query like one on which nothing but parsing was called, whatever was asked
before and after, and whether that succeeded or not.  A dex file that has been opened answers every
query like one that has just been opened, and like the dex file without a session. -/
theorem answers_without_history :
    (∀ (b : Bytes) (before after : List Session.Query) (query : Session.Query),
      (((Session.ofBytes b).serveAll (before ++ .parse :: after)).serve query).1 =
        (((Session.ofBytes b).serveAll [.parse]).serve query).1) ∧
    ∀ (b : Bytes) (s : Session), FileSession.ofBytes b = .ok s →
      (∀ (history : List FileSession.Query) (query : FileSession.Query),
        (FileSession.serve (FileSession.serveAll s history) query).1 =
          (FileSession.serve s query).1) ∧
      ∀ name : Text, ∃ f, DexFile.ofBytes name b = .ok f ∧
        ∀ query, (FileSession.serve s query).1 = f.answer query := by
  constructor
  · intro b before after query
    exact (Session.opened_of_parse b before after).serve_eq (Session.opened_of_parse b [] []) query
  · intro b s h
    refine ⟨fun history query => ?_, fun name => ?_⟩
    · obtain ⟨f, _, hs⟩ := FileSession.over_of_ofBytes h []
      rw [(FileSession.serve_over (FileSession.serveAll_over hs history) query).1,
        (FileSession.serve_over hs query).1]
    · obtain ⟨f, read, hs⟩ := FileSession.over_of_ofBytes h name
      exact ⟨f, read, fun query => (FileSession.serve_over hs query).1⟩

/-- After the tests of a file have been asked for twice, its classes are what they were. -/
theorem answers_after_tests :
    ∃ s, FileSession.ofBytes (Sample.dex "LA;" "testX") = .ok s ∧
      (FileSession.serve (FileSession.serveAll s
        [.tests (ClassName.dotted "#") (Closure.descriptorSet ["Ljunit/framework/TestCase;"]),
          .tests (ClassName.dotted "#") (Closure.descriptorSet ["LA;"])]) .classDescriptors).1 =
        .ok (.texts ["LA;"]) := by
  have opens : (FileSession.ofBytes (Sample.dex "LA;" "testX")).isOk := by decide +kernel
  have listed : (DexFile.ofBytes [] (Sample.dex "LA;" "testX")).toOption.map
      (fun f => f.classDescriptors.toOption) = some (some [("LA;" : Text)]) := by
    decide +kernel
  obtain ⟨s, opened⟩ := isOk_iff.mp opens
  obtain ⟨history, stateless⟩ := answers_without_history.2 _ s opened
  obtain ⟨f, read, answers⟩ := stateless []
  obtain ⟨_, read', classes⟩ := exists_ok_of_toOption_map listed
  obtain rfl := Except.ok.inj (read.symm.trans read')
  refine ⟨s, opened, ?_⟩
  rw [history, answers, DexFile.answer]
  cases known : f.classDescriptors with
  | error e => simp [known, Except.toOption] at classes
  | ok names =>
    obtain rfl : names = ["LA;"] := by simpa [known, Except.toOption] using classes
    rfl

end DexDiscovery
