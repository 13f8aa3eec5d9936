import DexDiscovery.Closure
import DexDiscovery.Proofs.Answers
import DexDiscovery.Proofs.Reachability

/-!
# What one scan finds

`Matches` says what going through the class definitions of an image does to each of them: a class
without a superclass is passed over, and so is one whose superclass is not among the targets; any
other is matched, and its own descriptor is a target for the definitions behind it.  A scan that
succeeds is such a walk (`matchesOnto_eq_ok`), and everything else about successful scans is an
induction over it.

A scan is judged against a **closed** set `R` that holds its targets: it matches nothing outside of
`R` (`Matches.subset`), and where it fails, a class is to blame that `R` makes it read
(`exists_culprit_of_scan`).  Against its own targets it misses no direct subclass
(`Matches.complete`).  Fewer targets never make a scan fail (`scan_mono`).
-/

namespace DexDiscovery

variable {image : Image} {defs : List ClassDef} {T R : Set Text} {found : List Match}

/-! ## The walk through the class definitions -/

/-- The matched classes among some definitions, for the targets `T`. -/
inductive Matches (image : Image) : List ClassDef → Set Text → List Match → Prop where
  | nil {T : Set Text} : Matches image [] T []
  | root {c : ClassDef} {rest : List ClassDef} {T : Set Text} {found : List Match}
      (none : c.superclass? = none) (later : Matches image rest T found) :
      Matches image (c :: rest) T found
  | other {c : ClassDef} {rest : List ClassDef} {T : Set Text} {found : List Match} {s : Text}
      (extends_ : image.Extends c s) (unknown : s ∉ T) (later : Matches image rest T found) :
      Matches image (c :: rest) T found
  | hit {c : ClassDef} {rest : List ClassDef} {T : Set Text} {found : List Match} {s d : Text}
      (extends_ : image.Extends c s) (known : s ∈ T) (descriptor : image.descriptorOf c = .ok d)
      (later : Matches image rest (insert d T) found) :
      Matches image (c :: rest) T ({ classDef := c, descriptor := d } :: found)

/-- Going through definitions succeeds exactly as `Matches` says, and puts what it finds behind
what was found before. -/
theorem matchesOnto_eq_ok {known : DescriptorSet} {before classes : List Match} :
    DexFile.matchesOnto image defs known before = .ok classes ↔
      ∃ found, Matches image defs (Members known) found ∧ classes = before.reverse ++ found := by
  induction defs generalizing known before with
  | nil =>
    simp only [DexFile.matchesOnto, Except.ok.injEq]
    constructor
    · rintro rfl
      exact ⟨[], .nil, (List.append_nil _).symm⟩
    · rintro ⟨found, ⟨⟩, rfl⟩
      exact (List.append_nil _).symm
  | cons c rest ih =>
    rw [DexFile.matchesOnto]
    cases hc : c.superclass? with
    | none =>
      simp only [ih]
      constructor
      · rintro ⟨found, h, rfl⟩
        exact ⟨found, .root hc h, rfl⟩
      · rintro ⟨found, h, rfl⟩
        cases h with
        | root _ later => exact ⟨found, later, rfl⟩
        | other hs _ _ | hit hs _ _ _ =>
          obtain ⟨i, hi, _⟩ := hs
          simp [hc] at hi
    | some index =>
      simp only [bind_eq_ok]
      constructor
      · rintro ⟨s, hs, h⟩
        split at h
        · obtain ⟨d, hd, h⟩ := bind_eq_ok.mp h
          obtain ⟨found, later, rfl⟩ := ih.mp h
          rw [members_insert] at later
          exact ⟨_, .hit ⟨index, hc, hs⟩ ‹_› hd later, by simp⟩
        · obtain ⟨found, later, rfl⟩ := ih.mp h
          exact ⟨found, .other ⟨index, hc, hs⟩ ‹_› later, rfl⟩
      · rintro ⟨found, h, rfl⟩
        cases h with
        | root none _ => simp [hc] at none
        | other hs unknown later =>
          obtain ⟨i, hi, hs⟩ := hs
          obtain rfl : index = i := Option.some.inj (hc.symm.trans hi)
          refine ⟨_, hs, ?_⟩
          rw [if_neg (mem_members.not.mp unknown)]
          exact ih.mpr ⟨found, later, rfl⟩
        | hit hs known hd later =>
          obtain ⟨i, hi, hs⟩ := hs
          obtain rfl : index = i := Option.some.inj (hc.symm.trans hi)
          refine ⟨_, hs, ?_⟩
          rw [if_pos (mem_members.mp known)]
          rw [← members_insert] at later
          exact bind_eq_ok.mpr ⟨_, hd, ih.mpr ⟨_, later, by simp⟩⟩

theorem subclassesOf_eq_ok {f : DexFile} {targets : DescriptorSet} {classes : List Match} :
    f.subclassesOf targets = .ok classes ↔
      Matches f.image f.image.classes.toList (Members targets) classes := by
  simp [DexFile.subclassesOf, matchesOnto_eq_ok]

namespace Matches

/-- A match is one of the definitions, with its own descriptor. -/
theorem descriptor_eq (h : Matches image defs T found) :
    ∀ m ∈ found, m.classDef ∈ defs ∧ image.descriptorOf m.classDef = .ok m.descriptor := by
  induction h with
  | nil => exact fun m hm => absurd hm List.not_mem_nil
  | root _ _ ih | other _ _ _ ih =>
    exact fun m hm => ⟨List.mem_cons_of_mem _ (ih m hm).1, (ih m hm).2⟩
  | hit _ _ hd _ ih =>
    intro m hm
    rcases List.mem_cons.mp hm with rfl | hm
    · exact ⟨List.mem_cons_self, hd⟩
    · exact ⟨List.mem_cons_of_mem _ (ih m hm).1, (ih m hm).2⟩

/-- Every superclass index could be resolved. -/
theorem resolves (h : Matches image defs T found) :
    ∀ c ∈ defs, ∀ i, c.superclass? = some i → ∃ s, image.descriptor i = .ok s := by
  induction h with
  | nil => exact fun c hc => absurd hc List.not_mem_nil
  | root none _ ih =>
    intro c hc i hi
    rcases List.mem_cons.mp hc with rfl | hc
    · simp [none] at hi
    · exact ih c hc i hi
  | other hs _ _ ih | hit hs _ _ _ ih =>
    intro c hc i hi
    rcases List.mem_cons.mp hc with rfl | hc
    · obtain ⟨j, hj, hs⟩ := hs
      obtain rfl : j = i := Option.some.inj (hj.symm.trans hi)
      exact ⟨_, hs⟩
    · exact ih c hc i hi

/-- No definition that extends a target is missed. -/
theorem complete (h : Matches image defs T found) :
    ∀ c ∈ defs, ∀ s ∈ T, image.Extends c s → ∃ m ∈ found, m.classDef = c := by
  induction h with
  | nil => exact fun c hc => absurd hc List.not_mem_nil
  | root none _ ih =>
    intro c hc s hs he
    rcases List.mem_cons.mp hc with rfl | hc
    · obtain ⟨i, hi, _⟩ := he
      simp [none] at hi
    · exact ih c hc s hs he
  | other hx unknown _ ih =>
    intro c hc s hs he
    rcases List.mem_cons.mp hc with rfl | hc
    · exact absurd (he.unique hx ▸ hs) unknown
    · exact ih c hc s hs he
  | hit _ _ _ _ ih =>
    intro c hc s hs he
    rcases List.mem_cons.mp hc with rfl | hc
    · exact ⟨_, List.mem_cons_self, rfl⟩
    · obtain ⟨m, hm, rfl⟩ := ih c hc s (Set.mem_insert_of_mem _ hs) he
      exact ⟨m, List.mem_cons_of_mem _ hm, rfl⟩

/-- In a closed set that holds the targets, every match has its superclass and itself. -/
theorem subset (h : Matches image defs T found) (hT : T ⊆ R) (hd : ∀ c ∈ defs, c ∈ image.classes)
    (closed : image.ClosedUnder R) :
    ∀ m ∈ found, m.descriptor ∈ R ∧ ∃ s ∈ R, image.Extends m.classDef s := by
  induction h with
  | nil => exact fun m hm => absurd hm List.not_mem_nil
  | root _ _ ih | other _ _ _ ih => exact ih hT fun c hc => hd c (List.mem_cons_of_mem _ hc)
  | hit hs known descriptor _ ih =>
    have new := closed _ (hd _ List.mem_cons_self) _ (hT known) hs _ descriptor
    intro m hm
    rcases List.mem_cons.mp hm with rfl | hm
    · exact ⟨new, _, hT known, hs⟩
    · exact ih (Set.insert_subset new hT) (fun c hc => hd c (List.mem_cons_of_mem _ hc)) m hm

/-- With fewer targets a walk succeeds as well, and its matches are some of those found before. -/
theorem mono {T' : Set Text} (h : Matches image defs T found) (sub : T' ⊆ T) :
    ∃ found', Matches image defs T' found' ∧ found'.Sublist found := by
  induction h generalizing T' with
  | nil => exact ⟨[], .nil, .slnil⟩
  | root none _ ih =>
    obtain ⟨found', later, list⟩ := ih sub
    exact ⟨found', .root none later, list⟩
  | other hs unknown _ ih =>
    obtain ⟨found', later, list⟩ := ih sub
    exact ⟨found', .other hs (fun known => unknown (sub known)) later, list⟩
  | @hit c _ _ _ s d hs _ hd _ ih =>
    -- a class that is not matched any longer does not make its own descriptor a target either
    by_cases known : s ∈ T'
    · obtain ⟨found', later, list⟩ := ih (Set.insert_subset_insert sub)
      exact ⟨_, .hit hs known hd later, list.cons_cons _⟩
    · obtain ⟨found', later, list⟩ := ih (sub.trans (Set.subset_insert _ _))
      exact ⟨found', .other hs known later, list.cons _⟩

end Matches

/-- A walk fails at a class whose superclass cannot be resolved, or at one that extends a member of
a closed set around the targets and has no readable descriptor. -/
theorem exists_culprit_of_matchesOnto {known : DescriptorSet} {before : List Match} {e : DexError}
    (h : DexFile.matchesOnto image defs known before = .error e) (sub : Members known ⊆ R)
    (hd : ∀ c ∈ defs, c ∈ image.classes) (closed : image.ClosedUnder R) :
    ∃ c ∈ defs, (∃ i, c.superclass? = some i ∧ image.descriptor i = .error e) ∨
      (∃ s ∈ R, image.Extends c s) ∧ image.descriptorOf c = .error e := by
  induction defs generalizing known before with
  | nil => simp [DexFile.matchesOnto] at h
  | cons c rest ih =>
    have hrest : ∀ x ∈ rest, x ∈ image.classes := fun x hx => hd x (List.mem_cons_of_mem _ hx)
    have later {known : DescriptorSet} {before : List Match}
        (h : DexFile.matchesOnto image rest known before = .error e) (sub : Members known ⊆ R) :
        ∃ x ∈ c :: rest, (∃ i, x.superclass? = some i ∧ image.descriptor i = .error e) ∨
          (∃ s ∈ R, image.Extends x s) ∧ image.descriptorOf x = .error e := by
      obtain ⟨x, hx, culprit⟩ := ih h sub hrest
      exact ⟨x, List.mem_cons_of_mem _ hx, culprit⟩
    rw [DexFile.matchesOnto] at h
    split at h
    · exact later h sub
    · rename_i i hi
      rcases bind_eq_error.mp h with h | ⟨s, hs, h⟩
      · exact ⟨c, List.mem_cons_self, .inl ⟨i, hi, h⟩⟩
      · split at h
        · rename_i known
          have edge : ∃ s ∈ R, image.Extends c s := ⟨s, sub known, i, hi, hs⟩
          rcases bind_eq_error.mp h with h | ⟨d, hc, h⟩
          · exact ⟨c, List.mem_cons_self, .inr ⟨edge, h⟩⟩
          · -- the new target lies in `R`, which is closed
            refine later h ?_
            rw [members_insert]
            exact Set.insert_subset
              (closed c (hd c List.mem_cons_self) s (sub known) ⟨i, hi, hs⟩ d hc) sub
        · exact later h sub

namespace DexFile

variable {f : DexFile} {namer : ClassNamer} {c : ClassDef} {targets : DescriptorSet} {scan : Scan}

/-! ## Reading a matched class -/

/-- The class can be named and its virtual methods can be listed. -/
structure Readable (f : DexFile) (namer : ClassNamer) (c : ClassDef) : Prop where
  /-- Its own descriptor resolves, and the namer accepts it. -/
  named : ∃ d name, f.image.descriptorOf c = .ok d ∧ namer d = .ok name
  /-- Its class data, if it has any, can be decoded, and so can the names of its virtual methods. -/
  methods : ∀ offset, c.dataOffset? = some offset →
    ∃ data, ClassData.decode f.image.bytes offset = .ok data ∧
      ∀ i ∈ data.virtualIndices, ∃ name, f.image.methodName i = .ok name

/-- The failures of reading a matched class. -/
inductive ClassFault (f : DexFile) (namer : ClassNamer) (c : ClassDef) : Failure → Prop where
  | descriptor {e : DexError} (h : f.image.descriptorOf c = .error e) :
      ClassFault f namer c (.ofDex e)
  | name {d : Text} {e : Failure} (hd : f.image.descriptorOf c = .ok d)
      (h : namer d = .error e) : ClassFault f namer c e
  | methods {e : DexError} (h : f.image.virtualMethodNames c = .error e) :
      ClassFault f namer c (.ofDex e)

theorem exists_virtualMethodNames_iff :
    (∃ names, f.image.virtualMethodNames c = .ok names) ↔
      ∀ offset, c.dataOffset? = some offset →
        ∃ data, ClassData.decode f.image.bytes offset = .ok data ∧
          ∀ i ∈ data.virtualIndices, ∃ name, f.image.methodName i = .ok name := by
  simp only [Image.virtualMethodNames, bind_eq_ok, Image.classData?]
  cases hc : c.dataOffset? with
  | none => simp [pure_eq_ok]
  | some offset =>
    simp only [map_eq_ok, ← exists_mapM_eq_ok_iff, Option.some.injEq, forall_eq']
    constructor
    · rintro ⟨names, _, ⟨data, hdata, rfl⟩, h⟩
      exact ⟨data, hdata, names, h⟩
    · rintro ⟨data, hdata, names, h⟩
      exact ⟨names, some data, ⟨data, hdata, rfl⟩, h⟩

/-- A class is readable unless reading it fails. -/
theorem readable_iff : f.Readable namer c ↔ ∀ e, ¬ f.ClassFault namer c e := by
  constructor
  · rintro ⟨⟨d, name, hd, hname⟩, hm⟩ e fault
    obtain ⟨names, hnames⟩ := exists_virtualMethodNames_iff.mpr hm
    cases fault with
    | descriptor h => simp [hd] at h
    | name hd' h =>
      obtain rfl := Except.ok.inj (hd.symm.trans hd')
      simp [hname] at h
    | methods h => simp [hnames] at h
  · intro sound
    obtain ⟨d, hd⟩ := exists_ok_iff.mpr fun e he => sound _ (.descriptor he)
    obtain ⟨name, hname⟩ := exists_ok_iff.mpr fun e he => sound _ (.name hd he)
    exact ⟨⟨d, name, hd, hname⟩,
      exists_virtualMethodNames_iff.mp (exists_ok_iff.mpr fun e he => sound _ (.methods he))⟩

theorem testsOf_eq_ok {m : Match} {tests : List Text} :
    f.testsOf namer m = .ok tests ↔
      ∃ name methods, namer m.descriptor = .ok name ∧
        f.image.virtualMethodNames m.classDef = .ok methods ∧
          (methods.filter testMark.isPrefixOf).map (name ++ ·) = tests := by
  simp only [testsOf, bind_eq_ok, mapError_eq_ok, pure_eq_ok]
  constructor
  · rintro ⟨name, hname, methods, hmethods, rfl⟩
    exact ⟨name, methods, hname, hmethods, rfl⟩
  · rintro ⟨name, methods, hname, hmethods, rfl⟩
    exact ⟨name, hname, methods, hmethods, rfl⟩

theorem classFault_of_testsOf {m : Match} {e : Failure}
    (hd : f.image.descriptorOf m.classDef = .ok m.descriptor) (h : f.testsOf namer m = .error e) :
    f.ClassFault namer m.classDef e := by
  rcases bind_eq_error.mp h with h | ⟨name, _, h⟩
  · exact .name hd h
  · rcases bind_eq_error.mp h with h | ⟨methods, _, h⟩
    · obtain ⟨x, hx, rfl⟩ := mapError_eq_error.mp h
      exact .methods hx
    · exact absurd h pure_ne_error

/-- The tests of a match are the tests of its class. -/
theorem mem_testsOf {m : Match} {tests : List Text} {t : Text}
    (hd : f.image.descriptorOf m.classDef = .ok m.descriptor) (h : f.testsOf namer m = .ok tests) :
    t ∈ tests ↔ f.IsTest namer m.classDef t := by
  obtain ⟨name, methods, hname, hmethods, rfl⟩ := testsOf_eq_ok.mp h
  simp only [List.mem_map, List.mem_filter, List.isPrefixOf_iff_prefix]
  constructor
  · rintro ⟨x, ⟨hx, mark⟩, rfl⟩
    exact ⟨_, name, methods, hd, hname, hmethods, x, hx, mark, rfl⟩
  · rintro ⟨d, name', methods', hd', hname', hmethods', x, hx, mark, rfl⟩
    obtain rfl := Except.ok.inj (hd.symm.trans hd')
    obtain rfl := Except.ok.inj (hname.symm.trans hname')
    obtain rfl := Except.ok.inj (hmethods.symm.trans hmethods')
    exact ⟨x, ⟨hx, mark⟩, rfl⟩

/-! ## Whole scans -/

theorem scan_eq_ok :
    f.scan namer targets = .ok scan ↔
      Matches f.image f.image.classes.toList (Members targets) scan.classes ∧
        ∃ tests, scan.classes.mapM (f.testsOf namer) = .ok tests ∧ scan.tests = tests.flatten := by
  simp only [DexFile.scan, bind_eq_ok, mapError_eq_ok, pure_eq_ok, subclassesOf_eq_ok]
  constructor
  · rintro ⟨classes, hm, tests, ht, rfl⟩
    exact ⟨hm, tests, ht, rfl⟩
  · rintro ⟨hm, tests, ht, hs⟩
    exact ⟨scan.classes, hm, tests, ht, by rw [← hs]⟩

/-- A class of the file that makes scans fail: its superclass cannot be resolved, or `R` makes a
scan read it, which fails. -/
def Culprit (f : DexFile) (namer : ClassNamer) (R : Set Text) (c : ClassDef) (e : Failure) : Prop :=
  (∃ i x, c.superclass? = some i ∧ f.image.descriptor i = .error x ∧ e = .ofDex x) ∨
    (∃ s ∈ R, f.image.Extends c s) ∧ f.ClassFault namer c e

/-- **Blame.**  A scan that fails does so because of a class which each closed set that holds the
targets makes it read. -/
theorem exists_culprit_of_scan {e : Failure} (h : f.scan namer targets = .error e)
    (sub : Members targets ⊆ R) (closed : f.image.ClosedUnder R) :
    ∃ c ∈ f.image.classes, f.Culprit namer R c e := by
  have hd : ∀ c ∈ f.image.classes.toList, c ∈ f.image.classes := fun c => Array.mem_toList_iff.mp
  rcases bind_eq_error.mp h with h | ⟨classes, hm, h⟩
  · obtain ⟨x, hx, rfl⟩ := mapError_eq_error.mp h
    obtain ⟨c, hc, ⟨i, hi, he⟩ | ⟨edge, he⟩⟩ := exists_culprit_of_matchesOnto hx sub hd closed
    · exact ⟨c, hd c hc, .inl ⟨i, x, hi, he, rfl⟩⟩
    · exact ⟨c, hd c hc, .inr ⟨edge, .descriptor he⟩⟩
  · have hm := subclassesOf_eq_ok.mp (mapError_eq_ok.mp hm)
    rcases bind_eq_error.mp h with h | ⟨tests, _, h⟩
    · obtain ⟨m, hmem, he⟩ := exists_of_mapM_eq_error h
      obtain ⟨hc, hown⟩ := hm.descriptor_eq m hmem
      exact ⟨m.classDef, hd _ hc,
        .inr ⟨(hm.subset sub hd closed m hmem).2, classFault_of_testsOf hown he⟩⟩
    · exact absurd h pure_ne_error

/-- What a scan finds depends on the members of its targets alone. -/
theorem scan_congr {targets' : DescriptorSet} (same : Members targets = Members targets') :
    f.scan namer targets = .ok scan ↔ f.scan namer targets' = .ok scan := by
  rw [scan_eq_ok, scan_eq_ok, same]

/-- With fewer targets a scan succeeds as well, and finds some of the classes found before. -/
theorem scan_mono {targets' : DescriptorSet} (h : f.scan namer targets = .ok scan)
    (sub : Members targets' ⊆ Members targets) :
    ∃ scan', f.scan namer targets' = .ok scan' ∧ scan'.classes.Sublist scan.classes := by
  obtain ⟨hm, tests, ht, _⟩ := scan_eq_ok.mp h
  obtain ⟨classes, hm', list⟩ := hm.mono sub
  obtain ⟨tests', ht'⟩ : ∃ tests', classes.mapM (f.testsOf namer) = .ok tests' :=
    exists_mapM_eq_ok_iff.mpr fun m hmem =>
      exists_mapM_eq_ok_iff.mp ⟨tests, ht⟩ m (list.subset hmem)
  exact ⟨{ classes, tests := tests'.flatten }, scan_eq_ok.mpr ⟨hm', tests', ht', rfl⟩, list⟩

/-- No class of the file makes scans fail, whatever they know of `R`: every superclass index
resolves, and every class that extends a member of `R` is readable. -/
def CleanUnder (f : DexFile) (namer : ClassNamer) (R : Set Text) : Prop :=
  ∀ c ∈ f.image.classes, (∀ i, c.superclass? = some i → ∃ s, f.image.descriptor i = .ok s) ∧
    ∀ s ∈ R, f.image.Extends c s → f.Readable namer c

theorem cleanUnder_iff :
    f.CleanUnder namer R ↔ ∀ c ∈ f.image.classes, ∀ e, ¬ f.Culprit namer R c e := by
  constructor
  · rintro clean c hc e (⟨i, x, hi, hx, _⟩ | ⟨⟨s, hs, he⟩, fault⟩)
    · obtain ⟨s, hs⟩ := (clean c hc).1 i hi
      simp [hs] at hx
    · exact readable_iff.mp ((clean c hc).2 s hs he) e fault
  · intro sound c hc
    refine ⟨fun i hi => exists_ok_iff.mpr fun x hx => ?_, fun s hs he => ?_⟩
    · exact sound c hc _ (.inl ⟨i, x, hi, hx, rfl⟩)
    · exact readable_iff.mpr fun e fault => sound c hc e (.inr ⟨⟨s, hs, he⟩, fault⟩)

section Found
variable (h : f.scan namer targets = .ok scan)
include h

theorem resolves_of_scan : ∀ c ∈ f.image.classes, ∀ i, c.superclass? = some i →
    ∃ s, f.image.descriptor i = .ok s :=
  fun c hc => (scan_eq_ok.mp h).1.resolves c (Array.mem_toList_iff.mpr hc)

/-- The matched classes are classes of the file with their own descriptors. -/
theorem descriptor_eq_of_scan : ∀ m ∈ scan.classes,
    m.classDef ∈ f.image.classes ∧ f.image.descriptorOf m.classDef = .ok m.descriptor := by
  intro m hm
  obtain ⟨hc, hd⟩ := (scan_eq_ok.mp h).1.descriptor_eq m hm
  exact ⟨Array.mem_toList_iff.mp hc, hd⟩

/-- A successful scan matches every class that extends a target. -/
theorem complete_of_scan : ∀ c ∈ f.image.classes, ∀ s ∈ targets, f.image.Extends c s →
    ∃ m ∈ scan.classes, m.classDef = c :=
  fun c hc => (scan_eq_ok.mp h).1.complete c (Array.mem_toList_iff.mpr hc)

/-- What a scan matches lies in each closed set that holds the targets. -/
theorem subset_of_scan (sub : Members targets ⊆ R) (closed : f.image.ClosedUnder R) :
    ∀ m ∈ scan.classes, m.descriptor ∈ R ∧ ∃ s ∈ R, f.image.Extends m.classDef s :=
  (scan_eq_ok.mp h).1.subset sub (fun _ => Array.mem_toList_iff.mp) closed

theorem mem_tests_iff {t : Text} :
    t ∈ scan.tests ↔ ∃ m ∈ scan.classes, f.IsTest namer m.classDef t := by
  obtain ⟨hm, tests, ht, hs⟩ := scan_eq_ok.mp h
  have own : ∀ m ∈ scan.classes, f.image.descriptorOf m.classDef = .ok m.descriptor :=
    fun m hmem => (hm.descriptor_eq m hmem).2
  rw [hs, List.mem_flatten]
  constructor
  · rintro ⟨l, hl, htl⟩
    obtain ⟨m, hmem, hf⟩ := exists_entry_of_mapM_eq_ok ht l hl
    exact ⟨m, hmem, (mem_testsOf (own m hmem) hf).mp htl⟩
  · rintro ⟨m, hmem, htest⟩
    obtain ⟨l, hl, hf⟩ := exists_mem_of_mapM_eq_ok ht m hmem
    exact ⟨l, hl, (mem_testsOf (own m hmem) hf).mpr htest⟩

/-- The matched classes are readable. -/
theorem readable_of_scan : ∀ m ∈ scan.classes, f.Readable namer m.classDef := by
  intro m hmem
  obtain ⟨hm, tests, ht, _⟩ := scan_eq_ok.mp h
  obtain ⟨l, _, hf⟩ := exists_mem_of_mapM_eq_ok ht m hmem
  obtain ⟨name, methods, hname, hmethods, _⟩ := testsOf_eq_ok.mp hf
  exact ⟨⟨m.descriptor, name, (hm.descriptor_eq m hmem).2, hname⟩,
    exists_virtualMethodNames_iff.mp ⟨methods, hmethods⟩⟩

end Found

/-- For targets that are closed, a scan succeeds if and only if the file is clean under them. -/
theorem exists_scan_iff (closed : f.image.ClosedUnder (Members targets)) :
    (∃ scan, f.scan namer targets = .ok scan) ↔ f.CleanUnder namer (Members targets) := by
  constructor
  · rintro ⟨scan, h⟩ c hc
    refine ⟨resolves_of_scan h c hc, fun s hs he => ?_⟩
    obtain ⟨m, hm, rfl⟩ := complete_of_scan h c hc s hs he
    exact readable_of_scan h m hm
  · intro clean
    refine exists_ok_iff.mpr fun e he => ?_
    obtain ⟨c, hc, culprit⟩ := exists_culprit_of_scan he Set.Subset.rfl closed
    exact cleanUnder_iff.mp clean c hc e culprit

end DexFile

end DexDiscovery
