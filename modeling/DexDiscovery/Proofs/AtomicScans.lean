import DexDiscovery.Proofs.StrictClosure

/-!
# Scans are atomic

A scan that is to extend the caller's targets either fails, and then the targets are what they were,
or it succeeds, and then they have taken in the descriptors of the matched classes and nothing else
(`scans_atomic`).  It does not matter where it fails: at a superclass, at the descriptor of a match,
in class data, at the name of a method, or in the namer.

The reason is that what happens before the last step only reads the targets.  Reading steps answer
like the scan that has no targets of a caller at hand (`run_discoverOnto`, `mapM_ofAnswer`), so the
outcome is that of `DexFile.subclassesOf` and `DexFile.scan` (`subclassesInto_eq`, `testsInto_eq`).
A search visits its files in this way (`Closure.members_known_of_visit`).

Which classes are matched is said by their **places** (`MatchedAt`): a place is matched if its class
extends a target or the class of a matched place before it.
-/

namespace DexDiscovery

namespace TargetM

variable {ε ε' α β : Type} {targets found : DescriptorSet}

/-- Going on with an answer leaves the targets alone. -/
theorem run_ofAnswer_bind {answer : Except ε α} {next : α → TargetM ε β} :
    (ofAnswer answer >>= next).run targets =
      match answer with
      | .ok x => (next x).run targets
      | .error e => .error e targets := by
  cases answer <;> rfl

theorem run_get_bind {next : DescriptorSet → TargetM ε β} :
    (get >>= next).run targets = (next targets).run targets := rfl

theorem ofAnswer_bind {x : Except ε α} {f : α → Except ε β} :
    ((ofAnswer x : TargetM ε α) >>= fun a => ofAnswer (f a)) = ofAnswer (x >>= f) := by
  cases x <;> rfl

/-- Going on with one answer after the other is going on with all of them. -/
theorem mapM_ofAnswer {f : α → Except ε β} {l : List α} :
    (l.mapM fun a => (ofAnswer (f a) : TargetM ε β)) = ofAnswer (l.mapM f) := by
  induction l with
  | nil => rfl
  | cons a rest ih =>
    rw [List.mapM_cons, List.mapM_cons, ih, ← ofAnswer_bind]
    refine congrArg _ (funext fun b => ?_)
    exact ofAnswer_bind (f := fun bs => pure (b :: bs))

/-- Steps on a copy leave the targets alone, and fail like the steps. -/
theorem run_onCopy {steps : TargetM ε α} {g : ε → ε'} :
    (steps.onCopy.adaptExcept g).run targets =
      match steps.outcome targets with
      | (.ok x, copy) => .ok (x, copy) targets
      | (.error e, _) => .error (g e) targets := by
  have run : steps.onCopy.run targets =
      match steps.outcome targets with
      | (.ok x, copy) => .ok (x, copy) targets
      | (.error e, _) => .error e targets := by
    rw [onCopy, run_get_bind]
    rcases steps.outcome targets with ⟨_ | _, copy⟩ <;> rfl
  unfold EStateM.adaptExcept
  simp only [EStateM.run] at run ⊢
  rw [run]
  rcases steps.outcome targets with ⟨_ | _, copy⟩ <;> rfl

theorem members_union : Members (union targets found) = Members targets ∪ Members found := by
  rw [union, Closure.members_foldl_insert]
  ext d
  simp [Std.TreeSet.mem_toList]

end TargetM

/-! ## Where the matches are -/

variable {image : Image} {defs rest : List ClassDef} {T : Set Text} {found : List Match}
  {places : List Nat} {c : ClassDef} {i : Nat} {s : Text}

/-- `s` is the descriptor of a class at one of the places before `i`. -/
def DiscoveredBefore (image : Image) (defs : List ClassDef) (places : List Nat) (i : Nat)
    (s : Text) : Prop :=
  ∃ j ∈ places, j < i ∧ ∃ c, defs[j]? = some c ∧ image.descriptorOf c = .ok s

/-- **The matches among some definitions.**  They stand at the places where a class extends a target
or the class at a place before it, in the order of these places and with their own descriptors. -/
structure MatchedAt (image : Image) (defs : List ClassDef) (T : Set Text) (places : List Nat)
    (found : List Match) : Prop where
  ascending : places.Pairwise (· < ·)
  classes : List.Forall₂ (fun i m => defs[i]? = some m.classDef ∧
    image.descriptorOf m.classDef = .ok m.descriptor) places found
  exactly : ∀ i c, defs[i]? = some c →
    (i ∈ places ↔ ∃ s, image.Extends c s ∧ (s ∈ T ∨ DiscoveredBefore image defs places i s))

theorem not_discoveredBefore_zero : ¬ DiscoveredBefore image defs places 0 s := by
  rintro ⟨j, _, before, _⟩
  omega

/-- A definition in front that is not matched moves all places by one. -/
theorem discoveredBefore_succ :
    DiscoveredBefore image (c :: rest) (places.map (· + 1)) (i + 1) s ↔
      DiscoveredBefore image rest places i s := by
  constructor
  · rintro ⟨_, mem, before, k, at_, descriptor⟩
    obtain ⟨j, hj, rfl⟩ := List.mem_map.mp mem
    exact ⟨j, hj, by omega, k, at_, descriptor⟩
  · rintro ⟨j, hj, before, k, at_, descriptor⟩
    exact ⟨j + 1, List.mem_map.mpr ⟨j, hj, rfl⟩, by omega, k, at_, descriptor⟩

/-- One that is matched adds its own descriptor. -/
theorem discoveredBefore_zero_cons :
    DiscoveredBefore image (c :: rest) (0 :: places.map (· + 1)) (i + 1) s ↔
      image.descriptorOf c = .ok s ∨ DiscoveredBefore image rest places i s := by
  constructor
  · rintro ⟨j, mem, before, k, at_, descriptor⟩
    rcases List.mem_cons.mp mem with rfl | mem
    · obtain rfl : c = k := by simpa using at_
      exact .inl descriptor
    · exact .inr (discoveredBefore_succ.mp ⟨j, mem, before, k, at_, descriptor⟩)
  · rintro (descriptor | earlier)
    · exact ⟨0, List.mem_cons_self, by omega, c, by simp, descriptor⟩
    · obtain ⟨j, mem, before, found⟩ := (discoveredBefore_succ (c := c)).mpr earlier
      exact ⟨j, List.mem_cons_of_mem _ mem, before, found⟩

namespace MatchedAt

theorem nil : MatchedAt image [] T [] [] where
  ascending := .nil
  classes := .nil
  exactly := by simp

/-- Places of the rest are places of the whole, one further. -/
theorem succ_mem_map : i + 1 ∈ places.map (· + 1) ↔ i ∈ places := by
  simp

theorem zero_not_mem_map : 0 ∉ places.map (· + 1) := by
  simp

/-- In front of some definitions stands one that extends no target. -/
theorem skip (h : MatchedAt image rest T places found) (out : ∀ s ∈ T, ¬ image.Extends c s) :
    MatchedAt image (c :: rest) T (places.map (· + 1)) found where
  ascending := by
    rw [List.pairwise_map]
    exact h.ascending.imp fun less => by omega
  classes := by
    rw [List.forall₂_map_left_iff]
    exact h.classes
  exactly := by
    intro i k at_
    cases i with
    | zero =>
      obtain rfl : c = k := by simpa using at_
      refine iff_of_false zero_not_mem_map ?_
      rintro ⟨s, edge, target | before⟩
      · exact out s target edge
      · exact not_discoveredBefore_zero before
    | succ i =>
      rw [succ_mem_map, h.exactly i k (by simpa using at_)]
      simp only [discoveredBefore_succ]

/-- In front of some definitions stands one that extends a target; its descriptor is a target for
those behind it. -/
theorem hit {d : Text} (h : MatchedAt image rest (insert d T) places found)
    (edge : image.Extends c s) (known : s ∈ T) (descriptor : image.descriptorOf c = .ok d) :
    MatchedAt image (c :: rest) T (0 :: places.map (· + 1))
      ({ classDef := c, descriptor := d } :: found) where
  ascending := by
    refine List.pairwise_cons.mpr ⟨?_, ?_⟩
    · intro j mem
      obtain ⟨i, _, rfl⟩ := List.mem_map.mp mem
      omega
    · rw [List.pairwise_map]
      exact h.ascending.imp fun less => by omega
  classes := by
    refine .cons ⟨rfl, descriptor⟩ ?_
    rw [List.forall₂_map_left_iff]
    exact h.classes
  exactly := by
    intro i k at_
    cases i with
    | zero =>
      obtain rfl : c = k := by simpa using at_
      exact iff_of_true List.mem_cons_self ⟨s, edge, .inl known⟩
    | succ i =>
      have later : i + 1 ∈ 0 :: places.map (· + 1) ↔ i ∈ places := by simp
      have own (t : Text) : image.descriptorOf c = .ok t ↔ t = d := by
        rw [descriptor]
        exact ⟨fun same => (Except.ok.inj same).symm, fun same => congrArg Except.ok same.symm⟩
      rw [later, h.exactly i k (by simpa using at_)]
      simp only [discoveredBefore_zero_cons, own, Set.mem_insert_iff]
      -- the target `d` of the rest is the descriptor discovered at place zero
      refine exists_congr fun t => and_congr_right fun _ => ?_
      tauto

end MatchedAt

/-- The matches of a walk stand at such places. -/
theorem Matches.exists_places (h : Matches image defs T found) :
    ∃ places, MatchedAt image defs T places found := by
  induction h with
  | nil => exact ⟨[], .nil⟩
  | root none _ ih =>
    obtain ⟨places, later⟩ := ih
    refine ⟨_, later.skip ?_⟩
    rintro s _ ⟨index, has, _⟩
    simp [none] at has
  | other edge unknown _ ih =>
    obtain ⟨places, later⟩ := ih
    exact ⟨_, later.skip fun s target edge' => unknown (edge.unique edge' ▸ target)⟩
  | hit edge known descriptor _ ih =>
    obtain ⟨places, later⟩ := ih
    exact ⟨_, later.hit edge known descriptor⟩

/-! ## What a scan leaves -/

namespace DexFile

variable {f : DexFile} {namer : ClassNamer} {targets known after : DescriptorSet}
  {before : List Match}

/-- Going through definitions with the targets at hand answers like going through them with the
targets and the discoveries in one set, and leaves the targets alone. -/
theorem run_discoverOnto
    (same : ∀ d, d ∈ known ↔ d ∈ targets ∨ d ∈ Scan.extend before.reverse {}) :
    (discoverOnto image defs (Scan.extend before.reverse {}) before).run targets =
      match matchesOnto image defs known before with
      | .ok found => .ok (found, Scan.extend found {}) targets
      | .error e => .error e targets := by
  induction defs generalizing known before with
  | nil => rfl
  | cons c rest ih =>
    rw [discoverOnto, matchesOnto]
    cases c.superclass? with
    | none => exact ih same
    | some index =>
      simp only [TargetM.run_ofAnswer_bind]
      cases image.descriptor index with
      | error e => rfl
      | ok s =>
        simp only [TargetM.run_get_bind, ok_bind]
        by_cases target : s ∈ known
        · rw [if_pos target, if_pos ((same s).mp target), TargetM.run_ofAnswer_bind]
          cases image.descriptorOf c with
          | error e => rfl
          | ok d =>
            let m : Match := { classDef := c, descriptor := d }
            have extended : (Scan.extend before.reverse {}).insert d =
                Scan.extend (m :: before).reverse {} := by
              simp [Scan.extend, List.foldl_append, m]
            rw [ok_bind]
            simp only [extended]
            refine ih fun t => ?_
            rw [← extended, Std.TreeSet.mem_insert, Std.TreeSet.mem_insert, same]
            tauto
        · rw [if_neg target, if_neg (mt (same s).mpr target)]
          exact ih same

theorem mem_extend_empty {d : Text} : d ∈ Scan.extend found {} ↔ ∃ m ∈ found, m.descriptor = d := by
  rw [Closure.mem_extend]
  simp

/-- The outcome of a search for subclasses. -/
theorem subclassesInto_eq :
    f.subclassesInto targets =
      match f.subclassesOf targets with
      | .ok found => (.ok found, TargetM.union targets (Scan.extend found {}))
      | .error e => (.error e, targets) := by
  have same : ∀ d, d ∈ targets ↔ d ∈ targets ∨ d ∈ Scan.extend ([] : List Match).reverse {} := by
    simp [mem_extend_empty]
  have run : (discoverOnto f.image f.image.classes.toList {} []).run targets = _ :=
    run_discoverOnto same
  unfold subclassesInto TargetM.outcome findSubclasses subclassesOf
  rw [EStateM.run_bind, run]
  cases matchesOnto f.image f.image.classes.toList targets [] <;> rfl

/-- The outcome of a search for tests. -/
theorem testsInto_eq :
    f.testsInto namer targets =
      match f.scan namer targets with
      | .ok scan =>
        (.ok scan.tests,
          TargetM.union targets (TargetM.union targets (Scan.extend scan.classes {})))
      | .error e => (.error e, targets) := by
  have subclasses : f.findSubclasses.outcome targets = _ := subclassesInto_eq
  unfold testsInto TargetM.outcome findTests scan
  rw [EStateM.run_bind, TargetM.run_onCopy, subclasses]
  cases f.subclassesOf targets with
  | error e => rfl
  | ok found =>
    simp only [TargetM.mapM_ofAnswer, TargetM.run_ofAnswer_bind, Except.mapError, ok_bind]
    cases found.mapM (f.testsOf namer) <;> rfl

theorem subclassesInto_eq_ok :
    f.subclassesInto targets = (.ok found, after) ↔
      f.subclassesOf targets = .ok found ∧
        TargetM.union targets (Scan.extend found {}) = after := by
  rw [subclassesInto_eq]
  cases f.subclassesOf targets with
  | error e => simp
  | ok found' =>
    simp only [Prod.mk.injEq, Except.ok.injEq]
    exact and_congr_right fun same => by rw [same]

theorem subclassesInto_eq_error {e : DexError} :
    f.subclassesInto targets = (.error e, after) ↔
      f.subclassesOf targets = .error e ∧ targets = after := by
  rw [subclassesInto_eq]
  cases f.subclassesOf targets <;> simp

theorem testsInto_eq_ok {tests : List Text} :
    f.testsInto namer targets = (.ok tests, after) ↔
      ∃ scan, f.scan namer targets = .ok scan ∧ scan.tests = tests ∧
        TargetM.union targets (TargetM.union targets (Scan.extend scan.classes {})) = after := by
  rw [testsInto_eq]
  cases f.scan namer targets <;> simp

theorem testsInto_eq_error {e : Failure} :
    f.testsInto namer targets = (.error e, after) ↔
      f.scan namer targets = .error e ∧ targets = after := by
  rw [testsInto_eq]
  cases f.scan namer targets <;> simp

/-- The targets have taken in the descriptors of some matches. -/
theorem members_union_extend :
    Members (TargetM.union targets (Scan.extend found {})) =
      Members targets ∪ {d | ∃ m ∈ found, m.descriptor = d} := by
  rw [TargetM.members_union]
  congr 1
  ext d
  exact mem_extend_empty

/-- Taking in a copy that has been extended is taking in what it was extended by. -/
theorem members_union_copy :
    Members (TargetM.union targets (TargetM.union targets (Scan.extend found {}))) =
      Members targets ∪ {d | ∃ m ∈ found, m.descriptor = d} := by
  rw [TargetM.members_union, members_union_extend, ← Set.union_assoc, Set.union_self]

/-! ## Atomicity -/

/-- The test identifiers of a match in encoded order: the name of its class, each time with the name
of a virtual method behind it that begins with the test mark. -/
def NamesTests (f : DexFile) (namer : ClassNamer) (m : Match) (tests : List Text) : Prop :=
  ∃ name methods, namer m.descriptor = .ok name ∧
    f.image.virtualMethodNames m.classDef = .ok methods ∧
      (methods.filter testMark.isPrefixOf).map (name ++ ·) = tests

/-- **Scans are atomic in the caller's targets.**  A search for subclasses or for tests that fails
leaves the targets as they were, whichever step of which class it fails at.  One that succeeds
leaves them united with the descriptors of the matched classes: in the order of their definitions,
those that extend a target or the class of an earlier match.  The tests are named class by class in
this order, and method by method. -/
theorem scans_atomic (f : DexFile) (namer : ClassNamer) (targets : DescriptorSet) :
    (∀ e after, f.subclassesInto targets = (.error e, after) →
        after = targets ∧ ∃ c ∈ f.image.classes,
          f.Culprit namer (reached [f] (Members targets)) c (.ofDex e)) ∧
      (∀ found after, f.subclassesInto targets = (.ok found, after) →
        (∃ places, MatchedAt f.image f.image.classes.toList (Members targets) places found) ∧
          Members after = Members targets ∪ {d | ∃ m ∈ found, m.descriptor = d}) ∧
      (∀ e after, f.testsInto namer targets = (.error e, after) →
        after = targets ∧ ∃ c ∈ f.image.classes,
          f.Culprit namer (reached [f] (Members targets)) c e) ∧
      ∀ tests after, f.testsInto namer targets = (.ok tests, after) →
        ∃ found named,
          (∃ places, MatchedAt f.image f.image.classes.toList (Members targets) places found) ∧
          List.Forall₂ (f.NamesTests namer) found named ∧ tests = named.flatten ∧
            Members after = Members targets ∪ {d | ∃ m ∈ found, m.descriptor = d} := by
  have closed : f.image.ClosedUnder (reached [f] (Members targets)) :=
    reached_closedUnder f List.mem_cons_self
  refine ⟨fun e after h => ?_, fun found after h => ?_, fun e after h => ?_,
    fun tests after h => ?_⟩
  · obtain ⟨fails, rfl⟩ := subclassesInto_eq_error.mp h
    have scan : f.scan namer targets = .error (.ofDex e) := by
      rw [DexFile.scan, fails]
      rfl
    exact ⟨rfl, exists_culprit_of_scan scan bases_subset_reached closed⟩
  · obtain ⟨answer, rfl⟩ := subclassesInto_eq_ok.mp h
    exact ⟨(subclassesOf_eq_ok.mp answer).exists_places, members_union_extend⟩
  · obtain ⟨fails, rfl⟩ := testsInto_eq_error.mp h
    exact ⟨rfl, exists_culprit_of_scan fails bases_subset_reached closed⟩
  · obtain ⟨scan, answer, rfl, rfl⟩ := testsInto_eq_ok.mp h
    obtain ⟨walk, named, each, flat⟩ := scan_eq_ok.mp answer
    have names : List.Forall₂ (f.NamesTests namer) scan.classes named :=
      (mapM_eq_ok.mp each).imp fun m tests named => testsOf_eq_ok.mp named
    exact ⟨scan.classes, named, walk.exists_places, names, flat, members_union_copy⟩

end DexFile

/-- A visit of a search goes through its file as a scan with what is known as its targets: what is
known afterwards is what becomes of these targets, whether the scan succeeds or its file is
skipped. -/
theorem Closure.members_known_of_visit {search : Search} {c next : Closure} {file : DexFile}
    (h : Closure.visit search c file = .ok next) :
    Members next.known = Members (file.testsInto search.namer c.known).2 := by
  have known := (Closure.advances_visit h).1.known
  rw [known, DexFile.testsInto_eq]
  cases file.scan search.namer c.known with
  | ok scan =>
    rw [DexFile.members_union_copy]
    simp [Visit.descriptors, Visit.classes]
  | error e => simp [Visit.descriptors, Visit.classes]

namespace Sample

/-- `A` extends the base class `T` and has a test; the data of `B`, which extends `C`, lie behind
the end of the file. -/
def spoilt : DexFile := file "spoilt.dex" [classDef 1 0 (some 32), classDef 2 3 (some 99)]

end Sample

/-- With `T` among the targets, `spoilt` is scanned to the end, and `A` becomes a target.  With `C`
and `T` the scan fails at `B`, when `A` has been found, and neither becomes a target. -/
theorem atomic_on_spoilt :
    (∃ after, Sample.spoilt.testsInto Sample.namer Sample.bases
        = (.ok [("A#testX" : Text)], after) ∧
      after.toList = [("LA;" : Text), "LT;"] ∧
        ∃ found : List Match,
          Members after = Members Sample.bases ∪ {d | ∃ m ∈ found, m.descriptor = d}) ∧
      ∃ e after, Sample.spoilt.testsInto Sample.namer (Sample.bases.insert "LC;")
          = (.error e, after) ∧
        after = Sample.bases.insert "LC;" := by
  constructor
  · have answer : ((Sample.spoilt.testsInto Sample.namer Sample.bases).1.toOption,
        (Sample.spoilt.testsInto Sample.namer Sample.bases).2.toList)
          = (some [("A#testX" : Text)], [("LA;" : Text), "LT;"]) := by decide +kernel
    obtain ⟨tests, targets⟩ := Prod.mk.inj answer
    have h := Prod.ext (toOption_eq_some.mp tests) rfl
    obtain ⟨_, _, _, success⟩ := DexFile.scans_atomic Sample.spoilt Sample.namer Sample.bases
    obtain ⟨found, _, _, _, _, members⟩ := success _ _ h
    exact ⟨_, h, targets, found, members⟩
  · have fails : (Sample.spoilt.testsInto Sample.namer (Sample.bases.insert "LC;")).1.isOk
        = false := by decide +kernel
    obtain ⟨_, _, failure, _⟩ :=
      DexFile.scans_atomic Sample.spoilt Sample.namer (Sample.bases.insert "LC;")
    rcases h : Sample.spoilt.testsInto Sample.namer (Sample.bases.insert "LC;") with
      ⟨e | tests, after⟩
    · exact ⟨e, after, rfl, (failure e after h).1⟩
    · simp [h, Except.isOk, Except.toBool] at fails

end DexDiscovery
