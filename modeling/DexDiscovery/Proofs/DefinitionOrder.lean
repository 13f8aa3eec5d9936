import DexDiscovery.Proofs.AtomicScans

/-!
# Superclasses before subclasses

A scan goes through the class definitions of a file once.  It sees a class before it knows the
superclass if the two stand in the wrong order, and then another scan is needed.  The format
promises that they do not: `SuperclassesFirst` says that a class which another one extends stands
before it.

Under this promise one scan is enough.  A walk whose targets are widened by everything that it finds
itself makes the same matches again (`Matches.widen`): what a class extends was a target when its
turn came, or is the descriptor of a class before it.  So the widened targets are closed under the
edges of the file, and the matched classes are exactly those that chains of edges lead to
(`fixpoint_of_one_scan`).

The order is stated for definitions of several images, which a pass over several files goes through
in the same way.
-/

namespace DexDiscovery

/-! ## The order of class definitions -/

/-- The class definitions of a file, in order, each with the image that it stands in. -/
def DexFile.definitions (f : DexFile) : List (Image × ClassDef) :=
  f.image.classes.toList.map (f.image, ·)

/-- The class `x` extends the class `y`. -/
def DirectSubclass (x y : Image × ClassDef) : Prop :=
  ∃ s, x.1.Extends x.2 s ∧ y.1.descriptorOf y.2 = .ok s

instance (x y : Image × ClassDef) : Decidable (DirectSubclass x y) :=
  decidable_of_iff
    (∃ s ∈ x.2.superclass?.bind fun i => (x.1.descriptor i).toOption, y.1.descriptorOf y.2 = .ok s)
    (by
      simp only [DirectSubclass, Image.Extends, Option.mem_def, Option.bind_eq_some_iff,
        toOption_eq_some])

/-- Every class that another one extends stands before it. -/
def SuperclassesFirst (defs : List (Image × ClassDef)) : Prop :=
  ∀ (i j : Nat) (x y : Image × ClassDef), defs[i]? = some x → defs[j]? = some y →
    DirectSubclass x y → j < i

variable {image : Image} {defs : List ClassDef} {T X : Set Text} {found : List Match}

/-- No class extends itself, and none extends a class behind it. -/
theorem superclassesFirst_iff {defs : List (Image × ClassDef)} :
    SuperclassesFirst defs ↔
      (∀ x ∈ defs, ¬ DirectSubclass x x) ∧ defs.Pairwise fun x y => ¬ DirectSubclass x y := by
  constructor
  · intro first
    constructor
    · intro x mem self
      obtain ⟨i, at_⟩ := List.mem_iff_getElem?.mp mem
      exact absurd (first i i x x at_ at_ self) (Nat.lt_irrefl i)
    · rw [List.pairwise_iff_getElem]
      intro i j hi hj before edge
      have later : j < i := first i j _ _ (List.getElem?_eq_getElem hi)
        (List.getElem?_eq_getElem hj) edge
      omega
  · rintro ⟨noSelf, order⟩ i j x y hx hy edge
    obtain ⟨hi, rfl⟩ := List.getElem?_eq_some_iff.mp hx
    obtain ⟨hj, rfl⟩ := List.getElem?_eq_some_iff.mp hy
    rcases Nat.lt_trichotomy j i with before | same | behind
    · exact before
    · subst same
      exact absurd edge (noSelf _ (List.getElem_mem hi))
    · exact absurd edge (List.pairwise_iff_getElem.mp order i j hi hj behind)

instance (defs : List (Image × ClassDef)) : Decidable (SuperclassesFirst defs) :=
  decidable_of_iff _ superclassesFirst_iff.symm

namespace SuperclassesFirst

variable {x : Image × ClassDef} {rest first second : List (Image × ClassDef)}

/-- The first class extends none of the list. -/
theorem not_directSubclass (h : SuperclassesFirst (x :: rest)) :
    ∀ y ∈ x :: rest, ¬ DirectSubclass x y := by
  obtain ⟨noSelf, order⟩ := superclassesFirst_iff.mp h
  intro y mem
  rcases List.mem_cons.mp mem with rfl | mem
  · exact noSelf y List.mem_cons_self
  · exact (List.pairwise_cons.mp order).1 y mem

theorem append_left (h : SuperclassesFirst (first ++ second)) : SuperclassesFirst first := by
  obtain ⟨noSelf, order⟩ := superclassesFirst_iff.mp h
  exact superclassesFirst_iff.mpr ⟨fun x mem => noSelf x (List.mem_append_left _ mem),
    (List.pairwise_append.mp order).1⟩

theorem append_right (h : SuperclassesFirst (first ++ second)) : SuperclassesFirst second := by
  obtain ⟨noSelf, order⟩ := superclassesFirst_iff.mp h
  exact superclassesFirst_iff.mpr ⟨fun x mem => noSelf x (List.mem_append_right _ mem),
    (List.pairwise_append.mp order).2.1⟩

theorem tail (h : SuperclassesFirst (x :: rest)) : SuperclassesFirst rest := by
  have split : SuperclassesFirst ([x] ++ rest) := h
  exact split.append_right

/-- No class of the first part extends one of the second. -/
theorem not_directSubclass_append (h : SuperclassesFirst (first ++ second)) :
    ∀ x ∈ first, ∀ y ∈ second, ¬ DirectSubclass x y :=
  (List.pairwise_append.mp (superclassesFirst_iff.mp h).2).2.2

/-- What holds of all files together holds of each. -/
theorem of_mem {files : List DexFile} {f : DexFile}
    (h : SuperclassesFirst (files.flatMap DexFile.definitions)) (mem : f ∈ files) :
    SuperclassesFirst f.definitions := by
  obtain ⟨earlier, later, rfl⟩ := List.append_of_mem mem
  rw [List.flatMap_append, List.flatMap_cons] at h
  exact h.append_right.append_left

end SuperclassesFirst

/-! ## Walks with more targets -/

namespace Matches

/-- **A walk with its own matches among the targets.**  Where superclasses come first, more targets
make no more matches, as long as the classes extend none of them but those that were targets before
and those that the walk finds itself. -/
theorem widen (h : Matches image defs T found) (first : SuperclassesFirst (defs.map (image, ·)))
    (sub : T ⊆ X) (own : ∀ m ∈ found, m.descriptor ∈ X)
    (extended : ∀ c ∈ defs, ∀ s ∈ X, image.Extends c s → s ∈ T ∨ ∃ m ∈ found, m.descriptor = s) :
    Matches image defs X found := by
  induction h with
  | nil => exact .nil
  | root none _ ih =>
    exact .root none (ih first.tail sub own fun c mem => extended c (List.mem_cons_of_mem _ mem))
  | @other c rest T found s hs unknown later ih =>
    have new : s ∉ X := by
      intro mem
      rcases extended c List.mem_cons_self s mem hs with known | ⟨m, hm, rfl⟩
      · exact unknown known
      · -- a match of the rest of the walk would be a class behind `c` that `c` extends
        obtain ⟨behind, descriptor⟩ := later.descriptor_eq m hm
        have listed : (image, m.classDef) ∈ (c :: rest).map (image, ·) :=
          List.mem_map_of_mem (List.mem_cons_of_mem _ behind)
        exact first.not_directSubclass _ listed ⟨_, hs, descriptor⟩
    exact .other hs new
      (ih first.tail sub own fun c mem => extended c (List.mem_cons_of_mem _ mem))
  | @hit c rest T found s d hs known descriptor later ih =>
    have target : d ∈ X := own _ List.mem_cons_self
    have behind : Matches image rest (insert d X) found := by
      rw [Set.insert_eq_of_mem target]
      refine ih first.tail (Set.insert_subset target sub)
        (fun m hm => own m (List.mem_cons_of_mem _ hm)) ?_
      intro k mem t ht edge
      rcases extended k (List.mem_cons_of_mem _ mem) t ht edge with old | ⟨m, hm, rfl⟩
      · exact .inl (.inr old)
      · rcases List.mem_cons.mp hm with rfl | hm
        · exact .inl (.inl rfl)
        · exact .inr ⟨m, hm, rfl⟩
    exact .hit hs (sub known) descriptor behind

open scoped Classical in
/-- A walk that finds no new target matches the classes that extend one, and no others. -/
theorem eq_filter (h : Matches image defs X found) (own : ∀ m ∈ found, m.descriptor ∈ X) :
    found.map Match.classDef = defs.filter fun c => ∃ s ∈ X, image.Extends c s := by
  -- the targets of the walk stay `X`, since each match inserts a member
  obtain ⟨Y, same⟩ : ∃ Y, Y = X := ⟨X, rfl⟩
  rw [← same] at h
  induction h with
  | nil => rfl
  | @root c rest T found none _ ih =>
    have out : ¬ ∃ s ∈ X, image.Extends c s := by
      rintro ⟨s, _, i, hi, _⟩
      simp [none] at hi
    rw [List.filter_cons_of_neg (by simpa using out)]
    exact ih own same
  | @other c rest T found s hs unknown _ ih =>
    have out : ¬ ∃ t ∈ X, image.Extends c t := by
      rintro ⟨t, ht, edge⟩
      exact unknown (same ▸ edge.unique hs ▸ ht)
    rw [List.filter_cons_of_neg (by simpa using out)]
    exact ih own same
  | @hit c rest T found s d hs known _ _ ih =>
    have into : ∃ t ∈ X, image.Extends c t := ⟨s, same ▸ known, hs⟩
    have target : d ∈ X := own _ List.mem_cons_self
    rw [List.filter_cons_of_pos (by simpa using into), List.map_cons,
      ih (fun m hm => own m (List.mem_cons_of_mem _ hm))
        (by rw [same, Set.insert_eq_of_mem target])]

/-- The targets of a walk through all classes of an image that finds no new one are closed. -/
theorem closedUnder (h : Matches image image.classes.toList X found)
    (own : ∀ m ∈ found, m.descriptor ∈ X) : image.ClosedUnder X := by
  intro c hc s hs edge d descriptor
  obtain ⟨m, hm, rfl⟩ := h.complete c (Array.mem_toList_iff.mpr hc) s hs edge
  have same : m.descriptor = d :=
    Except.ok.inj ((h.descriptor_eq m hm).2.symm.trans descriptor)
  exact same ▸ own m hm

end Matches

/-! ## One scan of a file -/

namespace Sample

/-- `A` extends the base class `T`, `B` extends `A`, and `D` extends `C`, which is no class of the
file. -/
def chain : DexFile := file "chain.dex" [classDef 1 0, classDef 2 1, classDef 4 3]

end Sample

namespace DexFile

variable {f : DexFile} {targets updated : DescriptorSet}

open scoped Classical in
/-- **One scan is the fixpoint.**  Where superclasses come first in a file, a scan that succeeds
matches the classes that chains of edges within the file lead to from the targets, no others, and
each in its place.  The updated targets are what these chains reach, so they are closed under the
edges of the file; and another scan with them matches the same classes and adds nothing. -/
theorem fixpoint_of_one_scan (f : DexFile) (targets updated : DescriptorSet) (found : List Match)
    (h : f.subclassesInto targets = (.ok found, updated))
    (first : SuperclassesFirst f.definitions) :
    (found.map Match.classDef = f.image.classes.toList.filter fun c =>
        ∃ s ∈ reached [f] (Members targets), f.image.Extends c s) ∧
      Members updated = reached [f] (Members targets) ∧ f.image.ClosedUnder (Members updated) ∧
        ∃ again, f.subclassesInto updated = (.ok found, again) ∧
          Members again = Members updated := by
  obtain ⟨scanned, rfl⟩ := subclassesInto_eq_ok.mp h
  have walk := subclassesOf_eq_ok.mp scanned
  set X : Set Text := Members (TargetM.union targets (Scan.extend found {})) with hX
  have union : X = Members targets ∪ {d | ∃ m ∈ found, m.descriptor = d} := members_union_extend
  have sub : Members targets ⊆ X := union ▸ Set.subset_union_left
  have own : ∀ m ∈ found, m.descriptor ∈ X := fun m hm => union ▸ .inr ⟨m, hm, rfl⟩
  have again : Matches f.image f.image.classes.toList X found :=
    walk.widen first sub own fun c _ s hs _ => by rwa [union] at hs
  have closed : f.image.ClosedUnder X := again.closedUnder own
  have least : X = reached [f] (Members targets) := by
    refine Set.Subset.antisymm ?_ (reached_subset sub (by simpa using closed))
    rw [union]
    refine Set.union_subset bases_subset_reached ?_
    rintro d ⟨m, hm, rfl⟩
    exact (walk.subset bases_subset_reached (fun _ => Array.mem_toList_iff.mp)
      (reached_closedUnder f List.mem_cons_self) m hm).1
  refine ⟨least ▸ again.eq_filter own, least, closed, _,
    subclassesInto_eq_ok.mpr ⟨subclassesOf_eq_ok.mpr again, rfl⟩, ?_⟩
  rw [members_union_extend, ← hX]
  refine Set.union_eq_self_of_subset_right ?_
  rintro d ⟨m, hm, rfl⟩
  exact own m hm

/-- In `chain` one scan finds `A` and `B`, and another one with these finds the same. -/
theorem fixpoint_of_chain :
    ∃ found updated, Sample.chain.subclassesInto Sample.bases = (.ok found, updated) ∧
      found.map Match.descriptor = [("LA;" : Text), "LB;"] ∧
        SuperclassesFirst Sample.chain.definitions ∧
        Members updated = reached [Sample.chain] (Members Sample.bases) ∧
          ∃ again, Sample.chain.subclassesInto updated = (.ok found, again) ∧
            Members again = Members updated := by
  have first : SuperclassesFirst Sample.chain.definitions := by decide +kernel
  have answer : (Sample.chain.subclassesOf Sample.bases).toOption.map (·.map Match.descriptor)
      = some [("LA;" : Text), "LB;"] := by decide +kernel
  obtain ⟨found, scanned, descriptors⟩ := exists_ok_of_toOption_map answer
  have h := subclassesInto_eq_ok.mpr ⟨scanned, rfl⟩
  obtain ⟨_, least, _, again⟩ := fixpoint_of_one_scan Sample.chain Sample.bases _ found h first
  exact ⟨found, _, h, descriptors, first, least, again⟩

end DexFile

end DexDiscovery
