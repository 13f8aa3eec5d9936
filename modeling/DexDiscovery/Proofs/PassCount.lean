import DexDiscovery.Proofs.DefinitionOrder
import DexDiscovery.Proofs.PassReports
import Mathlib.Data.List.Chain

/-!
# How many passes a run makes

What makes a run come to an end are not its files, of which it usually keeps all, but what is known:
each pass but the last adds a descriptor of some class, so the passes are bounded by the classes of
the files, and those of a run that returns by the classes that it has found.

`Closure.states` lists what a run goes through, be it to its end or to the failure that ends it.
Known descriptors and tests only grow along this list (`pairwise_widens_states`), and no state of it
has a pass with a higher number than the classes allow (`passes_le_of_states`).

Where superclasses come first in all files together, the first pass of a strict run finds
everything: a class extends a base class, a class of a file before, or one found in its own file,
and each of these is known when its turn comes (`closedUnder_of_ordered_pass`).  A second pass,
which finds nothing, confirms it.
-/

namespace DexDiscovery

namespace Closure

variable {search : Search} {namer : ClassNamer} {c next last before middle after : Closure}
  {file : DexFile} {files : List DexFile}

/-! ## The states of a run -/

/-- The states after the scans of some files, up to the first that ends the run. -/
def statesFrom (search : Search) : List DexFile → Closure → List Closure
  | [], _ => []
  | file :: rest, c =>
    match visit search c file with
    | .ok next => next :: statesFrom search rest next
    | .error _ => []

/-- The states of one pass: its beginning, and one after each scan. -/
def statesOfPass (search : Search) (c : Closure) : List Closure :=
  c.opened :: statesFrom search c.working c.opened

/-- The states that a run goes through from a given one: those of its passes, and one after the
report of each pass. -/
def states (search : Search) (c : Closure) : List Closure :=
  if c.working = [] then []
  else
    match _answer : pass search c with
    | .error _ => statesOfPass search c
    | .ok after =>
      if after.known.size = c.known.size then statesOfPass search c ++ [after]
      else statesOfPass search c ++ after :: states search after
termination_by c.pending.length
decreasing_by exact pending_lt ‹_› ‹_›

/-! ## What is found only grows -/

/-- What is known and found before is so after. -/
structure Widens (before after : Closure) : Prop where
  known : Members before.known ⊆ Members after.known
  tests : Members before.tests ⊆ Members after.tests

theorem Widens.refl : Widens c c := ⟨Set.Subset.rfl, Set.Subset.rfl⟩

theorem Widens.trans (h : Widens before middle) (h' : Widens middle after) :
    Widens before after :=
  ⟨h.known.trans h'.known, h.tests.trans h'.tests⟩

instance : Trans Widens Widens Widens := ⟨Widens.trans⟩

theorem widens_visit (h : visit search before file = .ok after) : Widens before after := by
  have step := (advances_visit h).1
  exact ⟨step.known ▸ Set.subset_union_left, step.tests ▸ Set.subset_union_left⟩

/-- The scans of some files that succeed end with the last of their states. -/
theorem getLast?_statesFrom (h : files.foldlM (visit search) before = .ok after) :
    (before :: statesFrom search files before).getLast? = some after := by
  induction files generalizing before with
  | nil =>
    obtain rfl := pure_eq_ok.mp h
    rfl
  | cons file rest ih =>
    obtain ⟨next, hv, h⟩ := bind_eq_ok.mp (List.foldlM_cons.symm.trans h)
    simp only [statesFrom, hv]
    rw [List.getLast?_cons_cons]
    exact ih h

theorem isChain_widens_statesFrom : (c :: statesFrom search files c).IsChain Widens := by
  induction files generalizing c with
  | nil => exact .singleton c
  | cons file rest ih =>
    unfold statesFrom
    split
    · rename_i next hv
      exact .cons_cons (widens_visit hv) ih
    · exact .singleton c

theorem isChain_widens_statesOfPass : (c :: statesOfPass search c).IsChain Widens := by
  have opens : Widens c c.opened := ⟨Set.Subset.rfl, Set.Subset.rfl⟩
  exact .cons_cons opens isChain_widens_statesFrom

/-- The report of a pass leaves what the last scan has come to. -/
theorem exists_getLast?_statesOfPass (hp : pass search c = .ok after) :
    ∃ visited, (c :: statesOfPass search c).getLast? = some visited ∧ Widens visited after := by
  obtain ⟨visited, hv, rfl⟩ := map_eq_ok.mp hp
  have fold : c.working.foldlM (visit search) c.opened = .ok visited := hv
  refine ⟨visited, ?_, ⟨Set.Subset.rfl, Set.Subset.rfl⟩⟩
  rw [statesOfPass, List.getLast?_cons_cons]
  exact getLast?_statesFrom fold

theorem isChain_widens_append {later : List Closure} (hp : pass search c = .ok after)
    (h : (after :: later).IsChain Widens) :
    (c :: (statesOfPass search c ++ after :: later)).IsChain Widens := by
  obtain ⟨visited, atEnd, reported⟩ := exists_getLast?_statesOfPass hp
  rw [← List.cons_append]
  refine isChain_widens_statesOfPass.append h fun x hx y hy => ?_
  obtain rfl : visited = x := Option.some.inj (atEnd.symm.trans hx)
  obtain rfl : after = y := Option.some.inj hy
  exact reported

/-- **Growth.**  What is known and found in a state of a run is so in all later ones. -/
theorem pairwise_widens_states : (c :: states search c).Pairwise Widens := by
  rw [← List.isChain_iff_pairwise]
  fun_induction states search c with
  | case1 c => exact .singleton c
  | case2 => exact isChain_widens_statesOfPass
  | case3 c _ after hp => exact isChain_widens_append hp (.singleton after)
  | case4 c _ after hp _ ih => exact isChain_widens_append hp ih

/-- A run that returns ends with the last of its states. -/
theorem getLast?_states (h : run search c = .ok last) :
    (c :: states search c).getLast? = some last := by
  fun_induction states search c with
  | case1 c empty =>
    rw [run, if_pos empty] at h
    obtain rfl := Except.ok.inj h
    rfl
  | case2 c nonempty stopped hp =>
    rw [run_of_stopped nonempty hp] at h
    exact absurd h (by simp)
  | case3 c nonempty after hp same =>
    rw [run_of_pass nonempty hp, if_pos same] at h
    obtain rfl := Except.ok.inj h
    rw [← List.cons_append, List.getLast?_append]
    rfl
  | case4 c nonempty after hp more ih =>
    rw [run_of_pass nonempty hp, if_neg more] at h
    rw [← List.cons_append, List.getLast?_append, ih h]
    rfl

/-! ## The number of passes -/

theorem passes_visit (h : visit search before file = .ok after) : after.passes = before.passes := by
  obtain ⟨events, told, none⟩ := tells_visit h
  rw [told.passes, none]
  rfl

theorem passes_pass (h : pass search before = .ok after) : after.passes = before.passes + 1 := by
  obtain ⟨events, told, one⟩ := tells_pass h
  rw [told.passes, one]
  rfl

/-- The states of a pass have its number. -/
theorem passes_statesOfPass : ∀ s ∈ statesOfPass search c, s.passes = c.passes + 1 := by
  have scans {files : List DexFile} {d : Closure} :
      ∀ s ∈ statesFrom search files d, s.passes = d.passes := by
    induction files generalizing d with
    | nil => exact fun s hs => absurd hs List.not_mem_nil
    | cons file rest ih =>
      intro s hs
      unfold statesFrom at hs
      split at hs
      · rename_i next hv
        rcases List.mem_cons.mp hs with rfl | hs
        · exact passes_visit hv
        · rw [ih s hs, passes_visit hv]
      · exact absurd hs List.not_mem_nil
  intro s hs
  rcases List.mem_cons.mp hs with rfl | hs
  · rfl
  · exact scans s hs

/-- **Passes are bounded.**  Whether a run returns or not, it never begins more passes than there
are classes that are not known at first, and one. -/
theorem passes_le_of_states :
    ∀ s ∈ states search c, s.passes ≤ c.passes + c.pending.length + 1 := by
  fun_induction states search c with
  | case1 => exact fun s hs => absurd hs List.not_mem_nil
  | case2 c =>
    intro s hs
    have number := passes_statesOfPass s hs
    omega
  | case3 c _ after hp =>
    intro s hs
    rcases List.mem_append.mp hs with hs | hs
    · have number := passes_statesOfPass s hs
      omega
    · obtain rfl := List.mem_singleton.mp hs
      have number := passes_pass hp
      omega
  | case4 c _ after hp more ih =>
    intro s hs
    have number := passes_pass hp
    have fewer : after.pending.length < c.pending.length := pending_lt hp more
    rcases List.mem_append.mp hs with hs | hs
    · have number := passes_statesOfPass s hs
      omega
    · rcases List.mem_cons.mp hs with rfl | hs
      · omega
      · have bound := ih s hs
        omega

/-! ## Passes in order -/

/-- The scans of a strict pass that ends have all succeeded. -/
theorem exists_scan_of_strict_pass (h : pass (.strict namer) c = .ok after) :
    ∀ v ∈ visitsOfPass (.strict namer) c,
      ∃ scan, v.file.scan namer v.known = .ok scan ∧ scan.classes = v.classes := by
  intro v hv
  have answer : v.answer = v.file.scan namer v.known := (mem_visitsFrom hv).2
  cases scanned : v.answer with
  | ok scan => exact ⟨scan, answer.symm.trans scanned, by simp [Visit.classes, scanned]⟩
  | error e =>
    obtain ⟨lenient, _⟩ := (advances_pass h).1.tolerated v hv e scanned
    exact absurd lenient (by simp [Search.strict])

/-- What is known after a pass was seen by a given one of its scans, or has been found by it or by
one behind it. -/
theorem known_of_split {v : Visit} {earlier later : List Visit} (h : pass search c = .ok after)
    (split : visitsOfPass search c = earlier ++ v :: later) :
    Members after.known = Members v.known ∪ Visit.descriptors (v :: later) := by
  have linked : Visit.Linked (Members c.known) (visitsOfPass search c) := linked_visitsOfPass
  rw [split] at linked
  rw [(advances_pass h).1.known, split, Visit.descriptors_append, ← Set.union_assoc,
    linked.known_eq]

/-- Where superclasses come first in all files together, what the classes of a file extend has been
known when its turn came, or was found in it, if it is known at the end of the pass. -/
theorem known_or_found_of_order
    (order : SuperclassesFirst (c.working.flatMap DexFile.definitions))
    (h : pass search c = .ok after) {v : Visit} (hv : v ∈ visitsOfPass search c) :
    ∀ cls ∈ v.file.image.classes, ∀ s ∈ Members after.known, v.file.image.Extends cls s →
      s ∈ Members v.known ∨ ∃ m ∈ v.classes, m.descriptor = s := by
  intro cls hc s hs edge
  obtain ⟨earlier, later, split⟩ := List.append_of_mem hv
  rw [known_of_split h split] at hs
  rcases hs with hs | ⟨w, hw, m, hm, rfl⟩
  · exact .inl hs
  · rcases List.mem_cons.mp hw with rfl | hw
    · exact .inr ⟨m, hm, rfl⟩
    · -- a file behind defines the class that `cls` extends, which the order excludes
      have listed : w ∈ visitsOfPass search c := by
        rw [split]
        exact List.mem_append_right _ (List.mem_cons_of_mem _ hw)
      obtain ⟨member, descriptor⟩ := Visit.descriptor_eq (mem_visitsFrom listed).2 m hm
      rw [← (advances_pass h).2.2, split, List.map_append, List.map_cons, List.flatMap_append,
        List.flatMap_cons] at order
      have first : (v.file.image, cls) ∈ v.file.definitions :=
        List.mem_map_of_mem (Array.mem_toList_iff.mpr hc)
      have second : (w.file.image, m.classDef) ∈
          (later.map Visit.file).flatMap DexFile.definitions :=
        List.mem_flatMap.mpr ⟨w.file, List.mem_map_of_mem hw,
          List.mem_map_of_mem (Array.mem_toList_iff.mpr member)⟩
      exact absurd ⟨m.descriptor, edge, descriptor⟩
        (order.append_right.not_directSubclass_append _ first _ second)

/-- **One ordered pass.**  Where superclasses come first in all files together, what a strict pass
leaves is closed under the edges of every file. -/
theorem closedUnder_of_ordered_pass
    (order : SuperclassesFirst (c.working.flatMap DexFile.definitions))
    (h : pass (.strict namer) c = .ok after) :
    ∀ f ∈ c.working, f.image.ClosedUnder (Members after.known) := by
  obtain ⟨step, _, list⟩ := advances_pass h
  intro f hf
  obtain ⟨v, hv, rfl⟩ : ∃ v ∈ visitsOfPass (.strict namer) c, v.file = f :=
    List.mem_map.mp (list ▸ hf)
  obtain ⟨scan, scanned, classes⟩ := exists_scan_of_strict_pass h v hv
  have walk := (DexFile.scan_eq_ok.mp scanned).1
  rw [classes] at walk
  have own : ∀ m ∈ v.classes, m.descriptor ∈ Members after.known :=
    fun m hm => step.known ▸ .inr ⟨v, hv, m, hm, rfl⟩
  have seen : Members v.known ⊆ Members after.known :=
    step.known ▸ linked_visitsOfPass.known_subset v hv
  have first : SuperclassesFirst v.file.definitions := order.of_mem hf
  refine (walk.widen first seen own fun cls hc => ?_).closedUnder own
  exact known_or_found_of_order order h hv cls (Array.mem_toList_iff.mp hc)

end Closure

/-! ## Searches -/

namespace Sample

/-- `A` extends the base class `T`. -/
def root : DexFile := file "root.dex" [classDef 1 0]

end Sample

namespace Search

variable {search : Search} {namer : ClassNamer} {bases : DescriptorSet} {files : List DexFile}
  {journal : Journal} {c : Closure}

/-- The states that a search goes through, from its beginning. -/
def states (search : Search) (bases : DescriptorSet) (files : List DexFile) (journal : Journal) :
    List Closure :=
  opening bases files journal :: Closure.states search (opening bases files journal)

/-- No state of a search has more passes than there are classes, and one. -/
theorem passes_le_of_states :
    ∀ s ∈ search.states bases files journal,
      s.passes ≤ (files.flatMap DexFile.knownDescriptors).length + 1 := by
  intro s hs
  rcases List.mem_cons.mp hs with rfl | hs
  · exact Nat.zero_le _
  · have bound := Closure.passes_le_of_states s hs
    have pending : (opening bases files journal).pending.length ≤
        (files.flatMap DexFile.knownDescriptors).length := List.length_filter_le _ _
    have none : (opening bases files journal).passes = 0 := rfl
    omega

/-- The number of passes is that of the reports, which count what has become known. -/
theorem exists_reports_of_run (h : (search.run bases files journal).1 = .ok c) :
    ∃ reports, Closure.Counts (opening bases files journal) reports c ∧
      c.passes = reports.length := by
  obtain ⟨events, told, counts⟩ := Closure.exists_events_of_run (run_eq_ok.mp h)
  refine ⟨_, counts, ?_⟩
  rw [told.passes]
  exact Nat.zero_add _

theorem passes_eq_zero_iff (h : (search.run bases files journal).1 = .ok c) :
    c.passes = 0 ↔ files = [] := by
  obtain ⟨reports, counts, number⟩ := exists_reports_of_run h
  rw [number, List.length_eq_zero_iff]
  exact counts.idle

/-- Each pass but the last has found a class. -/
theorem passes_le (h : (search.run bases files journal).1 = .ok c) :
    c.passes ≤ (c.known.toList.filter (· ∉ bases)).length + 1 := by
  obtain ⟨reports, counts, number⟩ := exists_reports_of_run h
  have bound : reports.length ≤ c.known.size - bases.size + 1 := counts.length_le
  have found := size_add_length_filter (bases_subset h)
  omega

/-- A search that finds nothing makes one pass. -/
theorem passes_of_nothing (h : (search.run bases files journal).1 = .ok c) (nonempty : files ≠ [])
    (nothing : Members c.known = Members bases) : c.passes = 1 := by
  have some : c.passes ≠ 0 := mt (passes_eq_zero_iff h).mp nonempty
  have bound := passes_le h
  have none : c.known.toList.filter (· ∉ bases) = [] := by
    refine List.filter_eq_nil_iff.mpr fun d hd => ?_
    have known : d ∈ Members c.known := Std.TreeSet.mem_toList.mp hd
    rw [nothing] at known
    simpa using known
  rw [none, List.length_nil] at bound
  omega

/-- A strict search of files in which superclasses come first makes two passes, if it finds
anything: the second one confirms that the first has found everything. -/
theorem passes_of_order (h : ((strict namer).run bases files journal).1 = .ok c)
    (order : SuperclassesFirst (files.flatMap DexFile.definitions))
    (something : Members c.known ≠ Members bases) : c.passes = 2 := by
  have run := run_eq_ok.mp h
  have nonempty : (opening bases files journal).working ≠ [] := by
    intro empty
    rw [Closure.run, if_pos empty] at run
    exact something (congrArg (fun c => Members c.known) (Except.ok.inj run).symm)
  cases hp : Closure.pass (strict namer) (opening bases files journal) with
  | error stopped =>
    rw [Closure.run_of_stopped nonempty hp] at run
    exact absurd run (by simp)
  | ok after =>
    have number : after.passes = 1 := Closure.passes_pass hp
    rw [Closure.run_of_pass nonempty hp] at run
    split at run
    · -- the first pass would have found nothing
      rename_i same
      obtain rfl := Except.ok.inj run
      exact absurd (members_eq_of_size (bases_subset h) same).symm something
    · rename_i more
      obtain ⟨events, told, counts⟩ := Closure.exists_events_of_run run
      have bases_subset : Members bases ⊆ Members after.known :=
        (Closure.advances_pass hp).1.known ▸ Set.subset_union_left
      have complete : Members c.known ⊆ Members after.known := by
        rw [known_eq_reached h (strict_skips_nothing h)]
        exact reached_subset bases_subset (Closure.closedUnder_of_ordered_pass order hp)
      have least : c.known.size ≤ after.known.size := size_le_of_subset complete
      have bound : (Event.reports events).length ≤ c.known.size - after.known.size + 1 :=
        counts.length_le
      have again : (Event.reports events).length ≠ 0 := by
        rw [ne_eq, List.length_eq_zero_iff, counts.idle]
        exact Closure.working_ne_nil_of_grown hp more
      have total := told.passes
      omega

/-- **The passes of a run.**  A run never begins more passes than its files have classes, and one,
and what is known and found only grows while it goes on.  If it returns, it does so in the last of
its states, having made no pass if and only if there was no file, and otherwise one at least and at
most one more than the classes it has found.  A strict run over files in which superclasses come
first, in all of them together, makes one pass if it finds nothing and two otherwise. -/
theorem passes_of_run (search : Search) (bases : DescriptorSet) (files : List DexFile)
    (journal : Journal) :
    (∀ s ∈ search.states bases files journal,
        s.passes ≤ (files.flatMap DexFile.knownDescriptors).length + 1) ∧
      (search.states bases files journal).Pairwise Closure.Widens ∧
        ∀ c, (search.run bases files journal).1 = .ok c →
          (search.states bases files journal).getLast? = some c ∧
            (c.passes = 0 ↔ files = []) ∧
            (files ≠ [] → 1 ≤ c.passes ∧
              c.passes ≤ (c.known.toList.filter (· ∉ bases)).length + 1) ∧
            (search.policy = .strict → files ≠ [] →
              SuperclassesFirst (files.flatMap DexFile.definitions) →
                (Members c.known = Members bases → c.passes = 1) ∧
                  (Members c.known ≠ Members bases → c.passes = 2)) := by
  refine ⟨passes_le_of_states, Closure.pairwise_widens_states, fun c h => ?_⟩
  refine ⟨Closure.getLast?_states (run_eq_ok.mp h), passes_eq_zero_iff h, ?_, ?_⟩
  · intro nonempty
    have some : c.passes ≠ 0 := mt (passes_eq_zero_iff h).mp nonempty
    exact ⟨Nat.one_le_iff_ne_zero.mpr some, passes_le h⟩
  · intro policy nonempty order
    obtain ⟨namer, _⟩ := search
    obtain rfl : _ = Policy.strict := policy
    exact ⟨passes_of_nothing h nonempty, passes_of_order h order⟩

/-- `A`, which extends the base class, stands in the first file, and `B`, which extends `A`, in the
second: two passes are enough. -/
theorem passes_of_root_lower :
    ∃ c, ((strict Sample.namer).run Sample.bases [Sample.root, Sample.lower] {}).1 = .ok c ∧
      SuperclassesFirst ([Sample.root, Sample.lower].flatMap DexFile.definitions) ∧
        c.known.toList = [("LA;" : Text), "LB;", "LT;"] ∧ c.passes = 2 := by
  have order : SuperclassesFirst ([Sample.root, Sample.lower].flatMap DexFile.definitions) := by
    decide +kernel
  have answer : Sample.answer (.strict Sample.namer) [Sample.root, Sample.lower]
      = some ([("LA;" : Text), "LB;", "LT;"], [], []) := by decide +kernel
  obtain ⟨c, run, known, _⟩ := Sample.exists_of_answer answer
  have something : Members c.known ≠ Members Sample.bases := by
    intro same
    have found : ("LA;" : Text) ∈ Members c.known := by
      rw [mem_members, ← Std.TreeSet.mem_toList, known]
      exact List.mem_cons_self
    rw [same] at found
    have new : ("LA;" : Text) ∉ Sample.bases := by decide +kernel
    exact new found
  obtain ⟨_, _, returned⟩ := passes_of_run (.strict Sample.namer) Sample.bases
    [Sample.root, Sample.lower] {}
  obtain ⟨_, _, _, ordered⟩ := returned c run
  exact ⟨c, run, order, known, (ordered rfl (List.cons_ne_nil _ _) order).2 something⟩

-- in the other order each pass finds one class, and there are as many passes as there can be
example : ((strict Sample.namer).run Sample.bases [Sample.lower, Sample.root] {}).1.toOption.map
    Closure.passes = some 3 := by decide +kernel

end Search

end DexDiscovery
