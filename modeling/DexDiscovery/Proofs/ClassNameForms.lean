import DexDiscovery.Proofs.Accounting

/-!
# The two spellings of a class

A class with the path `com/example/FooTest` has the descriptor `Lcom/example/FooTest;` and the dotted
name `com.example.FooTest`.  One direction is taken when an identifier is made of a descriptor, the
other one when a further base class is configured, which may be done in either spelling.  The second
direction cannot ask which spelling it has been given: it takes for a descriptor whatever begins with
`L` and ends with `;`.

`spellings_inverse` says that the two directions undo each other for every path that is not empty and
has neither full stop nor semicolon.  A full stop would come back as a slash; a semicolon at the end
of a name that begins with `L` would make the name pass for a descriptor.  Names that begin with `L`
and do not end so are no trouble.
-/

namespace DexDiscovery

namespace Text

variable {old new c : CodePoint} {t : Text}

/-- A replacement is undone by the opposite one in a text that did not hold the new code point. -/
theorem replaceAll_replaceAll (fresh : new ∉ t) :
    replaceAll new old (replaceAll old new t) = t := by
  unfold replaceAll
  rw [List.map_map]
  refine (List.map_congr_left fun c mem => ?_).trans t.map_id
  have other : c ≠ new := fun same => fresh (same ▸ mem)
  by_cases replaced : c = old
  · simp [replaced]
  · simp [replaced, other]

theorem not_mem_replaceAll (out : c ∉ t) (other : c ≠ new) : c ∉ replaceAll old new t := by
  intro mem
  obtain ⟨a, ha, made⟩ := List.mem_map.mp mem
  split at made
  · exact other made.symm
  · exact out (made ▸ ha)

end Text

/-- An engine with some further base classes. -/
def Sample.engineFor (names : List Text) : Engine where
  settings := { (engine .strict).settings with extraBases := names }
  separator_ne_nil := (engine .strict).separator_ne_nil

namespace ClassName

/-- The path of a class: the names of its packages and its own, with slashes in between. -/
structure IsPath (path : Text) : Prop where
  nonempty : path ≠ []
  noPoint : .point ∉ path
  noSemicolon : .semicolon ∉ path

/-- The descriptor of the class with the given path. -/
def ofPath (path : Text) : Text := 'L' :: (path ++ [.semicolon])

/-- `name` is one of the two spellings of the class with the given path. -/
def Spells (path name : Text) : Prop :=
  name = ofPath path ∨ dotted [] (ofPath path) = .ok name

/-- The same base class, configured in the same words or in two spellings of a class. -/
def SameBase (x y : Text) : Prop :=
  x = y ∨ ∃ path, IsPath path ∧ Spells path x ∧ Spells path y

variable {path separator name x y : Text}

theorem dotted_ofPath (proper : IsPath path) :
    dotted separator (ofPath path) = .ok (Text.replaceAll .slash .point path ++ separator) := by
  have some := List.length_pos_iff.mpr proper.nonempty
  have accepted : isClassDescriptor (ofPath path) = true := by
    simp only [isClassDescriptor, ofPath, List.length_cons, List.length_append, List.length_nil,
      Bool.and_eq_true, decide_eq_true_eq]
    refine ⟨⟨by omega, by simp⟩, ?_⟩
    rw [← List.cons_append, List.getLast?_concat]
    simp
  rw [dotted, if_pos accepted, ofPath, List.drop_succ_cons, List.drop_zero, List.dropLast_concat]

/-- What begins with `L` and ends with `;` is taken for a descriptor. -/
theorem toDescriptor_ofPath : toDescriptor (ofPath path) = ofPath path := by
  rw [toDescriptor, if_pos]
  rw [ofPath, ← List.cons_append, List.getLast?_concat]
  exact ⟨rfl, rfl⟩

theorem toDescriptor_of_dotted (proper : IsPath path) :
    toDescriptor (Text.replaceAll .slash .point path) = ofPath path := by
  have noSemicolon : .semicolon ∉ Text.replaceAll .slash .point path :=
    Text.not_mem_replaceAll proper.noSemicolon (by decide)
  have notDescriptor : ¬ (Text.replaceAll .slash .point path).getLast? = some .semicolon :=
    fun last => noSemicolon (List.mem_of_getLast? last)
  rw [toDescriptor, if_neg fun both => notDescriptor both.2,
    Text.replaceAll_replaceAll proper.noPoint, ofPath]

/-- Either spelling of a class gives its descriptor. -/
theorem toDescriptor_of_spells (proper : IsPath path) (h : Spells path name) :
    toDescriptor name = ofPath path := by
  rcases h with rfl | h
  · exact toDescriptor_ofPath
  · rw [dotted_ofPath proper, List.append_nil] at h
    rw [← Except.ok.inj h, toDescriptor_of_dotted proper]

theorem toDescriptor_toDescriptor (t : Text) :
    toDescriptor (toDescriptor t) = toDescriptor t := by
  -- a text is passed on as it is, or a descriptor is made of it
  have either : toDescriptor t = t ∨ ∃ path, toDescriptor t = ofPath path := by
    rw [toDescriptor]
    split
    · exact .inl rfl
    · exact .inr ⟨_, rfl⟩
  rcases either with same | ⟨path, made⟩
  · rw [same, same]
  · rw [made, toDescriptor_ofPath]

theorem SameBase.toDescriptor_eq (h : SameBase x y) : toDescriptor x = toDescriptor y := by
  rcases h with rfl | ⟨path, proper, hx, hy⟩
  · rfl
  · rw [toDescriptor_of_spells proper hx, toDescriptor_of_spells proper hy]

theorem SameBase.symm (h : SameBase x y) : SameBase y x := by
  rcases h with rfl | ⟨path, proper, hx, hy⟩
  · exact .inl rfl
  · exact .inr ⟨path, proper, hy, hx⟩

/-- An engine has the base classes of another one if each further base class of that is configured
in some way. -/
theorem bases_subset {e e' : Engine}
    (h : ∀ x ∈ e.settings.extraBases, ∃ y ∈ e'.settings.extraBases, SameBase x y) :
    Members e.bases ⊆ Members e'.bases := by
  intro d mem
  rw [mem_members, Engine.mem_bases] at mem ⊢
  rcases mem with platform | further
  · exact .inl platform
  · obtain ⟨x, hx, rfl⟩ := List.mem_map.mp further
    obtain ⟨y, hy, same⟩ := h x hx
    rw [same.toDescriptor_eq]
    exact .inr (List.mem_map_of_mem hy)

/-- **The two spellings of a class are inverse.**  The descriptor of a class is written as a name
with the separator behind it, and this name gives the descriptor again, as does the descriptor
itself; making descriptors twice is making them once.  Different classes are therefore written
differently.  Each further base class is a base class, and it does not matter in which spelling, in
which order and how often it is configured. -/
theorem spellings_inverse :
    (∀ path, IsPath path → ∀ separator,
      (∃ name, dotted separator (ofPath path) = .ok (name ++ separator) ∧
        toDescriptor name = ofPath path) ∧
      toDescriptor (ofPath path) = ofPath path) ∧
    (∀ t, toDescriptor (toDescriptor t) = toDescriptor t) ∧
    (∀ separator path path', IsPath path → IsPath path' →
      dotted separator (ofPath path) = dotted separator (ofPath path') →
        ofPath path = ofPath path') ∧
    (∀ (e : Engine) (path : Text), IsPath path →
      (∃ name ∈ e.settings.extraBases, Spells path name) → ofPath path ∈ e.bases) ∧
    ∀ e e' : Engine,
      (∀ x ∈ e.settings.extraBases, ∃ y ∈ e'.settings.extraBases, SameBase x y) →
      (∀ y ∈ e'.settings.extraBases, ∃ x ∈ e.settings.extraBases, SameBase x y) →
        Members e.bases = Members e'.bases := by
  refine ⟨?_, toDescriptor_toDescriptor, ?_, ?_, ?_⟩
  · intro path proper separator
    exact ⟨⟨_, dotted_ofPath proper, toDescriptor_of_dotted proper⟩, toDescriptor_ofPath⟩
  · intro separator path path' proper proper' same
    rw [dotted_ofPath proper, dotted_ofPath proper'] at same
    have names := List.append_cancel_right (Except.ok.inj same)
    rw [← toDescriptor_of_dotted proper, names, toDescriptor_of_dotted proper']
  · rintro e path proper ⟨name, configured, spells⟩
    rw [Engine.mem_bases, ← toDescriptor_of_spells proper spells]
    exact .inr (List.mem_map_of_mem configured)
  · intro e e' forth back
    refine Set.Subset.antisymm (bases_subset forth) (bases_subset fun y hy => ?_)
    obtain ⟨x, hx, same⟩ := back y hy
    exact ⟨x, hx, same.symm⟩

/-- The class `Lib/LTest` is written `Lib.LTest`, which begins like a descriptor and gives
`LLib/LTest;` again.  With one of these spellings among the further base classes or with both, the
base classes are the same. -/
theorem inverse_of_leading_letter :
    IsPath "Lib/LTest" ∧
    (∃ name, dotted "#" "LLib/LTest;" = .ok (name ++ "#") ∧ toDescriptor name = "LLib/LTest;") ∧
    ("LLib/LTest;" : Text) ∈ (Sample.engineFor ["Lib.LTest"]).bases ∧
    Members (Sample.engineFor ["Lib.LTest"]).bases =
      Members (Sample.engineFor ["LLib/LTest;", "Lib.LTest", "LLib/LTest;"]).bases := by
  obtain ⟨written, _, _, honoured, bases⟩ := spellings_inverse
  have proper : IsPath "Lib/LTest" := ⟨by decide, by decide, by decide⟩
  have name : Spells "Lib/LTest" "Lib.LTest" := .inr (by decide)
  have descriptor : Spells "Lib/LTest" "LLib/LTest;" := .inl rfl
  refine ⟨proper, (written _ proper "#").1,
    honoured (Sample.engineFor _) _ proper ⟨_, List.mem_singleton_self _, name⟩,
    bases (Sample.engineFor _) (Sample.engineFor _) ?_ ?_⟩
  · intro x hx
    obtain rfl := List.mem_singleton.mp hx
    exact ⟨_, List.mem_cons_self, .inr ⟨_, proper, name, descriptor⟩⟩
  · intro y hy
    refine ⟨_, List.mem_singleton_self _, .inr ⟨_, proper, name, ?_⟩⟩
    rcases List.mem_cons.mp hy with rfl | hy
    · exact descriptor
    · rcases List.mem_cons.mp hy with rfl | hy
      · exact name
      · rw [List.mem_singleton.mp hy]
        exact descriptor

end ClassName

end DexDiscovery
