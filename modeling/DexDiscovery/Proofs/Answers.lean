import Mathlib.Data.List.Forall2
import Mathlib.Data.List.Infix

/-!
# Answers taken apart

Readers and scans answer with a value or a failure.  The lemmas here say when a composed answer is
a value and which part a failure comes from; with them no proof has to open a `do` block again.
-/

namespace DexDiscovery

variable {ε ε' α β : Type}

theorem bind_eq_ok {x : Except ε α} {f : α → Except ε β} {b : β} :
    x >>= f = .ok b ↔ ∃ a, x = .ok a ∧ f a = .ok b := by
  cases x <;> simp [bind, Except.bind]

theorem bind_eq_error {x : Except ε α} {f : α → Except ε β} {e : ε} :
    x >>= f = .error e ↔ x = .error e ∨ ∃ a, x = .ok a ∧ f a = .error e := by
  cases x <;> simp [bind, Except.bind]

theorem ok_bind {a : α} {f : α → Except ε β} : Except.ok a >>= f = f a := rfl

theorem pure_eq_ok {a b : α} : (pure a : Except ε α) = .ok b ↔ a = b := by
  simp [pure, Except.pure]

theorem pure_ne_error {a : α} {e : ε} : (pure a : Except ε α) ≠ .error e := by
  simp [pure, Except.pure]

theorem mapError_eq_ok {x : Except ε α} {g : ε → ε'} {a : α} :
    x.mapError g = .ok a ↔ x = .ok a := by
  cases x <;> simp [Except.mapError]

theorem mapError_eq_error {x : Except ε α} {g : ε → ε'} {e : ε'} :
    x.mapError g = .error e ↔ ∃ e', x = .error e' ∧ g e' = e := by
  cases x <;> simp [Except.mapError]

theorem mapError_bind {x : Except ε α} {f : α → Except ε β} {g : ε → ε'} :
    (x >>= f).mapError g = x.mapError g >>= fun a => (f a).mapError g := by
  cases x <;> rfl

theorem map_eq_ok {x : Except ε α} {g : α → β} {b : β} :
    x.map g = .ok b ↔ ∃ a, x = .ok a ∧ g a = b := by
  cases x <;> simp [Except.map]

theorem map_eq_error {x : Except ε α} {g : α → β} {e : ε} :
    x.map g = .error e ↔ x = .error e := by
  cases x <;> simp [Except.map]

/-- An answer is a value unless it is a failure. -/
theorem exists_ok_iff {x : Except ε α} : (∃ a, x = .ok a) ↔ ∀ e, x ≠ .error e := by
  cases x <;> simp

theorem exists_ok_of_toOption_map {x : Except ε α} {g : α → β} {b : β}
    (h : x.toOption.map g = some b) : ∃ a, x = .ok a ∧ g a = b := by
  cases x with
  | error e => simp [Except.toOption] at h
  | ok a => exact ⟨a, rfl, by simpa [Except.toOption] using h⟩

theorem toOption_eq_some {x : Except ε α} {a : α} : x.toOption = some a ↔ x = .ok a := by
  cases x <;> simp [Except.toOption]

theorem isOk_iff {x : Except ε α} : x.isOk = true ↔ ∃ a, x = .ok a := by
  cases x <;> simp [Except.isOk, Except.toBool]

theorem isOk_eq_false_iff {x : Except ε α} : x.isOk = false ↔ ∀ a, x ≠ .ok a := by
  cases x <;> simp [Except.isOk, Except.toBool]

/-- A list of answers is a list of values, one for each entry. -/
theorem mapM_eq_ok {f : α → Except ε β} {l : List α} {r : List β} :
    l.mapM f = .ok r ↔ List.Forall₂ (fun a b => f a = .ok b) l r := by
  induction l generalizing r with
  | nil => simp [pure, Except.pure, eq_comm]
  | cons a rest ih =>
    simp only [List.mapM_cons, bind_eq_ok, pure_eq_ok, List.forall₂_cons_left_iff, ih]
    constructor
    · rintro ⟨b, hb, bs, hbs, rfl⟩
      exact ⟨b, bs, hb, hbs, rfl⟩
    · rintro ⟨b, bs, hb, hbs, rfl⟩
      exact ⟨b, hb, bs, hbs, rfl⟩

/-- A list of answers fails with the failure of one of its entries. -/
theorem exists_of_mapM_eq_error {f : α → Except ε β} {l : List α} {e : ε}
    (h : l.mapM f = .error e) : ∃ a ∈ l, f a = .error e := by
  induction l with
  | nil => exact absurd h pure_ne_error
  | cons a rest ih =>
    rw [List.mapM_cons, bind_eq_error] at h
    rcases h with h | ⟨b, _, h⟩
    · exact ⟨a, List.mem_cons_self, h⟩
    · rcases bind_eq_error.mp h with h | ⟨bs, _, h⟩
      · obtain ⟨x, hx, hf⟩ := ih h
        exact ⟨x, List.mem_cons_of_mem _ hx, hf⟩
      · exact absurd h pure_ne_error

/-- A list of answers fails with the first failure among them. -/
theorem mapM_eq_error {f : α → Except ε β} {l : List α} {e : ε} :
    l.mapM f = .error e ↔ ∃ before a after found,
      l = before ++ a :: after ∧ before.mapM f = .ok found ∧ f a = .error e := by
  constructor
  · intro h
    induction l with
    | nil => exact absurd h pure_ne_error
    | cons a rest ih =>
      rw [List.mapM_cons, bind_eq_error] at h
      rcases h with h | ⟨b, hb, h⟩
      · exact ⟨[], a, rest, [], rfl, rfl, h⟩
      · rcases bind_eq_error.mp h with h | ⟨bs, _, h⟩
        · obtain ⟨before, x, after, found, rfl, ok, failed⟩ := ih h
          refine ⟨a :: before, x, after, b :: found, rfl, ?_, failed⟩
          rw [List.mapM_cons, hb, ok]
          rfl
        · exact absurd h pure_ne_error
  · rintro ⟨before, a, after, found, rfl, ok, failed⟩
    rw [List.mapM_append, ok, List.mapM_cons, failed]
    rfl

/-- Every entry has its value among the results. -/
theorem exists_mem_of_mapM_eq_ok {f : α → Except ε β} {l : List α} {r : List β}
    (h : l.mapM f = .ok r) : ∀ a ∈ l, ∃ b ∈ r, f a = .ok b := by
  intro a ha
  induction mapM_eq_ok.mp h with
  | nil => exact absurd ha List.not_mem_nil
  | cons hb rest ih =>
    rcases List.mem_cons.mp ha with rfl | ha
    · exact ⟨_, List.mem_cons_self, hb⟩
    · obtain ⟨b, hb, hf⟩ := ih (mapM_eq_ok.mpr rest) ha
      exact ⟨b, List.mem_cons_of_mem _ hb, hf⟩

/-- Every result is the value of an entry. -/
theorem exists_entry_of_mapM_eq_ok {f : α → Except ε β} {l : List α} {r : List β}
    (h : l.mapM f = .ok r) : ∀ b ∈ r, ∃ a ∈ l, f a = .ok b := by
  intro b hb
  induction mapM_eq_ok.mp h with
  | nil => exact absurd hb List.not_mem_nil
  | cons hf rest ih =>
    rcases List.mem_cons.mp hb with rfl | hb
    · exact ⟨_, List.mem_cons_self, hf⟩
    · obtain ⟨a, ha, hf⟩ := ih (mapM_eq_ok.mpr rest) hb
      exact ⟨a, List.mem_cons_of_mem _ ha, hf⟩

theorem exists_mapM_eq_ok_iff {f : α → Except ε β} {l : List α} :
    (∃ r, l.mapM f = .ok r) ↔ ∀ a ∈ l, ∃ b, f a = .ok b := by
  constructor
  · rintro ⟨r, h⟩ a ha
    obtain ⟨b, _, hb⟩ := exists_mem_of_mapM_eq_ok h a ha
    exact ⟨b, hb⟩
  · intro h
    refine exists_ok_iff.mpr fun e he => ?_
    obtain ⟨a, ha, hf⟩ := exists_of_mapM_eq_error he
    exact exists_ok_iff.mp (h a ha) e hf

/-- The results of some of the entries are some of the results, in the same order. -/
theorem sublist_of_mapM_eq_ok {f : α → Except ε β} {l l' : List α} {r r' : List β}
    (some : l.mapM f = .ok r) (all : l'.mapM f = .ok r') (sub : l.Sublist l') : r.Sublist r' := by
  rw [mapM_eq_ok] at some all
  induction sub generalizing r r' with
  | slnil =>
    cases some
    exact List.nil_sublist r'
  | cons a _ ih =>
    rcases all with _ | ⟨_, later⟩
    exact (ih some later).cons _
  | cons_cons a _ ih =>
    rcases some with _ | ⟨here, rest⟩
    rcases all with _ | ⟨here', rest'⟩
    obtain rfl := Except.ok.inj (here.symm.trans here')
    exact (ih rest rest').cons_cons _

theorem mapError_mapM {f : α → Except ε β} {g : ε → ε'} {l : List α} :
    (l.mapM f).mapError g = l.mapM fun a => (f a).mapError g := by
  induction l with
  | nil => rfl
  | cons a rest ih => simp only [List.mapM_cons, mapError_bind, ih]; rfl

/-! ## Steps with a state -/

theorem run_bind_eq_ok {σ : Type} {x : EStateM ε σ α} {f : α → EStateM ε σ β} {s t : σ} {b : β} :
    (x >>= f).run s = .ok b t ↔ ∃ a m, x.run s = .ok a m ∧ (f a).run m = .ok b t := by
  simp only [bind, EStateM.bind, EStateM.run]
  cases x s <;> simp

theorem run_bind_eq_error {σ : Type} {x : EStateM ε σ α} {f : α → EStateM ε σ β} {s t : σ}
    {e : ε} : (x >>= f).run s = .error e t ↔
      x.run s = .error e t ∨ ∃ a m, x.run s = .ok a m ∧ (f a).run m = .error e t := by
  simp only [bind, EStateM.bind, EStateM.run]
  cases x s <;> simp

/-! ## Going through a list -/

/-- What each step does, all steps together do, if doing it twice is doing it. -/
theorem rel_of_foldlM {σ : Type} {step : σ → α → Except ε σ} {R : σ → σ → Prop}
    (refl : ∀ s, R s s) (trans : ∀ {s m t}, R s m → R m t → R s t)
    (steps : ∀ s a t, step s a = .ok t → R s t) {l : List α} {s t : σ}
    (h : l.foldlM step s = .ok t) : R s t := by
  induction l generalizing s with
  | nil => exact (pure_eq_ok.mp h) ▸ refl s
  | cons a rest ih =>
    obtain ⟨m, hm, h⟩ := bind_eq_ok.mp (List.foldlM_cons.symm.trans h)
    exact trans (steps s a m hm) (ih h)

/-- A loop fails in the first of its steps that does. -/
theorem exists_of_foldlM_eq_error {σ : Type} {step : σ → α → Except ε σ} {l : List α} {s : σ}
    {e : ε} (h : l.foldlM step s = .error e) : ∃ before a after m,
      l = before ++ a :: after ∧ before.foldlM step s = .ok m ∧ step m a = .error e := by
  induction l generalizing s with
  | nil => exact absurd h pure_ne_error
  | cons a rest ih =>
    rcases bind_eq_error.mp (List.foldlM_cons.symm.trans h) with h | ⟨m, hm, h⟩
    · exact ⟨[], a, rest, s, rfl, rfl, h⟩
    · obtain ⟨before, x, after, m', rfl, ok, failed⟩ := ih h
      refine ⟨a :: before, x, after, m', rfl, ?_, failed⟩
      rw [List.foldlM_cons, hm]
      exact ok

/-- Each step keeps what has been put aside, and so do all steps together. -/
theorem prefix_of_foldlM {σ : Type} {step : σ → α → Except ε σ} {aside : σ → List β}
    (grows : ∀ s a t, step s a = .ok t → aside s <+: aside t) {l : List α} {s t : σ}
    (h : l.foldlM step s = .ok t) : aside s <+: aside t :=
  rel_of_foldlM (R := fun s t => aside s <+: aside t) (fun _ => List.prefix_rfl)
    (fun first second => first.trans second) grows h

/-- **Giving up or putting aside.**  Where one step gives up what another one puts aside, and they
agree otherwise, the first way goes through a list if and only if the second does so without
putting anything aside; both then end in the same state. -/
theorem foldlM_eq_ok_iff {σ : Type} {strict lenient : σ → α → Except ε σ} {aside : σ → List β}
    (agree : ∀ s a t, strict s a = .ok t ↔ lenient s a = .ok t ∧ aside t = aside s)
    (grows : ∀ s a t, lenient s a = .ok t → aside s <+: aside t) {l : List α} {s t : σ} :
    l.foldlM strict s = .ok t ↔ l.foldlM lenient s = .ok t ∧ aside t = aside s := by
  induction l generalizing s with
  | nil =>
    simp only [List.foldlM_nil, pure_eq_ok]
    exact ⟨fun h => ⟨h, h ▸ rfl⟩, And.left⟩
  | cons a rest ih =>
    simp only [List.foldlM_cons, bind_eq_ok, agree, ih]
    constructor
    · rintro ⟨m, ⟨hm, none⟩, later, none'⟩
      exact ⟨⟨m, hm, later⟩, none'.trans none⟩
    · rintro ⟨⟨m, hm, later⟩, none⟩
      -- what lies between two equal lists that each continue the one before is the same list
      have back : aside m <+: aside s := none ▸ prefix_of_foldlM grows later
      have same : aside m = aside s := antisymm back (grows s a m hm)
      exact ⟨m, ⟨hm, same⟩, later, none.trans same.symm⟩

/-! ## Two runs side by side -/

/-- Two answers **side by side**: both are values, related by `V`, or both are failures, related
by `E`. -/
inductive SideBySide {ε ε' α β : Type} (E : ε → ε' → Prop) (V : α → β → Prop) :
    Except ε α → Except ε' β → Prop where
  | values {a : α} {b : β} (related : V a b) : SideBySide E V (.ok a) (.ok b)
  | failures {e : ε} {e' : ε'} (related : E e e') : SideBySide E V (.error e) (.error e')

namespace SideBySide

variable {ε ε' α β γ δ σ τ : Type} {E F : ε → ε' → Prop} {V : α → β → Prop} {W : γ → δ → Prop}
  {x : Except ε α} {y : Except ε' β}

theorem of_ok {a : α} (h : SideBySide E V x y) (hx : x = .ok a) : ∃ b, y = .ok b ∧ V a b := by
  subst hx
  cases h with
  | values related => exact ⟨_, rfl, related⟩

theorem of_error {e : ε} (h : SideBySide E V x y) (hx : x = .error e) :
    ∃ e', y = .error e' ∧ E e e' := by
  subst hx
  cases h with
  | failures related => exact ⟨_, rfl, related⟩

/-- Of two answers side by side, one is a value if the other one is. -/
theorem exists_ok_iff (h : SideBySide E V x y) : (∃ a, x = .ok a) ↔ ∃ b, y = .ok b := by
  cases h <;> simp

theorem bind {f : α → Except ε γ} {g : β → Except ε' δ} (h : SideBySide E V x y)
    (next : ∀ a b, V a b → SideBySide E W (f a) (g b)) : SideBySide E W (x >>= f) (y >>= g) := by
  cases h with
  | values related => exact next _ _ related
  | failures related => exact .failures related

theorem map {f : α → γ} {g : β → δ} (h : SideBySide E V x y)
    (next : ∀ a b, V a b → W (f a) (g b)) : SideBySide E W (x.map f) (y.map g) := by
  cases h with
  | values related => exact .values (next _ _ related)
  | failures related => exact .failures related

theorem map_left {f : α → γ} {V : γ → β → Prop} (h : SideBySide E (fun a b => V (f a) b) x y) :
    SideBySide E V (x.map f) y := by
  cases h with
  | values related => exact .values related
  | failures related => exact .failures related

theorem mapError_left {ζ : Type} {g : ε → ζ} {F : ζ → ε' → Prop}
    (h : SideBySide (fun e e' => F (g e) e') V x y) : SideBySide F V (x.mapError g) y := by
  cases h with
  | values related => exact .values related
  | failures related => exact .failures related

theorem mapError_right {ζ : Type} {g : ε' → ζ} {F : ε → ζ → Prop}
    (h : SideBySide (fun e e' => F e (g e')) V x y) : SideBySide F V x (y.mapError g) := by
  cases h with
  | values related => exact .values related
  | failures related => exact .failures related

/-- Answers stay side by side when less is asked of their parts. -/
theorem imp {V' : α → β → Prop} (h : SideBySide E V x y) (failures : ∀ e e', E e e' → F e e')
    (values : ∀ a b, V a b → V' a b) : SideBySide F V' x y := by
  cases h with
  | values related => exact .values (values _ _ related)
  | failures related => exact .failures (failures _ _ related)

/-- Of two answers with the same failures, whose values `g` makes the same, one is the other one
with `g` applied. -/
theorem eq_map {g : β → α} {y : Except ε β} (h : SideBySide Eq (fun a b => a = g b) x y) :
    x = y.map g := by
  cases h with
  | values related => exact congrArg Except.ok related
  | failures related => exact congrArg Except.error related

/-- Two answers that are side by side with a third one are so with each other. -/
theorem join {ε'' ζ : Type} {z : Except ε'' ζ} {E : ε → ε'' → Prop} {V : α → ζ → Prop}
    {E' : ε' → ε'' → Prop} {V' : β → ζ → Prop} (h : SideBySide E V x z)
    (h' : SideBySide E' V' y z) :
    SideBySide (fun e e' => ∃ e'', E e e'' ∧ E' e' e'') (fun a b => ∃ c, V a c ∧ V' b c) x y := by
  cases h with
  | values related =>
    cases h' with
    | values related' => exact .values ⟨_, related, related'⟩
  | failures related =>
    cases h' with
    | failures related' => exact .failures ⟨_, related, related'⟩

/-- Two loops stay side by side if each step does, over lists that are related entry by entry. -/
theorem foldlM {R : γ → δ → Prop} {V : σ → τ → Prop} {step : σ → γ → Except ε σ}
    {step' : τ → δ → Except ε' τ}
    (square : ∀ s t a b, V s t → R a b → SideBySide E V (step s a) (step' t b))
    {l : List γ} {l' : List δ} (lists : List.Forall₂ R l l') {s : σ} {t : τ} (start : V s t) :
    SideBySide E V (l.foldlM step s) (l'.foldlM step' t) := by
  induction lists generalizing s t with
  | nil => exact .values start
  | cons head _ ih =>
    rw [List.foldlM_cons, List.foldlM_cons]
    exact (square _ _ _ _ start head).bind fun _ _ next => ih next

end SideBySide

end DexDiscovery
