import DexDiscovery.Dex.ClassData
import DexDiscovery.Proofs.Varints

/-!
# The format of class data

Class data is a sequence of numbers, each written as a varint: `ClassData.numbers` lists them.  A
reader made of varint reads is described by a **layout**, which says with which numbers a value is
written.  `Cursor.Follows` ties the two together, for an answer as well as for a failure, and its
lemmas go along with the reader: one for each way in which steps are put together.

`ClassData.read_outcome` is the result for class data: what is read at an offset is exactly what
stands there, and reading fails at the first number that cannot be read.
-/

namespace DexDiscovery

namespace Cursor

variable {α β : Type} {step : CursorM α} {layout : α → List Nat → Prop} {ns : List Nat}

/-! ## Steps that follow a layout -/

/-- Some value is written with these numbers and at least one more. -/
def Begins (layout : α → List Nat → Prop) (ns : List Nat) : Prop :=
  ∃ x more, more ≠ [] ∧ layout x (ns ++ more)

/-- A step follows a layout, which says with which numbers a value is written: it answers with a
value where these numbers stand and ends behind them, and it fails at the first number that cannot
be read, having read all the numbers before it.  What comes next does not decide whether there is a
value: any number will do where one is missing, and zeros behind it. -/
structure Follows (step : CursorM α) (layout : α → List Nat → Prop) : Prop where
  zeros : ∃ x m, layout x (List.replicate m 0)
  completes (ns : List Nat) (n : Nat) :
    Begins layout ns → ∃ x m, layout x (ns ++ n :: List.replicate m 0)
  ok_iff (c c' : Cursor) (x : α) : step.run c = .ok x c' ↔
    c'.bytes = c.bytes ∧ ∃ ns, layout x ns ∧ c.bytes.Varints c.position ns c'.position
  error_iff (c c' : Cursor) (e : DexError) : step.run c = .error e c' ↔
    c'.bytes = c.bytes ∧ ∃ ns, Begins layout ns ∧
      c.bytes.Varints c.position ns c'.position ∧ c.bytes.varint c'.position = .error e

/-- One layout behind another. -/
def Then (first : α → List Nat → Prop) (later : α → β → List Nat → Prop) (y : β)
    (ns : List Nat) : Prop :=
  ∃ x ms ls, first x ms ∧ later x y ls ∧ ns = ms ++ ls

theorem begins_then {first : α → List Nat → Prop} {later : α → β → List Nat → Prop}
    (inhabited : ∀ x, ∃ y ls, later x y ls) :
    Begins (Then first later) ns ↔
      Begins first ns ∨ ∃ x ms ls, first x ms ∧ Begins (later x) ls ∧ ns = ms ++ ls := by
  constructor
  · rintro ⟨y, more, ne, x, ms, ls, hms, hls, same⟩
    -- the numbers end within the first part, or behind it
    rcases List.append_eq_append_iff.mp same with ⟨rest, rfl, rfl⟩ | ⟨rest, rfl, rfl⟩
    · by_cases here : rest = []
      · subst here
        exact .inr ⟨x, ns, [], by simpa using hms, ⟨y, ls, ne, hls⟩, by simp⟩
      · exact .inl ⟨x, rest, here, hms⟩
    · exact .inr ⟨x, ms, rest, hms, ⟨y, more, ne, hls⟩, rfl⟩
  · rintro (⟨x, more, ne, hms⟩ | ⟨x, ms, ls, hms, ⟨y, more, ne, hls⟩, rfl⟩)
    · obtain ⟨y, ls, hls⟩ := inhabited x
      exact ⟨y, more ++ ls, by simp [ne], x, _, ls, hms, hls, by simp⟩
    · exact ⟨y, more, ne, x, ms, _, hms, hls, by simp⟩

namespace Follows

theorem inhabited (h : Follows step layout) : ∃ x ns, layout x ns :=
  let ⟨x, _, hx⟩ := h.zeros
  ⟨x, _, hx⟩

theorem congr {layout' : α → List Nat → Prop} (h : Follows step layout)
    (same : ∀ x ns, layout x ns ↔ layout' x ns) : Follows step layout' := by
  obtain rfl : layout = layout' := funext fun x => funext fun ns => propext (same x ns)
  exact h

theorem pure (a : α) : Follows (pure a) fun x ns => x = a ∧ ns = [] where
  zeros := ⟨a, 0, rfl, rfl⟩
  completes ns n := by
    rintro ⟨x, more, ne, _, none⟩
    exact absurd (List.append_eq_nil_iff.mp none).2 ne
  ok_iff c c' x := by
    constructor
    · rintro ⟨⟩
      exact ⟨rfl, [], ⟨rfl, rfl⟩, Bytes.varints_nil.mpr rfl⟩
    · rintro ⟨same, _, ⟨rfl, rfl⟩, h⟩
      have := Bytes.varints_nil.mp h
      cases c
      cases c'
      simp_all
  error_iff c c' e := by
    constructor
    · rintro ⟨⟩
    · rintro ⟨_, ns, ⟨x, more, ne, _, none⟩, _⟩
      exact absurd (List.append_eq_nil_iff.mp none).2 ne

/-- Nothing but the number itself is read of it, so only the empty list begins it. -/
theorem begins_single : Begins (fun (n : Nat) ns => ns = [n]) ns ↔ ns = [] := by
  constructor
  · rintro ⟨n, more, ne, single⟩
    rcases List.append_eq_singleton_iff.mp single with ⟨rfl, _⟩ | ⟨_, none⟩
    · rfl
    · exact absurd none ne
  · rintro rfl
    exact ⟨0, [0], by simp, rfl⟩

theorem readVarint : Follows readVarint fun n ns => ns = [n] where
  zeros := ⟨0, 1, rfl⟩
  completes ns n begins := ⟨n, 0, by rw [begins_single.mp begins]; rfl⟩
  ok_iff c c' n := by
    obtain ⟨bytes, position⟩ := c'
    simp only [exists_eq_left, Bytes.varints_cons, Bytes.varints_nil]
    simp only [EStateM.run, Cursor.readVarint]
    cases c.bytes.varint c.position with
    | ok answer =>
      obtain ⟨m, k⟩ := answer
      simp only [EStateM.Result.ok.injEq, Cursor.mk.injEq, Except.ok.injEq, Prod.mk.injEq]
      constructor
      · rintro ⟨rfl, rfl, rfl⟩
        exact ⟨rfl, k, ⟨rfl, rfl⟩, rfl⟩
      · rintro ⟨rfl, _, ⟨rfl, rfl⟩, rfl⟩
        exact ⟨rfl, rfl, rfl⟩
    | error e => simp
  error_iff c c' e := by
    obtain ⟨bytes, position⟩ := c'
    simp only [begins_single, exists_eq_left, Bytes.varints_nil]
    simp only [EStateM.run, Cursor.readVarint]
    cases h : c.bytes.varint c.position with
    | ok answer =>
      simp only [reduceCtorEq, false_iff]
      rintro ⟨_, rfl, fails⟩
      simp [h] at fails
    | error e' =>
      simp only [EStateM.Result.error.injEq]
      constructor
      · rintro ⟨rfl, rfl⟩
        exact ⟨rfl, rfl, h⟩
      · rintro ⟨rfl, rfl, fails⟩
        exact ⟨Except.error.inj (h.symm.trans fails), rfl⟩

theorem bind {next : α → CursorM β} {later : α → β → List Nat → Prop}
    (h : Follows step layout) (h' : ∀ x, Follows (next x) (later x)) :
    Follows (step >>= next) (Then layout later) where
  zeros := by
    obtain ⟨x, m, hx⟩ := h.zeros
    obtain ⟨y, l, hy⟩ := (h' x).zeros
    exact ⟨y, m + l, x, _, _, hx, hy, List.replicate_add ..⟩
  completes ns n begins := by
    rcases (begins_then fun x => (h' x).inhabited).mp begins with
      first | ⟨x, ms, ls, hms, later, rfl⟩
    · obtain ⟨x, m, hx⟩ := h.completes ns n first
      obtain ⟨y, l, hy⟩ := (h' x).zeros
      exact ⟨y, m + l, x, _, _, hx, hy, by simp⟩
    · obtain ⟨y, l, hy⟩ := (h' x).completes ls n later
      exact ⟨y, l, x, ms, _, hms, hy, by simp⟩
  ok_iff c c' y := by
    simp only [run_bind_eq_ok, h.ok_iff, (h' _).ok_iff]
    constructor
    · rintro ⟨x, m, ⟨same, ms, hms, here⟩, same', ls, hls, there⟩
      rw [same] at same' there
      exact ⟨same', ms ++ ls, ⟨x, ms, ls, hms, hls, rfl⟩,
        Bytes.varints_append.mpr ⟨_, here, there⟩⟩
    · rintro ⟨same, _, ⟨x, ms, ls, hms, hls, rfl⟩, h⟩
      obtain ⟨q, here, there⟩ := Bytes.varints_append.mp h
      exact ⟨x, { c with position := q }, ⟨rfl, ms, hms, here⟩, same, ls, hls, there⟩
  error_iff c c' e := by
    simp only [run_bind_eq_error, h.ok_iff, h.error_iff, (h' _).error_iff,
      begins_then fun x => (h' x).inhabited]
    constructor
    · rintro (⟨same, ns, begins, here, fails⟩ |
        ⟨x, m, ⟨same, ms, hms, here⟩, same', ls, begins, there, fails⟩)
      · exact ⟨same, ns, .inl begins, here, fails⟩
      · rw [same] at same' there fails
        exact ⟨same', ms ++ ls, .inr ⟨x, ms, ls, hms, begins, rfl⟩,
          Bytes.varints_append.mpr ⟨_, here, there⟩, fails⟩
    · rintro ⟨same, ns, begins | ⟨x, ms, ls, hms, begins, rfl⟩, h, fails⟩
      · exact .inl ⟨same, ns, begins, h, fails⟩
      · obtain ⟨q, here, there⟩ := Bytes.varints_append.mp h
        exact .inr ⟨x, { c with position := q }, ⟨rfl, ms, hms, here⟩, same, ls, begins, there,
          fails⟩

/-- A step run several times follows its layout several times. -/
theorem readMany {numbers : α → List Nat} (h : Follows step fun x ns => ns = numbers x)
    (count : Nat) : Follows (readMany count step) fun xs ns =>
      xs.length = count ∧ ns = xs.flatMap numbers := by
  have onto (count : Nat) (before : List α) : Follows (readManyOnto step count before)
      fun xs ns => ∃ ys, ys.length = count ∧ xs = before.reverse ++ ys ∧ ns = ys.flatMap numbers := by
    induction count generalizing before with
    | zero =>
      refine (pure before.reverse).congr fun xs ns => ?_
      simp
    | succ count ih =>
      refine (h.bind fun x => ih (x :: before)).congr fun xs ns => ?_
      constructor
      · rintro ⟨x, _, _, rfl, ⟨ys, rfl, rfl, rfl⟩, rfl⟩
        exact ⟨x :: ys, by simp, by simp, by simp⟩
      · rintro ⟨_ | ⟨x, ys⟩, length, rfl, rfl⟩
        · simp at length
        · exact ⟨x, _, _, rfl, ⟨ys, by simpa using length, by simp, rfl⟩, by simp⟩
  refine (onto count []).congr fun xs ns => ?_
  simp

end Follows

end Cursor

/-! ## Class data as numbers -/

/-- The numbers that a field is written with. -/
def EncodedField.numbers (f : EncodedField) : List Nat :=
  [f.indexDelta, f.accessFlags]

/-- The numbers that a method is written with. -/
def EncodedMethod.numbers (m : EncodedMethod) : List Nat :=
  [m.indexDelta, m.accessFlags, m.codeOffset]

namespace ClassData

/-- The numbers that class data is written with: the sizes of the lists, then their entries. -/
def numbers (d : ClassData) : List Nat :=
  [d.staticFields.length, d.instanceFields.length, d.directMethods.length,
      d.virtualMethods.length]
    ++ d.staticFields.flatMap EncodedField.numbers
    ++ d.instanceFields.flatMap EncodedField.numbers
    ++ d.directMethods.flatMap EncodedMethod.numbers
    ++ d.virtualMethods.flatMap EncodedMethod.numbers

open Cursor

theorem follows_readField : Follows readField fun f ns => ns = f.numbers := by
  refine (Follows.readVarint.bind fun d => Follows.readVarint.bind fun a =>
    Follows.pure (EncodedField.mk d a)).congr fun f ns => ?_
  cases f
  simp [Then, EncodedField.numbers]

theorem follows_readMethod : Follows readMethod fun m ns => ns = m.numbers := by
  refine (Follows.readVarint.bind fun d => Follows.readVarint.bind fun a =>
    Follows.readVarint.bind fun o => Follows.pure (EncodedMethod.mk d a o)).congr fun m ns => ?_
  cases m
  simp [Then, EncodedMethod.numbers]

theorem follows_readMembers : Follows readMembers fun d ns => ns = d.numbers := by
  refine (Follows.readVarint.bind fun s => Follows.readVarint.bind fun i =>
    Follows.readVarint.bind fun m => Follows.readVarint.bind fun v =>
    (follows_readField.readMany s).bind fun ss => (follows_readField.readMany i).bind fun is =>
    (follows_readMethod.readMany m).bind fun ms => (follows_readMethod.readMany v).bind fun vs =>
    Follows.pure (ClassData.mk ss is ms vs)).congr fun d ns => ?_
  cases d
  simp [Then, numbers]

theorem length_numbers (d : ClassData) : d.numbers.length =
    4 + 2 * (d.staticFields.length + d.instanceFields.length)
      + 3 * (d.directMethods.length + d.virtualMethods.length) := by
  simp only [numbers, List.length_append, List.length_flatMap, EncodedField.numbers,
    EncodedMethod.numbers, List.length_cons, List.length_nil, List.map_const', List.sum_replicate_nat]
  omega

/-! ## Reading at an offset -/

section Reading

variable {c c' : Cursor} {d : ClassData} {offset : Int} {e : DexError}

theorem read_run (inside : 0 ≤ offset) (within : offset ≤ c.bytes.size) :
    (read offset).run c = readMembers.run { c with position := offset } := by
  simp only [read, bind, EStateM.bind, EStateM.run, seek, if_pos (And.intro inside within)]

theorem read_run_of_outside (outside : ¬(0 ≤ offset ∧ offset ≤ c.bytes.size)) :
    (read offset).run c = .error (.outOfBounds offset 0 c.bytes.size) c := by
  simp only [read, bind, EStateM.bind, EStateM.run, seek, if_neg outside]

/-- What is read does not depend on where the cursor stands. -/
theorem decode_eq (c : Cursor) (offset : Int) : decode c.bytes offset =
    match (read offset).run c with
    | .ok d _ => .ok d
    | .error e _ => .error e := by
  rw [decode]
  by_cases inside : 0 ≤ offset ∧ offset ≤ c.bytes.size
  · have same : (read offset).run ⟨c.bytes, 0⟩ = (read offset).run c :=
      (read_run (c := ⟨c.bytes, 0⟩) inside.1 inside.2).trans (read_run inside.1 inside.2).symm
    cases h : (read offset).run c <;> simp only [same, h]
  · rw [read_run_of_outside (c := c) inside, read_run_of_outside (c := ⟨c.bytes, 0⟩) inside]

theorem read_eq_ok (inside : 0 ≤ offset) (within : offset ≤ c.bytes.size) :
    (read offset).run c = .ok d c' ↔
      c'.bytes = c.bytes ∧ c.bytes.Varints offset d.numbers c'.position := by
  simp only [read_run inside within, follows_readMembers.ok_iff, exists_eq_left]

theorem read_eq_error (inside : 0 ≤ offset) (within : offset ≤ c.bytes.size) :
    (read offset).run c = .error e c' ↔
      c'.bytes = c.bytes ∧ ∃ (d : ClassData) (ns : List Nat), ns <+: d.numbers ∧ ns ≠ d.numbers ∧
        c.bytes.Varints offset ns c'.position ∧ c.bytes.varint c'.position = .error e := by
  rw [read_run inside within, follows_readMembers.error_iff]
  refine and_congr_right fun _ => ?_
  constructor
  · rintro ⟨ns, ⟨d, more, ne, same⟩, here, fails⟩
    exact ⟨d, ns, ⟨more, same⟩, fun all => ne (List.append_right_eq_self.mp (same.trans all.symm)),
      here, fails⟩
  · rintro ⟨d, ns, ⟨more, same⟩, part, here, fails⟩
    exact ⟨ns, ⟨d, more, fun none => part (by simpa [none] using same), same⟩, here, fails⟩

end Reading

/-- **The format of class data.**  At an offset in a buffer or at its end, class data is read
exactly where the numbers that it is written with stand, as varints of any length: the four sizes,
then the entries.  It is the only one that stands there, and takes a byte at least for each of its
numbers.  Reading fails at the first number that cannot be read, where the cursor stays: the numbers
before it begin some class data and do not complete it.  Any varints of its numbers, wherever they
stand and whatever follows them, are read as the class data; there are some if and only if all
numbers are below `2 ^ 35`. -/
theorem read_outcome :
    (∀ (c : Cursor) (offset : Int), 0 ≤ offset → offset ≤ c.bytes.size →
      (∀ (d : ClassData) (c' : Cursor), (read offset).run c = .ok d c' ↔
        c'.bytes = c.bytes ∧ c.bytes.Varints offset d.numbers c'.position) ∧
      (∀ (d : ClassData) (stop : Int), c.bytes.Varints offset d.numbers stop →
        offset + (4 + 2 * (d.staticFields.length + d.instanceFields.length)
          + 3 * (d.directMethods.length + d.virtualMethods.length)) ≤ stop ∧
        stop ≤ c.bytes.size ∧
        ∀ (d' : ClassData) (stop' : Int), c.bytes.Varints offset d'.numbers stop' →
          d' = d ∧ stop' = stop) ∧
      ∀ (e : DexError) (c' : Cursor), (read offset).run c = .error e c' ↔
        c'.bytes = c.bytes ∧ ∃ (d : ClassData) (ns : List Nat), ns <+: d.numbers ∧ ns ≠ d.numbers ∧
          c.bytes.Varints offset ns c'.position ∧ c.bytes.varint c'.position = .error e) ∧
    ∀ d : ClassData,
      ((∃ codes, List.Forall₂ IsVarint codes d.numbers) ↔ ∀ n ∈ d.numbers, n < 2 ^ 35) ∧
      ∀ codes, List.Forall₂ IsVarint codes d.numbers →
        ∀ (before after : List UInt8) (position : Int),
          (read before.length).run ⟨(before ++ codes.flatten ++ after).toArray, position⟩ =
            .ok d ⟨(before ++ codes.flatten ++ after).toArray,
              before.length + codes.flatten.length⟩ := by
  refine ⟨fun c offset inside within => ⟨fun d c' => read_eq_ok inside within, ?_,
    fun e c' => read_eq_error inside within⟩, fun d => ⟨IsVarint.exists_forall₂_iff, ?_⟩⟩
  · intro d stop here
    refine ⟨?_, here.stop_le_size within, fun d' stop' there => ?_⟩
    · have long := here.length_le
      rw [length_numbers] at long
      omega
    · have first : (read offset).run c = .ok d ⟨c.bytes, stop⟩ :=
        (read_eq_ok inside within).mpr ⟨rfl, here⟩
      have second : (read offset).run c = .ok d' ⟨c.bytes, stop'⟩ :=
        (read_eq_ok inside within).mpr ⟨rfl, there⟩
      simpa [eq_comm] using first.symm.trans second
  · intro codes digits before after position
    have within : before.length ≤ (before ++ codes.flatten ++ after).toArray.size := by
      rw [List.size_toArray, List.length_append, List.length_append]
      omega
    rw [read_eq_ok (Int.natCast_nonneg _) (Int.ofNat_le.mpr within)]
    exact ⟨rfl, codes, digits, Bytes.holds_middle before _ after, rfl⟩

/-- A field and a method, with some numbers in more bytes than they need, between other bytes; and
a method whose index does not end. -/
theorem read_padded_and_cut :
    (read 1).run ⟨#[7, 0x81, 0, 0, 0, 1, 5, 1, 9, 2, 0x80, 0, 0xFF], 0⟩
        = .ok { staticFields := [⟨5, 1⟩], virtualMethods := [⟨9, 2, 0⟩] }
            ⟨#[7, 0x81, 0, 0, 0, 1, 5, 1, 9, 2, 0x80, 0, 0xFF], 12⟩ ∧
      (read 0).run ⟨#[0, 0, 0, 1, 0x83], 5⟩
        = .error (.outOfBounds 5 1 5) ⟨#[0, 0, 0, 1, 0x83], 4⟩ := by
  have one (byte : UInt8) (n : Nat) (h : byte.toNat < 0x80 ∧ byte.toNat = n) :
      IsVarint [byte] n := h.2 ▸ .single byte h.1
  have two (first last : UInt8) (n : Nat) (h : 0x80 ≤ first.toNat ∧ last.toNat < 0x80 ∧
      first.toNat % 0x80 + 0x80 * last.toNat = n) : IsVarint [first, last] n :=
    ⟨h.2.2 ▸ .more first h.1 (.last last h.2.1), by simp⟩
  constructor
  · have digits : List.Forall₂ IsVarint [[0x81, 0], [0], [0], [1], [5], [1], [9], [2], [0x80, 0]]
        (ClassData.numbers { staticFields := [⟨5, 1⟩], virtualMethods := [⟨9, 2, 0⟩] }) :=
      .cons (two _ _ _ (by decide)) <| .cons (one _ _ (by decide)) <|
      .cons (one _ _ (by decide)) <| .cons (one _ _ (by decide)) <|
      .cons (one _ _ (by decide)) <| .cons (one _ _ (by decide)) <|
      .cons (one _ _ (by decide)) <| .cons (one _ _ (by decide)) <|
      .cons (two _ _ _ (by decide)) .nil
    exact (read_outcome.2 _).2 _ digits [7] [0xFF] 0
  · refine ((read_outcome.1 ⟨#[0, 0, 0, 1, 0x83], 5⟩ 0 (by decide) (by decide)).2.2 _ _).mpr
      ⟨rfl, { virtualMethods := [⟨3, 0, 0⟩] }, [0, 0, 0, 1], by decide, by decide, ?_, rfl⟩
    exact ⟨[[0], [0], [0], [1]],
      .cons (one _ _ (by decide)) <| .cons (one _ _ (by decide)) <|
      .cons (one _ _ (by decide)) <| .cons (one _ _ (by decide)) .nil,
      by unfold Bytes.Holds; decide, rfl⟩

end ClassData

end DexDiscovery
