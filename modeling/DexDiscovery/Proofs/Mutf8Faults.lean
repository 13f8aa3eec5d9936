import DexDiscovery.Proofs.Mutf8Forms
import DexDiscovery.Proofs.SurrogatePairs

/-!
# Where the reading of a text stops

A text that cannot be read begins with some complete forms, and with a part of another form behind
them.  Behind this part stands the end of the buffer, or a byte that does not go with it: `Stop`
says which fault that is, and `decode_eq_error_iff` that reading fails with this fault and no other.

Together with `decode_eq_ok` this settles what `decode_outcome` says of every offset, every number
of code units and every buffer.  A text is what its code units are read as if and only if it has
these units and no surrogate pair left in it (`eq_ofUnits_iff`).
-/

namespace DexDiscovery

/-- A text is read from its own code units, unless it keeps a surrogate pair apart. -/
theorem Text.eq_ofUnits_iff {t : Text} {us : List CodeUnit} : t = ofUnits us ↔
    t.units = us ∧ t.IsChain fun c d => (c.isHighSurrogate && d.isLowSurrogate) = false := by
  rw [← joinPairs_eq_self_iff, ← ofUnits_units]
  constructor
  · intro h
    have units : t.units = us := by rw [h, units_ofUnits]
    exact ⟨units, by rw [units, ← h]⟩
  · rintro ⟨rfl, joined⟩
    exact joined.symm

namespace Mutf8

/-- A form has been begun, and is not complete. -/
def Begun (part : List UInt8) : Prop :=
  ∃ (f : Form) (rest : List UInt8), rest ≠ [] ∧ f.bytes = part ++ rest

/-- What stops the reading of a form at `place`, where `part` is all that has been read of it. -/
inductive Stop (b : Bytes) (place : Int) (part : List UInt8) : DexError → Prop where
  /-- The buffer has come to its end. -/
  | cut (none : b.at? place = none) : Stop b place part (.outOfBounds place 1 b.size)
  /-- `10xxxxxx` and `1111xxxx` begin no form. -/
  | lead {byte : UInt8} (first : part = []) (here : b.at? place = some byte)
      (wrong : 0x80 ≤ byte.toNat ∧ byte.toNat < 0xC0 ∨ 0xF0 ≤ byte.toNat) :
      Stop b place part (.badLeadByte byte place)
  /-- Only `10xxxxxx` goes on with a form. -/
  | continuation {byte : UInt8} (inner : part ≠ []) (here : b.at? place = some byte)
      (wrong : byte.toNat < 0x80 ∨ 0xC0 ≤ byte.toNat) :
      Stop b place part (.badContinuationByte byte place)

variable {b : Bytes} {p place : Int} {part : List UInt8} {e : DexError}

/-! ## Parts of forms -/

/-- A part is empty, the first byte of a longer form, or the first two bytes of the longest. -/
theorem begun_iff : Begun part ↔ part = [] ∨
    (∃ lead : UInt8, 0xC0 ≤ lead.toNat ∧ lead.toNat < 0xF0 ∧ part = [lead]) ∨
    ∃ (lead : UInt8) (bits : Fin 0x40), 0xE0 ≤ lead.toNat ∧ lead.toNat < 0xF0 ∧
      part = [lead, UInt8.ofNat (0x80 + bits)] := by
  constructor
  · rintro ⟨f, rest, more, whole⟩
    cases f with
    | one bits =>
      rcases part with _ | ⟨_, _ | ⟨_, _⟩⟩ <;> simp_all [Form.bytes]
    | two high low =>
      have lead : (UInt8.ofNat (0xC0 + high)).toNat = 0xC0 + high := toNat_ofNat (by omega)
      rcases part with _ | ⟨first, _ | ⟨_, _ | ⟨_, _⟩⟩⟩
      · exact .inl rfl
      · obtain ⟨rfl, _⟩ := List.cons.inj whole
        exact .inr (.inl ⟨_, by omega, by omega, rfl⟩)
      all_goals simp_all [Form.bytes]
    | three high middle low =>
      have lead : (UInt8.ofNat (0xE0 + high)).toNat = 0xE0 + high := toNat_ofNat (by omega)
      rcases part with _ | ⟨first, _ | ⟨second, _ | ⟨_, _ | ⟨_, _⟩⟩⟩⟩
      · exact .inl rfl
      · obtain ⟨rfl, _⟩ := List.cons.inj whole
        exact .inr (.inl ⟨_, by omega, by omega, rfl⟩)
      · obtain ⟨rfl, tail⟩ := List.cons.inj whole
        obtain ⟨rfl, _⟩ := List.cons.inj tail
        exact .inr (.inr ⟨_, middle, by omega, by omega, rfl⟩)
      all_goals simp_all [Form.bytes]
  · rintro (rfl | ⟨lead, low, high, rfl⟩ | ⟨lead, bits, low, high, rfl⟩)
    · exact ⟨.one 0, _, List.cons_ne_nil _ _, rfl⟩
    · by_cases short : lead.toNat < 0xE0
      · exact ⟨.two ⟨lead.toNat - 0xC0, by omega⟩ 0, [0x80], List.cons_ne_nil _ _,
          by simp [Form.bytes, ofNat_add_sub low]⟩
      · exact ⟨.three ⟨lead.toNat - 0xE0, by omega⟩ 0 0, [0x80, 0x80], List.cons_ne_nil _ _,
          by simp [Form.bytes, ofNat_add_sub (Nat.le_of_not_lt short)]⟩
    · exact ⟨.three ⟨lead.toNat - 0xE0, by omega⟩ bits 0, [0x80], List.cons_ne_nil _ _,
        by simp [Form.bytes, ofNat_add_sub low]⟩

/-! ## One unit -/

theorem continuation_eq_error_iff (inner : part ≠ []) :
    continuation b p = .error e ↔ Stop b p part e := by
  rw [continuation_eq]
  cases here : b.at? p with
  | none =>
    constructor
    · intro h
      obtain rfl := Except.error.inj h
      exact .cut here
    · intro stop
      cases stop with
      | cut => rfl
      | lead first => exact absurd first inner
      | continuation _ here' => simp [here] at here'
  | some byte =>
    by_cases range : 0x80 ≤ byte.toNat ∧ byte.toNat < 0xC0
    · simp only [if_pos range, reduceCtorEq, false_iff]
      intro stop
      cases stop with
      | cut none => simp [here] at none
      | lead first => exact inner first
      | continuation _ here' wrong =>
        obtain rfl := Option.some.inj (here.symm.trans here')
        omega
    · simp only [if_neg range, Except.error.injEq]
      constructor
      · rintro rfl
        exact .continuation inner here (by omega)
      · intro stop
        cases stop with
        | cut none => simp [here] at none
        | lead first => exact absurd first inner
        | continuation _ here' _ => rw [Option.some.inj (here.symm.trans here')]

theorem exists_stop_of_readUnit (h : readUnit b p = .error e) :
    ∃ part, Begun part ∧ b.Holds p part ∧ Stop b (p + part.length) part e := by
  cases here : b.at? p with
  | none =>
    have cut : readUnit b p = .error (.outOfBounds p 1 b.size) := by
      rw [readUnit, Bytes.u8_eq, here]
      rfl
    obtain rfl := Except.error.inj (cut.symm.trans h)
    refine ⟨[], begun_iff.mpr (.inl rfl), Bytes.holds_nil, ?_⟩
    rw [List.length_nil, Int.natCast_zero, Int.add_zero]
    exact .cut here
  | some lead =>
    rw [readUnit_of_lead here] at h
    have single (low : 0xC0 ≤ lead.toNat) (high : lead.toNat < 0xF0)
        (fails : continuation b (p + 1) = .error e) :
        ∃ part, Begun part ∧ b.Holds p part ∧ Stop b (p + part.length) part e :=
      ⟨[lead], begun_iff.mpr (.inr (.inl ⟨lead, low, high, rfl⟩)), by simp [here],
        (continuation_eq_error_iff (List.cons_ne_nil _ _)).mp fails⟩
    split at h
    · simp at h
    split at h
    · rename_i range
      rcases bind_eq_error.mp h with fails | ⟨_, _, h⟩
      · exact single range.1 (by omega) fails
      · exact absurd h pure_ne_error
    split at h
    · rename_i range
      rcases bind_eq_error.mp h with fails | ⟨_, first, h⟩
      · exact single (by omega) range.2 fails
      · obtain ⟨bits, next, -⟩ := exists_bits_of_continuation first
        rcases bind_eq_error.mp h with fails | ⟨_, _, h⟩
        · exact ⟨[lead, UInt8.ofNat (0x80 + bits)],
            begun_iff.mpr (.inr (.inr ⟨lead, bits, range.1, range.2, rfl⟩)), by simp [here, next],
            (continuation_eq_error_iff (List.cons_ne_nil _ _)).mp fails⟩
        · exact absurd h pure_ne_error
    · obtain rfl := Except.error.inj h
      refine ⟨[], begun_iff.mpr (.inl rfl), Bytes.holds_nil, ?_⟩
      rw [List.length_nil, Int.natCast_zero, Int.add_zero]
      exact .lead rfl here (by omega)

theorem readUnit_of_stop (begun : Begun part) (holds : b.Holds p part)
    (stop : Stop b (p + part.length) part e) : readUnit b p = .error e := by
  rcases begun_iff.mp begun with rfl | ⟨lead, low, high, rfl⟩ | ⟨lead, bits, low, high, rfl⟩
  · rw [List.length_nil, Int.natCast_zero, Int.add_zero] at stop
    cases stop with
    | cut none =>
      rw [readUnit, Bytes.u8_eq, none]
      rfl
    | lead _ here wrong =>
      rw [readUnit_of_lead here, if_neg (by omega), if_neg (by omega), if_neg (by omega)]
    | continuation inner => exact absurd rfl inner
  · have fails : continuation b (p + 1) = .error e :=
      (continuation_eq_error_iff (List.cons_ne_nil _ _)).mpr stop
    rw [readUnit_of_lead (Bytes.holds_cons.mp holds).1, if_neg (by omega), fails]
    by_cases short : lead.toNat < 0xE0
    · rw [if_pos ⟨low, short⟩]
      rfl
    · rw [if_neg (by omega), if_pos (by omega)]
      rfl
  · obtain ⟨here, later⟩ := Bytes.holds_cons.mp holds
    have first : continuation b (p + 1) = .ok bits.val :=
      continuation_of_at? (Bytes.holds_cons.mp later).1
    have fails : continuation b (p + 2) = .error e :=
      (continuation_eq_error_iff (List.cons_ne_nil _ _)).mpr stop
    rw [readUnit_of_lead here, if_neg (by omega), if_neg (by omega), if_pos ⟨low, high⟩, first,
      fails]
    rfl

/-- Reading a unit fails exactly where a form is begun and something stops it. -/
theorem readUnit_eq_error_iff : readUnit b p = .error e ↔
    ∃ part, Begun part ∧ b.Holds p part ∧ Stop b (p + part.length) part e := by
  constructor
  · exact exists_stop_of_readUnit
  · rintro ⟨part, begun, holds, stop⟩
    exact readUnit_of_stop begun holds stop

/-! ## Texts -/

variable {count : Nat} {read : List CodeUnit} {forms : List Form}

/-- A unit that cannot be read behind some forms stops the whole text. -/
theorem readUnitsOnto_of_fails (fewer : forms.length < count)
    (holds : b.Holds p (forms.flatMap Form.bytes))
    (fails : readUnit b (p + (forms.flatMap Form.bytes).length) = .error e) :
    readUnitsOnto b count p read = .error e := by
  induction forms generalizing p count read with
  | nil =>
    obtain ⟨count, rfl⟩ := Nat.exists_eq_add_one.mpr fewer
    rw [List.flatMap_nil, List.length_nil, Int.natCast_zero, Int.add_zero] at fails
    rw [readUnitsOnto, fails]
    rfl
  | cons f forms ih =>
    obtain ⟨count, rfl⟩ := Nat.exists_eq_add_one.mpr (Nat.zero_lt_of_lt fewer)
    obtain ⟨here, later⟩ := Bytes.holds_append.mp holds
    rw [List.flatMap_cons, List.length_append, Int.natCast_add, ← Int.add_assoc] at fails
    rw [readUnitsOnto, readUnit_of_holds f here]
    exact ih (Nat.lt_of_succ_lt_succ fewer) later fails

/-- **Reading fails exactly where it is stopped**: behind some forms, fewer than were asked for, and
a part of the next one. -/
theorem decode_eq_error_iff : decode b p count = .error e ↔
    ∃ (forms : List Form) (part : List UInt8), forms.length < count ∧ Begun part ∧
      b.Holds p (forms.flatMap Form.bytes ++ part) ∧
      Stop b (p + (forms.flatMap Form.bytes ++ part).length) part e := by
  constructor
  · intro h
    obtain ⟨forms, fewer, holds, fails⟩ := exists_of_decode_eq_error h
    obtain ⟨part, begun, here, stop⟩ := readUnit_eq_error_iff.mp fails
    refine ⟨forms, part, fewer, begun, Bytes.holds_append.mpr ⟨holds, here⟩, ?_⟩
    rwa [List.length_append, Int.natCast_add, ← Int.add_assoc]
  · rintro ⟨forms, part, fewer, begun, holds, stop⟩
    obtain ⟨complete, here⟩ := Bytes.holds_append.mp holds
    rw [List.length_append, Int.natCast_add, ← Int.add_assoc] at stop
    have fails : readUnitsOnto b count p [] = .error e :=
      readUnitsOnto_of_fails fewer complete
        (readUnit_eq_error_iff.mpr ⟨part, begun, here, stop⟩)
    exact bind_eq_error.mpr (.inl fails)

/-- As many forms take at least one byte and at most three bytes each. -/
theorem length_flatMap_bytes (forms : List Form) :
    forms.length ≤ (forms.flatMap Form.bytes).length ∧
      (forms.flatMap Form.bytes).length ≤ 3 * forms.length := by
  induction forms with
  | nil => simp
  | cons f forms ih =>
    have size : 1 ≤ f.bytes.length ∧ f.bytes.length ≤ 3 := by
      cases f <;> simp [Form.bytes]
    rw [List.flatMap_cons, List.length_append, List.length_cons]
    omega

theorem units_eq_map_unit_iff {t : Text} :
    t.units = forms.map Form.unit ↔ t.units.map UInt16.toNat = forms.map Form.value := by
  have values : (forms.map Form.unit).map UInt16.toNat = forms.map Form.value := by
    rw [List.map_map]
    exact List.map_congr_left fun f _ => f.toNat_unit
  rw [← values]
  exact (List.map_injective_iff.mpr fun _ _ => UInt16.toNat_inj.mp).eq_iff.symm

/-- **Reading a text.**  From a place that is not before the buffer, a text is read exactly if as
many forms stand there as code units are asked for.  Their values are its code units, in which each
high surrogate is joined with a low one right behind it and with no other one; they take one to
three bytes each.  Otherwise reading stops behind some of the forms and a part of the next one: at
the first byte that does not go with this part, or where the buffer ends before there is one, which
is the first place that is not in the buffer. -/
theorem decode_outcome (b : Bytes) (p n : Nat) :
    (∀ (t : Text) (c : Int), decode b p n = .ok (t, c) ↔
      ∃ forms : List Form, forms.length = n ∧ b.Holds p (forms.flatMap Form.bytes) ∧
        c = (forms.flatMap Form.bytes).length ∧ n ≤ c ∧ c ≤ 3 * n ∧
        (∀ f ∈ forms, f.value < 0x10000) ∧ t.units.map UInt16.toNat = forms.map Form.value ∧
        t.IsChain fun x y => (x.isHighSurrogate && y.isLowSurrogate) = false) ∧
    (∀ e, decode b p n = .error e ↔
      ∃ (forms : List Form) (part : List UInt8), forms.length < n ∧ Begun part ∧
        b.Holds p (forms.flatMap Form.bytes ++ part) ∧
        Stop b (p + (forms.flatMap Form.bytes ++ part).length) part e) ∧
    ∀ offset size length, decode b p n = .error (.outOfBounds offset size length) →
      offset = max (p : Int) b.size ∧ size = 1 ∧ length = b.size := by
  refine ⟨?_, fun e => decode_eq_error_iff, ?_⟩
  · intro t c
    rw [decode_eq_ok]
    constructor
    · rintro ⟨forms, number, holds, same, rfl⟩
      obtain ⟨units, joined⟩ := Text.eq_ofUnits_iff.mp same
      have sizes := length_flatMap_bytes forms
      exact ⟨forms, number, holds, rfl, by omega, by omega, fun f _ => f.value_lt,
        units_eq_map_unit_iff.mp units, joined⟩
    · rintro ⟨forms, number, holds, rfl, _, _, _, values, joined⟩
      exact ⟨forms, number, holds,
        Text.eq_ofUnits_iff.mpr ⟨units_eq_map_unit_iff.mpr values, joined⟩, rfl⟩
  · intro offset size length h
    obtain ⟨forms, part, _, _, holds, stop⟩ := decode_eq_error_iff.mp h
    cases stop with
    | cut none => exact ⟨holds.stop_eq_max none, rfl, rfl⟩

/-- A low surrogate, a pair and a high surrogate: only the pair is joined.  A form of two bytes
followed by a letter, a byte that begins no form, and a form that is cut off. -/
theorem decode_surrogates_and_faults :
    decode #[0xED, 0xB0, 0x80, 0xED, 0xA0, 0xBD, 0xED, 0xB8, 0x80, 0xED, 0xA0, 0x80] 0 4 =
        .ok ([0xDC00, 0x1F600, 0xD800], 12) ∧
      decode #[0x41, 0xC3, 0x41] 0 2 = .error (.badContinuationByte 0x41 2) ∧
      decode #[0x41, 0xF0, 0x80] 0 2 = .error (.badLeadByte 0xF0 1) ∧
      decode #[0x41, 0xE2, 0x82] 0 2 = .error (.outOfBounds 3 1 3) := by
  have stopped (b : Bytes) (part : List UInt8) (e : DexError) (begun : Begun part)
      (holds : b.Holds 0 (0x41 :: part)) (stop : Stop b (0 + (0x41 :: part).length) part e) :
      decode b 0 2 = .error e :=
    ((decode_outcome b 0 2).2.1 e).mpr ⟨[.one 0x41], part, by decide, begun, holds, stop⟩
  refine ⟨?_, ?_, ?_, ?_⟩
  · refine ((decode_outcome _ 0 4).1 _ _).mpr
      ⟨[.three 0xD 0x30 0, .three 0xD 0x20 0x3D, .three 0xD 0x38 0, .three 0xD 0x20 0], rfl, ?_,
        rfl, by decide, by decide, by decide, by decide, by decide⟩
    decide
  · apply stopped _ [0xC3] _ ⟨.two 3 0, [0x80], by decide, rfl⟩
    · decide
    · exact .continuation (by decide) (by decide) (by decide)
  · apply stopped _ [] _ ⟨.one 0, [0], by decide, rfl⟩
    · decide
    · exact .lead rfl (by decide) (by decide)
  · apply stopped _ [0xE2, 0x82] _ ⟨.three 2 2 0, [0x80], by decide, rfl⟩
    · decide
    · exact .cut (by decide)

end Mutf8

end DexDiscovery
