import DexDiscovery.Dex.Mutf8
import DexDiscovery.Proofs.Answers
import DexDiscovery.Proofs.Placement

/-!
# Stored forms of code units

A code unit is stored in one to three bytes.  `Form` has a constructor for each of the three
shapes, and the bits that can be chosen freely as its fields, so that its values are exactly the
byte sequences that are read as one unit.

`decode_eq_ok` says that a text is read exactly where forms of its code units stand.  Where reading
fails, some complete forms have been read (`exists_of_decode_eq_error`); if the buffer is at its
end, the beginning of another form stands behind them (`exists_of_readUnit_eq_error`).
-/

namespace DexDiscovery

namespace Mutf8

/-- The bytes that are read as one code unit, by the bits that they leave open. -/
inductive Form where
  /-- `0xxxxxxx` -/
  | one (bits : Fin 0x80)
  /-- `110xxxxx 10xxxxxx` -/
  | two (high : Fin 0x20) (low : Fin 0x40)
  /-- `1110xxxx 10xxxxxx 10xxxxxx` -/
  | three (high : Fin 0x10) (middle low : Fin 0x40)
deriving DecidableEq, Repr

namespace Form

/-- The bytes of a form. -/
def bytes : Form → List UInt8
  | one bits => [UInt8.ofNat bits]
  | two high low => [UInt8.ofNat (0xC0 + high), UInt8.ofNat (0x80 + low)]
  | three high middle low =>
    [UInt8.ofNat (0xE0 + high), UInt8.ofNat (0x80 + middle), UInt8.ofNat (0x80 + low)]

/-- The number that the open bits write. -/
def value : Form → Nat
  | one bits => bits
  | two high low => high * 0x40 + low
  | three high middle low => high * 0x1000 + middle * 0x40 + low

/-- The code unit that is read. -/
def unit (f : Form) : CodeUnit :=
  UInt16.ofNat f.value

theorem value_lt (f : Form) : f.value < 0x10000 := by
  cases f <;> simp only [value] <;> omega

theorem toNat_unit (f : Form) : f.unit.toNat = f.value :=
  UInt16.toNat_ofNat_of_lt' f.value_lt

end Form

/-! ## Reading one unit -/

variable {b : Bytes} {p stop : Int} {e : DexError} {u : CodeUnit} {size : Nat}

theorem toNat_ofNat {n : Nat} (h : n < 0x100) : (UInt8.ofNat n).toNat = n :=
  UInt8.toNat_ofNat_of_lt' h

theorem ofNat_add_sub {byte : UInt8} {base : Nat} (h : base ≤ byte.toNat) :
    UInt8.ofNat (base + (byte.toNat - base)) = byte := by
  rw [Nat.add_sub_cancel' h, UInt8.ofNat_toNat]

/-- A continuation byte is read where there is one. -/
theorem continuation_eq (b : Bytes) (p : Int) :
    continuation b p = match b.at? p with
      | some byte =>
        if 0x80 ≤ byte.toNat ∧ byte.toNat < 0xC0 then .ok (byte.toNat - 0x80)
        else .error (.badContinuationByte byte p)
      | none => .error (.outOfBounds p 1 b.size) := by
  rw [continuation, Bytes.u8_eq]
  cases b.at? p with
  | none => rfl
  | some byte =>
    show (if 0x80 ≤ byte.toNat ∧ byte.toNat < 0xC0 then Except.ok (byte.toNat - 0x80)
      else .error (DexError.badContinuationByte (UInt8.ofNat byte.toNat) p)) = _
    rw [UInt8.ofNat_toNat]

theorem continuation_of_at? {bits : Fin 0x40} (h : b.at? p = some (UInt8.ofNat (0x80 + bits))) :
    continuation b p = .ok bits.val := by
  have byte : (UInt8.ofNat (0x80 + bits)).toNat = 0x80 + bits := toNat_ofNat (by omega)
  rw [continuation_eq, h]
  simp only [byte]
  rw [if_pos (by omega), Nat.add_sub_cancel_left]

theorem exists_bits_of_continuation {x : Nat} (h : continuation b p = .ok x) :
    ∃ bits : Fin 0x40, b.at? p = some (UInt8.ofNat (0x80 + bits)) ∧ x = bits := by
  rw [continuation_eq] at h
  cases here : b.at? p with
  | none => simp [here] at h
  | some byte =>
    simp only [here] at h
    split at h
    · rename_i range
      refine ⟨⟨byte.toNat - 0x80, by omega⟩, ?_, (Except.ok.inj h).symm⟩
      rw [ofNat_add_sub range.1]
    · simp at h

/-- What is read behind the first byte of a form. -/
theorem readUnit_of_lead {lead : UInt8} (h : b.at? p = some lead) :
    readUnit b p =
      if lead.toNat < 0x80 then .ok (UInt16.ofNat lead.toNat, 1)
      else if 0xC0 ≤ lead.toNat ∧ lead.toNat < 0xE0 then do
        let x ← continuation b (p + 1)
        return (UInt16.ofNat ((lead.toNat - 0xC0) * 0x40 + x), 2)
      else if 0xE0 ≤ lead.toNat ∧ lead.toNat < 0xF0 then do
        let x ← continuation b (p + 1)
        let y ← continuation b (p + 2)
        return (UInt16.ofNat ((lead.toNat - 0xE0) * 0x1000 + x * 0x40 + y), 3)
      else .error (.badLeadByte lead p) := by
  simp only [readUnit, Bytes.u8_eq, h, bind, Except.bind, UInt8.ofNat_toNat]
  rfl

/-- A unit is read where one of its forms stands. -/
theorem readUnit_of_holds (f : Form) (h : b.Holds p f.bytes) :
    readUnit b p = .ok (f.unit, f.bytes.length) := by
  cases f with
  | one bits =>
    have lead : (UInt8.ofNat bits).toNat = bits := toNat_ofNat (by omega)
    simp only [Form.bytes, Bytes.holds_cons] at h
    rw [readUnit_of_lead h.1, lead, if_pos bits.isLt]
    rfl
  | two high low =>
    have lead : (UInt8.ofNat (0xC0 + high)).toNat = 0xC0 + high := toNat_ofNat (by omega)
    simp only [Form.bytes, Bytes.holds_cons] at h
    rw [readUnit_of_lead h.1, lead, if_neg (by omega), if_pos (by omega),
      continuation_of_at? h.2.1, Nat.add_sub_cancel_left]
    rfl
  | three high middle low =>
    have lead : (UInt8.ofNat (0xE0 + high)).toNat = 0xE0 + high := toNat_ofNat (by omega)
    simp only [Form.bytes, Bytes.holds_cons] at h
    rw [readUnit_of_lead h.1, lead, if_neg (by omega), if_neg (by omega), if_pos (by omega),
      continuation_of_at? h.2.1, ← show p + 1 + 1 = p + 2 by omega, continuation_of_at? h.2.2.1,
      Nat.add_sub_cancel_left]
    rfl

theorem exists_form_of_readUnit (h : readUnit b p = .ok (u, size)) :
    ∃ f : Form, b.Holds p f.bytes ∧ u = f.unit ∧ size = f.bytes.length := by
  cases here : b.at? p with
  | none =>
    rw [readUnit, Bytes.u8_eq, here] at h
    exact absurd h (by simp [bind, Except.bind])
  | some lead =>
    rw [readUnit_of_lead here] at h
    split at h
    · rename_i small
      obtain ⟨rfl, rfl⟩ := Prod.mk.inj (Except.ok.inj h)
      exact ⟨.one ⟨lead.toNat, small⟩, by simp [Form.bytes, here], rfl, rfl⟩
    split at h
    · rename_i range
      obtain ⟨x, hx, h⟩ := bind_eq_ok.mp h
      obtain ⟨low, next, rfl⟩ := exists_bits_of_continuation hx
      obtain ⟨rfl, rfl⟩ := Prod.mk.inj (pure_eq_ok.mp h)
      exact ⟨.two ⟨lead.toNat - 0xC0, by omega⟩ low,
        by simp [Form.bytes, here, next, ofNat_add_sub range.1], rfl, rfl⟩
    split at h
    · rename_i range
      obtain ⟨x, hx, h⟩ := bind_eq_ok.mp h
      obtain ⟨y, hy, h⟩ := bind_eq_ok.mp h
      obtain ⟨middle, next, rfl⟩ := exists_bits_of_continuation hx
      obtain ⟨low, last, rfl⟩ := exists_bits_of_continuation hy
      obtain ⟨rfl, rfl⟩ := Prod.mk.inj (pure_eq_ok.mp h)
      rw [← show p + 1 + 1 = p + 2 by omega] at last
      exact ⟨.three ⟨lead.toNat - 0xE0, by omega⟩ middle low,
        by simp [Form.bytes, here, next, last, ofNat_add_sub range.1], rfl, rfl⟩
    · exact absurd h (by simp)

/-- A unit is read exactly where one of its forms stands. -/
theorem readUnit_eq_ok : readUnit b p = .ok (u, size) ↔
    ∃ f : Form, b.Holds p f.bytes ∧ u = f.unit ∧ size = f.bytes.length := by
  constructor
  · exact exists_form_of_readUnit
  · rintro ⟨f, here, rfl, rfl⟩
    exact readUnit_of_holds f here

/-- A continuation byte is missing only if the buffer ends before it. -/
theorem at?_of_continuation_eq_error (h : continuation b p = .error e) (cut : e.isTruncation) :
    b.at? p = none := by
  rw [continuation_eq] at h
  cases here : b.at? p with
  | none => rfl
  | some byte =>
    simp only [here] at h
    split at h
    · simp at h
    · obtain rfl := Except.error.inj h
      exact absurd cut (by simp [DexError.isTruncation])

/-- A unit that is cut off begins like a form: the buffer ends within it. -/
theorem exists_of_readUnit_eq_error (h : readUnit b p = .error e) (cut : e.isTruncation) :
    ∃ (f : Form) (part rest : List UInt8), f.bytes = part ++ rest ∧ b.Holds p part ∧
      b.at? (p + part.length) = none := by
  cases here : b.at? p with
  | none => exact ⟨.one 0, [], _, rfl, Bytes.holds_nil, by simpa using here⟩
  | some lead =>
    rw [readUnit_of_lead here] at h
    split at h
    · simp at h
    split at h
    · rename_i range
      refine ⟨.two ⟨lead.toNat - 0xC0, by omega⟩ 0, [lead], [0x80],
        by simp [Form.bytes, ofNat_add_sub range.1], by simp [here], ?_⟩
      rcases bind_eq_error.mp h with h | ⟨x, _, h⟩
      · exact at?_of_continuation_eq_error h cut
      · exact absurd h pure_ne_error
    split at h
    · rename_i range
      have first (middle low : Fin 0x40) :
          (Form.three ⟨lead.toNat - 0xE0, by omega⟩ middle low).bytes =
            [lead, UInt8.ofNat (0x80 + middle), UInt8.ofNat (0x80 + low)] := by
        simp [Form.bytes, ofNat_add_sub range.1]
      rcases bind_eq_error.mp h with h | ⟨x, hx, h⟩
      · exact ⟨_, [lead], _, first 0 0, by simp [here], at?_of_continuation_eq_error h cut⟩
      · obtain ⟨middle, next, -⟩ := exists_bits_of_continuation hx
        rcases bind_eq_error.mp h with h | ⟨y, _, h⟩
        · exact ⟨_, [lead, UInt8.ofNat (0x80 + middle)], _, first middle 0, by simp [here, next],
            at?_of_continuation_eq_error h cut⟩
        · exact absurd h pure_ne_error
    · obtain rfl := Except.error.inj h
      exact absurd cut (by simp [DexError.isTruncation])

/-! ## Reading a text -/

variable {count : Nat} {read units : List CodeUnit} {t : Text} {consumed : Int}

theorem readUnitsOnto_eq_ok : readUnitsOnto b count p read = .ok (units, stop) ↔
    ∃ forms : List Form, forms.length = count ∧ b.Holds p (forms.flatMap Form.bytes) ∧
      units = read.reverse ++ forms.map Form.unit ∧
      stop = p + (forms.flatMap Form.bytes).length := by
  induction count generalizing p read with
  | zero =>
    simp only [readUnitsOnto, Except.ok.injEq, Prod.mk.injEq, List.length_eq_zero_iff,
      exists_eq_left]
    simp [eq_comm]
  | succ count ih =>
    simp only [readUnitsOnto, bind_eq_ok, Prod.exists, readUnit_eq_ok, ih]
    constructor
    · rintro ⟨_, _, ⟨f, here, rfl, rfl⟩, forms, rfl, later, rfl, rfl⟩
      exact ⟨f :: forms, rfl, Bytes.holds_append.mpr ⟨here, later⟩, by simp,
        by simp [Int.add_assoc]⟩
    · rintro ⟨_ | ⟨f, forms⟩, number, holds, rfl, rfl⟩
      · simp at number
      · obtain ⟨here, later⟩ := Bytes.holds_append.mp holds
        exact ⟨_, _, ⟨f, here, rfl, rfl⟩, forms, by simpa using number, later, by simp,
          by simp [Int.add_assoc]⟩

/-- Reading fails behind some forms, at a unit that cannot be read. -/
theorem readUnitsOnto_eq_error (h : readUnitsOnto b count p read = .error e) :
    ∃ forms : List Form, forms.length < count ∧ b.Holds p (forms.flatMap Form.bytes) ∧
      readUnit b (p + (forms.flatMap Form.bytes).length) = .error e := by
  induction count generalizing p read with
  | zero => exact absurd h (by simp [readUnitsOnto])
  | succ count ih =>
    rw [readUnitsOnto, bind_eq_error] at h
    rcases h with h | ⟨⟨_, _⟩, unit, h⟩
    · exact ⟨[], by simp, Bytes.holds_nil, by simpa using h⟩
    · obtain ⟨f, here, rfl, rfl⟩ := readUnit_eq_ok.mp unit
      obtain ⟨forms, fewer, later, fails⟩ := ih h
      refine ⟨f :: forms, by simpa using fewer, Bytes.holds_append.mpr ⟨here, later⟩, ?_⟩
      rwa [List.flatMap_cons, List.length_append, Int.natCast_add, ← Int.add_assoc]

/-- **A text is read exactly where forms of its code units stand.** -/
theorem decode_eq_ok : decode b p count = .ok (t, consumed) ↔
    ∃ forms : List Form, forms.length = count ∧ b.Holds p (forms.flatMap Form.bytes) ∧
      t = Text.ofUnits (forms.map Form.unit) ∧ consumed = (forms.flatMap Form.bytes).length := by
  simp only [decode, bind_eq_ok, pure_eq_ok, Prod.exists, Prod.mk.injEq, readUnitsOnto_eq_ok]
  constructor
  · rintro ⟨_, _, ⟨forms, number, holds, rfl, rfl⟩, rfl, rfl⟩
    exact ⟨forms, number, holds, rfl, by omega⟩
  · rintro ⟨forms, number, holds, rfl, rfl⟩
    exact ⟨_, _, ⟨forms, number, holds, rfl, rfl⟩, rfl, by omega⟩

/-- Where no text can be read, some forms stand, and behind them no unit can be read. -/
theorem exists_of_decode_eq_error (h : decode b p count = .error e) :
    ∃ forms : List Form, forms.length < count ∧ b.Holds p (forms.flatMap Form.bytes) ∧
      readUnit b (p + (forms.flatMap Form.bytes).length) = .error e := by
  rcases bind_eq_error.mp h with h | ⟨_, _, h⟩
  · exact readUnitsOnto_eq_error h
  · exact absurd h pure_ne_error

end Mutf8

end DexDiscovery
