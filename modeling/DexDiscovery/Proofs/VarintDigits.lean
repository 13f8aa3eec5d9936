import DexDiscovery.Proofs.Varints
import Mathlib.Algebra.BigOperators.Fin

/-!
# Varints digit by digit

`Base128` builds a varint from its first byte on.  Here it is seen as a whole: `Digits` says that
the last byte is the one without the high bit, and that the number is the sum of the low seven bits
of all bytes, each times the power of 128 that belongs to its place.  The two are the same
(`base128_iff_digits`).

Every number has a varint with the fewest bytes, `shortest`; the others are padded with zeros.

`varint_outcome` settles what reading a varint answers, at every offset of every buffer.  The three
outcomes are told apart by the five bytes from there on: one of them is the first without the high
bit, all of them have it, or all that the buffer still has have it, and these are fewer than five.
-/

namespace DexDiscovery

/-- The bytes `code` write `n` digit by digit: exactly the last byte lacks the high bit, and the low
seven bits of the bytes are the digits of `n` in base 128, least significant first. -/
structure Digits (code : List UInt8) (n : Nat) : Prop where
  nonempty : code ≠ []
  marked : ∀ (j : Nat) (h : j < code.length), 0x80 ≤ code[j].toNat ↔ j + 1 < code.length
  sum : n = ∑ j : Fin code.length, code[j].toNat % 0x80 * 0x80 ^ j.val

variable {code : List UInt8} {n : Nat}

/-- The first byte is the digit of the ones, and all other places move up by one. -/
theorem sum_digits_cons (byte : UInt8) (code : List UInt8) :
    ∑ j : Fin (byte :: code).length, (byte :: code)[j].toNat % 0x80 * 0x80 ^ j.val =
      byte.toNat % 0x80 + 0x80 * ∑ j : Fin code.length, code[j].toNat % 0x80 * 0x80 ^ j.val := by
  show ∑ j : Fin (code.length + 1), (byte :: code)[j].toNat % 0x80 * 0x80 ^ j.val = _
  rw [Fin.sum_univ_succ, Finset.mul_sum]
  congr 1
  · simp
  · apply Finset.sum_congr rfl
    intro j _
    show code[j].toNat % 0x80 * 0x80 ^ (j.val + 1) = _
    rw [Nat.pow_succ, Nat.mul_comm (0x80 ^ j.val), Nat.mul_left_comm]

namespace Digits

theorem single {byte : UInt8} (ends : byte.toNat < 0x80) : Digits [byte] byte.toNat where
  nonempty := List.cons_ne_nil _ _
  marked j h := by
    have first : j = 0 := Nat.lt_one_iff.mp h
    subst first
    simpa using ends
  sum := by
    rw [sum_digits_cons]
    simp [Nat.mod_eq_of_lt ends]

theorem cons {byte : UInt8} (goesOn : 0x80 ≤ byte.toNat) (h : Digits code n) :
    Digits (byte :: code) (byte.toNat % 0x80 + 0x80 * n) where
  nonempty := List.cons_ne_nil _ _
  marked j hj := by
    have some := List.length_pos_iff.mpr h.nonempty
    cases j with
    | zero => simpa [goesOn] using some
    | succ j => simpa using h.marked j (by simpa using hj)
  sum := by rw [sum_digits_cons, ← h.sum]

/-- A byte with the high bit has others behind it, which write the rest of the number. -/
theorem exists_of_cons {byte : UInt8} (h : Digits (byte :: code) n) (more : code ≠ []) :
    0x80 ≤ byte.toNat ∧ ∃ m, Digits code m ∧ n = byte.toNat % 0x80 + 0x80 * m := by
  have some := List.length_pos_iff.mpr more
  have first := h.marked 0 (by simp)
  refine ⟨first.mpr (by simpa using some), _, ⟨more, ?_, rfl⟩, ?_⟩
  · intro j hj
    exact (h.marked (j + 1) (Nat.succ_lt_succ hj)).trans Nat.succ_lt_succ_iff
  · rw [h.sum, sum_digits_cons]

end Digits

/-- To build a varint from its first byte on is to write the number digit by digit. -/
theorem base128_iff_digits : Base128 code n ↔ Digits code n := by
  constructor
  · intro h
    induction h with
    | last byte ends => exact .single ends
    | more byte goesOn rest ih => exact ih.cons goesOn
  · intro h
    induction code generalizing n with
    | nil => exact absurd rfl h.nonempty
    | cons byte code ih =>
      by_cases last : code = []
      · subst last
        have ends : byte.toNat < 0x80 := by simpa using h.marked 0 (by simp)
        have value : n = byte.toNat := by
          rw [h.sum, sum_digits_cons]
          simp [Nat.mod_eq_of_lt ends]
        exact value ▸ .last byte ends
      · obtain ⟨goesOn, m, rest, rfl⟩ := h.exists_of_cons last
        exact .more byte goesOn (ih rest)

/-! ## The fewest bytes -/

namespace Base128

/-- The varint of a number with the fewest bytes. -/
def shortest (n : Nat) : List UInt8 :=
  if n < 0x80 then [UInt8.ofNat n] else UInt8.ofNat (0x80 + n % 0x80) :: shortest (n / 0x80)

theorem shortest_of_lt (small : n < 0x80) : shortest n = [UInt8.ofNat n] := by
  rw [shortest, if_pos small]

theorem shortest_of_le (large : 0x80 ≤ n) :
    shortest n = UInt8.ofNat (0x80 + n % 0x80) :: shortest (n / 0x80) := by
  rw [shortest, if_neg (by omega)]

theorem spells_shortest (n : Nat) : Base128 (shortest n) n := by
  induction n using Nat.strongRecOn with
  | ind n ih =>
    by_cases small : n < 0x80
    · have byte : (UInt8.ofNat n).toNat = n := UInt8.toNat_ofNat_of_lt' (show n < 256 by omega)
      have digit := Base128.last (UInt8.ofNat n) (by omega)
      rwa [byte, ← shortest_of_lt small] at digit
    · have byte : (UInt8.ofNat (0x80 + n % 0x80)).toNat = 0x80 + n % 0x80 :=
        UInt8.toNat_ofNat_of_lt' (show 0x80 + n % 0x80 < 256 by omega)
      have digits := Base128.more (UInt8.ofNat (0x80 + n % 0x80)) (by omega)
        (ih (n / 0x80) (by omega))
      rwa [byte, ← shortest_of_le (by omega),
        show (0x80 + n % 0x80) % 0x80 + 0x80 * (n / 0x80) = n by omega] at digits

/-- No other varint of a number has fewer bytes. -/
theorem length_shortest_le (h : Base128 code n) : (shortest n).length ≤ code.length := by
  induction h with
  | last byte ends => rw [shortest_of_lt ends, List.length_singleton, List.length_singleton]
  | @more byte code m goesOn rest ih =>
    by_cases small : byte.toNat % 0x80 + 0x80 * m < 0x80
    · rw [shortest_of_lt small]
      simp
    · have digit : (byte.toNat % 0x80 + 0x80 * m) / 0x80 = m := by omega
      rw [shortest_of_le (by omega), digit, List.length_cons, List.length_cons]
      omega

end Base128

/-- The fewest bytes are at most five for the numbers that varints write. -/
theorem isVarint_shortest (h : n < 2 ^ 35) : IsVarint (Base128.shortest n) n := by
  obtain ⟨code, isVarint⟩ := IsVarint.exists_iff.mpr h
  exact ⟨Base128.spells_shortest n,
    (Base128.length_shortest_le isVarint.spells).trans isVarint.short⟩

/-! ## What reading answers -/

namespace Bytes

variable {b : Bytes} {p k : Nat} {v : Nat} {e : DexError}

theorem varint_eq_ok_iff_digits : b.varint p = .ok (v, k) ↔
    1 ≤ k ∧ k ≤ 5 ∧ p + k ≤ b.size ∧ ∃ code, code.length = k ∧ b.Holds p code ∧ Digits code v := by
  rw [varint_eq_ok]
  constructor
  · rintro ⟨code, isVarint, holds, rfl⟩
    have some := isVarint.spells.length_pos
    have within := (holds.within (List.ne_nil_of_length_pos some)).2
    exact ⟨some, isVarint.short, by omega, code, rfl, holds,
      base128_iff_digits.mp isVarint.spells⟩
  · rintro ⟨_, short, _, code, rfl, holds, digits⟩
    exact ⟨code, ⟨base128_iff_digits.mpr digits, short⟩, holds, rfl⟩

theorem varint_eq_tooLong : b.varint p = .error (.varintTooLong p) ↔
    p + 5 ≤ b.size ∧ ∃ code, code.length = 5 ∧ b.Holds p code ∧ GoesOn code := by
  rw [varint_eq_error]
  constructor
  · rintro ⟨code, goesOn, holds, ⟨five, _⟩ | ⟨_, _, other⟩⟩
    · have within := (holds.within (List.ne_nil_of_length_pos (by omega))).2
      exact ⟨by omega, code, five, holds, goesOn⟩
    · exact absurd other (by simp)
  · rintro ⟨_, code, five, holds, goesOn⟩
    exact ⟨code, goesOn, holds, .inl ⟨five, rfl⟩⟩

/-- A varint that is not read is too long, or the buffer ends before it does. -/
theorem eq_of_varint_eq_error (h : b.varint p = .error e) :
    e = .varintTooLong p ∨ e = .outOfBounds (max p b.size) 1 b.size := by
  obtain ⟨code, _, holds, ⟨_, tooLong⟩ | ⟨_, cut, outside⟩⟩ := varint_eq_error.mp h
  · exact .inl tooLong
  · rw [holds.stop_eq_max cut] at outside
    exact .inr outside

theorem varint_of_negative {p : Int} (h : p < 0) :
    b.varint p = .error (.outOfBounds p 1 b.size) := by
  have none : b.at? p = none := at?_eq_none_iff.mpr (.inl h)
  refine varint_eq_error.mpr ⟨[], by simp [GoesOn], holds_nil, .inr ⟨by simp, ?_, by simp⟩⟩
  simpa using none

/-- **Reading a varint.**  From a place that is not before the buffer, a number is read exactly if
one to five bytes that stand there write it digit by digit, so that it is below the power of 128
with as many factors.  Reading gives up as too long exactly if five bytes stand there and all have
the high bit, and otherwise at the first place behind the buffer.  Before the buffer nothing is
read.  Every number below `2 ^ 35` is read from its fewest bytes, wherever they stand and whatever
follows them. -/
theorem varint_outcome :
    (∀ (b : Bytes) (p : Nat),
      (∀ v k : Nat, b.varint p = .ok (v, k) ↔ 1 ≤ k ∧ k ≤ 5 ∧ p + k ≤ b.size ∧
        ∃ code, code.length = k ∧ b.Holds p code ∧ Digits code v) ∧
      (∀ v k : Nat, b.varint p = .ok (v, k) → v < 0x80 ^ k ∧ 0x80 ^ k ≤ 2 ^ 35) ∧
      (b.varint p = .error (.varintTooLong p) ↔ p + 5 ≤ b.size ∧
        ∃ code, code.length = 5 ∧ b.Holds p code ∧ GoesOn code) ∧
      ((∀ v k : Nat, b.varint p ≠ .ok (v, k)) → b.varint p ≠ .error (.varintTooLong p) →
        b.varint p = .error (.outOfBounds (max p b.size) 1 b.size))) ∧
    (∀ (b : Bytes) (p : Int), p < 0 → b.varint p = .error (.outOfBounds p 1 b.size)) ∧
    ∀ v : Nat, v < 2 ^ 35 →
      (∀ before after : List UInt8,
        varint (before ++ Base128.shortest v ++ after).toArray before.length =
          .ok (v, (Base128.shortest v).length)) ∧
      ∀ code, Digits code v → (Base128.shortest v).length ≤ code.length := by
  refine ⟨fun b p => ⟨fun v k => varint_eq_ok_iff_digits, ?_, varint_eq_tooLong, ?_⟩,
    fun b p => varint_of_negative, fun v small => ⟨?_, ?_⟩⟩
  · intro v k h
    obtain ⟨code, isVarint, _, rfl⟩ := varint_eq_ok.mp h
    refine ⟨isVarint.spells.lt_pow, ?_⟩
    calc 0x80 ^ code.length ≤ 0x80 ^ 5 := Nat.pow_le_pow_right (by decide) isVarint.short
      _ = 2 ^ 35 := by decide
  · intro unread fits
    cases h : b.varint p with
    | ok answer => exact absurd h (unread answer.1 answer.2)
    | error e =>
      rcases eq_of_varint_eq_error h with rfl | rfl
      · exact absurd h fits
      · rfl
  · intro before after
    exact varint_eq_ok.mpr ⟨_, isVarint_shortest small, holds_middle before _ after, rfl⟩
  · intro code digits
    exact Base128.length_shortest_le (base128_iff_digits.mpr digits)

/-- The largest number takes all five bytes; five bytes that end with the buffer and do not end a
varint are too long, and four are cut off. -/
theorem varint_of_largest :
    varint #[0, 0xFF, 0xFF, 0xFF, 0xFF, 0x7F] 1 = .ok (2 ^ 35 - 1, 5) ∧
      varint #[0x80, 0x80, 0x80, 0x80, 0x80] 0 = .error (.varintTooLong 0) ∧
      varint #[0, 0x80, 0x80, 0x80, 0x80] 1 = .error (.outOfBounds 5 1 5) ∧
      varint #[0, 0x80] (-1) = .error (.outOfBounds (-1) 1 2) := by
  have fewest : Base128.shortest (2 ^ 35 - 1) = [0xFF, 0xFF, 0xFF, 0xFF, 0x7F] := by
    simp [Base128.shortest]
  obtain ⟨reading, negative, written⟩ := varint_outcome
  refine ⟨?_, ?_, ?_, negative _ _ (by decide)⟩
  · have read := (written (2 ^ 35 - 1) (by decide)).1 [0] []
    rwa [fewest] at read
  · refine (reading _ 0).2.2.1.mpr ⟨by decide, [0x80, 0x80, 0x80, 0x80, 0x80], rfl, ?_, ?_⟩
    · decide
    · simp [GoesOn]
  · apply (reading _ 1).2.2.2
    · intro v k h
      cases h
    · intro h
      cases h

end Bytes

end DexDiscovery
