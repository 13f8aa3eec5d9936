import DexDiscovery.Proofs.Answers
import DexDiscovery.Proofs.Placement
import Mathlib.Algebra.Group.Nat.Defs

/-!
# Varints

A varint writes a number in base 128, least digit first, one digit in each byte; the high bit is
set on all bytes but the last, and there are at most five.  A number has several varints, since
higher digits may be zero.

`varint_eq_ok` says that a number is read exactly where one of its varints stands, and
`varint_eq_error` that there are two ways to fail: five bytes in a row go on, or the buffer ends
before the last byte.  `b.Varints offset numbers stop` says the same of several numbers, one behind
the other.
-/

namespace DexDiscovery

/-- The bytes `code` write `n` in base 128, with the high bit set on all of them but the last. -/
inductive Base128 : List UInt8 → Nat → Prop where
  | last (byte : UInt8) (ends : byte.toNat < 0x80) : Base128 [byte] byte.toNat
  | more (byte : UInt8) {code : List UInt8} {n : Nat} (goesOn : 0x80 ≤ byte.toNat)
      (rest : Base128 code n) : Base128 (byte :: code) (byte.toNat % 0x80 + 0x80 * n)

/-- The bytes `code` are a varint of `n`. -/
structure IsVarint (code : List UInt8) (n : Nat) : Prop where
  spells : Base128 code n
  short : code.length ≤ 5

/-- All of these bytes have the high bit set, so that none of them ends a varint. -/
def GoesOn (code : List UInt8) : Prop :=
  ∀ byte ∈ code, 0x80 ≤ byte.toNat

variable {code : List UInt8} {n : Nat}

namespace Base128

theorem length_pos (h : Base128 code n) : 0 < code.length := by
  cases h <;> simp

/-- As many digits write no more than that power of the base. -/
theorem lt_pow (h : Base128 code n) : n < 0x80 ^ code.length := by
  induction h with
  | last _ ends => simpa using ends
  | more _ _ _ ih =>
    rw [List.length_cons, Nat.pow_succ]
    omega

/-- Every number below a power of the base can be written with that many digits at most. -/
theorem exists_of_lt {k : Nat} (h : n < 0x80 ^ (k + 1)) :
    ∃ code, Base128 code n ∧ code.length ≤ k + 1 := by
  have toNat_ofNat (m : Nat) (hm : m < 256) : (UInt8.ofNat m).toNat = m :=
    UInt8.toNat_ofNat_of_lt' hm
  induction k generalizing n with
  | zero =>
    have byte := toNat_ofNat n (by omega)
    have spells := Base128.last (UInt8.ofNat n) (by omega)
    rw [byte] at spells
    exact ⟨_, spells, Nat.le_refl 1⟩
  | succ k ih =>
    rw [Nat.pow_succ] at h
    obtain ⟨code, rest, short⟩ := ih (n := n / 0x80) (by omega)
    have byte := toNat_ofNat (0x80 + n % 0x80) (by omega)
    have spells := Base128.more (UInt8.ofNat (0x80 + n % 0x80)) (by omega) rest
    rw [byte, show (0x80 + n % 0x80) % 0x80 + 0x80 * (n / 0x80) = n by omega] at spells
    exact ⟨_, spells, by simpa using short⟩

/-- Any byte below `0x80` ends what goes on. -/
theorem exists_of_goesOn (h : GoesOn code) {byte : UInt8} (ends : byte.toNat < 0x80) :
    ∃ n, Base128 (code ++ [byte]) n := by
  induction code with
  | nil => exact ⟨_, .last byte ends⟩
  | cons first code ih =>
    obtain ⟨n, rest⟩ := ih fun byte hb => h byte (List.mem_cons_of_mem _ hb)
    exact ⟨_, .more first (h first List.mem_cons_self) rest⟩

end Base128

namespace IsVarint

theorem lt (h : IsVarint code n) : n < 2 ^ 35 :=
  calc n < 0x80 ^ code.length := h.spells.lt_pow
    _ ≤ 0x80 ^ 5 := Nat.pow_le_pow_right (by decide) h.short
    _ = 2 ^ 35 := by decide

/-- A small number is written in one byte. -/
theorem single (byte : UInt8) (small : byte.toNat < 0x80) : IsVarint [byte] byte.toNat :=
  ⟨.last byte small, by simp⟩

/-- Zeros are written as zero bytes. -/
theorem zeros (m : Nat) : List.Forall₂ IsVarint (List.replicate m [0]) (List.replicate m 0) := by
  induction m with
  | zero => exact .nil
  | succ m ih => exact .cons (.single 0 (by decide)) ih

/-- Exactly the numbers below `2 ^ 35` have varints. -/
theorem exists_iff : (∃ code, IsVarint code n) ↔ n < 2 ^ 35 := by
  constructor
  · rintro ⟨code, h⟩
    exact h.lt
  · intro h
    obtain ⟨code, spells, short⟩ := Base128.exists_of_lt (k := 4) (n := n) (by simpa using h)
    exact ⟨code, spells, short⟩

/-- Exactly the lists of such numbers have varints for all their entries. -/
theorem exists_forall₂_iff {ns : List Nat} :
    (∃ codes, List.Forall₂ IsVarint codes ns) ↔ ∀ n ∈ ns, n < 2 ^ 35 := by
  induction ns with
  | nil => simp
  | cons n ns ih =>
    rw [List.forall_mem_cons, ← ih, ← exists_iff]
    constructor
    · rintro ⟨_, _ | ⟨first, later⟩⟩
      exact ⟨⟨_, first⟩, _, later⟩
    · rintro ⟨⟨code, first⟩, codes, later⟩
      exact ⟨code :: codes, .cons first later⟩

end IsVarint

namespace Bytes

variable {b : Bytes} {p start stop : Int} {budget k : Nat} {e : DexError} {ms ns : List Nat}

/-! ## One varint -/

theorem varintFrom_eq_ok : b.varintFrom start budget p = .ok (n, k) ↔
    ∃ code, Base128 code n ∧ code.length ≤ budget ∧ b.Holds p code ∧ k = code.length := by
  -- the byte at the place decides: it is the last digit, or it goes on with a smaller budget
  induction budget generalizing p n k with
  | zero =>
    simp only [varintFrom, reduceCtorEq, false_iff]
    rintro ⟨code, spells, short, _⟩
    have := spells.length_pos
    omega
  | succ budget ih =>
    rw [varintFrom]
    cases first : b.at? p with
    | none =>
      simp only [reduceCtorEq, false_iff]
      rintro ⟨code, ⟨⟩ | ⟨⟩, _, holds, _⟩ <;> simp [first] at holds
    | some byte =>
      by_cases ends : byte.toNat < 0x80
      · simp only [if_pos ends, Except.ok.injEq, Prod.mk.injEq]
        constructor
        · rintro ⟨rfl, rfl⟩
          exact ⟨[byte], .last byte ends, by simp, by simp [first], rfl⟩
        · rintro ⟨code, spells, _, holds, rfl⟩
          cases spells with
          | last _ _ =>
            obtain rfl := holds.head_eq first
            exact ⟨rfl, rfl⟩
          | more _ goesOn _ =>
            obtain rfl := holds.head_eq first
            omega
      · simp only [if_neg ends, bind_eq_ok, Prod.exists, ih, pure_eq_ok, Prod.mk.injEq]
        constructor
        · rintro ⟨m, j, ⟨code, spells, short, holds, rfl⟩, rfl, rfl⟩
          exact ⟨byte :: code, .more byte (by omega) spells, by simpa using short,
            holds_cons.mpr ⟨first, holds⟩, rfl⟩
        · rintro ⟨code, spells, short, holds, rfl⟩
          cases spells with
          | last _ ends' =>
            obtain rfl := holds.head_eq first
            omega
          | more _ _ rest =>
            obtain rfl := holds.head_eq first
            exact ⟨_, _, ⟨_, rest, by simpa using short, (holds_cons.mp holds).2, rfl⟩, rfl, rfl⟩

theorem varintFrom_eq_error : b.varintFrom start budget p = .error e ↔
    ∃ code, GoesOn code ∧ b.Holds p code ∧
      (code.length = budget ∧ e = .varintTooLong start ∨
        code.length < budget ∧ b.at? (p + code.length) = none ∧
          e = .outOfBounds (p + code.length) 1 b.size) := by
  induction budget generalizing p with
  | zero =>
    simp only [varintFrom, Except.error.injEq]
    constructor
    · rintro rfl
      exact ⟨[], by simp [GoesOn], holds_nil, .inl ⟨rfl, rfl⟩⟩
    · rintro ⟨code, _, _, ⟨_, rfl⟩ | ⟨short, _⟩⟩
      · rfl
      · exact absurd short (Nat.not_lt_zero _)
  | succ budget ih =>
    rw [varintFrom]
    cases first : b.at? p with
    | none =>
      simp only [Except.error.injEq]
      constructor
      · rintro rfl
        exact ⟨[], by simp [GoesOn], holds_nil, .inr ⟨by simp, by simpa using first, by simp⟩⟩
      · rintro ⟨code, _, holds, fails⟩
        cases code with
        | nil => simpa [first, eq_comm] using fails
        | cons byte code => simp [first] at holds
    | some byte =>
      by_cases ends : byte.toNat < 0x80
      · simp only [if_pos ends, reduceCtorEq, false_iff]
        rintro ⟨code, goesOn, holds, fails⟩
        cases code with
        | nil => simp [first] at fails
        | cons byte' code =>
          obtain rfl := holds.head_eq first
          have := goesOn byte List.mem_cons_self
          omega
      · simp only [if_neg ends, bind_eq_error, ih, pure_ne_error, and_false, exists_false, or_false]
        constructor
        · rintro ⟨code, goesOn, holds, fails⟩
          refine ⟨byte :: code, List.forall_mem_cons.mpr ⟨by omega, goesOn⟩,
            holds_cons.mpr ⟨first, holds⟩, ?_⟩
          rw [add_length_cons, List.length_cons, Nat.add_right_cancel_iff,
            Nat.add_lt_add_iff_right]
          exact fails
        · rintro ⟨code, goesOn, holds, fails⟩
          cases code with
          | nil => simp [first] at fails
          | cons byte' code =>
            refine ⟨code, (List.forall_mem_cons.mp goesOn).2, (holds_cons.mp holds).2, ?_⟩
            rw [add_length_cons, List.length_cons, Nat.add_right_cancel_iff,
              Nat.add_lt_add_iff_right] at fails
            exact fails

/-- **A number is read exactly where one of its varints stands.** -/
theorem varint_eq_ok : b.varint p = .ok (n, k) ↔
    ∃ code, IsVarint code n ∧ b.Holds p code ∧ k = code.length := by
  rw [varint, varintFrom_eq_ok]
  constructor
  · rintro ⟨code, spells, short, rest⟩
    exact ⟨code, ⟨spells, short⟩, rest⟩
  · rintro ⟨code, ⟨spells, short⟩, rest⟩
    exact ⟨code, spells, short, rest⟩

/-- **There are two ways to fail.**  Five bytes in a row go on, which no further bytes could mend,
or the buffer ends before the last byte. -/
theorem varint_eq_error : b.varint p = .error e ↔
    ∃ code, GoesOn code ∧ b.Holds p code ∧
      (code.length = 5 ∧ e = .varintTooLong p ∨
        code.length < 5 ∧ b.at? (p + code.length) = none ∧
          e = .outOfBounds (p + code.length) 1 b.size) :=
  varintFrom_eq_error

/-! ## Several varints -/

/-- From `offset` up to `stop` the buffer holds varints of the given numbers, one behind the
other. -/
def Varints (b : Bytes) (offset : Int) (numbers : List Nat) (stop : Int) : Prop :=
  ∃ codes, List.Forall₂ IsVarint codes numbers ∧ b.Holds offset codes.flatten ∧
    stop = offset + codes.flatten.length

theorem varints_nil : b.Varints p [] stop ↔ stop = p := by
  constructor
  · rintro ⟨codes, ⟨⟩, _, rfl⟩
    simp
  · rintro rfl
    exact ⟨[], .nil, holds_nil, by simp⟩

theorem varints_cons :
    b.Varints p (n :: ns) stop ↔ ∃ k : Nat, b.varint p = .ok (n, k) ∧ b.Varints (p + k) ns stop := by
  simp only [varint_eq_ok]
  constructor
  · rintro ⟨_, _ | ⟨first, later⟩, holds, rfl⟩
    rename_i code codes
    obtain ⟨here, holds⟩ := holds_append.mp holds
    exact ⟨_, ⟨code, first, here, rfl⟩, codes, later, holds, by simp [Int.add_assoc]⟩
  · rintro ⟨_, ⟨code, first, here, rfl⟩, codes, later, holds, rfl⟩
    exact ⟨code :: codes, .cons first later, holds_append.mpr ⟨here, holds⟩,
      by simp [Int.add_assoc]⟩

theorem varints_append :
    b.Varints p (ms ++ ns) stop ↔ ∃ q, b.Varints p ms q ∧ b.Varints q ns stop := by
  induction ms generalizing p with
  | nil => simp [varints_nil]
  | cons n ms ih =>
    simp only [List.cons_append, varints_cons, ih]
    constructor
    · rintro ⟨k, first, q, here, later⟩
      exact ⟨q, ⟨k, first, here⟩, later⟩
    · rintro ⟨q, ⟨k, first, here⟩, later⟩
      exact ⟨k, first, q, here, later⟩

namespace Varints

/-- Every number takes at least one byte. -/
theorem length_le (h : b.Varints p ns stop) : p + ns.length ≤ stop := by
  induction ns generalizing p with
  | nil => simp [varints_nil.mp h]
  | cons n ns ih =>
    obtain ⟨k, first, later⟩ := varints_cons.mp h
    obtain ⟨code, digits, _, rfl⟩ := varint_eq_ok.mp first
    have := digits.spells.length_pos
    have := ih later
    rw [List.length_cons]
    omega

/-- Numbers that take bytes lie in the buffer. -/
theorem within (h : b.Varints p ns stop) (ne : ns ≠ []) : 0 ≤ p ∧ stop ≤ b.size := by
  have long := h.length_le
  have some := List.length_pos_iff.mpr ne
  obtain ⟨codes, _, holds, rfl⟩ := h
  exact holds.within (List.ne_nil_of_length_pos (by omega))

theorem stop_le_size (h : b.Varints p ns stop) (within : p ≤ b.size) : stop ≤ b.size := by
  obtain ⟨codes, _, holds, rfl⟩ := h
  by_cases empty : codes.flatten = []
  · simpa [empty] using within
  · exact (holds.within empty).2

theorem append (h : b.Varints p ns stop) (more : Bytes) : (b ++ more).Varints p ns stop := by
  obtain ⟨codes, digits, holds, rfl⟩ := h
  exact ⟨codes, digits, holds.append more, rfl⟩

end Varints

end Bytes

end DexDiscovery
