import DexDiscovery.Proofs.ClassDataFormat
import DexDiscovery.Proofs.Mutf8RoundTrip

/-!
# Truncation and malformation

A decoder can fail for two reasons: its buffer is too short, or what stands there is wrong.
`ToldApart` says that the failure itself tells which one it is.  Bytes behind the buffer do not
change what has been decoded, they cannot mend a malformed buffer, and some of them always mend a
truncated one; hence every cut through decoded bytes is a truncation.

Two arguments carry this for all decoders of variable length.  Single bytes stay where they are if
others are put behind them, and answers that agree up to truncation can be composed (`Agrees`).  A
truncation leaves the beginning of something that is decoded, and this beginning reaches the end of
the buffer, so that the missing bytes can be put behind it (`Bytes.Holds.exists_append`).
-/

namespace DexDiscovery

variable {α β : Type}

/-! ## Answers from a longer buffer -/

/-- The second answer is the first one, which is not a truncation; if it is, the second one may be
any. -/
def Agrees (x y : Except DexError α) : Prop :=
  (∀ e, x = .error e → e.isTruncation = false) → y = x

namespace Agrees

variable {x y : Except DexError α}

theorem refl (x : Except DexError α) : Agrees x x := fun _ => rfl

theorem eq_ok (h : Agrees x y) {a : α} (hx : x = .ok a) : y = .ok a :=
  (h (by simp [hx])).trans hx

theorem eq_error (h : Agrees x y) {e : DexError} (hx : x = .error e)
    (wrong : e.isTruncation = false) : y = .error e := by
  refine (h fun e' he' => ?_).trans hx
  obtain rfl := Except.error.inj (hx.symm.trans he')
  exact wrong

theorem bind (h : Agrees x y) {f g : α → Except DexError β} (h' : ∀ a, Agrees (f a) (g a)) :
    Agrees (x >>= f) (y >>= g) := by
  intro settled
  cases x with
  | error e => rw [h fun e' he' => settled e' (bind_eq_error.mpr (.inl he'))]; rfl
  | ok a =>
    rw [h.eq_ok rfl]
    exact h' a fun e he => settled e (bind_eq_error.mpr (.inr ⟨a, rfl, he⟩))

end Agrees

/-- The failures of a decoder tell truncation from malformation; `stop` is the place behind the
bytes that an answer was decoded from. -/
structure ToldApart (offset : Nat) (decode : Bytes → Except DexError α) (stop : α → Int) :
    Prop where
  /-- Further bytes do not change an answer. -/
  answered (b : Bytes) (x : α) (more : Bytes) : decode b = .ok x → decode (b ++ more) = .ok x
  /-- Some further bytes mend a truncated buffer. -/
  truncated (b : Bytes) (e : DexError) : decode b = .error e → e.isTruncation = true →
    ∃ (more : Bytes) (x : α), decode (b ++ more) = .ok x
  /-- Further bytes do not change any other failure. -/
  malformed (b : Bytes) (e : DexError) (more : Bytes) : decode b = .error e →
    e.isTruncation = false → decode (b ++ more) = .error e
  /-- A cut through the bytes of an answer truncates them. -/
  cut (b : Bytes) (x : α) (k : Nat) : decode b = .ok x → offset ≤ k → k < stop x →
    ∃ e, decode (b.extract 0 k) = .error e ∧ e.isTruncation = true

theorem ToldApart.of_agrees {offset : Nat} {decode : Bytes → Except DexError α} {stop : α → Int}
    (agrees : ∀ b more, Agrees (decode b) (decode (b ++ more)))
    (mended : ∀ b e, decode b = .error e → e.isTruncation = true →
      ∃ (more : Bytes) (x : α), decode (b ++ more) = .ok x)
    (within : ∀ b x, decode b = .ok x → offset < stop x → stop x ≤ b.size) :
    ToldApart offset decode stop where
  answered b _ more := (agrees b more).eq_ok
  truncated := mended
  malformed b _ more := (agrees b more).eq_error
  cut b x k h behind before := by
    -- what was cut off cannot change any answer but a truncation
    have whole : b.extract 0 k ++ b.extract k b.size = b := by
      rw [Array.extract_append_extract, Nat.zero_min]
      exact Array.extract_eq_self_of_le (Nat.le_max_right ..)
    have agree := agrees (b.extract 0 k) (b.extract k b.size)
    rw [whole, h] at agree
    cases cut : decode (b.extract 0 k) with
    | ok y =>
      obtain rfl := Except.ok.inj (agree.eq_ok cut)
      have short := within _ _ cut (by omega)
      simp only [Array.size_extract] at short
      omega
    | error e =>
      cases truncation : e.isTruncation with
      | true => exact ⟨e, rfl, truncation⟩
      | false => exact absurd (agree.eq_error cut truncation) (by simp)

namespace Bytes

variable {b : Bytes} {p stop : Int} {ns : List Nat} {e : DexError}

/-! ## Varints -/

theorem agrees_u8 (b more : Bytes) (p : Int) : Agrees (b.u8 p) ((b ++ more).u8 p) := by
  intro settled
  rw [u8_eq] at settled
  rw [u8_eq, u8_eq]
  cases here : b.at? p with
  | none => exact absurd (settled _ (by rw [here])) (by simp [DexError.isTruncation])
  | some byte => rw [at?_append_of_some here]

theorem agrees_varintFrom (b more : Bytes) (start : Int) (budget : Nat) (p : Int) :
    Agrees (b.varintFrom start budget p) ((b ++ more).varintFrom start budget p) := by
  induction budget generalizing p with
  | zero => exact .refl _
  | succ budget ih =>
    simp only [varintFrom]
    cases here : b.at? p with
    | none => exact fun settled => absurd (settled _ rfl) (by simp [DexError.isTruncation])
    | some byte =>
      rw [at?_append_of_some here]
      dsimp only
      split
      · exact .refl _
      · exact (ih _).bind fun _ => .refl _

/-- Where a number is cut off behind others, some number stands there in a longer buffer, with as
many zeros behind it as are wanted. -/
theorem Varints.exists_append (h : b.Varints p ns stop) (inside : 0 ≤ p)
    (fails : b.varint stop = .error e) (cut : e.isTruncation = true) :
    ∃ n, ∀ m, ∃ (more : Bytes) (stop' : Int),
      (b ++ more).Varints p (ns ++ n :: List.replicate m 0) stop' := by
  obtain ⟨codes, areVarints, before, rfl⟩ := h
  obtain ⟨code, goesOn, here, ⟨_, rfl⟩ | ⟨short, none, _⟩⟩ := varint_eq_error.mp fails
  · exact absurd cut (by simp [DexError.isTruncation])
  obtain ⟨n, spells⟩ := Base128.exists_of_goesOn goesOn (show (0 : UInt8).toNat < 0x80 by decide)
  have ended : IsVarint (code ++ [0]) n := ⟨spells, by simp; omega⟩
  have reaches : b.size ≤ p + (codes.flatten ++ code).length := by
    rw [at?_eq_none_iff] at none
    simp only [List.length_append]
    omega
  refine ⟨n, fun m => ?_⟩
  obtain ⟨more, holds⟩ := Holds.exists_append (holds_append.mpr ⟨before, here⟩) reaches
    (0 :: List.replicate m 0)
  exact ⟨more, _, codes ++ (code ++ [0]) :: List.replicate m [0],
    List.rel_append areVarints (.cons ended (IsVarint.zeros m)), by simpa using holds, rfl⟩

/-- Behind the end of a buffer, zeros can be put wherever they are wanted. -/
theorem exists_append_zeros (short : b.size ≤ p) (m : Nat) :
    ∃ (more : Bytes) (stop' : Int), (b ++ more).Varints p (List.replicate m 0) stop' := by
  obtain ⟨more, holds⟩ := (holds_nil : b.Holds p []).exists_append (by simpa using short)
    (List.replicate m 0)
  exact ⟨more, _, List.replicate m [0], IsVarint.zeros m, by simpa using holds, rfl⟩

theorem toldApart_varint (offset : Nat) :
    ToldApart offset (fun b => b.varint offset) fun answer => offset + answer.2 := by
  refine .of_agrees (fun b more => agrees_varintFrom b more _ _ _) (fun b e fails cut => ?_)
    fun b x h some => ?_
  · obtain ⟨n, mended⟩ :=
      (varints_nil.mpr rfl : b.Varints offset [] offset).exists_append (by omega) fails cut
    obtain ⟨more, _, later⟩ := mended 0
    obtain ⟨k, h, _⟩ := varints_cons.mp later
    exact ⟨more, (n, k), h⟩
  · obtain ⟨code, isVarint, holds, size⟩ := varint_eq_ok.mp h
    rw [size]
    exact (holds.within (List.ne_nil_of_length_pos isVarint.spells.length_pos)).2

end Bytes

/-! ## Texts -/

namespace Mutf8

theorem agrees_continuation (b more : Bytes) (p : Int) :
    Agrees (continuation b p) (continuation (b ++ more) p) :=
  (Bytes.agrees_u8 b more p).bind fun _ => .refl _

theorem agrees_readUnit (b more : Bytes) (p : Int) :
    Agrees (readUnit b p) (readUnit (b ++ more) p) := by
  refine (Bytes.agrees_u8 b more p).bind fun lead => ?_
  split_ifs
  · exact .refl _
  · exact (agrees_continuation b more _).bind fun _ => .refl _
  · exact (agrees_continuation b more _).bind fun _ =>
      (agrees_continuation b more _).bind fun _ => .refl _
  · exact .refl _

theorem agrees_readUnitsOnto (b more : Bytes) (count : Nat) (p : Int) (read : List CodeUnit) :
    Agrees (readUnitsOnto b count p read) (readUnitsOnto (b ++ more) count p read) := by
  induction count generalizing p read with
  | zero => exact .refl _
  | succ count ih => exact (agrees_readUnit b more p).bind fun _ => ih _ _

theorem toldApart_decode (offset count : Nat) :
    ToldApart offset (fun b => decode b offset count) fun answer => offset + answer.2 := by
  refine .of_agrees
    (fun b more => (agrees_readUnitsOnto b more count offset []).bind fun _ => .refl _)
    (fun b e fails cut => ?_) fun b x h some => ?_
  · obtain ⟨forms, fewer, before, fails⟩ := exists_of_decode_eq_error fails
    obtain ⟨f, part, rest, whole, here, none⟩ := exists_of_readUnit_eq_error fails cut
    -- the form that is cut off, and then as many zero bytes as there are units missing
    have reaches : b.size ≤ (offset : Int) + (forms.flatMap Form.bytes ++ part).length := by
      rw [Bytes.at?_eq_none_iff] at none
      simp only [List.length_append]
      omega
    obtain ⟨more, holds⟩ := Bytes.Holds.exists_append (Bytes.holds_append.mpr ⟨before, here⟩)
      reaches (rest ++ (List.replicate (count - forms.length - 1) (.one 0)).flatMap Form.bytes)
    refine ⟨more, _, decode_eq_ok.mpr
      ⟨forms ++ f :: List.replicate (count - forms.length - 1) (.one 0), ?_, ?_, rfl, rfl⟩⟩
    · simp only [List.length_append, List.length_cons, List.length_replicate]
      omega
    · simpa [whole] using holds
  · obtain ⟨forms, _, holds, _, size⟩ := decode_eq_ok.mp h
    rw [size] at some ⊢
    exact (holds.within (List.ne_nil_of_length_pos (by omega))).2

end Mutf8

/-! ## Class data -/

/-- What a step answers and the position it ends at, without the cursor after a failure. -/
def Cursor.answer (step : CursorM α) (c : Cursor) : Except DexError (α × Int) :=
  match step.run c with
  | .ok x after => .ok (x, after.position)
  | .error e _ => .error e

theorem Cursor.answer_eq_ok {step : CursorM α} {c : Cursor} {x : α} {stop : Int} :
    answer step c = .ok (x, stop) ↔ ∃ after, step.run c = .ok x after ∧ after.position = stop := by
  rw [answer]
  cases step.run c <;> simp [and_assoc]

theorem Cursor.answer_eq_error {step : CursorM α} {c : Cursor} {e : DexError} :
    answer step c = .error e ↔ ∃ after, step.run c = .error e after := by
  rw [answer]
  cases step.run c <;> simp

namespace ClassData

open Cursor

variable {offset : Nat} {b : Bytes} {position stop : Int} {d : ClassData} {e : DexError}

/-- There are always four sizes to be read. -/
theorem numbers_ne_nil (d : ClassData) : d.numbers ≠ [] := by
  simp [numbers]

theorem answer_read_eq_ok : answer (read offset) ⟨b, position⟩ = .ok (d, stop) ↔
    b.Varints offset d.numbers stop := by
  rw [answer_eq_ok]
  by_cases short : b.size < offset
  · have outside : ¬(0 ≤ (offset : Int) ∧ (offset : Int) ≤ b.size) := by omega
    rw [read_run_of_outside (c := ⟨b, position⟩) outside]
    refine iff_of_false (by simp) fun here => ?_
    have := here.length_le
    have := (here.within d.numbers_ne_nil).2
    omega
  · have within : (offset : Int) ≤ b.size := by omega
    simp only [read_eq_ok (c := ⟨b, position⟩) (Int.natCast_nonneg offset) within]
    constructor
    · rintro ⟨after, ⟨_, here⟩, rfl⟩
      exact here
    · intro here
      exact ⟨⟨b, stop⟩, ⟨rfl, here⟩, rfl⟩

theorem answer_read_eq_error : answer (read offset) ⟨b, position⟩ = .error e ↔
    b.size < offset ∧ e = .outOfBounds offset 0 b.size ∨
      offset ≤ b.size ∧ ∃ ns stop, Begins (fun (d : ClassData) ns => ns = d.numbers) ns ∧
        b.Varints offset ns stop ∧ b.varint stop = .error e := by
  rw [answer_eq_error]
  by_cases short : b.size < offset
  · have outside : ¬(0 ≤ (offset : Int) ∧ (offset : Int) ≤ b.size) := by omega
    rw [read_run_of_outside (c := ⟨b, position⟩) outside]
    simp [short, Nat.not_le.mpr short, eq_comm]
  · have within : (offset : Int) ≤ b.size := by omega
    simp only [read_run (c := ⟨b, position⟩) (Int.natCast_nonneg offset) within,
      follows_readMembers.error_iff, short, Nat.not_lt.mp short, false_and, true_and, false_or]
    constructor
    · rintro ⟨after, _, ns, begins, before, fails⟩
      exact ⟨ns, _, begins, before, fails⟩
    · rintro ⟨ns, stop, begins, before, fails⟩
      exact ⟨⟨b, stop⟩, rfl, ns, begins, before, fails⟩

theorem agrees_read (b more : Bytes) (offset : Nat) (position : Int) :
    Agrees (answer (read offset) ⟨b, position⟩) (answer (read offset) ⟨b ++ more, position⟩) := by
  intro settled
  cases h : answer (read offset) ⟨b, position⟩ with
  | ok answered => exact answer_read_eq_ok.mpr ((answer_read_eq_ok.mp h).append more)
  | error e =>
    obtain ⟨_, rfl⟩ | ⟨within, ns, stop, begins, before, fails⟩ := answer_read_eq_error.mp h
    · exact absurd (settled _ h) (by simp [DexError.isTruncation])
    · have longer : offset ≤ (b ++ more).size := by simp; omega
      exact answer_read_eq_error.mpr (.inr ⟨longer, ns, stop, begins, before.append more,
        (Bytes.agrees_varintFrom b more _ _ _).eq_error fails (settled e h)⟩)

theorem toldApart_read (offset : Nat) (position : Int) :
    ToldApart offset (fun b => answer (read offset) ⟨b, position⟩) Prod.snd := by
  refine .of_agrees (fun b more => agrees_read b more offset position) (fun b e fails cut => ?_)
    fun b x h some => ((answer_read_eq_ok.mp h).within x.1.numbers_ne_nil).2
  obtain ⟨short, _⟩ | ⟨_, ns, stop, begins, before, fails⟩ := answer_read_eq_error.mp fails
  · obtain ⟨d, m, zeros⟩ := follows_readMembers.zeros
    obtain ⟨more, stop, here⟩ := Bytes.exists_append_zeros (b := b) (p := offset) (by omega) m
    exact ⟨more, (d, stop), answer_read_eq_ok.mpr (zeros ▸ here)⟩
  · obtain ⟨n, mended⟩ := before.exists_append (by omega) fails cut
    obtain ⟨d, m, whole⟩ := follows_readMembers.completes ns n begins
    obtain ⟨more, stop', later⟩ := mended m
    exact ⟨more, (d, stop'), answer_read_eq_ok.mpr (whole ▸ later)⟩

end ClassData

/-- **Truncation and malformation are told apart** by every decoder of variable length, at every
offset: for varints, for texts of any number of code units, and for class data, wherever the cursor
stands. -/
theorem truncation_toldApart (offset : Nat) :
    ToldApart offset (fun b => b.varint offset) (fun answer => offset + answer.2) ∧
    (∀ count : Nat, ToldApart offset (fun b => Mutf8.decode b offset count)
      fun answer => offset + answer.2) ∧
    ∀ position : Int, ToldApart offset
      (fun b => Cursor.answer (ClassData.read offset) ⟨b, position⟩) Prod.snd :=
  ⟨Bytes.toldApart_varint offset, Mutf8.toldApart_decode offset,
    ClassData.toldApart_read offset⟩

/-- Class data with one method, between other bytes, and cut after the index of the method. -/
theorem truncation_of_cut_method :
    Cursor.answer (ClassData.read 1) ⟨#[7, 0, 0, 0, 1, 9, 2, 0, 0xFF], 0⟩ =
        .ok ({ virtualMethods := [⟨9, 2, 0⟩] }, 8) ∧
      ∃ e, Cursor.answer (ClassData.read 1) ⟨#[7, 0, 0, 0, 1, 9], 0⟩ = .error e ∧
        e.isTruncation = true := by
  have read : Cursor.answer (ClassData.read 1) ⟨#[7, 0, 0, 0, 1, 9, 2, 0, 0xFF], 0⟩ =
      .ok ({ virtualMethods := [⟨9, 2, 0⟩] }, 8) := by rfl
  exact ⟨read, ((truncation_toldApart 1).2.2 0).cut _ _ 6 read (by decide) (by decide)⟩

end DexDiscovery
