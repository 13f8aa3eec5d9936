import DexDiscovery.Archive.Basic
import DexDiscovery.Proofs.Answers

/-!
# What becomes of the data of an entry

The data of an entry are fetched and decoded turn by turn, whatever the decoder.  If it goes on
writing where it does not go on reading, the turns come to an end before their number is used up
(`decode_of_enough`).

There are two ways to fail (`starves_or_refused_of_decode`): the decoder refuses what has been
fetched, or it starves, because the file ends before the data do.  Data that are cut off are not
missed as long as what stands in the file is enough.

Stored data show how far that goes: they are lost exactly if the file ends before both the data and
the content (`decode_stored`).  An entry of at most one portion takes a single turn
(`decode_of_one_portion`).
-/

namespace DexDiscovery

namespace Archive

variable {decoder : Decoder} {data : Bytes} {available claimed size fuel taken unread : Nat}
  {error : Error}

/-! ## Fetching -/

/-- Data are missed if more are claimed and needed than stand in the file. -/
theorem fetch_eq_error :
    fetch available claimed taken unread = .error error ↔
      error = .cutOff ∧ unread < portion ∧ available ≤ taken ∧ taken < claimed := by
  unfold fetch
  split
  · simp only [reduceCtorEq, false_iff]
    omega
  · split
    · simp only [Except.error.injEq]
      constructor
      · rintro rfl
        exact ⟨rfl, by omega, by omega, by omega⟩
      · exact fun h => h.1.symm
    · simp only [reduceCtorEq, false_iff]
      omega

/-- A turn in which nothing is fetched has something to decode already, or all that is claimed. -/
theorem fetch_eq_ok {next : Nat} (h : fetch available claimed taken unread = .ok next) :
    next = taken ∧ (portion ≤ unread ∨ claimed ≤ taken) ∨
      taken < next ∧ next ≤ available ∧ taken < claimed := by
  unfold fetch at h
  split at h
  · rename_i still
    exact .inl ⟨(Except.ok.inj h).symm, still⟩
  · split at h
    · exact absurd h (by simp)
    · obtain rfl := Except.ok.inj h
      have some : 0 < max leastPortion (portion - unread) :=
        Nat.lt_of_lt_of_le (by decide) (le_max_left _ _)
      exact .inr ⟨by omega, min_le_left _ _, by omega⟩

/-! ## Turns -/

/-- A decoder that leaves something unread has gone on writing. -/
def Proceeds (decoder : Decoder) : Prop :=
  ∀ data all written now, decoder data all written = .ok now → now.unread ≠ 0 →
    written < now.output.size

/-- A bound on the number of turns to come.  Where something is unread, each turn writes; where more
is claimed and nothing is unread, the next one fetches. -/
def turnsLeft (claimed size taken : Nat) (before : Decoded) : Nat :=
  (claimed - taken) * (size + 2) +
    if before.unread = 0 ∧ taken < claimed then 0 else size - before.output.size + 1

/-- A turn that is not the last one leaves fewer turns to come. -/
theorem turnsLeft_lt (proceeds : Proceeds decoder) {before now : Decoded} {next : Nat}
    (fetched : fetch data.size claimed taken before.unread = .ok next)
    (decoded : decoder (data.extract 0 next) (decide (claimed ≤ next)) before.output.size = .ok now)
    (going : ¬ (claimed ≤ next ∧ now.unread = 0)) (short : now.output.size < size) :
    turnsLeft claimed size next now < turnsLeft claimed size taken before := by
  have written : now.unread ≠ 0 → before.output.size < now.output.size := proceeds _ _ _ _ decoded
  unfold turnsLeft
  rcases fetch_eq_ok fetched with ⟨rfl, still⟩ | ⟨more, _, claims⟩
  · have some : 0 < portion := by decide
    split <;> split <;> omega
  · have fewer : (claimed - next) * (size + 2) + (size + 2) ≤ (claimed - taken) * (size + 2) := by
      rw [← Nat.succ_mul]
      exact Nat.mul_le_mul_right _ (by omega)
    split <;> split <;> omega

/-- The number of turns that are allowed does not matter, as long as they are enough. -/
theorem decodeFrom_of_enough (proceeds : Proceeds decoder) {before : Decoded} {fuel' : Nat}
    (enough : turnsLeft claimed size taken before < fuel)
    (enough' : turnsLeft claimed size taken before < fuel') :
    decodeFrom decoder data claimed size fuel taken before =
      decodeFrom decoder data claimed size fuel' taken before := by
  induction fuel generalizing fuel' taken before with
  | zero => omega
  | succ fuel ih =>
    obtain ⟨fuel', rfl⟩ := Nat.exists_eq_add_one_of_ne_zero (Nat.ne_zero_of_lt enough')
    rw [decodeFrom, decodeFrom]
    cases fetched : fetch data.size claimed taken before.unread with
    | error error => rfl
    | ok next =>
      simp only [ok_bind]
      cases decoded :
          decoder (data.extract 0 next) (decide (claimed ≤ next)) before.output.size with
      | error error => rfl
      | ok now =>
        simp only [ok_bind]
        split
        · rfl
        · rename_i going
          simp only [not_or, Nat.not_le] at going
          have fewer := turnsLeft_lt proceeds fetched decoded going.2.1 going.2.2
          exact ih (by omega) (by omega)

/-- Decoding never runs out of turns. -/
theorem decode_of_enough (proceeds : Proceeds decoder) (enough : (claimed + 1) * (size + 2) ≤ fuel) :
    decode decoder data claimed size =
      (decodeFrom decoder data claimed size fuel 0 {}).map (·.extract 0 size) := by
  have bound : turnsLeft claimed size 0 {} < (claimed + 1) * (size + 2) := by
    rw [Nat.succ_mul]
    unfold turnsLeft
    simp only [Nat.sub_zero, Array.size_empty]
    split <;> omega
  rw [decode, decodeFrom_of_enough proceeds bound (Nat.lt_of_lt_of_le bound enough)]
  rfl

/-! ## Why decoding fails -/

/-- A decoder that has been given all the data that stand in the file needs more: they have not come
to their end, and not as many bytes are there as should be. -/
def Starves (decoder : Decoder) (data : Bytes) (claimed size : Nat) : Prop :=
  data.size < claimed ∧ (data = #[] ∨ ∃ written now, decoder data false written = .ok now ∧
    now.ended = false ∧ now.output.size < size)

/-- What has been fetched and decoded before a turn is not enough. -/
def Wanting (decoder : Decoder) (data : Bytes) (claimed size taken : Nat) (before : Decoded) :
    Prop :=
  taken = 0 ∨ ∃ written,
    decoder (data.extract 0 taken) (decide (claimed ≤ taken)) written = .ok before ∧
      before.ended = false ∧ before.output.size < size

/-- A turn in which data are missed starves the decoder. -/
theorem starves_of_wanting {before : Decoded}
    (wanting : Wanting decoder data claimed size taken before)
    (missed : data.size ≤ taken ∧ taken < claimed) : Starves decoder data claimed size := by
  refine ⟨by omega, ?_⟩
  rcases wanting with rfl | ⟨written, decoded, going, short⟩
  · exact .inl (Array.eq_empty_of_size_eq_zero (by omega))
  · have whole : data.extract 0 taken = data := Array.extract_eq_self_of_le missed.1
    have more : decide (claimed ≤ taken) = false := decide_eq_false (by omega)
    rw [whole, more] at decoded
    exact .inr ⟨written, before, decoded, going, short⟩

theorem starves_or_refused_of_decodeFrom {before : Decoded}
    (wanting : Wanting decoder data claimed size taken before)
    (h : decodeFrom decoder data claimed size fuel taken before = .error error) :
    error = .cutOff ∧ Starves decoder data claimed size ∨
      ∃ taken all written, decoder (data.extract 0 taken) all written = .error error := by
  induction fuel generalizing taken before with
  | zero => exact absurd h (by simp [decodeFrom])
  | succ fuel ih =>
    unfold decodeFrom at h
    rcases bind_eq_error.mp h with missed | ⟨next, _, h⟩
    · obtain ⟨rfl, _, missed⟩ := fetch_eq_error.mp missed
      exact .inl ⟨rfl, starves_of_wanting wanting missed⟩
    · rcases bind_eq_error.mp h with refused | ⟨now, decoded, h⟩
      · exact .inr ⟨_, _, _, refused⟩
      · split at h
        · exact absurd h pure_ne_error
        -- the turn was not the last one, so what it has brought is not enough
        · rename_i going
          simp only [not_or, Bool.not_eq_true, Nat.not_le] at going
          exact ih (.inr ⟨_, decoded, going.1, going.2.2⟩) h

/-- Data that cannot be decoded are cut off too early, or the decoder refuses the first of them. -/
theorem starves_or_refused_of_decode (h : decode decoder data claimed size = .error error) :
    error = .cutOff ∧ Starves decoder data claimed size ∨
      ∃ taken all written, decoder (data.extract 0 taken) all written = .error error := by
  rcases bind_eq_error.mp h with h | ⟨output, _, h⟩
  · exact starves_or_refused_of_decodeFrom (.inl rfl) h
  · exact absurd h pure_ne_error

/-! ## The decoders -/

theorem decoder?_eq_none {method : Nat} :
    decoder? method = none ↔ method ∉ [0, 8, 12, 14] := by
  unfold decoder?
  split <;> simp_all

theorem decoder?_eq_some {method : Nat} (known : decoder? method = some decoder) :
    method = 0 ∧ decoder = stored ∨ method = 8 ∧ decoder = Inflate.decoder ∨
      method = 12 ∧ decoder = Bzip2.decoder ∨ method = 14 ∧ decoder = Lzma.decoder := by
  unfold decoder? at known
  split at known <;> simp_all


theorem eq_corrupt_of_inflate {all : Bool} {written : Nat}
    (h : Inflate.decoder data all written = .error error) : error = .corrupt := by
  unfold Inflate.decoder at h
  grind

theorem eq_notBzip2_of_bzip2 {all : Bool} {written : Nat}
    (h : Bzip2.decoder data all written = .error error) : error = .notBzip2 := by
  unfold Bzip2.decoder at h
  grind

theorem eq_notLzma_of_lzma {all : Bool} {written : Nat}
    (h : Lzma.decoder data all written = .error error) : error = .notLzma := by
  unfold Lzma.decoder at h
  grind

/-! ## Data that are decoded at once -/

/-- An entry of at most one portion, all of which stands in the file, takes a single turn. -/
theorem decode_of_one_portion (small : data.size ≤ portion)
    (whole : ∀ now, decoder data true 0 = .ok now → now.unread = 0) :
    decode decoder data data.size size =
      (decoder data true 0).map fun now => now.output.extract 0 size := by
  have fetched : fetch data.size data.size 0 0 = .ok data.size := by
    unfold fetch
    simp only [portion, leastPortion] at small ⊢
    grind
  have extracted : data.extract 0 data.size = data := Array.extract_eq_self_of_le le_rfl
  obtain ⟨fuel, turns⟩ : ∃ fuel, (data.size + 1) * (size + 2) = fuel + 1 :=
    Nat.exists_eq_add_one_of_ne_zero (by simp)
  rw [decode, turns, decodeFrom]
  simp only [fetched, extracted, ok_bind, le_refl, decide_true, true_and, Array.size_empty]
  cases decoded : decoder data true 0 with
  | error error => rfl
  | ok now =>
    simp only [ok_bind, whole now decoded, true_or, or_true, if_true]
    rfl

/-! ## Stored data -/

theorem map_decodeFrom_stored (fits : data.size ≤ claimed) (inside : taken ≤ data.size)
    (wanting : taken < size ∨ taken = 0) (enough : data.size - taken < fuel) :
    (decodeFrom stored data claimed size fuel taken { output := data.extract 0 taken }).map
        (·.extract 0 size) =
      if data.size < claimed ∧ (data.size < size ∨ data.size = 0) then .error .cutOff
      else .ok (data.extract 0 size) := by
  induction fuel generalizing taken with
  | zero => omega
  | succ fuel ih =>
    rw [decodeFrom]
    cases fetched : fetch data.size claimed taken 0 with
    | error error =>
      obtain ⟨rfl, _, missed, more⟩ := fetch_eq_error.mp fetched
      rw [if_pos (by omega)]
      rfl
    | ok next =>
      have range : next ≤ data.size ∧ (claimed ≤ next ∨ taken < next) := by
        have some : 0 < portion := by decide
        rcases fetch_eq_ok fetched with ⟨rfl, still⟩ | ⟨more, inside, _⟩
        · exact ⟨inside, .inl (by omega)⟩
        · exact ⟨inside, .inr more⟩
      have reached : (data.extract 0 next).size = next := by simp; omega
      simp only [stored, ok_bind, reached, and_true, Bool.false_eq_true, false_or]
      split
      · rename_i last
        have within : data.size = next ∨ size ≤ next := by omega
        have cut : (data.extract 0 next).extract 0 size = data.extract 0 size := by
          rw [Array.extract_extract, Nat.zero_add, Nat.zero_add]
          rcases within with rfl | below
          · rw [Array.extract_eq_extract_right]
            omega
          · rw [min_eq_left below]
        rw [if_neg (by omega)]
        exact congrArg Except.ok cut
      · exact ih range.1 (by omega) (by omega)

/-- **Stored data** are lost if the file ends before both the data and the content of the entry;
otherwise the content is what stands in the file, as far as the entry should be long. -/
theorem decode_stored (fits : data.size ≤ claimed) :
    decode stored data claimed size =
      if data.size < claimed ∧ (data.size < size ∨ data.size = 0) then .error .cutOff
      else .ok (data.extract 0 size) := by
  have turns : data.size - 0 < (claimed + 1) * (size + 2) := by
    rw [Nat.mul_add]
    omega
  have wanting : 0 < size ∨ 0 = 0 := .inr rfl
  rw [← map_decodeFrom_stored fits (Nat.zero_le _) wanting turns]
  rfl

example : decode stored #[7, 8] 3 2 = .ok #[7, 8] := by decide

example : decode stored #[7, 8] 3 3 = .error .cutOff := by decide

end Archive

end DexDiscovery
