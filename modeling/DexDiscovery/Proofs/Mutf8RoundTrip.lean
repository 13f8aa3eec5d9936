import DexDiscovery.Proofs.Mutf8Forms
import DexDiscovery.Proofs.SurrogatePairs

/-!
# Writing and reading texts

Writing gives every code unit one of its forms (`Form.written`), and reading accepts all of them.
No form begins like another one (`Form.eq_of_holds`), so that the bytes that were read tell which
forms they are.  `decode_encode` puts this together with what is lost between a text and its code
units: writing and reading a text joins its surrogate pairs, and reading and writing bytes
normalises their forms.
-/

namespace DexDiscovery

namespace Mutf8

namespace Form

/-- The forms that are read but never written: a raw zero byte, and a unit in more bytes than it
needs. -/
def Irregular : Form → Prop
  | one bits => bits.val = 0
  | f@(two _ _) => 0 < f.value ∧ f.value < 0x80
  | f@(three _ _ _) => f.value < 0x800

instance : DecidablePred Irregular
  | one bits => inferInstanceAs (Decidable (bits.val = 0))
  | two high low =>
    inferInstanceAs (Decidable (0 < (two high low).value ∧ (two high low).value < 0x80))
  | three high middle low => inferInstanceAs (Decidable ((three high middle low).value < 0x800))

/-- The form in which a code unit is written. -/
def written (u : CodeUnit) : Form :=
  if ascii : 0 < u.toNat ∧ u.toNat < 0x80 then one ⟨u.toNat, ascii.2⟩
  else if short : u.toNat < 0x800 then
    two ⟨u.toNat / 0x40, by omega⟩ ⟨u.toNat % 0x40, by omega⟩
  else
    three ⟨u.toNat / 0x1000, by have := u.toNat_lt; omega⟩ ⟨u.toNat / 0x40 % 0x40, by omega⟩
      ⟨u.toNat % 0x40, by omega⟩

theorem bytes_written (u : CodeUnit) : (written u).bytes = encodeUnit u := by
  simp only [written, encodeUnit]
  split
  · rfl
  · split <;> rfl

theorem value_written (u : CodeUnit) : (written u).value = u.toNat := by
  simp only [written]
  split
  · rfl
  · split <;> simp only [value] <;> omega

theorem unit_written (u : CodeUnit) : (written u).unit = u := by
  rw [unit, value_written, UInt16.ofNat_toNat]

theorem length_bytes_written (u : CodeUnit) : (written u).bytes.length =
    if 0 < u.toNat ∧ u.toNat < 0x80 then 1 else if u.toNat < 0x800 then 2 else 3 := by
  rw [bytes_written]
  simp only [encodeUnit]
  split
  · rfl
  · split <;> rfl

/-- A form is determined by its size and its value. -/
theorem eq_of_value {f g : Form} (size : f.bytes.length = g.bytes.length)
    (value : f.value = g.value) : f = g := by
  cases f <;> cases g <;> simp [bytes] at size <;>
    simp only [Form.value, one.injEq, two.injEq, three.injEq, Fin.ext_iff] at value ⊢ <;> omega

/-- Exactly the regular forms are written. -/
theorem written_unit_iff (f : Form) : written f.unit = f ↔ ¬f.Irregular := by
  have sized : written f.unit = f ↔ (written f.unit).bytes.length = f.bytes.length :=
    ⟨fun same => by rw [same],
      fun size => eq_of_value size ((value_written _).trans f.toNat_unit)⟩
  rw [sized, length_bytes_written, f.toNat_unit]
  cases f with
  | one bits => simp only [bytes, value, Irregular, List.length_cons, List.length_nil]; grind
  | two high low => simp only [bytes, value, Irregular, List.length_cons, List.length_nil]; grind
  | three high middle low =>
    simp only [bytes, value, Irregular, List.length_cons, List.length_nil]
    grind

/-- Only one form can stand at a place. -/
theorem eq_of_holds {b : Bytes} {p : Int} {f g : Form} (hf : b.Holds p f.bytes)
    (hg : b.Holds p g.bytes) : f = g := by
  have same := (readUnit_of_holds f hf).symm.trans (readUnit_of_holds g hg)
  simp only [Except.ok.injEq, Prod.mk.injEq] at same
  exact eq_of_value same.2 (by rw [← f.toNat_unit, ← g.toNat_unit, same.1])

end Form

variable {b : Bytes} {p : Int} {forms forms' : List Form}

/-- Only one sequence of forms can stand at a place, for a given number of them. -/
theorem forms_eq_of_holds (h : b.Holds p (forms.flatMap Form.bytes))
    (h' : b.Holds p (forms'.flatMap Form.bytes)) (number : forms.length = forms'.length) :
    forms = forms' := by
  induction forms generalizing p forms' with
  | nil => exact (List.length_eq_zero_iff.mp number.symm).symm
  | cons f forms ih =>
    cases forms' with
    | nil => simp at number
    | cons g forms' =>
      obtain ⟨here, later⟩ := Bytes.holds_append.mp h
      obtain ⟨here', later'⟩ := Bytes.holds_append.mp h'
      obtain rfl := Form.eq_of_holds here here'
      rw [ih later later' (by simpa using number)]

/-- The same bytes are not made of other forms, for a given number of them. -/
theorem flatMap_bytes_inj (number : forms.length = forms'.length) :
    forms.flatMap Form.bytes = forms'.flatMap Form.bytes ↔ forms = forms' := by
  constructor
  · intro same
    have holds := Bytes.holds_middle [] (forms.flatMap Form.bytes) []
    exact forms_eq_of_holds holds (same ▸ holds) number
  · rintro rfl
    rfl

/-- A text is written in the written forms of its code units. -/
theorem encode_eq (t : Text) : (encode t).1 = (t.units.map Form.written).flatMap Form.bytes := by
  rw [encode, List.flatMap_map]
  exact List.flatMap_congr fun u _ => (Form.bytes_written u).symm

theorem map_unit_written (us : List CodeUnit) : (us.map Form.written).map Form.unit = us := by
  rw [List.map_map]
  exact List.map_id'' Form.unit_written us

/-- What was written is read, up to surrogate pairs, wherever it stands. -/
theorem decode_of_holds (t : Text) (h : b.Holds p (encode t).1) :
    decode b p (encode t).2 = .ok (t.joinPairs, (encode t).1.length) := by
  refine decode_eq_ok.mpr ⟨t.units.map Form.written, ?_, encode_eq t ▸ h, ?_, by rw [encode_eq]⟩
  · simp [encode]
  · rw [map_unit_written, Text.ofUnits_units]

/-- The bytes that were read are written again exactly if all their forms are regular. -/
theorem encode_ofUnits_eq_iff (forms : List Form) :
    (encode (Text.ofUnits (forms.map Form.unit))).1 = forms.flatMap Form.bytes ↔
      ∀ f ∈ forms, ¬f.Irregular := by
  simp only [encode_eq, Text.units_ofUnits, ← Form.written_unit_iff]
  rw [flatMap_bytes_inj (by simp), List.map_map]
  have fixed := List.map_inj_left (l := forms) (f := Form.written ∘ Form.unit) (g := id)
  rwa [List.map_id] at fixed

/-- **Writing and reading are inverse to each other**, up to what each of them leaves open.  A text
that was written is read with its surrogate pairs put together, wherever it stands, which is the
text itself exactly if there is no such pair.  A text that was read has the number of code units
that was asked for and is read again where it is written; it is written in the bytes that were read
exactly if all forms that stand there are regular. -/
theorem decode_encode :
    (∀ t : Text,
      (∀ before after : List UInt8,
        decode (before ++ (encode t).1 ++ after).toArray before.length (encode t).2 =
          .ok (t.joinPairs, (encode t).1.length)) ∧
      (t.joinPairs = t ↔
        t.IsChain fun c d => (c.isHighSurrogate && d.isLowSurrogate) = false)) ∧
    ∀ (b : Bytes) (offset : Int) (n : Nat) (t : Text) (c : Int), decode b offset n = .ok (t, c) →
      (encode t).2 = n ∧
      (∀ before after : List UInt8,
        decode (before ++ (encode t).1 ++ after).toArray before.length n =
          .ok (t, (encode t).1.length)) ∧
      ∃ forms : List Form, forms.length = n ∧ b.Holds offset (forms.flatMap Form.bytes) ∧
        c = (forms.flatMap Form.bytes).length ∧
        (∀ forms' : List Form, forms'.length = n →
          b.Holds offset (forms'.flatMap Form.bytes) → forms' = forms) ∧
        ((encode t).1 = (b.extract offset.toNat (offset + c).toNat).toList ↔
          ∀ f ∈ forms, ¬f.Irregular) := by
  refine ⟨fun t => ⟨fun before after => decode_of_holds t (Bytes.holds_middle before _ after),
    t.joinPairs_eq_self_iff⟩, fun b offset n t c h => ?_⟩
  obtain ⟨forms, number, holds, rfl, rfl⟩ := decode_eq_ok.mp h
  have units : (Text.ofUnits (forms.map Form.unit)).units = forms.map Form.unit :=
    Text.units_ofUnits _
  have counted : (encode (Text.ofUnits (forms.map Form.unit))).2 = n := by
    rw [encode, units, List.length_map, number]
  refine ⟨counted, fun before after => ?_, forms, number, holds, rfl, ?_, ?_⟩
  · -- a text made of code units has no pair left
    have joined : (Text.ofUnits (forms.map Form.unit)).joinPairs =
        Text.ofUnits (forms.map Form.unit) := by
      rw [← Text.ofUnits_units, units]
    have read := decode_of_holds (Text.ofUnits (forms.map Form.unit))
      (Bytes.holds_middle before _ after)
    rwa [counted, joined] at read
  · intro forms' number' holds'
    exact forms_eq_of_holds holds' holds (number'.trans number.symm)
  · rw [holds.toList_extract]
    exact encode_ofUnits_eq_iff forms

/-- A letter in two bytes and a surrogate pair: the letter is written again in one byte. -/
theorem decode_encode_overlong :
    decode #[0xC1, 0x81, 0xED, 0xA0, 0xBD, 0xED, 0xB8, 0x80] 0 3 = .ok ([0x41, 0x1F600], 8) ∧
      (encode [0x41, 0x1F600]).2 = 3 ∧
      decode (encode [0x41, 0x1F600]).1.toArray 0 3 = .ok ([0x41, 0x1F600], 7) ∧
      (encode [0x41, 0x1F600]).1 ≠ [0xC1, 0x81, 0xED, 0xA0, 0xBD, 0xED, 0xB8, 0x80] := by
  have read : decode #[0xC1, 0x81, 0xED, 0xA0, 0xBD, 0xED, 0xB8, 0x80] 0 3 =
      .ok ([0x41, 0x1F600], 8) := by rfl
  obtain ⟨counted, again, forms, _, _, _, only, regular⟩ := decode_encode.2 _ _ _ _ _ read
  obtain rfl := only [.two 1 1, .three 0xD 0x20 0x3D, .three 0xD 0x38 0] rfl
    (by unfold Bytes.Holds; decide)
  refine ⟨read, counted, again [] [], fun same => ?_⟩
  exact regular.mp same (.two 1 1) (by simp) (by decide)

end Mutf8

end DexDiscovery
