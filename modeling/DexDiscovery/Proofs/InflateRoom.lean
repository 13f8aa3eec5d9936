import DexDiscovery.Proofs.EntryData

/-!
# The room that inflated data fill

The inflater has room for one more portion in each turn, and may leave some of the data unread.  It
then has filled the room: `Fills` says so of a single step, and is handed on from step to step
(`Fills.bind`) up to the blocks (`fills_readBlocks`).  So the inflater goes on writing where it does
not go on reading (`proceeds_decoder`).

The other decoders leave nothing unread, so that reading an entry comes to its end with each of them
(`decode_of_known`).
-/

namespace DexDiscovery

namespace Archive

namespace Inflate

open BitReader (M)

variable {α β : Type} {input : Bytes} {room : Nat} {x : M α} {f : α → M β}

/-! ## Steps -/

/-- A step that stops for want of room has written up to the room. -/
def Fills (room : Nat) (x : M α) : Prop :=
  ∀ s t, x.run s = .error .full t → room ≤ t.output.size

theorem Fills.bind (hx : Fills room x) (hf : ∀ a, Fills room (f a)) : Fills room (x >>= f) := by
  intro s t h
  rcases run_bind_eq_error.mp h with h | ⟨a, m, _, h⟩
  · exact hx s t h
  · exact hf a m t h

theorem fills_pure {a : α} : Fills room (pure a : M α) :=
  fun _ _ h => by cases h

theorem fills_throw {stop : Stop} (other : stop ≠ .full) : Fills room (throw stop : M α) := by
  intro s t h
  cases h
  exact absurd rfl other

/-- A check does not write, and refuses the data. -/
theorem fills_check {c : Prop} [Decidable c] {k : PUnit → M β} (hk : ∀ u, Fills room (k u)) :
    Fills room (if c then throw .invalid >>= k else k ()) := by
  split
  · exact (fills_throw (by decide)).bind hk
  · exact hk ()

/-! ## Reading and writing -/

theorem fills_bit : Fills room (bit input) := by
  intro s t h
  simp only [EStateM.run, bit, BitReader.bit] at h
  split at h
  · cases h
  · cases h

theorem fills_bits {count : Nat} : Fills room (bits input count) := by
  induction count with
  | zero => exact fills_pure
  | succ count ih => exact fills_bit.bind fun _ => ih.bind fun _ => fills_pure

theorem fills_align : Fills room BitReader.align := fun _ _ h => by cases h

theorem fills_demandRoom : Fills room (demandRoom room) := by
  intro s t h
  simp only [EStateM.run, demandRoom] at h
  split at h
  · cases h
  · cases h
    omega

theorem fills_write {byte : UInt8} : Fills room (write room byte) :=
  fills_demandRoom.bind fun _ _ _ h => by cases h

theorem size_copyBytes {distance length : Nat} {output : Bytes} :
    (copyBytes distance length output).size = output.size + length := by
  induction length generalizing output with
  | zero => rfl
  | succ length ih =>
    rw [copyBytes, ih, Array.size_push]
    omega

theorem fills_writeMatch {length distance : Nat} : Fills room (writeMatch room length distance) := by
  refine fills_demandRoom.bind fun _ s t h => ?_
  simp only [EStateM.run] at h
  split at h
  · cases h
  · split at h
    · cases h
      simp only [size_copyBytes]
      omega
    · cases h

theorem fills_readFrom {symbols : Array Nat} {counts : List Nat} {word first index : Nat} :
    Fills room (PrefixCode.readFrom (bit input) symbols counts word first index) := by
  induction counts generalizing word first index with
  | nil => exact fills_throw nofun
  | cons count rest ih =>
    refine fills_bit.bind fun _ => ?_
    dsimp only
    split
    · split
      · exact fills_pure
      · exact fills_throw nofun
    · exact ih

theorem fills_symbolValue {symbols : Array (Nat × Nat)} {symbol : Nat} :
    Fills room (symbolValue input symbols symbol) := by
  unfold symbolValue
  split
  · exact fills_throw nofun
  · exact fills_bits.bind fun _ => fills_pure

theorem fills_readSymbols {literals distances : PrefixCode} {fuel : Nat} :
    Fills room (readSymbols input room literals distances fuel) := by
  induction fuel with
  | zero => exact fills_throw nofun
  | succ fuel ih =>
    refine fills_readFrom.bind fun symbol => ?_
    split
    · exact fills_write.bind fun _ => ih
    · split
      · exact fills_pure
      · exact fills_symbolValue.bind fun _ => fills_readFrom.bind fun _ =>
          fills_symbolValue.bind fun _ => fills_writeMatch.bind fun _ => ih

/-! ## Blocks -/

theorem fills_readStored {count : Nat} : Fills room (readStored input room count) := by
  induction count with
  | zero => exact fills_pure
  | succ count ih =>
    exact fills_demandRoom.bind fun _ => fills_bits.bind fun _ => fills_write.bind fun _ => ih

theorem fills_readStoredBlock : Fills room (readStoredBlock input room) :=
  fills_align.bind fun _ => fills_bits.bind fun _ => fills_bits.bind fun _ =>
    fills_check fun _ => fills_readStored

theorem fills_readThrees {count : Nat} : Fills room (readThrees input count) := by
  induction count with
  | zero => exact fills_pure
  | succ count ih => exact fills_bits.bind fun _ => ih.bind fun _ => fills_pure

theorem fills_readLength {code : PrefixCode} : Fills room (readLength input code) := by
  unfold readLength
  split
  · exact fills_bit.bind fun _ => fills_pure
  · exact fills_readFrom

theorem fills_codeOf {single : Bool} {lengths : List Nat} : Fills room (codeOf single lengths) := by
  unfold codeOf
  split
  · exact fills_pure
  · exact fills_throw nofun

theorem fills_readRepeated {last? : Option Nat} {symbol : Nat} :
    Fills room (readRepeated input last? symbol) := by
  unfold readRepeated
  split
  · split
    · exact fills_bits.bind fun _ => fills_pure
    · exact fills_bits.bind fun _ => fills_throw nofun
  · split
    · exact fills_bits.bind fun _ => fills_pure
    · exact fills_bits.bind fun _ => fills_pure

theorem fills_readLengths {code : PrefixCode} {total fuel : Nat} {read : List Nat} :
    Fills room (readLengths input code total fuel read) := by
  induction fuel generalizing read with
  | zero => exact fills_pure
  | succ fuel ih =>
    unfold readLengths
    split
    · exact fills_pure
    · refine fills_readLength.bind fun symbol => ?_
      split
      · exact ih
      · exact fills_readRepeated.bind fun _ => fills_check fun _ => ih

theorem fills_readCodes : Fills room (readCodes input) := by
  refine fills_bits.bind fun _ => fills_bits.bind fun _ => fills_bits.bind fun _ => ?_
  dsimp only
  refine fills_check fun _ => fills_readThrees.bind fun _ => fills_codeOf.bind fun _ =>
    fills_readLengths.bind fun _ => fills_check fun _ => ?_
  exact fills_codeOf.bind fun _ => fills_codeOf.bind fun _ => fills_pure

theorem fills_readBlock {kind : Nat} : Fills room (readBlock input room kind) := by
  unfold readBlock
  split
  · exact fills_readStoredBlock
  · split
    · split
      · exact fills_readSymbols
      · exact fills_throw nofun
    · split
      · exact fills_readCodes.bind fun _ => fills_readSymbols
      · exact fills_throw nofun

theorem fills_readBlocks {fuel : Nat} : Fills room (readBlocks input room fuel) := by
  induction fuel with
  | zero => exact fills_throw nofun
  | succ fuel ih =>
    refine fills_bit.bind fun last => fills_bits.bind fun kind => fills_readBlock.bind fun _ => ?_
    split
    · exact fills_pure
    · exact ih

/-! ## All data -/

/-- Where there is no room for the next byte, the room has been filled. -/
theorem le_size_of_run {s : BitReader} (h : run input room = (some .full, s)) :
    room ≤ s.output.size := by
  unfold run at h
  split at h
  · cases h
  · rename_i stopped
    cases h
    exact fills_readBlocks _ _ stopped

/-- What is left unread is left for want of room, and the room is more than what was there. -/
theorem proceeds_decoder : Proceeds decoder := by
  intro data all written now h left
  unfold decoder at h
  split at h
  · cases h
  · cases h
    exact absurd rfl left
  · cases h
    exact absurd rfl left
  · rename_i s stopped
    have filled := le_size_of_run stopped
    have some : 0 < portion := by decide
    dsimp only at h
    split at h
    · cases h
      exact absurd rfl left
    · cases h
      dsimp only
      omega

end Inflate

theorem proceeds_of_known {decoder : Decoder} {method : Nat}
    (known : decoder? method = some decoder) : Proceeds decoder := by
  intro data all written now h left
  rcases decoder?_eq_some known with ⟨_, rfl⟩ | ⟨_, rfl⟩ | ⟨_, rfl⟩ | ⟨_, rfl⟩
  · cases h
    exact absurd rfl left
  · exact Inflate.proceeds_decoder data all written now h left
  · unfold Bzip2.decoder at h
    grind
  · unfold Lzma.decoder at h
    grind

/-- **Reading an entry comes to its end**, whatever the method and the data: the content is that of
a loop with any greater number of turns. -/
theorem decode_of_known {decoder : Decoder} {method claimed size fuel : Nat} {data : Bytes}
    (known : decoder? method = some decoder) (enough : (claimed + 1) * (size + 2) ≤ fuel) :
    decode decoder data claimed size =
      (decodeFrom decoder data claimed size fuel 0 {}).map (·.extract 0 size) :=
  decode_of_enough (proceeds_of_known known) enough

end Archive

end DexDiscovery
