import DexDiscovery.Dex.Cursor
import DexDiscovery.Proofs.Varints
import Mathlib.Data.Nat.Digits.Defs

/-!
# Runs of a cursor

A cursor is asked one thing after another, with any offsets, and some of the answers are failures.
`turns` records such a run: what was asked, what was answered, and the cursor before and after it.

`Move` lists all the ways in which a turn can treat the position.  It changes by a successful `seek`,
to the offset asked for, and by reading a varint, by the bytes that were read; a failing turn and a
read at an offset leave it where it was.  `Turn.Safe` adds what the answers of reads are and where
the position can be.  Every turn of every run is safe (`safe_turns`), wherever the cursor has been
put at the beginning: a position outside the buffer, which nobody checks, stays there until the first
successful `seek`, because nothing can be read from it.
-/

namespace DexDiscovery

theorem littleEndian_eq_ofDigits (run : List UInt8) :
    littleEndian run = Nat.ofDigits 256 (run.map UInt8.toNat) := by
  induction run with
  | nil => rfl
  | cons byte rest ih => rw [littleEndian, ih, List.map_cons, Nat.ofDigits_cons]

namespace Cursor

/-! ## Turns -/

/-- One turn of a run. -/
structure Turn where
  before : Cursor
  request : Request
  answer : Except DexError Reply
  after : Cursor

/-- The turn in which a cursor is asked for something. -/
def turn (c : Cursor) (request : Request) : Turn where
  before := c
  request := request
  answer := (c.serve request).1
  after := (c.serve request).2

/-- The turns of a run, one for each request. -/
def turns : Cursor → List Request → List Turn
  | _, [] => []
  | c, request :: rest => turn c request :: turns (c.serve request).2 rest

/-- The requests that name the offset that is read at. -/
def Request.Absolute : Request → Prop
  | .u8 _ | .u16 _ | .u32 _ | .slice _ _ | .varint _ => True
  | .seek _ | .readVarint => False

/-- Where a turn over the buffer `b` leads from the position `p`, by its request and its answer. -/
inductive Move (b : Bytes) (p : Int) : Request → Except DexError Reply → Int → Prop where
  | sought {offset : Int} (within : 0 ≤ offset ∧ offset ≤ b.size) :
      Move b p (.seek offset) (.ok .moved) offset
  | read {code : List UInt8} {value : Nat} (spells : IsVarint code value) (holds : b.Holds p code)
      (within : 0 ≤ p ∧ p + code.length ≤ b.size) :
      Move b p .readVarint (.ok (.number value)) (p + code.length)
  | stayed {request : Request} {reply : Reply} (absolute : request.Absolute) :
      Move b p request (.ok reply) p
  | failed {request : Request} {e : DexError} : Move b p request (.error e) p

/-- The answer to a request for the number of `width` bytes at `offset`: if they lie in the buffer,
the number whose base-256 digits they are, least significant first. -/
structure ReadsNumber (b : Bytes) (width : Nat) (offset : Int) (answer : Except DexError Reply) :
    Prop where
  within : 0 ≤ offset ∧ offset + width ≤ b.size → ∃ run, run.length = width ∧
    b.Holds offset run ∧ answer = .ok (.number (Nat.ofDigits 256 (run.map UInt8.toNat)))
  beyond : ¬ (0 ≤ offset ∧ offset + width ≤ b.size) →
    answer = .error (.outOfBounds offset width b.size)

/-- What holds of each turn of a run over the buffer `b` that began at the position `start`. -/
structure Turn.Safe (b : Bytes) (start : Int) (t : Turn) : Prop where
  /-- The buffer is always the same. -/
  buffer : t.before.bytes = b ∧ t.after.bytes = b
  /-- The position goes where the answer says, and a failing turn leaves it where it was. -/
  move : Move b t.before.position t.request t.answer t.after.position
  /-- The position is the first one or lies in the buffer or at its end. -/
  place : t.after.position = start ∨ 0 ≤ t.after.position ∧ t.after.position ≤ b.size
  /-- A read at an offset has the same answer at every position. -/
  absolute : t.request.Absolute → ∀ position,
    (serve { bytes := b, position } t.request).1 = t.answer
  /-- Numbers of one, two and four bytes are read exactly where they lie in the buffer. -/
  numbers : ∀ (offset : Int) (width : Nat),
    (width, t.request) ∈ [(1, Request.u8 offset), (2, .u16 offset), (4, .u32 offset)] →
      ReadsNumber b width offset t.answer

variable {b : Bytes} {c : Cursor} {request : Request} {start offset : Int} {width : Nat}

/-! ## What a cursor answers -/

/-- A number at an offset is read without the position. -/
theorem serve_number {read : Bytes → Int → Except DexError Nat}
    (h : step request = step.numberAt offset read) :
    c.serve request = ((read c.bytes offset).map .number, c) := by
  simp only [serve, h, EStateM.run, step.numberAt]
  cases read c.bytes offset <;> rfl

theorem serve_slice (offset size : Int) :
    c.serve (.slice offset size) = ((c.bytes.slice offset size).map .bytes, c) := by
  simp only [serve, step, EStateM.run]
  cases c.bytes.slice offset size <;> rfl

theorem serve_varint (offset : Int) :
    c.serve (.varint offset) =
      ((c.bytes.varint offset).map fun (value, count) => .varint value count, c) := by
  simp only [serve, step, EStateM.run]
  cases c.bytes.varint offset <;> rfl

theorem serve_seek (offset : Int) : c.serve (.seek offset) =
    if 0 ≤ offset ∧ offset ≤ c.bytes.size then (.ok .moved, { c with position := offset })
    else (.error (.outOfBounds offset 0 c.bytes.size), c) := by
  by_cases within : 0 ≤ offset ∧ offset ≤ c.bytes.size
  · have moves : seek offset c = .ok () { c with position := offset } := if_pos within
    simp only [serve, step, EStateM.run, bind, EStateM.bind, moves, if_pos within]
    rfl
  · have fails : seek offset c = .error (.outOfBounds offset 0 c.bytes.size) c := if_neg within
    simp only [serve, step, EStateM.run, bind, EStateM.bind, fails, if_neg within]

theorem serve_readVarint : c.serve .readVarint =
    match c.bytes.varint c.position with
    | .ok (value, count) => (.ok (.number value), { c with position := c.position + count })
    | .error e => (.error e, c) := by
  simp only [serve, step, EStateM.run, bind, EStateM.bind, readVarint]
  cases c.bytes.varint c.position <;> rfl

/-- A read at an offset does not ask for the position and leaves it where it is. -/
theorem serve_absolute (absolute : request.Absolute) (position : Int) :
    serve { c with position } request = ((c.serve request).1, { c with position }) := by
  cases request with
  | u8 offset => rw [serve_number rfl, serve_number rfl]
  | u16 offset => rw [serve_number rfl, serve_number rfl]
  | u32 offset => rw [serve_number rfl, serve_number rfl]
  | slice offset size => rw [serve_slice, serve_slice]
  | varint offset => rw [serve_varint, serve_varint]
  | seek offset => exact absolute.elim
  | readVarint => exact absolute.elim

theorem readsNumber_word (b : Bytes) (width : Nat) (offset : Int) :
    ReadsNumber b width offset ((b.word width offset).map .number) where
  within := by
    rintro ⟨inside, long⟩
    obtain ⟨n, rfl⟩ := Int.eq_ofNat_of_zero_le inside
    have bound : n + width ≤ b.size := by omega
    have length : (b.extract n (n + width)).toList.length = width := by
      rw [Array.length_toList, Array.size_extract]
      omega
    refine ⟨(b.extract n (n + width)).toList, length, ?_, ?_⟩
    · apply (Bytes.holds_iff_toList_extract (by omega)).mpr
      rw [length]
    · rw [Bytes.word_of_within bound, Bytes.wordAt, littleEndian_eq_ofDigits]
      rfl
  beyond := by
    intro outside
    rw [Bytes.word, Bytes.slice, if_neg outside]
    rfl

/-! ## One turn -/

/-- All that one turn can do to a cursor: it moves the position in one of these ways. -/
theorem exists_move (c : Cursor) (request : Request) : ∃ answer position,
    c.serve request = (answer, { c with position }) ∧
      Move c.bytes c.position request answer position := by
  by_cases absolute : request.Absolute
  · refine ⟨_, _, serve_absolute absolute c.position, ?_⟩
    cases (c.serve request).1 with
    | ok reply => exact .stayed absolute
    | error e => exact .failed
  · cases request with
    | seek offset =>
      rw [serve_seek]
      by_cases within : 0 ≤ offset ∧ offset ≤ c.bytes.size
      · rw [if_pos within]
        exact ⟨_, _, rfl, .sought within⟩
      · rw [if_neg within]
        exact ⟨_, _, rfl, .failed⟩
    | readVarint =>
      rw [serve_readVarint]
      cases found : c.bytes.varint c.position with
      | ok read =>
        obtain ⟨value, count⟩ := read
        obtain ⟨code, spells, holds, rfl⟩ := Bytes.varint_eq_ok.mp found
        have nonempty : code ≠ [] := List.ne_nil_of_length_pos spells.spells.length_pos
        exact ⟨_, _, rfl, .read spells holds (holds.within nonempty)⟩
      | error e => exact ⟨_, _, rfl, .failed⟩
    | _ => exact absurd trivial absolute

/-- The requests for numbers are one request with three widths. -/
theorem readsNumber_serve (asked : (width, request) ∈
    [(1, Request.u8 offset), (2, .u16 offset), (4, .u32 offset)]) :
    ReadsNumber c.bytes width offset (c.serve request).1 := by
  simp only [List.mem_cons, Prod.mk.injEq, List.not_mem_nil, or_false] at asked
  rcases asked with ⟨rfl, rfl⟩ | ⟨rfl, rfl⟩ | ⟨rfl, rfl⟩
  all_goals
    rw [serve_number rfl]
    exact readsNumber_word c.bytes _ offset

/-- A position in the buffer stays there, and one outside is left only for one in the buffer. -/
theorem Move.place {p q : Int} {answer : Except DexError Reply} (move : Move b p request answer q)
    (place : p = start ∨ 0 ≤ p ∧ p ≤ b.size) : q = start ∨ 0 ≤ q ∧ q ≤ b.size := by
  cases move with
  | sought within => exact .inr within
  | read _ _ within => exact .inr ⟨by omega, within.2⟩
  | stayed _ => exact place
  | failed => exact place

/-- What one turn preserves: the buffer, and a position that is the first one or in the buffer. -/
theorem safe_turn (bytes : c.bytes = b) (place : c.position = start ∨
    0 ≤ c.position ∧ c.position ≤ b.size) (request : Request) : (turn c request).Safe b start := by
  subst bytes
  obtain ⟨answer, position, served, move⟩ := exists_move c request
  have turned : turn c request = ⟨c, request, answer, { c with position }⟩ := by
    rw [turn, served]
  rw [turned]
  refine ⟨⟨rfl, rfl⟩, move, move.place place, ?_, ?_⟩
  · intro absolute position
    rw [serve_absolute absolute position, served]
  · intro offset width asked
    have reads := readsNumber_serve (c := c) asked
    rwa [served] at reads

/-! ## A whole run -/

theorem safe_turns_of_place (requests : List Request) (bytes : c.bytes = b)
    (place : c.position = start ∨ 0 ≤ c.position ∧ c.position ≤ b.size) :
    ∀ t ∈ turns c requests, t.Safe b start := by
  induction requests generalizing c with
  | nil => exact List.forall_mem_nil _
  | cons request rest ih =>
    have first := safe_turn bytes place request
    rw [turns, List.forall_mem_cons]
    exact ⟨first, ih first.buffer.2 first.place⟩

/-- **Every turn of every run is safe**, wherever the cursor stood at the beginning. -/
theorem safe_turns (b : Bytes) (start : Int) (requests : List Request) :
    ∀ t ∈ turns { bytes := b, position := start } requests, t.Safe b start :=
  safe_turns_of_place requests rfl (.inl rfl)

end Cursor

namespace Sample

/-- A varint of two bytes and one that is cut off. -/
def cutVarints : Bytes := #[0x80, 0x01, 0xFF]

end Sample

namespace Cursor

/-- From a position before the buffer nothing is read, and no `seek` goes past the end; once the
first byte has been reached, the number that begins there is read. -/
theorem safe_from_outside :
    ∃ t ∈ turns { bytes := Sample.cutVarints, position := -2 }
        [.readVarint, .seek 4, .seek 0, .readVarint],
      t.request = .readVarint ∧ t.answer = .ok (.number 128) ∧ t.after.position = 2 ∧
        t.Safe Sample.cutVarints (-2) := by
  have asked : turn { bytes := Sample.cutVarints, position := 0 } .readVarint ∈
      turns { bytes := Sample.cutVarints, position := -2 }
        [.readVarint, .seek 4, .seek 0, .readVarint] := List.mem_of_getElem? (i := 3) rfl
  exact ⟨_, asked, rfl, rfl, rfl, safe_turns Sample.cutVarints (-2) _ _ asked⟩

end Cursor

end DexDiscovery
