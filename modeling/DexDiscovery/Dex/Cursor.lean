import DexDiscovery.Dex.Read

/-!
# Sequential reads

A cursor is a buffer with a position.  The position moves by a successful `seek` and by a
successful varint read, and by nothing else; in particular a failing step leaves it where it was.
-/

namespace DexDiscovery

/-- A buffer and the place where the next sequential read begins. -/
structure Cursor where
  bytes : Bytes
  position : Int := 0
deriving DecidableEq, Repr

/-- Steps that read from a cursor: each answers or fails, and leaves a cursor in either case. -/
abbrev CursorM := EStateM DexError Cursor

namespace Cursor

/-- Moves to `offset`, which must lie in the buffer or at its end. -/
def seek (offset : Int) : CursorM Unit := fun c =>
  if 0 ≤ offset ∧ offset ≤ c.bytes.size then .ok () { c with position := offset }
  else .error (.outOfBounds offset 0 c.bytes.size) c

/-- Reads the varint at the position and moves past it. -/
def readVarint : CursorM Nat := fun c =>
  match c.bytes.varint c.position with
  | .ok (value, count) => .ok value { c with position := c.position + count }
  | .error e => .error e c

/-- Runs one step `count` times; `read` holds what came before, last first. -/
def readManyOnto {α : Type} (step : CursorM α) : (count : Nat) → (read : List α) →
    CursorM (List α)
  | 0, read => pure read.reverse
  | count + 1, read => do
    let x ← step
    readManyOnto step count (x :: read)

/-- Runs one step `count` times and collects the answers in order. -/
def readMany {α : Type} (count : Nat) (step : CursorM α) : CursorM (List α) :=
  readManyOnto step count []

/-! ## Requests -/

/-- What can be asked of a cursor: reads at an offset, which leave its position alone, and the two
steps that move it. -/
inductive Request where
  | u8 (offset : Int)
  | u16 (offset : Int)
  | u32 (offset : Int)
  | slice (offset size : Int)
  | varint (offset : Int)
  | seek (offset : Int)
  | readVarint
deriving DecidableEq, Repr

/-- What a cursor answers. -/
inductive Reply where
  | number (n : Nat)
  | bytes (b : Bytes)
  /-- A varint with the number of its bytes. -/
  | varint (value count : Nat)
  | moved
deriving DecidableEq, Repr

/-- Answers a read at an offset, or runs a step. -/
def step : Request → CursorM Reply
  | .u8 offset => numberAt offset Bytes.u8
  | .u16 offset => numberAt offset Bytes.u16
  | .u32 offset => numberAt offset Bytes.u32
  | .slice offset size => fun c =>
    match c.bytes.slice offset size with
    | .ok b => .ok (.bytes b) c
    | .error e => .error e c
  | .varint offset => fun c =>
    match c.bytes.varint offset with
    | .ok (value, count) => .ok (.varint value count) c
    | .error e => .error e c
  | .seek offset => do
    seek offset
    return .moved
  | .readVarint => return .number (← readVarint)
where
  /-- A number read at an offset. -/
  numberAt (offset : Int) (read : Bytes → Int → Except DexError Nat) : CursorM Reply := fun c =>
    match read c.bytes offset with
    | .ok n => .ok (.number n) c
    | .error e => .error e c

/-- The answer to a request and the cursor after it. -/
def serve (c : Cursor) (request : Request) : Except DexError Reply × Cursor :=
  match (step request).run c with
  | .ok reply after => (.ok reply, after)
  | .error e after => (.error e, after)

end Cursor

end DexDiscovery
