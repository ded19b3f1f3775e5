import LayeredStreams.Stream

/-!
# Whole transfers

A single read may give fewer bytes than asked for. The transfers here go on until a buffer is full
or a content is at its end.

* `Filled` — the bytes that came before a fill ended, and the failure that ended it, if any.
* `fill`, `fillExactly` — fill a buffer; in the second form a short fill is a failure.
* `checkRange` — whether a part of a buffer lies inside it; `readRange` and `writeRange` transfer
  such a part.
* `readToEnd` — all bytes from the cursor on.
* `copy` — everything from the cursor of one stream on, written to another.

All of them stop at the first read that gives nothing. A stream holds at most `readLimit` bytes,
which bounds the number of reads that give something.

Principal result: `checkRange_eq_ok_iff` says exactly which parts of a buffer lie inside it.
-/

set_option autoImplicit false

namespace LayeredStreams

/-- The outcome of filling a buffer. -/
structure Filled where
  bytes : Bytes
  /-- What ended the fill early, unless the buffer is full or the content at its end. -/
  failure : Option StreamError
  deriving DecidableEq, Repr

namespace Filled

/-- A fill that ended without failure before any byte came. -/
def nothing : Filled := ⟨[], none⟩

/-- A fill that failed before any byte came. -/
def failed (e : StreamError) : Filled := ⟨[], some e⟩

/-- The fill with more bytes before it. -/
def after (bytes : Bytes) (filled : Filled) : Filled :=
  { filled with bytes := bytes ++ filled.bytes }

/-- The fill as an outcome. -/
def outcome (filled : Filled) : Except StreamError Bytes :=
  match filled.failure with
  | none => .ok filled.bytes
  | some e => .error e

/-- The fill, where fewer than `room` bytes are a failure. -/
def complete (room : Nat) (filled : Filled) : Filled :=
  match filled.failure with
  | some _ => filled
  | none =>
    if filled.bytes.length < room then
      { filled with failure := some (.refusal (.endOfStream room filled.bytes.length)) }
    else filled

end Filled

/-- Whether `count` places from `offset` on lie inside a buffer of `size` places. -/
def checkRange (size offset count : Nat) : Except Refusal Unit :=
  if size < offset then .error (.argumentOutOfRange "offset" offset)
  else if size - offset < count then
    .error (.invalidArgument "offset and count exceed the buffer length")
  else .ok ()

theorem checkRange_eq_ok_iff {size offset count : Nat} :
    checkRange size offset count = .ok () ↔ offset + count ≤ size := by
  unfold checkRange
  split
  · constructor
    · intro h; cases h
    · intro h; omega
  · split
    · constructor
      · intro h; cases h
      · intro h; omega
    · constructor
      · intro _; omega
      · intro _; rfl

/-- The number of bytes that one read of a copy asks for. -/
def copyBufferSize : Nat := 81920

/-- The number of bytes that one read to the end asks for. -/
def chunkSize : Nat := 4096

/-- A bound on the bytes that a stream holds: one for each machine word. -/
def readLimit : Nat := maxWord + 1

section

variable {ω σ τ : Type} [Cancellation ω] [ByteStream ω σ] [ByteStream ω τ]

/-- A suspending transfer looks at its token before each read. -/
def readAdmitted (mode : Mode) (room : Nat) : StreamM ω σ Bytes := do
  mode.checkToken
  ByteStream.read mode room

/-- Read until `room` bytes came, a read gives nothing, or one fails; at most `reads` times. -/
def fillWithin (mode : Mode) : (reads room : Nat) → StreamM ω σ Filled
  | 0, _ => return .nothing
  | reads + 1, room =>
    if room = 0 then return .nothing
    else do
      match ← StreamM.attempt (readAdmitted mode room) with
      | .error e => return .failed e
      | .ok [] => return .nothing
      | .ok bytes => return (← fillWithin mode reads (room - bytes.length)).after bytes

/-- Fill a buffer of `room` places. Each read that does not end the fill takes a place at least. -/
def fill (mode : Mode) (room : Nat) : StreamM ω σ Filled := fillWithin mode room room

/-- Fill a buffer of `room` places; it is a failure if the content ends before. -/
def fillExactly (mode : Mode) (room : Nat) : StreamM ω σ Filled :=
  return (← fill mode room).complete room

/-- Read at most `count` bytes for the places from `offset` on of a buffer of `size` places. -/
def readRange (size offset count : Nat) : StreamM ω σ Bytes := do
  StreamM.ofExcept (checkRange size offset count)
  ByteStream.read .blocking count

/-- Write `count` bytes of `data`, from `offset` on. -/
def writeRange (data : Bytes) (offset count : Nat) : StreamM ω σ Unit := do
  StreamM.ofExcept (checkRange data.length offset count)
  ByteStream.write .blocking (data.window offset count)

/-- All bytes from the cursor on, in at most `reads` reads. -/
def readToEndWithin : (reads : Nat) → StreamM ω σ Bytes
  | 0 => return []
  | reads + 1 => do
    match ← ByteStream.read .blocking chunkSize with
    | [] => return []
    | bytes => return bytes ++ (← readToEndWithin reads)

/-- All bytes from the cursor on. -/
def readToEnd : StreamM ω σ Bytes := readToEndWithin readLimit

/-- Run a computation on the first of two streams. -/
def onSource {α : Type} (act : StreamM ω σ α) : StreamM ω (σ × τ) α :=
  StreamM.within Prod.fst (fun source pair => (source, pair.2)) act

/-- Run a computation on the second of two streams. -/
def onDestination {α : Type} (act : StreamM ω τ α) : StreamM ω (σ × τ) α :=
  StreamM.within Prod.snd (fun destination pair => (pair.1, destination)) act

/-- Write everything from the cursor of the first stream on to the second, in at most `reads` reads.
The answer is the number of bytes copied. -/
def copyWithin (mode : Mode) : (reads : Nat) → StreamM ω (σ × τ) Nat
  | 0 => return 0
  | reads + 1 => do
    match ← onSource (ByteStream.read mode copyBufferSize) with
    | [] => return 0
    | bytes =>
      onDestination (ByteStream.write mode bytes)
      return bytes.length + (← copyWithin mode reads)

/-- Write everything from the cursor of the first stream on to the second. -/
def copy (mode : Mode) : StreamM ω (σ × τ) Nat := copyWithin mode readLimit

end

end LayeredStreams
