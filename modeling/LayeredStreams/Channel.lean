import LayeredStreams.Stream

/-!
# Byte channels

The small interface that programs for any source or sink of bytes are written against: read some
bytes, write some and be told how many were taken, flush, seek. Every stream is a channel. A program
that is suspended while it waits has no token to be cancelled by.

* `Channel.mode` — how a transfer of a channel waits.
* `Channel.read`, `Channel.write`, `Channel.flush`, `Channel.seek` — the interface.

Principal result: `write_eq`: a channel write takes all bytes or none.
-/

set_option autoImplicit false

namespace LayeredStreams.Channel

variable {ω σ : Type} [ByteStream ω σ]

/-- How a transfer waits: the caller waits, or is suspended with a fresh token. -/
def mode (suspended : Bool) : Mode := if suspended then .suspending .never else .blocking

/-- Read at most `room` bytes. -/
def read (suspended : Bool) (room : Nat) : StreamM ω σ Bytes :=
  ByteStream.read (mode suspended) room

/-- Write `data`, and say how many bytes were taken. -/
def write (suspended : Bool) (data : Bytes) : StreamM ω σ Nat := do
  ByteStream.write (mode suspended) data
  return data.length

/-- Hand buffered changes on. -/
def flush (suspended : Bool) : StreamM ω σ Unit := ByteStream.flush (mode suspended)

/-- Move the cursor to a seek target, and say where that is. -/
def seek (target : SeekTarget) : StreamM ω σ Nat := ByteStream.seek target

theorem write_eq (suspended : Bool) (data : Bytes) :
    (write suspended data : StreamM ω σ Nat) =
      (fun _ => data.length) <$> ByteStream.write (mode suspended) data := by
  simp [write]

end LayeredStreams.Channel
