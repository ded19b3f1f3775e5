import LayeredStreams.Stream

/-!
# Streams of zeros

A stream that keeps no content: reading gives zero bytes up to its length, writing moves the cursor
and makes the stream as long as that takes.

* `Zeros` — the cursor, the length and whether the stream was disposed.
* `Zeros.perform` — its answers. Suspending transfers look at the token first and at disposal
  second.

Principal results: `opened_of_disposed` and `opened_of_open` (disposal is looked at in one place),
`take_of_open` (a read gives as many zeros as fit) and `cover_of_open` (how far a write leads).
-/

set_option autoImplicit false

namespace LayeredStreams

/-- A stream of zeros. -/
structure Zeros where
  cursor : Nat
  size : Nat
  disposed : Bool
  deriving DecidableEq, Repr

namespace Zeros

/-- A stream of `size` zeros, with the cursor at the start. -/
def ofSize (size : Nat) : Zeros := ⟨0, size, false⟩

/-- Whether the stream has no bytes. -/
def isEmpty (zeros : Zeros) : Bool := zeros.size == 0

variable {ω : Type}

/-- The stream, unless it was disposed. -/
def opened : StreamM ω Zeros Zeros := do
  let zeros ← StreamM.state
  if zeros.disposed then StreamM.refuse .disposed else return zeros

/-- At most `room` zeros, as far as the length goes. -/
def take (room : Nat) : StreamM ω Zeros Bytes := do
  let zeros ← opened
  let count := min room (zeros.size - zeros.cursor)
  StreamM.update fun z => { z with cursor := z.cursor + count }
  return Bytes.zeros count

/-- Move over `count` bytes, making the stream longer if need be. -/
def cover (count : Nat) : StreamM ω Zeros Unit := do
  let zeros ← opened
  let reach := zeros.cursor + count
  if reach ≤ maxPosition then
    StreamM.update fun z => { z with cursor := reach, size := max z.size reach }
  else StreamM.refuse .overflow

/-- The answer of a stream of zeros to a request. -/
def perform [Cancellation ω] : (request : Request) → StreamM ω Zeros request.Answer
  | .position => do return (← opened).cursor
  | .setPosition target => do
    let _ ← opened
    if target ≤ maxPosition then StreamM.update fun z => { z with cursor := target }
    else StreamM.refuse (.argumentOutOfRange "position" target)
  | .length => do return (← opened).size
  | .setLength size => do
    let _ ← opened
    if size ≤ maxPosition then
      StreamM.update fun z => { z with size := size, cursor := min z.cursor size }
    else StreamM.refuse (.argumentOutOfRange "length" size)
  | .seek target => do
    let zeros ← opened
    let place ← StreamM.ofExcept (target.resolve zeros.cursor zeros.size)
    StreamM.update fun z => { z with cursor := place }
    return place
  | .read mode room => do
    mode.checkToken
    take room
  | .readByte => do return (← take 1).head?
  | .write mode data => do
    mode.checkToken
    cover data.length
  | .writeByte _ => cover 1
  | .flush mode => do
    mode.checkToken
    let _ ← opened
  | .dispose => StreamM.update fun z => { z with disposed := true }
  | .timeout direction => StreamM.refuse (.notSupported (Request.timeout direction).name)
  | .setTimeout direction limit =>
    StreamM.refuse (.notSupported (Request.setTimeout direction limit).name)

instance [Cancellation ω] : ByteStream ω Zeros where
  can capability zeros _ := !zeros.disposed && capability != .timing
  isDisposed zeros _ := zeros.disposed
  perform := Zeros.perform

theorem opened_of_disposed {zeros : Zeros} (h : zeros.disposed = true) (w : ω) :
    opened (zeros, w) = .error (.refusal .disposed) (zeros, w) := by
  simp [opened, StreamM.bind_apply, h]

theorem opened_of_open {zeros : Zeros} (h : zeros.disposed = false) (w : ω) :
    opened (zeros, w) = .ok zeros (zeros, w) := by
  simp [opened, StreamM.bind_apply, h]

/-- A read of an open stream gives as many zeros as fit in the buffer and in the stream. -/
theorem take_of_open {zeros : Zeros} (h : zeros.disposed = false) (room : Nat) (w : ω) :
    take room (zeros, w) =
      .ok (Bytes.zeros (min room (zeros.size - zeros.cursor)))
        ({ zeros with cursor := zeros.cursor + min room (zeros.size - zeros.cursor) }, w) := by
  simp [take, StreamM.bind_apply, StreamM.map_apply, opened_of_open h]

/-- A write moves the cursor over the bytes, unless that leads beyond the greatest position. -/
theorem cover_of_open {zeros : Zeros} (h : zeros.disposed = false) (count : Nat) (w : ω) :
    cover count (zeros, w) =
      if zeros.cursor + count ≤ maxPosition then
        .ok () ({ zeros with
          cursor := zeros.cursor + count, size := max zeros.size (zeros.cursor + count) }, w)
      else .error (.refusal .overflow) (zeros, w) := by
  simp only [cover, StreamM.bind_apply, opened_of_open h]
  split <;> rfl

end Zeros

end LayeredStreams
