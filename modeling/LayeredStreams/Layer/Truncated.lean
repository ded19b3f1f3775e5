import LayeredStreams.Layer.Passthrough

/-!
# Truncated layers

A layer that ends at a boundary: so many bytes after where the stream below stood when the layer was
put over it. It is only for reading. Positions stay those of the stream below.

* `Truncated σ` — the layer, its origin, its greatest length and its own count of where the cursor
  is.
* `Truncated.boundary`, `Truncated.remaining` — where the layer ends, and how far that is.
* `Truncated.perform` — its answers. A read asks the stream below for no more than remains; a seek
  from the end counts from the visible length.

Principal results: `remaining_le` and `perform_of_declined` (changes and flushes never get below).
-/

set_option autoImplicit false

namespace LayeredStreams

/-- A layer that ends a stream with state `σ` early. -/
structure Truncated (σ : Type) where
  base : Passthrough σ
  /-- Where the stream below stood when the layer was put over it. -/
  origin : Nat
  /-- The greatest number of bytes after the origin that are visible. -/
  maxLength : Nat
  /-- Where the cursor is, as far as the layer knows. -/
  cursor : Nat
  deriving DecidableEq, Repr

namespace Truncated

variable {ω σ α : Type}

/-- The position at which the layer ends. -/
def boundary (layer : Truncated σ) : Nat := saturatingAdd layer.origin layer.maxLength

/-- The number of places between the cursor and the boundary. -/
def remaining (layer : Truncated σ) : Nat := layer.boundary - layer.cursor

/-- Run a computation on the layer below. -/
def onBase (act : StreamM ω (Passthrough σ) α) : StreamM ω (Truncated σ) α :=
  StreamM.within Truncated.base (fun base layer => { layer with base := base }) act

/-- Note where the cursor is. -/
def moveTo (place : Nat) : StreamM ω (Truncated σ) Unit :=
  StreamM.update fun layer => { layer with cursor := place }

/-- Note that the cursor moved on. -/
def advance (count : Nat) : StreamM ω (Truncated σ) Unit :=
  StreamM.update fun layer => { layer with cursor := layer.cursor + count }

/-- Whether the layer declines a request. -/
def declines (request : Request) : Bool := request.mutates || request.isFlush

variable [ByteStream ω σ]

/-- Put a layer over a stream, with its origin where the stream stands. -/
def wrap (maxLength : Nat) (ownership : Ownership) : StreamM ω σ (Truncated σ) := do
  if maxPosition < maxLength then StreamM.refuse (.argumentOutOfRange "max_length" maxLength)
  let origin ← ByteStream.position
  return ⟨.ofStream (← StreamM.state) ownership, origin, maxLength, origin⟩

/-- The visible length: the stream below from the origin on, as far as the boundary. -/
def visibleLength : StreamM ω (Truncated σ) Nat := do
  let size ← onBase ByteStream.length
  let layer ← StreamM.state
  return min layer.maxLength (size - layer.origin)

/-- The seek target of the stream below that a seek target of the layer stands for. -/
def targetBelow (target : SeekTarget) : StreamM ω (Truncated σ) SeekTarget :=
  match target with
  | .fromEnd _ => do
    let visible ← visibleLength
    let place ← StreamM.ofExcept (target.resolve 0 visible)
    return .fromStart (saturatingAdd (← StreamM.state).origin place)
  | _ => return target

/-- Read at most `room` bytes, none of them beyond the boundary. -/
def read (mode : Mode) (room : Nat) : StreamM ω (Truncated σ) Bytes := do
  let remaining := (← StreamM.state).remaining
  let bytes ← onBase (ByteStream.read mode (min room remaining))
  advance bytes.length
  return bytes

/-- Read one byte, unless the cursor is at the boundary. -/
def readByte : StreamM ω (Truncated σ) (Option UInt8) := do
  onBase Passthrough.ensureOpen
  let layer ← StreamM.state
  if layer.boundary ≤ layer.cursor then return none
  else do
    let byte ← onBase ByteStream.readByte
    if byte.isSome then advance 1
    return byte

/-- The answer of a truncated layer to a request. -/
def perform : (request : Request) → StreamM ω (Truncated σ) request.Answer
  | .setPosition target => do
    onBase (ByteStream.setPosition target)
    moveTo target
  | .length => visibleLength
  | .seek target => do
    let below ← targetBelow target
    let place ← onBase (ByteStream.seek below)
    moveTo place
    return place
  | .read mode room => read mode room
  | .readByte => readByte
  | request => onBase (Passthrough.performUnless (declines request) request)

/-- What a truncated layer can do. -/
def can (capability : Capability) (layer : Truncated σ) (w : ω) : Bool :=
  capability != .writing && layer.base.can capability w

instance : ByteStream ω (Truncated σ) where
  can := can
  isDisposed layer _ := layer.base.isDisposed
  perform := Truncated.perform

omit [ByteStream ω σ] in
/-- No more than the greatest length remains, for a cursor that is not before the origin. -/
theorem remaining_le {layer : Truncated σ} (h : layer.origin ≤ layer.cursor) :
    layer.remaining ≤ layer.maxLength := by
  unfold remaining boundary saturatingAdd
  omega

/-- Changes and flushes never get below. -/
theorem perform_of_declined {request : Request} (h : declines request = true) :
    (perform request : StreamM ω (Truncated σ) request.Answer) =
      onBase (Passthrough.decline request) := by
  cases request <;>
    simp_all [declines, perform, Passthrough.performUnless, Request.mutates, Request.isFlush]

end Truncated

end LayeredStreams
