import LayeredStreams.Layer.Rebased
import LayeredStreams.Layer.Truncated

/-!
# Windows

A part of a stream, told by an offset and an optional length. Depending on which of the two are
needed, a window is the stream itself, a rebased layer, a truncated layer, or a truncated layer over
a rebased one.

* `Window σ` — the four kinds of window.
* `Window.ofPart` — move the stream to the offset and put the layers over it.
* `Window.perform` — the answers of the outermost layer.

Principal result: `ofPart_whole`: a window with neither offset nor length is the stream itself.
-/

set_option autoImplicit false

namespace LayeredStreams

/-- A part of a stream with state `σ`. -/
inductive Window (σ : Type)
  | unwrapped (stream : σ)
  /-- Everything from an offset on. -/
  | rebased (layer : Rebased σ)
  /-- A number of bytes from where the stream stands. -/
  | truncated (layer : Truncated σ)
  /-- A number of bytes from an offset on. -/
  | rebasedTruncated (layer : Truncated (Rebased σ))
  deriving DecidableEq, Repr

namespace Window

variable {ω σ : Type}

/-- The word for the kind of a window. -/
def name : Window σ → String
  | unwrapped _ => "Unwrapped"
  | rebased _ => "Rebased"
  | truncated _ => "Truncated"
  | rebasedTruncated _ => "RebasedTruncated"

/-- The stream, if the window is the stream itself. -/
def unwrapped? : Window σ → Option σ
  | unwrapped stream => some stream
  | _ => none

variable [ByteStream ω σ]

/-- Put a truncated layer over a rebased one, which it owns. -/
def truncate (layer : Rebased σ) (size : Nat) : StreamM ω σ (Truncated (Rebased σ)) :=
  StreamM.within (fun _ => layer) (fun layer stream => layer.base.slot.get?.getD stream)
    (Truncated.wrap size .owns)

/-- The part of a stream from `offset` on, of at most `size` bytes if a size is given. An offset of
zero leaves the stream where it stands. -/
def ofPart (offset : Nat) (size : Option Nat) (ownership : Ownership) : StreamM ω σ (Window σ) :=
  match offset, size with
  | 0, none => return .unwrapped (← StreamM.state)
  | 0, some size => return .truncated (← Truncated.wrap size ownership)
  | offset + 1, size => do
    let _ ← ByteStream.seek (.fromStart (offset + 1))
    let layer ← Rebased.wrap ownership
    match size with
    | none => return .rebased layer
    | some size => return .rebasedTruncated (← truncate layer size)

/-- Run a computation on a part of a window, which stays a window of the same kind. -/
def onLayer {τ α : Type} (make : τ → Window σ) (layer : τ) (act : StreamM ω τ α) :
    StreamM ω (Window σ) α :=
  StreamM.within (fun _ => layer) (fun layer _ => make layer) act

/-- The answer of a window to a request. -/
def perform (request : Request) : StreamM ω (Window σ) request.Answer := do
  match ← StreamM.state with
  | .unwrapped stream => onLayer .unwrapped stream (ByteStream.perform request)
  | .rebased layer => onLayer .rebased layer (ByteStream.perform request)
  | .truncated layer => onLayer .truncated layer (ByteStream.perform request)
  | .rebasedTruncated layer => onLayer .rebasedTruncated layer (ByteStream.perform request)

/-- What a window can do. -/
def can (capability : Capability) (window : Window σ) (w : ω) : Bool :=
  match window with
  | unwrapped stream => ByteStream.can capability stream w
  | rebased layer => ByteStream.can capability layer w
  | truncated layer => ByteStream.can capability layer w
  | rebasedTruncated layer => ByteStream.can capability layer w

/-- Whether a window was disposed. -/
def isDisposed (window : Window σ) (w : ω) : Bool :=
  match window with
  | unwrapped stream => ByteStream.isDisposed stream w
  | rebased layer => ByteStream.isDisposed layer w
  | truncated layer => ByteStream.isDisposed layer w
  | rebasedTruncated layer => ByteStream.isDisposed layer w

instance : ByteStream ω (Window σ) where
  can := can
  isDisposed := isDisposed
  perform := Window.perform

theorem ofPart_whole (ownership : Ownership) (stream : σ) (w : ω) :
    ofPart 0 none ownership (stream, w) = .ok (.unwrapped stream) (stream, w) := rfl

end Window

end LayeredStreams
