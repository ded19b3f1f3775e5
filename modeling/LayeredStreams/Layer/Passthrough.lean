import LayeredStreams.Slot
import LayeredStreams.Stream

/-!
# The layer that changes nothing

A layer holds the stream below until it is disposed, and forwards every request to it. When it is
disposed it lets go of the stream below, which it disposes first if it owns it. Every other layer is
built over this one.

* `Passthrough σ` — the slot of the stream below, and whether it is owned.
* `Passthrough.forward` — run a computation on the stream below.
* `Passthrough.release` — dispose the layer.
* `Passthrough.decline` — refuse a request that the layer does not offer.

Principal results: `forward_of_disposed` (a disposed layer makes no call below), `forward_of_live`,
`isDisposed_release` (whatever comes of it, a released layer is disposed) and `release_of_disposed`
(disposing twice is silent).
-/

set_option autoImplicit false

namespace LayeredStreams

/-- A layer over a stream with state `σ`. -/
structure Passthrough (σ : Type) where
  slot : Slot σ
  /-- Whether the stream below is disposed with the layer. -/
  ownership : Ownership
  deriving DecidableEq, Repr

namespace Passthrough

variable {ω σ α : Type}

/-- A layer over a stream. -/
def ofStream (stream : σ) (ownership : Ownership) : Passthrough σ := ⟨.live stream, ownership⟩

/-- Whether the layer was disposed. -/
def isDisposed (layer : Passthrough σ) : Bool := layer.slot.isDisposed

/-- Run a computation on the stream below, unless the layer was disposed. -/
def forward (act : StreamM ω σ α) : StreamM ω (Passthrough σ) α := fun (layer, w) =>
  match layer.slot with
  | .disposed => .error (.refusal .disposed) (layer, w)
  | .live stream =>
    match act (stream, w) with
    | .ok value (stream, w) => .ok value ({ layer with slot := .live stream }, w)
    | .error e (stream, w) => .error e ({ layer with slot := .live stream }, w)

/-- Refuse a request: the layer was disposed, or it does not offer the operation. -/
def decline (request : Request) : StreamM ω (Passthrough σ) α := do
  if (← StreamM.state).isDisposed then StreamM.refuse .disposed
  else StreamM.refuse (.notSupported request.name)

/-- Decline if the layer was disposed. -/
def ensureOpen : StreamM ω (Passthrough σ) Unit := forward (pure ())

variable [ByteStream ω σ]

/-- Let go of the stream below, disposing it first if it is owned. -/
def release : StreamM ω (Passthrough σ) Unit := fun (layer, w) =>
  let released : Passthrough σ := { layer with slot := .disposed }
  match layer.slot with
  | .disposed => .ok () (layer, w)
  | .live stream =>
    if layer.ownership.isOwner then
      match (ByteStream.dispose : StreamM ω σ Unit) (stream, w) with
      | .ok () (_, w) => .ok () (released, w)
      | .error e (_, w) => .error e (released, w)
    else .ok () (released, w)

/-- The answer of a layer that changes nothing. -/
def perform : (request : Request) → StreamM ω (Passthrough σ) request.Answer
  | .dispose => release
  | request => forward (ByteStream.perform request)

/-- What the stream below can do; nothing once the layer was disposed. -/
def can (capability : Capability) (layer : Passthrough σ) (w : ω) : Bool :=
  match layer.slot with
  | .disposed => false
  | .live stream => ByteStream.can capability stream w

instance : ByteStream ω (Passthrough σ) where
  can := can
  isDisposed layer _ := layer.isDisposed
  perform := Passthrough.perform

/-- Forward a request, or decline it. -/
def performUnless (declined : Bool) (request : Request) :
    StreamM ω (Passthrough σ) request.Answer :=
  if declined then decline request else ByteStream.perform request

omit [ByteStream ω σ] in
theorem forward_of_disposed (ownership : Ownership) (act : StreamM ω σ α) (w : ω) :
    forward act (⟨.disposed, ownership⟩, w) =
      .error (.refusal .disposed) (⟨.disposed, ownership⟩, w) := rfl

omit [ByteStream ω σ] in
theorem forward_of_live (stream : σ) (ownership : Ownership) (act : StreamM ω σ α) (w : ω) :
    forward act (⟨.live stream, ownership⟩, w) =
      match act (stream, w) with
      | .ok value (stream, w) => .ok value (⟨.live stream, ownership⟩, w)
      | .error e (stream, w) => .error e (⟨.live stream, ownership⟩, w) := rfl

theorem release_of_disposed (ownership : Ownership) (w : ω) :
    release ((⟨.disposed, ownership⟩ : Passthrough σ), w) = .ok () (⟨.disposed, ownership⟩, w) :=
  rfl

/-- A layer that was asked to let go is disposed, even if the stream below failed to be. -/
theorem isDisposed_release (layer : Passthrough σ) (w : ω) :
    match release (layer, w) with
    | .ok _ (after, _) => after.isDisposed = true
    | .error _ (after, _) => after.isDisposed = true := by
  obtain ⟨slot, ownership⟩ := layer
  cases slot with
  | disposed => rfl
  | live stream =>
    cases ownership with
    | borrows => rfl
    | owns =>
      simp only [release, Ownership.isOwner, if_true]
      cases (ByteStream.dispose : StreamM ω σ Unit) (stream, w) <;> rfl

end Passthrough

end LayeredStreams
