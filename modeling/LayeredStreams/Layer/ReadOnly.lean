import LayeredStreams.Layer.Passthrough

/-!
# Read-only layers

A layer through which the stream below is seen but not changed. It borrows the stream below, and
declines every request that would change the content.

* `ReadOnly σ` — the layer.
* `ReadOnly.perform` — its answers.

Principal result: `perform_of_mutates`: a request that would change the content never gets below.
-/

set_option autoImplicit false

namespace LayeredStreams

/-- A read-only layer over a stream with state `σ`. -/
structure ReadOnly (σ : Type) where
  base : Passthrough σ
  deriving DecidableEq, Repr

namespace ReadOnly

variable {ω σ α : Type}

/-- A read-only layer over a stream. -/
def ofStream (stream : σ) : ReadOnly σ := ⟨.ofStream stream .borrows⟩

/-- Run a computation on the layer below. -/
def onBase (act : StreamM ω (Passthrough σ) α) : StreamM ω (ReadOnly σ) α :=
  StreamM.within ReadOnly.base (fun base layer => { layer with base := base }) act

variable [ByteStream ω σ]

/-- The answer of a read-only layer to a request. -/
def perform (request : Request) : StreamM ω (ReadOnly σ) request.Answer :=
  onBase (Passthrough.performUnless request.mutates request)

/-- What a read-only layer can do. -/
def can (capability : Capability) (layer : ReadOnly σ) (w : ω) : Bool :=
  capability != .writing && layer.base.can capability w

instance : ByteStream ω (ReadOnly σ) where
  can := can
  isDisposed layer _ := layer.base.isDisposed
  perform := ReadOnly.perform

theorem perform_of_mutates {request : Request} (h : request.mutates = true) :
    (perform request : StreamM ω (ReadOnly σ) request.Answer) =
      onBase (Passthrough.decline request) := by
  simp [perform, Passthrough.performUnless, h]

end ReadOnly

end LayeredStreams
