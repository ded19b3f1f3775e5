import LayeredStreams.Layer.Passthrough

/-!
# Rebased layers

A layer that counts positions from where the stream below stood when the layer was put over it.

* `Rebased σ` — the layer and its origin, a position of the stream below.
* `Rebased.toBase`, `Rebased.fromBase` — a position of the layer as one of the stream below, and
  back. Sums beyond the machine words and places before the origin are invalid seeks.
* `Rebased.perform` — its answers. A relative seek that would lead before the origin is declined
  before the stream below is moved.

Principal results: `toBase_eq_ok` and `fromBase_toBase` (a position taken down and up again is
itself).
-/

set_option autoImplicit false

namespace LayeredStreams

/-- A layer that moves the origin of a stream with state `σ`. -/
structure Rebased (σ : Type) where
  base : Passthrough σ
  /-- The position of the stream below that counts as zero. -/
  baseOffset : Nat
  deriving DecidableEq, Repr

namespace Rebased

variable {ω σ α : Type}

/-- Run a computation on the layer below. -/
def onBase (act : StreamM ω (Passthrough σ) α) : StreamM ω (Rebased σ) α :=
  StreamM.within Rebased.base (fun base layer => { layer with base := base }) act

/-- The position of the stream below that a position of the layer stands for. -/
def toBase (position : Nat) : StreamM ω (Rebased σ) Nat := do
  let place := position + (← StreamM.state).baseOffset
  if place ≤ maxWord then return place else StreamM.refuse (.invalidSeek place)

/-- The position of the layer that a position of the stream below stands for. -/
def fromBase (place : Nat) : StreamM ω (Rebased σ) Nat := do
  let origin := (← StreamM.state).baseOffset
  if origin ≤ place then return place - origin
  else StreamM.refuse (.invalidSeek ((place : Int) - origin))

/-- Decline a seek to a place of the stream below that lies before the origin. -/
def ensureFromOrigin (place : Int) : StreamM ω (Rebased σ) Unit := do
  let origin := (← StreamM.state).baseOffset
  if place < origin then StreamM.refuse (.invalidSeek (place - origin))

variable [ByteStream ω σ]

/-- Put a layer over a stream, with its origin where the stream stands. -/
def wrap (ownership : Ownership) : StreamM ω σ (Rebased σ) := do
  let origin ← ByteStream.position
  return ⟨.ofStream (← StreamM.state) ownership, origin⟩

/-- The seek target of the stream below that a seek target of the layer stands for. -/
def targetBelow (target : SeekTarget) : StreamM ω (Rebased σ) SeekTarget :=
  match target with
  | .fromStart offset => return .fromStart (← toBase offset)
  | .fromCurrent _ => do
    ensureFromOrigin (target.destination (← onBase ByteStream.position) 0)
    return target
  | .fromEnd _ => do
    ensureFromOrigin (target.destination 0 (← onBase ByteStream.length))
    return target

/-- The answer of a rebased layer to a request. -/
def perform : (request : Request) → StreamM ω (Rebased σ) request.Answer
  | .position => do fromBase (← onBase ByteStream.position)
  | .setPosition target => do
    let place ← toBase target
    onBase (ByteStream.setPosition place)
  | .length => return (← onBase ByteStream.length) - (← StreamM.state).baseOffset
  | .setLength size => do
    let place ← toBase size
    onBase (ByteStream.setLength place)
  | .seek target => do
    let below ← targetBelow target
    fromBase (← onBase (ByteStream.seek below))
  | request => onBase (ByteStream.perform request)

instance : ByteStream ω (Rebased σ) where
  can capability layer := layer.base.can capability
  isDisposed layer _ := layer.base.isDisposed
  perform := Rebased.perform

omit [ByteStream ω σ] in
theorem toBase_eq_ok (layer : Rebased σ) (position : Nat) (w : ω)
    (h : position + layer.baseOffset ≤ maxWord) :
    toBase position (layer, w) = .ok (position + layer.baseOffset) (layer, w) := by
  simp [toBase, StreamM.bind_apply, h]

omit [ByteStream ω σ] in
/-- A position that is taken down to the stream below and up again is itself. -/
theorem fromBase_toBase (layer : Rebased σ) (position : Nat) (w : ω)
    (h : position + layer.baseOffset ≤ maxWord) :
    (toBase position >>= fromBase) (layer, w) = .ok position (layer, w) := by
  rw [StreamM.bind_apply, toBase_eq_ok layer position w h]
  simp [fromBase, StreamM.bind_apply]

end Rebased

end LayeredStreams
