import LayeredStreams.Block.Cache
import LayeredStreams.Layer.Passthrough
import LayeredStreams.Transfer

/-!
# Cached layers

A layer that reads the stream below a block at a time and keeps the blocks. It has a cursor of its
own, moves the stream below only to seek and to load a block, and is only for reading.

* `Cached σ` — the layer, the blocks and the cursor.
* `Cached.load` — see to it that the block at the cursor is loaded, unless it starts at or beyond
  the end of the stream below. A load that fails or is cancelled leaves the block unloaded.
* `Cached.perform` — its answers. A read never crosses into the next block.

Principal results: `load_of_isLoaded` (a loaded block makes no call below) and `perform_of_mutates`.
-/

set_option autoImplicit false

namespace LayeredStreams

/-- A layer that keeps the blocks of a stream with state `σ`. -/
structure Cached (σ : Type) where
  base : Passthrough σ
  cache : BlockCache
  cursor : Nat
  deriving DecidableEq, Repr

namespace Cached

variable {ω σ α : Type}

/-- The number of blocks that are kept. -/
def cachedBlockCount (layer : Cached σ) : Nat := layer.cache.loadedCount

/-- Whether the block of that number is kept. -/
def isBlockLoaded (layer : Cached σ) (index : Nat) : Bool := layer.cache.isLoaded ⟨index⟩

/-- Run a computation on the layer below. -/
def onBase (act : StreamM ω (Passthrough σ) α) : StreamM ω (Cached σ) α :=
  StreamM.within Cached.base (fun base layer => { layer with base := base }) act

/-- Change the blocks. -/
def updateCache (f : BlockCache → BlockCache) : StreamM ω (Cached σ) Unit :=
  StreamM.update fun layer => { layer with cache := f layer.cache }

/-- Move the cursor. -/
def moveTo (place : Nat) : StreamM ω (Cached σ) Unit :=
  StreamM.update fun layer => { layer with cursor := place }

/-- Read at most `room` bytes from the block at the cursor, if it is loaded. -/
def serve (room : Nat) : StreamM ω (Cached σ) Bytes := do
  let layer ← StreamM.state
  let bytes := layer.cache.copyOut layer.cursor room
  moveTo (layer.cursor + bytes.length)
  return bytes

/-- Read one byte from the block at the cursor, if it is loaded. -/
def serveByte : StreamM ω (Cached σ) (Option UInt8) := do
  let layer ← StreamM.state
  let byte := layer.cache.byteAt layer.cursor
  if byte.isSome then moveTo (layer.cursor + 1)
  return byte

variable [ByteStream ω σ]

/-- Put a layer over a stream, with its cursor where the stream stands. -/
def wrap (ownership : Ownership) : StreamM ω σ (Cached σ) := do
  let cursor ← ByteStream.position
  return ⟨.ofStream (← StreamM.state) ownership, .empty, cursor⟩

/-- Read a block from the stream below and keep it. -/
def fetch [Cancellation ω] (mode : Mode) (index : BlockIndex) : StreamM ω (Cached σ) Unit := do
  let _ ← onBase (ByteStream.seek (.fromStart index.start))
  let filled ← onBase (fill mode blockSize)
  let data ← StreamM.settle filled.outcome
  updateCache fun cache => cache.install index data data.length

/-- See to it that the block at the cursor is loaded, unless it is beyond the end. -/
def load [Cancellation ω] (mode : Mode) : StreamM ω (Cached σ) Unit := do
  onBase Passthrough.ensureOpen
  let layer ← StreamM.state
  let index := BlockIndex.containing layer.cursor
  if layer.cache.isLoaded index then return ()
  else do
    let size ← onBase ByteStream.length
    if size ≤ index.start then return ()
    else do
      let (missing, cache) := layer.cache.missingBlock layer.cursor
      updateCache fun _ => cache
      match missing with
      | none => return ()
      | some index => fetch mode index

/-- Move the cursor to a seek target. The stream below is first taken to the cursor. -/
def seek (target : SeekTarget) : StreamM ω (Cached σ) Nat := do
  let layer ← StreamM.state
  onBase (ByteStream.setPosition layer.cursor)
  let place ← onBase (ByteStream.seek target)
  moveTo place
  return place

/-- Dispose the layer and give up the blocks, even if the stream below fails to be disposed. -/
def release : StreamM ω (Cached σ) Unit := do
  let outcome ← StreamM.attempt (onBase ByteStream.dispose)
  updateCache BlockCache.clear
  StreamM.settle outcome

/-- The answer of a cached layer to a request. -/
def perform [Cancellation ω] : (request : Request) → StreamM ω (Cached σ) request.Answer
  | .position => do
    onBase Passthrough.ensureOpen
    return (← StreamM.state).cursor
  | .setPosition target => do
    onBase Passthrough.ensureOpen
    moveTo target
  | .seek target => seek target
  | .read mode room => do
    load mode
    serve room
  | .readByte => do
    load .blocking
    serveByte
  | .dispose => release
  | request => onBase (Passthrough.performUnless request.mutates request)

/-- What a cached layer can do. -/
def can (capability : Capability) (layer : Cached σ) (w : ω) : Bool :=
  capability != .writing && layer.base.can capability w

instance [Cancellation ω] : ByteStream ω (Cached σ) where
  can := can
  isDisposed layer _ := layer.base.isDisposed
  perform := Cached.perform

/-- A block that is loaded is not asked for again. -/
theorem load_of_isLoaded [Cancellation ω] (layer : Cached σ) (mode : Mode) (w : ω)
    (hopen : layer.base.isDisposed = false)
    (h : layer.cache.isLoaded (.containing layer.cursor) = true) :
    load mode (layer, w) = .ok () (layer, w) := by
  obtain ⟨⟨slot, ownership⟩, cache, cursor⟩ := layer
  cases slot with
  | disposed => cases hopen
  | live stream =>
    simp only [load, StreamM.bind_apply, onBase, StreamM.within, Passthrough.ensureOpen,
      Passthrough.forward, StreamM.pure_apply, StreamM.state_apply]
    rw [if_pos h]
    rfl

/-- A request that would change the content never gets below. -/
theorem perform_of_mutates [Cancellation ω] {request : Request} (h : request.mutates = true) :
    (perform request : StreamM ω (Cached σ) request.Answer) =
      onBase (Passthrough.decline request) := by
  cases request <;> simp_all [perform, Passthrough.performUnless, Request.mutates]

end Cached

end LayeredStreams
