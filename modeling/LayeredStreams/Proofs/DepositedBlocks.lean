import LayeredStreams.Proofs.DepositedReads
import LayeredStreams.Proofs.MachineBlocks

/-!
# Cached layers that read into buffers

A cached layer fills a block of its own from the stream below, and puts what it serves in the buffer
that it was handed. A fill lends out what is not filled yet, and a fill that fails leaves the block
behind, half filled; the buffer of the caller has nothing of it.

* `fillInto` — fill the places of a buffer.
* `Cached.fetchInto`, `Cached.loadInto` — read a block into a buffer of its own, and keep it.
* `Cached.serveInto`, `Cached.readInto` — serve from the block at the cursor.

Principal results: `ByteStream.Deposited.ends_fillWithin` (the bytes of a fill stand in the buffer
one read behind the other), `Cached.plain_fetch` (the block that is kept is the one that is kept
when bytes are answered) and `Cached.deposited`.
-/

set_option autoImplicit false

namespace LayeredStreams

/-! ## Fills -/

section

variable {ω σ : Type} [Cancellation ω]

/-- Read into the `count` places of the buffer from `start` on. A suspending transfer looks at its
token before it lends them. -/
def readAdmittedInto (into : ReadInto ω σ) (mode : Mode) (start count : Nat) :
    StreamM (Gauged ω) (σ × Bytes) Nat := do
  StreamM.beside mode.checkToken
  StreamM.lend start count (into mode)

/-- Read until the buffer is full, a read gives nothing, or one fails; at most `reads` times. The
first `total` places are filled already. -/
def fillInto (into : ReadInto ω σ) (mode : Mode) :
    (reads total : Nat) → StreamM (Gauged ω) (σ × Bytes) Nat
  | 0, total => return total
  | reads + 1, total => do
    let size ← StreamM.bufferLength
    if size ≤ total then return total
    else do
      let count ← readAdmittedInto into mode total (size - total)
      if count = 0 then return total else fillInto into mode reads (total + count)

omit [Cancellation ω] in
/-- A fill of the places from `total` on puts the bytes of `filled` there, or fails as `filled`
does. -/
def Filled.InPlace (filled : Filled) (machine : StreamM (Gauged ω) (σ × Bytes) Nat) (total : Nat)
    (stream : σ) (buffer : Bytes) (g : Gauged ω) (s' : σ × ω) : Prop :=
  match filled.failure with
  | none => total + filled.bytes.length ≤ buffer.length ∧
      machine ((stream, buffer), g) = .ok (total + filled.bytes.length)
        ((s'.1, buffer.overlay total filled.bytes), g.went s'.2)
  | some e => ∃ left, left.length = buffer.length ∧
      machine ((stream, buffer), g) = .error e ((s'.1, left), g.went s'.2)

omit [Cancellation ω] in
theorem Filled.inPlace_nothing {machine : StreamM (Gauged ω) (σ × Bytes) Nat} {total : Nat}
    {stream : σ} {buffer : Bytes} {g : Gauged ω} {s' : σ × ω} (htotal : total ≤ buffer.length)
    (hstop : machine ((stream, buffer), g) = .ok total ((s'.1, buffer), g.went s'.2)) :
    nothing.InPlace machine total stream buffer g s' := by
  refine ⟨htotal, ?_⟩
  show _ = EStateM.Result.ok total ((s'.1, buffer.overlay total []), g.went s'.2)
  rw [hstop, Bytes.overlay_nil htotal]

omit [Cancellation ω] in
theorem Filled.InPlace.after {filled : Filled} {machine rest : StreamM (Gauged ω) (σ × Bytes) Nat}
    {total : Nat} {bytes buffer : Bytes} {stream stream' : σ} {g : Gauged ω} {w : ω} {s' : σ × ω}
    (htotal : total ≤ buffer.length)
    (hnext : machine ((stream, buffer), g) =
      rest ((stream', buffer.overlay total bytes), g.went w))
    (h : filled.InPlace rest (total + bytes.length) stream' (buffer.overlay total bytes)
    (g.went w) s') :
    (filled.after bytes).InPlace machine total stream buffer g s' := by
  have hlength : (buffer.overlay total bytes).length = buffer.length :=
    Bytes.length_overlay _ _ _ htotal
  unfold InPlace Filled.after at *
  dsimp only
  rw [hnext]
  cases hfailure : filled.failure with
  | none =>
    rw [hfailure] at h
    obtain ⟨hend, hrest⟩ := h
    rw [hlength] at hend
    rw [List.length_append, ← Nat.add_assoc, hrest, Bytes.overlay_append (by omega)]
    exact ⟨hend, rfl⟩
  | some e =>
    rw [hfailure] at h
    obtain ⟨left, hleft, hrest⟩ := h
    exact ⟨left, hleft.trans hlength, hrest⟩

variable [ByteStream ω σ] {neat : Prop} {into : ReadInto ω σ}

theorem ByteStream.Deposited.ends_readAdmitted (h : ByteStream.Deposited neat into) (mode : Mode)
    {start count : Nat} (stream : σ) {buffer : Bytes} (g : Gauged ω)
    (hbuffer : buffer.length ≤ maxWord) (hfits : start + count ≤ buffer.length) :
    (readAdmitted mode count : StreamM ω σ Bytes).Ends (stream, g.surroundings)
      (fun bytes s' => bytes.length ≤ count ∧
        readAdmittedInto into mode start count ((stream, buffer), g) =
          .ok bytes.length ((s'.1, buffer.overlay start bytes), g.went s'.2))
      fun e s' => ∃ left, left.length = buffer.length ∧
        readAdmittedInto into mode start count ((stream, buffer), g) =
          .error e ((s'.1, left), g.went s'.2) := by
  unfold readAdmitted readAdmittedInto StreamM.Ends
  simp only [StreamM.bind_apply, (StreamM.plain_checkToken mode).beside]
  cases hcheck : (mode.checkToken : StreamM ω σ Unit) (stream, g.surroundings) with
  | error e s' => exact ⟨buffer, rfl, rfl⟩
  | ok _ s' =>
    refine ((h mode).ends_lend s'.1 (g.went s'.2) hbuffer hfits).mono (fun _ _ hout => hout) ?_
    rintro e s'' ⟨left, hleft, -, hlent⟩
    exact ⟨left, hleft.1, hlent⟩

/-- **The bytes of a fill stand in the buffer one read behind the other.** The induction is on the
reads that are left. -/
theorem ByteStream.Deposited.ends_fillWithin (h : ByteStream.Deposited neat into) (mode : Mode) :
    ∀ (reads total : Nat) (stream : σ) (buffer : Bytes) (g : Gauged ω), total ≤ buffer.length →
      buffer.length ≤ maxWord →
        (fillWithin mode reads (buffer.length - total) : StreamM ω σ Filled).Ends
          (stream, g.surroundings)
          (fun filled s' =>
            filled.InPlace (fillInto into mode reads total) total stream buffer g s')
          fun _ _ => False
  | 0, total, stream, buffer, g, htotal, _ => StreamM.ends_pure (Filled.inPlace_nothing htotal rfl)
  | reads + 1, total, stream, buffer, g, htotal, hbuffer => by
    unfold fillWithin
    by_cases hfull : buffer.length ≤ total
    · rw [if_pos (by omega)]
      refine StreamM.ends_pure (Filled.inPlace_nothing htotal ?_)
      simp only [fillInto, StreamM.bind_apply, StreamM.bufferLength, StreamM.state_apply,
        StreamM.pure_apply, if_pos hfull]
      rfl
    rw [if_neg (by omega)]
    have hloop : fillInto into mode (reads + 1) total ((stream, buffer), g) =
        (readAdmittedInto into mode total (buffer.length - total) >>= fun count =>
          if count = 0 then pure total else fillInto into mode reads (total + count))
          ((stream, buffer), g) := by
      simp only [fillInto, StreamM.bind_apply, StreamM.bufferLength, StreamM.state_apply,
        StreamM.pure_apply, if_neg hfull]
    have hread := h.ends_readAdmitted mode stream g hbuffer
      (show total + (buffer.length - total) ≤ buffer.length by omega)
    refine hread.attempt.bind ?_
    rintro (e | bytes) s' hout
    · obtain ⟨left, hleft, hlent⟩ := hout
      refine StreamM.ends_pure ⟨left, hleft, ?_⟩
      rw [hloop, StreamM.bind_apply, hlent]
    obtain ⟨hlength, hlent⟩ := hout
    cases bytes with
    | nil =>
      refine StreamM.ends_pure (Filled.inPlace_nothing htotal ?_)
      rw [hloop, StreamM.bind_apply, hlent, Bytes.overlay_nil htotal]
      rfl
    | cons byte rest =>
      have hlength' : (buffer.overlay total (byte :: rest)).length = buffer.length :=
        Bytes.length_overlay _ _ _ htotal
      have hrest := h.ends_fillWithin mode reads (total + (byte :: rest).length) s'.1
        (buffer.overlay total (byte :: rest)) (g.went s'.2) (by omega) (by omega)
      rw [hlength', ← Nat.sub_sub] at hrest
      have hnext : fillInto into mode (reads + 1) total ((stream, buffer), g) =
          fillInto into mode reads (total + (byte :: rest).length)
            ((s'.1, buffer.overlay total (byte :: rest)), g.went s'.2) := by
        rw [hloop, StreamM.bind_apply, hlent]
        rfl
      exact hrest.bind fun _ _ hfilled => StreamM.ends_pure (hfilled.after htotal hnext)

end

/-! ## Blocks -/

namespace BlockCache

variable {ω σ : Type}

/-- Put bytes from `offset` on in the first places of the buffer, all from the block it lies in. -/
def copyOutInto (cache : BlockCache) (offset : Nat) : StreamM (Gauged ω) (σ × Bytes) Nat :=
  match cache.blockAt offset with
  | none => return 0
  | some data => do
    let start := min (BlockIndex.offsetWithin offset) data.length
    let count := min (← StreamM.bufferLength) (data.length - start)
    StreamM.sliceTo data.length (start + count)
    StreamM.put (data.window start count)
    return count

theorem copyOutInto_apply (cache : BlockCache) (offset : Nat) (stream : σ) (buffer : Bytes)
    (g : Gauged ω) :
    (cache.copyOutInto offset : StreamM (Gauged ω) (σ × Bytes) Nat) ((stream, buffer), g) =
      .ok (cache.copyOut offset buffer.length).length
        ((stream, buffer.overlay 0 (cache.copyOut offset buffer.length)), g) := by
  unfold copyOutInto copyOut
  cases cache.blockAt offset with
  | none =>
    show EStateM.Result.ok 0 ((stream, buffer), g) = .ok 0 ((stream, buffer.overlay 0 []), g)
    rw [Bytes.overlay_nil (Nat.zero_le _)]
  | some data =>
    dsimp only
    rw [← Bytes.window_clamped data (BlockIndex.offsetWithin offset) buffer.length]
    have hcount : (data.window (min (BlockIndex.offsetWithin offset) data.length)
        (min buffer.length (data.length - min (BlockIndex.offsetWithin offset) data.length))).length
          =
          min buffer.length (data.length - min (BlockIndex.offsetWithin offset) data.length) := by
      rw [Bytes.length_window]
      omega
    have hsource : min (BlockIndex.offsetWithin offset) data.length +
        min buffer.length (data.length - min (BlockIndex.offsetWithin offset) data.length) ≤
          data.length := by omega
    have hplaces : min buffer.length
        (data.length - min (BlockIndex.offsetWithin offset) data.length) ≤ buffer.length :=
      Nat.min_le_left _ _
    simp only [StreamM.bind_apply, StreamM.bufferLength, StreamM.state_apply, StreamM.pure_apply,
      StreamM.sliceTo_apply hsource, StreamM.put, hcount, StreamM.sliceTo_apply hplaces,
      StreamM.update_apply]

/-- Of a block that is put in its place no more is looked at than what is filled. -/
theorem install_congr (cache : BlockCache) (index : BlockIndex) {data data' : Bytes}
    {filled filled' : Nat} (h : data.take filled = data'.take filled') :
    cache.install index data filled = cache.install index data' filled' := by
  unfold install
  rw [h]

end BlockCache

/-! ## Cached layers -/

namespace Cached

variable {ω σ : Type}

/-- Run a read into a buffer on the layer below. -/
def onBaseInto (act : StreamM (Gauged ω) (Passthrough σ × Bytes) Nat) :
    StreamM (Gauged ω) (Cached σ × Bytes) Nat :=
  StreamM.withinBeside Cached.base (fun base layer => { layer with base := base }) act

theorem withBuffer_onBaseInto (act : StreamM (Gauged ω) (Passthrough σ × Bytes) Nat) (block : Bytes)
    (layer : Cached σ) (g : Gauged ω) :
    StreamM.withBuffer block (onBaseInto act) (layer, g) =
      match act ((layer.base, block), g) with
      | .ok count s' => .ok (count, s'.1.2) ({ layer with base := s'.1.1 }, s'.2)
      | .error e s' => .error e ({ layer with base := s'.1.1 }, s'.2) := by
  unfold StreamM.withBuffer onBaseInto StreamM.withinBeside StreamM.within
  dsimp only
  cases act ((layer.base, block), g) <;> rfl

/-- Put bytes from the block at the cursor in the buffer, if it is loaded. -/
def serveInto : StreamM (Gauged ω) (Cached σ × Bytes) Nat := do
  let (layer, _) ← StreamM.state
  let count ← layer.cache.copyOutInto layer.cursor
  StreamM.beside (moveTo (layer.cursor + count))
  return count

theorem deposits_serve {neat : Prop} :
    Deposits neat (serveInto : StreamM (Gauged ω) (Cached σ × Bytes) Nat) serve := by
  intro layer buffer g _
  refine ⟨layer.cache.length_copyOut_le layer.cursor buffer.length, ?_⟩
  unfold serveInto StreamM.beside StreamM.within moveTo
  simp only [StreamM.bind_apply, StreamM.state_apply, BlockCache.copyOutInto_apply,
    StreamM.update_apply]
  rfl

section

variable [Cancellation ω] [ByteStream ω σ]

/-- Read a block from the stream below into a buffer of its own, and keep it. -/
def fetchInto (below : ReadInto ω σ) (mode : Mode) (index : BlockIndex) :
    StreamM (Gauged ω) (Cached σ) Unit := do
  let _ ← (onBase (ByteStream.seek (.fromStart index.start)) : StreamM ω (Cached σ) Nat).trapless
  let (filled, data) ← StreamM.withBuffer BlockCache.blankBlock
    (onBaseInto (fillInto (Passthrough.readInto below) mode blockSize 0))
  let layer ← StreamM.state
  let cache ← layer.cache.installOnWords index data filled
  updateCache fun _ => cache

/-- See to it that the block at the cursor is loaded, unless it is beyond the end. -/
def loadInto (below : ReadInto ω σ) (mode : Mode) : StreamM (Gauged ω) (Cached σ) Unit := do
  (onBase Passthrough.ensureOpen : StreamM ω (Cached σ) Unit).trapless
  let layer ← StreamM.state
  let index := BlockIndex.containing layer.cursor
  if layer.cache.isLoaded index then return ()
  else do
    let size ← (onBase ByteStream.length : StreamM ω (Cached σ) Nat).trapless
    if size ≤ index.start then return ()
    else do
      let (missing, cache) ← layer.cache.missingBlockOnWords layer.cursor
      updateCache fun _ => cache
      match missing with
      | none => return ()
      | some index => fetchInto below mode index

/-- The read of a cached layer. -/
def readInto (below : ReadInto ω σ) : ReadInto ω (Cached σ) := fun mode => do
  StreamM.beside (loadInto below mode)
  serveInto

variable {neat : Prop} {below : ReadInto ω σ}

theorem plain_keep (h : ByteStream.Deposited neat below) (mode : Mode) (index : BlockIndex)
    {block : Bytes} (hblock : block.length = blockSize) :
    StreamM.Plain
      (do
        let (filled, data) ← StreamM.withBuffer block
          (onBaseInto (fillInto (Passthrough.readInto below) mode blockSize 0))
        let layer ← StreamM.state
        let cache ← layer.cache.installOnWords index data filled
        updateCache fun _ => cache)
      (do
        let filled ← onBase (fill mode blockSize)
        let data ← StreamM.settle filled.outcome
        updateCache fun cache => cache.install index data data.length) := by
  rintro ⟨layer, g⟩
  have hsize : block.length ≤ maxWord := by
    rw [hblock]
    decide
  have hfill := (Passthrough.deposited h).ends_fillWithin mode blockSize 0 layer.base block g
    (Nat.zero_le _) hsize
  rw [hblock, Nat.sub_zero] at hfill
  obtain ⟨filled, s', heq, hplaced⟩ := hfill.exists_ok
  have hfilled : (onBase (fill mode blockSize) : StreamM ω (Cached σ) Filled).trapless (layer, g) =
      .ok filled ({ layer with base := s'.1 }, g.went s'.2) := by
    unfold StreamM.trapless onBase StreamM.within fill
    dsimp only
    rw [heq]
    rfl
  rw [StreamM.trapless_bind_apply, StreamM.bind_apply, StreamM.bind_apply, hfilled,
    withBuffer_onBaseInto]
  unfold Filled.InPlace at hplaced
  cases hfailure : filled.failure with
  | some e =>
    have houtcome : filled.outcome = .error e := by
      unfold Filled.outcome
      rw [hfailure]
    rw [hfailure] at hplaced
    obtain ⟨left, -, hinto⟩ := hplaced
    rw [hinto]
    dsimp only
    rw [houtcome]
    rfl
  | none =>
    have houtcome : filled.outcome = .ok filled.bytes := by
      unfold Filled.outcome
      rw [hfailure]
    rw [hfailure] at hplaced
    obtain ⟨hend, hinto⟩ := hplaced
    have htake : (block.overlay 0 filled.bytes).take (0 + filled.bytes.length) =
        filled.bytes.take filled.bytes.length := by
      rw [Nat.zero_add, List.take_length]
      exact Bytes.window_overlay hend
    rw [hinto]
    dsimp only
    rw [houtcome, StreamM.bind_apply, StreamM.state_apply]
    dsimp only
    rw [StreamM.bind_apply, BlockCache.installOnWords_apply, BlockCache.install_congr _ index htake]
    rfl

/-- **The block that is kept is the one that is kept when bytes are answered.** -/
theorem plain_fetch (h : ByteStream.Deposited neat below) (mode : Mode) (index : BlockIndex) :
    StreamM.Plain (fetchInto below mode index) (fetch mode index) :=
  StreamM.plain_trapless.bind fun _ => plain_keep h mode index List.length_replicate

theorem plain_load (h : ByteStream.Deposited neat below) (mode : Mode) :
    StreamM.Plain (loadInto below mode) (load mode) := by
  refine StreamM.plain_trapless.bind fun _ => ?_
  refine StreamM.plain_state_bind fun layer => ?_
  dsimp only
  split
  · exact StreamM.plain_pure _
  refine StreamM.plain_trapless.bind fun size => ?_
  split
  · exact StreamM.plain_pure _
  intro s
  rw [StreamM.bind_apply, BlockCache.missingBlockOnWords_apply]
  dsimp only
  have hfetch : ∀ missing : Option BlockIndex,
      StreamM.Plain
        (match missing with | none => pure () | some index => fetchInto below mode index)
        (match missing with | none => pure () | some index => fetch mode index) := by
    rintro (_ | index)
    · exact StreamM.plain_pure _
    · exact plain_fetch h mode index
  exact (StreamM.plain_update _).bind (fun _ => hfetch _) s

/-- **A cached layer puts in the buffer what it serves**, and nothing of a block that it fails to
load. -/
theorem deposited (h : ByteStream.Deposited neat below) :
    ByteStream.Deposited neat (readInto below) :=
  fun mode => Deposits.after (plain_load h mode) fun _ => deposits_serve

end

end Cached

end LayeredStreams
