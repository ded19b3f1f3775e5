import LayeredStreams.Proofs.MachineLayers

/-!
# Whole transfers and cached layers of the machine

A cached layer keeps blocks of the stream below, up to the greatest position and a block beyond. Its
cursor may be at any word, so that to move on past the bytes that were served is safe only since a
block was loaded: the stream below granted a seek to its start.

* `BlockCache.copyOutOnWords`, `BlockCache.missingBlockOnWords`, `BlockCache.installOnWords` — what
  is done with the blocks.
* `fillWithinOnWords` — fill a buffer, each time the part of it that is not filled yet;
  `readRangeOnWords` and `writeRangeOnWords` transfer a part of a buffer.
* `Cached.onWords` — a cached layer on the machine.

Principal results: `Sturdy.untrapped_fillWithin` (a fill stays inside the buffer),
`Cached.untrapped_fetch` (a block that is kept ends at a word) and `Cached.sturdy`.
-/

set_option autoImplicit false

namespace LayeredStreams

/-! ## Blocks -/

/-- A window may be cut to where the content ends. -/
theorem Bytes.window_clamped (content : Bytes) (start count : Nat) :
    content.window (min start content.length)
        (min count (content.length - min start content.length)) =
      content.window start count := by
  apply List.ext_getElem?
  intro i
  rw [getElem?_window, getElem?_window]
  by_cases hi : i < min count (content.length - min start content.length)
  · have hstart : min start content.length = start := by omega
    rw [if_pos hi, if_pos (by omega), hstart]
  · rw [if_neg hi]
    split
    · rw [List.getElem?_eq_none (by omega)]
    · rfl

namespace BlockCache

variable {ω σ : Type} {cache : BlockCache} {cursor : Nat}

/-- At most `room` bytes from `offset` on, all from the block it lies in: a part of the block is put
in the first part of the buffer. -/
def copyOutOnWords (cache : BlockCache) (offset room : Nat) : StreamM (Gauged ω) σ Bytes :=
  match cache.blockAt offset with
  | none => return []
  | some data => do
    let start := min (BlockIndex.offsetWithin offset) data.length
    let rest ← StreamM.difference data.length start
    let count := min room rest
    StreamM.sliceTo room count
    StreamM.slice data.length start count
    return data.window start count

/-- The block to load before `offset` can be served, and the cache with a place for it. -/
def missingBlockOnWords (cache : BlockCache) (offset : Nat) :
    StreamM (Gauged ω) σ (Option BlockIndex × BlockCache) :=
  let index := BlockIndex.containing offset
  match placeOf index with
  | none => return (none, cache)
  | some place => do
    let places ← StreamM.sum place 1
    let grown := cache.growTo places
    StreamM.element grown.blocks.length place
    return (if cache.isLoaded index then none else some index, grown)

/-- Put the first `filled` bytes of `data` in the place of a block. -/
def installOnWords (cache : BlockCache) (index : BlockIndex) (data : Bytes) (filled : Nat) :
    StreamM (Gauged ω) σ BlockCache :=
  match placeOf index with
  | none => return cache
  | some place => do
    let places ← StreamM.sum place 1
    let grown := cache.growTo places
    StreamM.element grown.blocks.length place
    return if cache.isLoaded index then cache
      else ⟨grown.blocks.set place (.loaded (data.take filled))⟩

theorem placeOf_lt {index : BlockIndex} {place : Nat} (h : placeOf index = some place) :
    place + 1 ≤ maxWord := by
  unfold placeOf at h
  split at h
  · rename_i hword
    cases h
    exact hword
  · cases h

theorem missingBlockOnWords_apply (cache : BlockCache) (offset : Nat) (s : σ × Gauged ω) :
    (cache.missingBlockOnWords offset : StreamM (Gauged ω) σ _) s =
      .ok (cache.missingBlock offset) s := by
  unfold missingBlockOnWords missingBlock
  dsimp only
  cases hplace : placeOf (.containing offset) with
  | none => rfl
  | some place =>
    dsimp only
    rw [StreamM.bind_apply, StreamM.sum_apply (placeOf_lt hplace)]
    dsimp only
    rw [StreamM.bind_apply, StreamM.element_apply (lt_length_growTo cache place)]
    rfl

theorem installOnWords_apply (cache : BlockCache) (index : BlockIndex) (data : Bytes) (filled : Nat)
    (s : σ × Gauged ω) : (cache.installOnWords index data filled : StreamM (Gauged ω) σ _) s =
      .ok (cache.install index data filled) s := by
  unfold installOnWords install
  cases hplace : placeOf index with
  | none => rfl
  | some place =>
    dsimp only
    rw [StreamM.bind_apply, StreamM.sum_apply (placeOf_lt hplace)]
    dsimp only
    rw [StreamM.bind_apply, StreamM.element_apply (lt_length_growTo cache place)]
    rfl

/-- Blocks that end at words can be copied from. -/
theorem EndsBy.copyOutOnWords_apply (h : cache.EndsBy maxWord 0) (room : Nat) (s : σ × Gauged ω) :
    (cache.copyOutOnWords cursor room : StreamM (Gauged ω) σ Bytes) s =
      .ok (cache.copyOut cursor room) s := by
  unfold copyOutOnWords copyOut
  cases hblock : cache.blockAt cursor with
  | none => rfl
  | some data =>
    have hend := h _ data hblock
    have hsize : data.length ≤ maxWord := by omega
    have hslice : min (BlockIndex.offsetWithin cursor) data.length +
        min room (data.length - min (BlockIndex.offsetWithin cursor) data.length) ≤
          data.length := by
      omega
    dsimp only
    rw [StreamM.bind_apply, StreamM.difference_apply (Nat.min_le_right _ _) hsize]
    dsimp only
    rw [StreamM.bind_apply, StreamM.sliceTo_apply (Nat.min_le_left _ _)]
    dsimp only
    rw [StreamM.bind_apply, StreamM.slice_apply hslice hsize]
    show EStateM.Result.ok _ s = _
    rw [Bytes.window_clamped]

end BlockCache

/-! ## Whole transfers -/

theorem Filled.eq_of_outcome {filled : Filled} {data : Bytes} (h : filled.outcome = .ok data) :
    filled.bytes = data := by
  unfold outcome at h
  split at h
  · cases h
    rfl
  · cases h

section

variable {ω σ : Type} [Cancellation ω]

/-- Read until a buffer of `size` places is full, a read gives nothing, or one fails; at most
`reads` times. The first `total` places are filled already. -/
def fillWithinOnWords [ByteStream (Gauged ω) σ] (mode : Mode) (size : Nat) :
    (reads total : Nat) → StreamM (Gauged ω) σ Filled
  | 0, _ => return .nothing
  | reads + 1, total =>
    if size ≤ total then return .nothing
    else do
      StreamM.sliceTo size total
      match ← StreamM.attempt (readAdmitted mode (size - total)) with
      | .error e => return .failed e
      | .ok [] => return .nothing
      | .ok bytes => do
        let total ← StreamM.sum total bytes.length
        return (← fillWithinOnWords mode size reads total).after bytes

/-- Fill a buffer of `size` places. -/
def fillOnWords [ByteStream (Gauged ω) σ] (mode : Mode) (size : Nat) :
    StreamM (Gauged ω) σ Filled := fillWithinOnWords mode size size 0

omit [Cancellation ω] in
/-- Read at most `count` bytes for the places from `offset` on of a buffer of `size` places. -/
def readRangeOnWords [ByteStream (Gauged ω) σ] (size offset count : Nat) :
    StreamM (Gauged ω) σ Bytes := do
  StreamM.ofExcept (checkRange size offset count)
  StreamM.slice size offset count
  ByteStream.read .blocking count

omit [Cancellation ω] in
/-- Write `count` bytes of `data`, from `offset` on. -/
def writeRangeOnWords [ByteStream (Gauged ω) σ] (data : Bytes) (offset count : Nat) :
    StreamM (Gauged ω) σ Unit := do
  StreamM.ofExcept (checkRange data.length offset count)
  StreamM.slice data.length offset count
  ByteStream.write .blocking (data.window offset count)

variable [ByteStream ω σ] {machine : ByteStream (Gauged ω) σ} {sound : σ → Prop}

/-- A fill stays inside its buffer. The induction is on the reads that are left: each read gives no
more than the part of the buffer that it is given. -/
theorem Sturdy.untrapped_fillWithin (h : Sturdy machine sound) (mode : Mode) {size : Nat}
    (hsize : size ≤ maxWord) : ∀ (reads total : Nat), total ≤ size → ∀ {s : σ × Gauged ω},
      sound s.1 → StreamM.Untrapped (fillWithinOnWords mode size reads total)
        (fillWithin mode reads (size - total)) s
        (fun filled stream => sound stream ∧ total + filled.bytes.length ≤ size) sound
  | 0, total, htotal, s, hs => StreamM.untrapped_pure ⟨hs, htotal⟩
  | reads + 1, total, htotal, s, hs => by
    unfold fillWithinOnWords fillWithin
    by_cases hfull : size ≤ total
    · rw [if_pos hfull, if_pos (by omega)]
      exact StreamM.untrapped_pure ⟨hs, htotal⟩
    · rw [if_neg hfull, if_neg (by omega)]
      apply StreamM.untrapped_bind_of_eq_ok (StreamM.sliceTo_apply htotal s)
      have hread : StreamM.Untrapped (readAdmitted mode (size - total))
          (readAdmitted mode (size - total)) s
          (fun bytes stream => sound stream ∧ bytes.length ≤ size - total) sound :=
        StreamM.untrapped_checkToken_bind mode hs
          (h.perform (show (Request.read mode (size - total)).InWords from trivial) hs s.2)
      apply StreamM.Untrapped.bind (hread.attempt.mono (fun _ _ h => h) fun _ h => h.elim)
      intro outcome s' hout
      cases outcome with
      | error e => exact StreamM.untrapped_pure ⟨hout, htotal⟩
      | ok bytes =>
        obtain ⟨hs', hlength⟩ := hout
        cases bytes with
        | nil => exact StreamM.untrapped_pure ⟨hs', htotal⟩
        | cons byte bytes =>
          have htotal' : total + (byte :: bytes).length ≤ size := by omega
          have hrest := h.untrapped_fillWithin mode hsize reads _ htotal' hs'
          rw [Nat.sub_add_eq] at hrest
          apply StreamM.untrapped_bind_of_eq_ok
            (StreamM.sum_apply (Nat.le_trans htotal' hsize) s')
          apply StreamM.Untrapped.bind hrest
          intro filled s'' hout
          apply StreamM.untrapped_pure
          refine ⟨hout.1, ?_⟩
          show total + ((byte :: bytes) ++ filled.bytes).length ≤ size
          rw [List.length_append, ← Nat.add_assoc]
          exact hout.2

theorem Sturdy.untrapped_fill (h : Sturdy machine sound) (mode : Mode) {size : Nat}
    (hsize : size ≤ maxWord) {s : σ × Gauged ω} (hs : sound s.1) :
    StreamM.Untrapped (fillOnWords mode size) (fill mode size) s
      (fun filled stream => sound stream ∧ filled.bytes.length ≤ size) sound := by
  have hfill := h.untrapped_fillWithin mode hsize size 0 (Nat.zero_le size) hs
  simp only [Nat.zero_add] at hfill
  exact hfill

omit [Cancellation ω] [ByteStream ω σ] in
/-- What passes the check lies inside the buffer. -/
theorem untrapped_checkRange {size offset count : Nat} {s : σ × Gauged ω} (hs : sound s.1) :
    StreamM.Untrapped (StreamM.ofExcept (checkRange size offset count))
      (StreamM.ofExcept (checkRange size offset count)) s
      (fun _ stream => sound stream ∧ offset + count ≤ size) sound := by
  cases hcheck : checkRange size offset count with
  | ok _ => exact StreamM.untrapped_pure ⟨hs, checkRange_eq_ok_iff.mp hcheck⟩
  | error cause => exact StreamM.untrapped_refuse cause hs

omit [Cancellation ω] in
theorem Sturdy.untrapped_readRange (h : Sturdy machine sound) {size : Nat} (hsize : size ≤ maxWord)
    (offset count : Nat) {s : σ × Gauged ω} (hs : sound s.1) :
    StreamM.Untrapped (readRangeOnWords size offset count) (readRange size offset count) s
      (fun bytes stream => sound stream ∧ bytes.length ≤ count) sound := by
  apply StreamM.Untrapped.bind (untrapped_checkRange hs)
  intro _ s' hout
  obtain ⟨hs', hrange⟩ := hout
  apply StreamM.untrapped_bind_of_eq_ok (StreamM.slice_apply hrange hsize s')
  exact h.perform (show (Request.read .blocking count).InWords from trivial) hs' s'.2

omit [Cancellation ω] in
theorem Sturdy.untrapped_writeRange (h : Sturdy machine sound) {data : Bytes}
    (hsize : data.length ≤ maxWord) (offset count : Nat) {s : σ × Gauged ω} (hs : sound s.1) :
    StreamM.Untrapped (writeRangeOnWords data offset count) (writeRange data offset count) s
      (fun _ stream => sound stream ∧ True) sound := by
  apply StreamM.Untrapped.bind (untrapped_checkRange hs)
  intro _ s' hout
  obtain ⟨hs', hrange⟩ := hout
  apply StreamM.untrapped_bind_of_eq_ok (StreamM.slice_apply hrange hsize s')
  have hwords : (Request.write .blocking (data.window offset count)).InWords := trivial
  exact h.perform hwords hs' s'.2

end

/-! ## Cached layers -/

namespace Cached

variable {ω σ α : Type}

/-- Read at most `room` bytes from the block at the cursor, if it is loaded. -/
def serveOnWords (room : Nat) : StreamM (Gauged ω) (Cached σ) Bytes := do
  let layer ← StreamM.state
  let bytes ← layer.cache.copyOutOnWords layer.cursor room
  let place ← StreamM.sum layer.cursor bytes.length
  moveTo place
  return bytes

/-- Read one byte from the block at the cursor, if it is loaded. -/
def serveByteOnWords : StreamM (Gauged ω) (Cached σ) (Option UInt8) := do
  let layer ← StreamM.state
  let byte := layer.cache.byteAt layer.cursor
  if byte.isSome then do
    let place ← StreamM.sum layer.cursor 1
    moveTo place
  return byte

section

variable [Cancellation ω] [ByteStream (Gauged ω) σ]

/-- Read a block from the stream below and keep it. -/
def fetchOnWords (mode : Mode) (index : BlockIndex) : StreamM (Gauged ω) (Cached σ) Unit := do
  let start ← StreamM.product index.value blockSize
  let _ ← onBase (ByteStream.seek (.fromStart start))
  let filled ← onBase (fillOnWords mode blockSize)
  let data ← StreamM.settle filled.outcome
  let layer ← StreamM.state
  let cache ← layer.cache.installOnWords index data data.length
  updateCache fun _ => cache

/-- See to it that the block at the cursor is loaded, unless it is beyond the end. -/
def loadOnWords (mode : Mode) : StreamM (Gauged ω) (Cached σ) Unit := do
  onBase Passthrough.ensureOpen
  let layer ← StreamM.state
  let index := BlockIndex.containing layer.cursor
  if layer.cache.isLoaded index then return ()
  else do
    let start ← StreamM.product index.value blockSize
    let size ← onBase ByteStream.length
    if size ≤ start then return ()
    else do
      let (missing, cache) ← layer.cache.missingBlockOnWords layer.cursor
      updateCache fun _ => cache
      match missing with
      | none => return ()
      | some index => fetchOnWords mode index

/-- The answer of a cached layer to a request. -/
def performOnWords : (request : Request) → StreamM (Gauged ω) (Cached σ) request.Answer
  | .read mode room => do
    loadOnWords mode
    serveOnWords room
  | .readByte => do
    loadOnWords .blocking
    serveByteOnWords
  | request => perform request

end

/-- A cached layer on the machine. -/
@[reducible] def onWords [Cancellation ω] (below : ByteStream (Gauged ω) σ) :
    ByteStream (Gauged ω) (Cached σ) where
  can := @Cached.can (Gauged ω) σ below
  isDisposed layer _ := layer.base.isDisposed
  perform := performOnWords

/-- The cursor is a word, and the loaded blocks end at words. -/
def InWords (part : Passthrough σ → Prop) (layer : Cached σ) : Prop :=
  (layer.cursor ≤ maxWord ∧ layer.cache.EndsBy maxWord 0) ∧ part layer.base

variable {part : Passthrough σ → Prop} {s : Cached σ × Gauged ω}

theorem untrapped_onBase {machine : StreamM (Gauged ω) (Passthrough σ) α}
    {act : StreamM ω (Passthrough σ) α} {good : α → Prop} (hs : InWords part s.1)
    (h : StreamM.Untrapped machine act (s.1.base, s.2)
      (fun value base => part base ∧ good value) part) :
    StreamM.Untrapped (onBase machine) (onBase act) s
      (fun value layer => (InWords part layer ∧ layer.cursor = s.1.cursor) ∧ good value)
      (InWords part) := by
  apply h.carried (carries_layer s.1.cache s.1.cursor machine)
    (carries_layer s.1.cache s.1.cursor act)
  · intro value base hout
    exact ⟨⟨⟨hs.1, hout.1⟩, rfl⟩, hout.2⟩
  · intro base hbase
    exact ⟨hs.1, hbase⟩

theorem untrapped_moveTo {place : Nat} (hs : InWords part s.1) (hplace : place ≤ maxWord) :
    StreamM.Untrapped (moveTo place) (moveTo place) s (fun _ layer => InWords part layer)
      (InWords part) :=
  StreamM.untrapped_update rfl ⟨⟨hplace, hs.1.2⟩, hs.2⟩

/-- What is served ends where the block does. -/
theorem untrapped_serve (hs : InWords part s.1) (room : Nat) :
    StreamM.Untrapped (serveOnWords room) (serve room) s
      (fun bytes layer => InWords part layer ∧ bytes.length ≤ room) (InWords part) := by
  obtain ⟨hcursor, hblocks⟩ := hs.1
  have hstart : 0 + s.1.cursor ≤ maxWord := by omega
  have hend := hblocks.copyOut_le hstart room
  rw [Nat.zero_add] at hend
  apply StreamM.untrapped_state_bind
  apply StreamM.untrapped_bind_of_eq_ok (hblocks.copyOutOnWords_apply room s)
  apply StreamM.untrapped_bind_of_eq_ok (StreamM.sum_apply hend s)
  apply StreamM.Untrapped.bind (untrapped_moveTo hs hend)
  intro _ _ hmoved
  exact StreamM.untrapped_pure ⟨hmoved, s.1.cache.length_copyOut_le s.1.cursor room⟩

theorem untrapped_serveByte (hs : InWords part s.1) :
    StreamM.Untrapped serveByteOnWords serveByte s
      (fun _ layer => InWords part layer ∧ True) (InWords part) := by
  obtain ⟨hcursor, hblocks⟩ := hs.1
  have hstart : 0 + s.1.cursor ≤ maxWord := by omega
  have hend := hblocks.byteAt_le hstart
  rw [Nat.zero_add] at hend
  apply StreamM.untrapped_state_bind
  dsimp only
  cases hbyte : s.1.cache.byteAt s.1.cursor with
  | none => exact StreamM.untrapped_pure ⟨hs, trivial⟩
  | some byte =>
    rw [hbyte] at hend
    apply StreamM.untrapped_bind_of_eq_ok (StreamM.sum_apply hend s)
    apply StreamM.Untrapped.bind (untrapped_moveTo hs hend)
    intro _ _ hmoved
    exact StreamM.untrapped_pure ⟨hmoved, trivial⟩

variable [Cancellation ω] [ByteStream ω σ] {below : ByteStream (Gauged ω) σ}

omit [Cancellation ω] in
theorem untrapped_ask (h : Sturdy (Passthrough.onWords below) part) (request : Request)
    (hrequest : request.InWords) (hs : InWords part s.1) :
    StreamM.Untrapped (onBase ((Passthrough.onWords below).perform request))
      (onBase (ByteStream.perform request)) s
      (fun answer layer => (InWords part layer ∧ layer.cursor = s.1.cursor) ∧
        request.Yields answer) (InWords part) :=
  untrapped_onBase hs (h.perform hrequest hs.2 _)

/-- A block is kept only after its start was sought below, so it ends at a word. -/
theorem untrapped_fetch (h : Sturdy (Passthrough.onWords below) part) (mode : Mode)
    {index : BlockIndex} (hstart : index.start ≤ maxWord) (hs : InWords part s.1) :
    StreamM.Untrapped (@fetchOnWords ω σ _ below mode index) (fetch mode index) s
      (fun _ layer => InWords part layer) (InWords part) := by
  apply StreamM.untrapped_bind_of_eq_ok (StreamM.product_apply hstart s)
  apply StreamM.Untrapped.bind (untrapped_ask h (.seek (.fromStart index.start)) hstart hs)
  intro _ s₁ hout
  obtain ⟨⟨hs₁, -⟩, hyields⟩ := hout
  have hsought := hyields.2 index.start rfl
  have hsize : blockSize ≤ maxWord := by decide
  apply StreamM.Untrapped.bind (untrapped_onBase hs₁ (h.untrapped_fill mode hsize hs₁.2))
  intro filled s₂ hout
  obtain ⟨⟨hs₂, -⟩, hlength⟩ := hout
  have hsettled : StreamM.Untrapped (StreamM.settle filled.outcome) (StreamM.settle filled.outcome)
      s₂ (fun data layer => InWords part layer ∧ data.length ≤ blockSize) (InWords part) := by
    apply StreamM.untrapped_settle
    · intro data hdata
      rw [Filled.eq_of_outcome hdata] at hlength
      exact ⟨hs₂, hlength⟩
    · exact hs₂
  apply StreamM.Untrapped.bind hsettled
  intro data s₃ hout
  obtain ⟨hs₃, hlength⟩ := hout
  have hend : 0 + (index.start + data.length) ≤ maxWord := by
    have hroom : maxPosition + blockSize ≤ maxWord := by decide
    omega
  apply StreamM.untrapped_bind_of_eq_ok (StreamM.state_apply s₃)
  apply StreamM.untrapped_bind_of_eq_ok (BlockCache.installOnWords_apply _ _ _ _ s₃)
  exact StreamM.untrapped_update rfl ⟨⟨hs₃.1.1, hs₃.1.2.install hend⟩, hs₃.2⟩

/-- A block at a word starts at one. -/
theorem untrapped_load (h : Sturdy (Passthrough.onWords below) part) (mode : Mode)
    (hs : InWords part s.1) :
    StreamM.Untrapped (@loadOnWords ω σ _ below mode) (load mode) s
      (fun _ layer => InWords part layer) (InWords part) := by
  apply StreamM.Untrapped.bind (untrapped_onBase hs (Passthrough.untrapped_ensureOpen hs.2))
  intro _ s₁ hout
  obtain ⟨⟨hs₁, -⟩, -⟩ := hout
  apply StreamM.untrapped_state_bind
  dsimp only
  have hplace := BlockIndex.start_add_offsetWithin s₁.1.cursor
  have hstart : (BlockIndex.containing s₁.1.cursor).start ≤ maxWord := by
    have hcursor := hs₁.1.1
    omega
  by_cases hloaded : s₁.1.cache.isLoaded (.containing s₁.1.cursor) = true
  · rw [if_pos hloaded, if_pos hloaded]
    exact StreamM.untrapped_pure hs₁
  · rw [if_neg hloaded, if_neg hloaded]
    apply StreamM.untrapped_bind_of_eq_ok (StreamM.product_apply hstart s₁)
    apply StreamM.Untrapped.bind (untrapped_ask h .length trivial hs₁)
    intro size s₂ hout
    obtain ⟨⟨hs₂, hcursor⟩, -⟩ := hout
    by_cases hend : size ≤ (BlockIndex.containing s₁.1.cursor).start
    · rw [if_pos hend]
      unfold BlockIndex.start at hend
      rw [if_pos hend]
      exact StreamM.untrapped_pure hs₂
    · rw [if_neg hend]
      unfold BlockIndex.start at hend
      rw [if_neg hend]
      -- The place for the block is noted in the blocks that were looked at before the length was
      -- asked for.
      have hblocks := hs₁.1.2.of_block?_eq (s₁.1.cache.block?_missingBlock s₁.1.cursor)
      have hindex : ∀ index, (s₁.1.cache.missingBlock s₁.1.cursor).1 = some index →
          index = .containing s₁.1.cursor := fun _ => BlockCache.missingBlock_eq_some
      apply StreamM.untrapped_bind_of_eq_ok (BlockCache.missingBlockOnWords_apply _ _ s₂)
      cases hmissing : s₁.1.cache.missingBlock s₁.1.cursor with
      | mk missing cache =>
        rw [hmissing] at hblocks hindex
        have hs₃ : InWords part { s₂.1 with cache := cache } := ⟨⟨hs₂.1.1, hblocks⟩, hs₂.2⟩
        dsimp only
        apply StreamM.untrapped_update_bind
        · rfl
        cases missing with
        | none => exact StreamM.untrapped_pure hs₃
        | some index =>
          apply untrapped_fetch h mode _ hs₃
          rw [hindex index rfl]
          exact hstart

omit [Cancellation ω] in
/-- Both places are words: the one that the part is taken to and the one that it is led to. -/
theorem untrapped_seek (h : Sturdy (Passthrough.onWords below) part) {target : SeekTarget}
    (htarget : (Request.seek target).InWords) (hs : InWords part s.1) :
    StreamM.Untrapped (@Cached.seek (Gauged ω) σ below target) (Cached.seek target) s
      (fun place layer => InWords part layer ∧ (Request.seek target).Yields place)
      (InWords part) := by
  apply StreamM.untrapped_state_bind
  apply StreamM.Untrapped.bind (untrapped_ask h (.setPosition s.1.cursor) hs.1.1 hs)
  intro _ s₁ hout
  obtain ⟨⟨hs₁, -⟩, -⟩ := hout
  apply StreamM.Untrapped.bind (untrapped_ask h (.seek target) htarget hs₁)
  intro place s₂ hout
  obtain ⟨⟨hs₂, -⟩, hyields⟩ := hout
  apply StreamM.Untrapped.bind (untrapped_moveTo hs₂ hyields.1)
  intro _ _ hmoved
  exact StreamM.untrapped_pure ⟨hmoved, hyields⟩

omit [Cancellation ω] in
/-- Disposing gives up the blocks. -/
theorem untrapped_release (h : Sturdy (Passthrough.onWords below) part) (hs : InWords part s.1) :
    StreamM.Untrapped (@release (Gauged ω) σ below) release s
      (fun _ layer => InWords part layer ∧ True) (InWords part) := by
  have hattempt : StreamM.Untrapped
      (onBase ((Passthrough.onWords below).perform .dispose)).attempt
      (onBase ByteStream.dispose).attempt s (fun _ layer => InWords part layer) (InWords part) := by
    apply (untrapped_ask h .dispose trivial hs).attempt.mono
    · intro outcome layer hout
      cases outcome with
      | ok _ => exact hout.1.1
      | error e => exact hout
    · intro _ hfalse
      exact hfalse.elim
  apply StreamM.Untrapped.bind hattempt
  intro outcome s' hs'
  have hcleared : InWords part { s'.1 with cache := s'.1.cache.clear } :=
    ⟨⟨hs'.1.1, BlockCache.endsBy_empty maxWord 0⟩, hs'.2⟩
  apply StreamM.untrapped_update_bind
  · rfl
  exact StreamM.untrapped_settle (fun _ _ => ⟨hcleared, trivial⟩) hcleared

omit [Cancellation ω] in
theorem untrapped_performUnless (h : Sturdy (Passthrough.onWords below) part) (declined : Bool)
    {request : Request} (hrequest : request.InWords) (hs : InWords part s.1) :
    StreamM.Untrapped (onBase (@Passthrough.performUnless (Gauged ω) σ below declined request))
      (onBase (Passthrough.performUnless declined request)) s
      (fun answer layer => InWords part layer ∧ request.Yields answer) (InWords part) := by
  have hpart := Passthrough.untrapped_performUnless h declined hrequest hs.2 s.2
  apply (untrapped_onBase hs hpart).mono
  · intro answer _ hout
    exact ⟨hout.1.1, hout.2⟩
  · intro _ hbad
    exact hbad

/-- **A cached layer is as sturdy as the part below**, wherever its cursor is. -/
theorem sturdy (h : Sturdy (Passthrough.onWords below) part) :
    Sturdy (onWords below) (InWords part) where
  perform {request} hrequest {layer} hs g := by
    cases request with
    | position =>
      apply StreamM.Untrapped.bind (untrapped_onBase hs (Passthrough.untrapped_ensureOpen hs.2))
      intro _ s' hout
      obtain ⟨⟨hs', -⟩, -⟩ := hout
      apply StreamM.untrapped_state_bind
      exact StreamM.untrapped_pure ⟨hs', hs'.1.1⟩
    | setPosition target =>
      apply StreamM.Untrapped.bind (untrapped_onBase hs (Passthrough.untrapped_ensureOpen hs.2))
      intro _ s' hout
      obtain ⟨⟨hs', -⟩, -⟩ := hout
      apply (untrapped_moveTo hs' hrequest).mono
      · intro _ _ hmoved
        exact ⟨hmoved, trivial⟩
      · intro _ hbad
        exact hbad
    | seek target => exact untrapped_seek h hrequest hs
    | read mode room =>
      apply StreamM.Untrapped.bind (untrapped_load h mode hs)
      intro _ s' hs'
      exact untrapped_serve hs' room
    | readByte =>
      apply StreamM.Untrapped.bind (untrapped_load h .blocking hs)
      intro _ s' hs'
      exact untrapped_serveByte hs'
    | dispose => exact untrapped_release h hs
    | _ => exact untrapped_performUnless h _ hrequest hs

end Cached

end LayeredStreams
