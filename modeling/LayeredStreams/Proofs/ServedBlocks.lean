import LayeredStreams.Proofs.DepositedBlocks
import LayeredStreams.Proofs.InstalledBlocks

/-!
# Served blocks

A cache serves bytes into a buffer or one by one, both from the block that the offset lies in. They
agree as long as this block is no longer than a block is, but a cache does not see to that: what is
installed it keeps, however long. What lies behind the end of the block is then served in bulk, and
not one by one.

* `Serves` — the bytes that came into a buffer are those that are served one by one, all of one
  block.
* `Fits` — what is asked of the block of an offset lies inside a block.
* `IsBlockSized` — no block of a cache is longer than a block is.
* `firstInstalled` — the bytes of a block after a run.

Principal results: `serves_iff_fits` (when the two agree), `isBlockSized_run` and
`Mirrors.isBlockSized` (where blocks are no longer than a block is, after a run and in a cached
layer), `IsBlockSized.serves` and `bulk_service_agrees_iff`.
-/

set_option autoImplicit false

namespace LayeredStreams

theorem Bytes.overlay_zero {buffer data : Bytes} (h : data.length ≤ buffer.length) :
    buffer.overlay 0 data = data ++ buffer.drop data.length := by
  unfold overlay
  rw [List.take_zero, List.nil_append, Nat.sub_zero, Nat.zero_add, List.take_of_length_le h]

namespace BlockCache

variable {ω σ : Type} {cache : BlockCache}

/-! ## One service -/

/-- From `offset` on `count` bytes came into a buffer, which is `left` then: they are the bytes that
are served one by one, all of one block, and there are fewer than the buffer has room for only where
no byte is served or the next block starts. -/
structure Serves (cache : BlockCache) (offset : Nat) (buffer : Bytes) (count : Nat) (left : Bytes) :
    Prop where
  length_eq : left.length = buffer.length
  count_le : count ≤ buffer.length
  within_block : BlockIndex.offsetWithin offset + count ≤ blockSize
  byte_eq : ∀ i, i < count → left[i]? = cache.byteAt (offset + i)
  untouched : ∀ i, count ≤ i → left[i]? = buffer[i]?
  short : count < buffer.length → cache.byteAt (offset + count) = none ∨
    offset + count = (BlockIndex.containing offset).start + blockSize

/-- What is asked of the block of an offset lies inside a block, or the block does. -/
def Fits (cache : BlockCache) (offset room : Nat) : Prop :=
  ∀ data, cache.blockAt offset = some data →
    data.length ≤ blockSize ∨ BlockIndex.offsetWithin offset + room ≤ blockSize

theorem copyOut_le_blockSize_iff (cache : BlockCache) (offset room : Nat) :
    BlockIndex.offsetWithin offset + (cache.copyOut offset room).length ≤ blockSize ↔
      cache.Fits offset room := by
  have hplace := BlockIndex.offsetWithin_lt offset
  unfold copyOut Fits
  cases cache.blockAt offset with
  | none => exact iff_of_true (Nat.le_of_lt hplace) nofun
  | some data =>
    have hlength := data.length_window (BlockIndex.offsetWithin offset) room
    dsimp only
    constructor
    · intro hend bytes hbytes
      cases hbytes
      omega
    · intro hfits
      have hroom := hfits data rfl
      omega

theorem getElem?_overlay_copyOut (cache : BlockCache) {offset i : Nat} (buffer : Bytes)
    (hi : i < (cache.copyOut offset buffer.length).length)
    (hblock : BlockIndex.offsetWithin offset + i < blockSize) :
    (buffer.overlay 0 (cache.copyOut offset buffer.length))[i]? = cache.byteAt (offset + i) := by
  have hroom := cache.length_copyOut_le offset buffer.length
  rw [Bytes.overlay_zero hroom, List.getElem?_append_left hi, getElem?_copyOut _ _ _ _ hblock,
    if_pos (Nat.lt_of_lt_of_le hi hroom)]

/-- **Bulk service agrees with bytewise service** exactly if what is asked fits. -/
theorem serves_iff_fits (cache : BlockCache) (offset : Nat) (buffer : Bytes) :
    cache.Serves offset buffer (cache.copyOut offset buffer.length).length
        (buffer.overlay 0 (cache.copyOut offset buffer.length)) ↔
      cache.Fits offset buffer.length := by
  rw [← copyOut_le_blockSize_iff]
  refine ⟨Serves.within_block, fun hend => ?_⟩
  exact {
    length_eq := Bytes.length_overlay _ _ _ (Nat.zero_le _)
    count_le := cache.length_copyOut_le offset buffer.length
    within_block := hend
    byte_eq := fun i hi => cache.getElem?_overlay_copyOut buffer hi (by omega)
    untouched := fun i hi =>
      (Bytes.sameOutside_overlay (Nat.zero_le _) _).2 i (.inr (by rwa [Nat.zero_add]))
    short := fun hshort => by
      rcases Nat.lt_or_eq_of_le hend with hlt | heq
      · left
        have hbyte := cache.getElem?_copyOut offset buffer.length _ hlt
        rw [if_pos hshort, List.getElem?_eq_none (Nat.le_refl _)] at hbyte
        exact hbyte.symm
      · right
        have hplace := BlockIndex.start_add_offsetWithin offset
        omega }

/-! ## Blocks no longer than a block -/

/-- No block is longer than a block is. -/
def IsBlockSized (cache : BlockCache) : Prop :=
  cache.Every fun _ data => data.length ≤ blockSize

/-- As long as no more than a block is installed no block is longer. -/
theorem isBlockSized_run {operations : List Operation}
    (h : ∀ block ∈ installs operations, block.2.length ≤ blockSize) :
    (empty.run operations).IsBlockSized :=
  every_empty.run h

/-- The blocks that a cached layer keeps are no longer than a block. -/
theorem Mirrors.isBlockSized {content : Bytes} {size : Nat} (h : cache.Mirrors content size) :
    cache.IsBlockSized := by
  intro index data hdata
  obtain ⟨rfl, -⟩ := h index data hdata
  rw [Bytes.length_window]
  exact Nat.min_le_left _ _

/-- Where no block is too long, bulk service agrees with bytewise service whatever is asked. -/
theorem IsBlockSized.serves (h : cache.IsBlockSized) (offset : Nat) (buffer : Bytes) :
    cache.Serves offset buffer (cache.copyOut offset buffer.length).length
      (buffer.overlay 0 (cache.copyOut offset buffer.length)) :=
  (serves_iff_fits cache offset buffer).mpr fun data hdata => .inl (h _ data hdata)

/-! ## Runs -/

/-- The bytes that a block has after a run: those that came first for it since the last clear. -/
def firstInstalled (operations : List Operation) (index : BlockIndex) : Bytes :=
  ((installs (sinceCleared operations)).lookup index).getD []

theorem blockAt_run {operations : List Operation}
    (h : ∀ operation ∈ operations, operation.IsPlaceable)
    (offset : Nat) : (empty.run operations).blockAt offset =
      (installs (sinceCleared operations)).lookup (.containing offset) :=
  (reflects_run h).block?_eq _

theorem copyOut_run {operations : List Operation}
    (h : ∀ operation ∈ operations, operation.IsPlaceable)
    (offset room : Nat) : (empty.run operations).copyOut offset room =
      (firstInstalled operations (.containing offset)).window
        (BlockIndex.offsetWithin offset) room := by
  unfold copyOut firstInstalled
  rw [blockAt_run h]
  cases (installs (sinceCleared operations)).lookup (.containing offset) with
  | none => simp [Bytes.window]
  | some data => rfl

theorem fits_run_iff {operations : List Operation}
    (h : ∀ operation ∈ operations, operation.IsPlaceable)
    (offset room : Nat) : (empty.run operations).Fits offset room ↔
      (firstInstalled operations (.containing offset)).length ≤ blockSize ∨
        BlockIndex.offsetWithin offset + room ≤ blockSize := by
  unfold Fits firstInstalled
  rw [blockAt_run h]
  cases (installs (sinceCleared operations)).lookup (.containing offset) with
  | none => exact iff_of_true nofun (.inl (Nat.zero_le _))
  | some data =>
    constructor
    · intro hfits
      exact hfits data rfl
    · intro hfits bytes hbytes
      cases hbytes
      exact hfits

/-- **Bulk service agrees with bytewise service unless a block is too long.** After any operations
on an empty cache, on blocks that can have a place, and from any offset on, the bytes of the block
that came first for it are put in the first places of a buffer, as far as there is room, and every
other place is left as it is. Up to the end of the block they are the bytes that are served one by
one. All of them are, and from this block, exactly if the bytes that came for it are no more than a
block has or the buffer ends before the block does. -/
theorem bulk_service_agrees_iff {operations : List Operation}
    (h : ∀ operation ∈ operations, operation.IsPlaceable) (offset : Nat) (buffer : Bytes)
    (stream : σ)
    (g : Gauged ω) :
    ∃ bytes left : Bytes,
      (empty.run operations).copyOut offset buffer.length = bytes ∧
      ((empty.run operations).copyOutInto offset : StreamM (Gauged ω) (σ × Bytes) Nat)
          ((stream, buffer), g) = .ok bytes.length ((stream, left), g) ∧
      bytes = (firstInstalled operations (.containing offset)).window
        (BlockIndex.offsetWithin offset) buffer.length ∧
      left = bytes ++ buffer.drop bytes.length ∧
      (∀ i, i < bytes.length → BlockIndex.offsetWithin offset + i < blockSize →
        left[i]? = (empty.run operations).byteAt (offset + i)) ∧
      ((empty.run operations).Serves offset buffer bytes.length left ↔
        (firstInstalled operations (.containing offset)).length ≤ blockSize ∨
          BlockIndex.offsetWithin offset + buffer.length ≤ blockSize) := by
  refine ⟨_, _, rfl, copyOutInto_apply _ _ _ _ _, copyOut_run h offset buffer.length,
    Bytes.overlay_zero (length_copyOut_le _ _ _), ?_, ?_⟩
  · intro i hi hblock
    exact getElem?_overlay_copyOut _ buffer hi hblock
  · exact (serves_iff_fits _ offset buffer).trans (fits_run_iff h offset buffer.length)

/-- Four bytes more than a block has are installed. -/
def overlong : List Operation := [.install ⟨0⟩ (List.replicate 4100 7) 4100]

/-- From six bytes before the end of the block a buffer of ten is filled across the end, where no
byte is served. -/
theorem bulk_service_crosses_overlong :
    (∀ operation ∈ overlong, operation.IsPlaceable) ∧
      (empty.run overlong).copyOut 4090 10 = List.replicate 10 7 ∧
      (empty.run overlong).byteAt 4096 = none ∧
      ¬ (empty.run overlong).Serves 4090 (List.replicate 10 0xee) 10 (List.replicate 10 7) := by
  have hplaceable : ∀ operation ∈ overlong, operation.IsPlaceable := by
    intro operation hmem
    cases List.mem_singleton.mp hmem
    decide
  have hheld : firstInstalled overlong ⟨0⟩ = List.replicate 4100 7 := by
    show (List.replicate 4100 7).take 4100 = _
    rw [List.take_replicate, Nat.min_self]
  obtain ⟨bytes, left, hcopied, -, hbytes, hleft, -, hagrees⟩ :=
    bulk_service_agrees_iff hplaceable 4090 (List.replicate 10 0xee) () (⟨(), []⟩ : Gauged Unit)
  have hten : bytes = List.replicate 10 7 := by
    rw [hbytes]
    show (firstInstalled overlong ⟨0⟩).window 4090 10 = _
    rw [hheld, Bytes.window, List.drop_replicate, List.take_replicate]
    rfl
  subst hten
  subst hleft
  refine ⟨hplaceable, hcopied, ?_, fun hserves => ?_⟩
  · unfold byteAt
    rw [blockAt_run hplaceable]
    rfl
  · have hlength : (firstInstalled overlong ⟨0⟩).length = 4100 := by
      rw [hheld, List.length_replicate]
    rcases hagrees.mp hserves with hle | hle
    · exact absurd (hlength ▸ hle) (by decide)
    · exact absurd hle (by decide)

end BlockCache

end LayeredStreams
