import LayeredStreams.Bytes
import LayeredStreams.Position
import LayeredStreams.Block.Index

/-!
# The block cache

A cache of the blocks of one content. Blocks are kept in order of their index; a block that was
never loaded is kept as a mere place.

* `CachedBlock` — one place: not loaded, or loaded with the bytes of the block. A block shorter
  than `blockSize` is the last one of its content.
* `BlockCache.missingBlock` — the block that has to be loaded to serve an offset, if any; the cache
  grows to have a place for it.
* `BlockCache.install` — put a block in its place; the first one stays.
* `BlockCache.copyOut`, `BlockCache.byteAt` — serve bytes from the block of an offset, never from
  the next one.
* `BlockCache.apply`, `BlockCache.run` — one operation as data, and a list of them.
* `BlockCache.Every` — something holds of every loaded block.

Principal results: `block?_install`, `isLoaded_install`, `block?_missingBlock` (what an operation
does to each block), `loadedCount_install`, `capacity_install`, `capacity_missingBlock` (how far the
cache grows), `getElem?_copyOut` (bytes served in bulk are the bytes served one by one) and
`Every.install` (what holds of every block, and of one that is put in its place, holds of every
block).
-/

set_option autoImplicit false

namespace LayeredStreams

/-- One place of the cache. -/
inductive CachedBlock
  | notLoaded
  | loaded (data : Bytes)
  deriving DecidableEq, Repr, Inhabited

namespace CachedBlock

/-- Whether the bytes of the block are there. -/
def isLoaded : CachedBlock → Bool
  | notLoaded => false
  | loaded _ => true

/-- The bytes of the block, if they are there. -/
def data? : CachedBlock → Option Bytes
  | notLoaded => none
  | loaded data => some data

/-- The number of bytes in the block; a block that is not loaded has none. -/
def length (block : CachedBlock) : Nat := (block.data?.map List.length).getD 0

/-- Whether the block has no bytes. -/
def isEmpty (block : CachedBlock) : Bool := block.length == 0

/-- Whether the content ends in this block. -/
def isTerminal (block : CachedBlock) : Bool := block.isLoaded && block.length < blockSize

end CachedBlock

/-- The blocks of one content, as far as they are known. -/
structure BlockCache where
  /-- The places, by block index. -/
  blocks : List CachedBlock
  deriving DecidableEq, Repr

namespace BlockCache

/-- The cache with no block. -/
def empty : BlockCache := ⟨[]⟩

/-- A block of zero bytes, to be filled. -/
def blankBlock : Bytes := Bytes.zeros blockSize

/-- The place of a block; the greatest word is none, since a cache cannot have so many places. -/
def placeOf (index : BlockIndex) : Option Nat :=
  if index.value < maxWord then some index.value else none

/-- The block at an index, if it is loaded. -/
def block? (cache : BlockCache) (index : BlockIndex) : Option Bytes :=
  (placeOf index).bind fun place => cache.blocks[place]?.bind CachedBlock.data?

/-- The block that an offset lies in, if it is loaded. -/
def blockAt (cache : BlockCache) (offset : Nat) : Option Bytes :=
  cache.block? (.containing offset)

/-- Whether the block at an index is loaded. -/
def isLoaded (cache : BlockCache) (index : BlockIndex) : Bool := (cache.block? index).isSome

/-- The number of loaded blocks. -/
def loadedCount (cache : BlockCache) : Nat := cache.blocks.countP CachedBlock.isLoaded

/-- The number of places. -/
def capacity (cache : BlockCache) : Nat := cache.blocks.length

/-- The places with more of them appended, so that there are at least `count`. -/
def growTo (cache : BlockCache) (count : Nat) : BlockCache :=
  ⟨cache.blocks ++ List.replicate (count - cache.blocks.length) .notLoaded⟩

/-- The block to load before `offset` can be served, and the cache with a place for it; no block if
it is loaded already. -/
def missingBlock (cache : BlockCache) (offset : Nat) : Option BlockIndex × BlockCache :=
  let index := BlockIndex.containing offset
  match placeOf index with
  | none => (none, cache)
  | some place =>
    (if cache.isLoaded index then none else some index, cache.growTo (place + 1))

/-- Put the first `filled` bytes of `data` in the place of a block. A block that is loaded already
stays as it is. -/
def install (cache : BlockCache) (index : BlockIndex) (data : Bytes) (filled : Nat) : BlockCache :=
  match placeOf index with
  | none => cache
  | some place =>
    if cache.isLoaded index then cache
    else ⟨(cache.growTo (place + 1)).blocks.set place (.loaded (data.take filled))⟩

/-- At most `room` bytes from `offset` on, all from the block it lies in. -/
def copyOut (cache : BlockCache) (offset room : Nat) : Bytes :=
  match cache.blockAt offset with
  | none => []
  | some data => data.window (BlockIndex.offsetWithin offset) room

/-- The byte at `offset`, if its block is loaded and reaches that far. -/
def byteAt (cache : BlockCache) (offset : Nat) : Option UInt8 :=
  (cache.blockAt offset).bind fun data => data[BlockIndex.offsetWithin offset]?

/-- The cache with all blocks and places given up. -/
def clear (_cache : BlockCache) : BlockCache := empty

theorem placeOf_of_lt {value : Nat} (h : value < maxWord) : placeOf ⟨value⟩ = some value :=
  if_pos h

/-- What can be done with a cache. -/
inductive Operation
  /-- Which block has to be loaded to serve an offset? -/
  | missingBlock (offset : Nat)
  | install (index : BlockIndex) (data : Bytes) (filled : Nat)
  /-- Serve bytes from an offset on. -/
  | copyOut (offset room : Nat)
  | byteAt (offset : Nat)
  | isLoaded (index : BlockIndex)
  /-- How many blocks are loaded, and how many places are there? -/
  | counts
  | clear
  deriving DecidableEq, Repr

/-- What comes of an operation. -/
inductive Reply
  | done
  | missing (index : Option BlockIndex)
  | bytes (bytes : Bytes)
  | byte (byte : Option UInt8)
  | loaded (isLoaded : Bool)
  | counts (loaded places : Nat)
  deriving DecidableEq, Repr

/-- Carry out an operation: what comes of it, and the cache afterwards. -/
def apply (cache : BlockCache) : Operation → Reply × BlockCache
  | .missingBlock offset => (.missing (cache.missingBlock offset).1, (cache.missingBlock offset).2)
  | .install index data filled => (.done, cache.install index data filled)
  | .copyOut offset room => (.bytes (cache.copyOut offset room), cache)
  | .byteAt offset => (.byte (cache.byteAt offset), cache)
  | .isLoaded index => (.loaded (cache.isLoaded index), cache)
  | .counts => (.counts cache.loadedCount cache.capacity, cache)
  | .clear => (.done, cache.clear)

/-- The cache after some operations. -/
def run (cache : BlockCache) (operations : List Operation) : BlockCache :=
  operations.foldl (fun cache operation => (cache.apply operation).2) cache

@[simp] theorem block?_empty (index : BlockIndex) : empty.block? index = none := by
  unfold block?
  cases placeOf index <;> rfl

theorem block?_growTo (cache : BlockCache) (count : Nat) (index : BlockIndex) :
    (cache.growTo count).block? index = cache.block? index := by
  unfold block?
  cases placeOf index with
  | none => rfl
  | some place =>
    simp only [Option.bind_some, growTo, List.getElem?_append]
    split
    · rfl
    · rename_i h
      rw [List.getElem?_eq_none (Nat.le_of_not_lt h), List.getElem?_replicate]
      split <;> rfl

theorem capacity_growTo (cache : BlockCache) (count : Nat) :
    (cache.growTo count).capacity = max cache.capacity count := by
  simp [growTo, capacity]; omega

/-- There is a place for a block where there was made one. -/
theorem lt_length_growTo (cache : BlockCache) (place : Nat) :
    place < (cache.growTo (place + 1)).blocks.length := by
  have hcapacity := capacity_growTo cache (place + 1)
  unfold capacity at hcapacity
  omega

theorem loadedCount_growTo (cache : BlockCache) (count : Nat) :
    (cache.growTo count).loadedCount = cache.loadedCount := by
  unfold loadedCount growTo
  rw [List.countP_append, List.countP_replicate]
  simp [CachedBlock.isLoaded]

/-- Asking for a missing block changes no block. -/
theorem block?_missingBlock (cache : BlockCache) (offset : Nat) (index : BlockIndex) :
    (cache.missingBlock offset).2.block? index = cache.block? index := by
  unfold missingBlock
  dsimp only
  split
  · rfl
  · exact block?_growTo _ _ _

theorem loadedCount_missingBlock (cache : BlockCache) (offset : Nat) :
    (cache.missingBlock offset).2.loadedCount = cache.loadedCount := by
  unfold missingBlock
  dsimp only
  split
  · rfl
  · exact loadedCount_growTo _ _

@[simp] theorem blockAt_missingBlock (cache : BlockCache) (offset at' : Nat) :
    (cache.missingBlock offset).2.blockAt at' = cache.blockAt at' :=
  block?_missingBlock cache offset (.containing at')

theorem capacity_missingBlock (cache : BlockCache) (offset : Nat)
    (h : offset / blockSize < maxWord) :
    (cache.missingBlock offset).2.capacity = max cache.capacity (offset / blockSize + 1) := by
  simp only [missingBlock, BlockIndex.containing, placeOf_of_lt h]
  exact capacity_growTo _ _

/-- The block of an offset is missing unless it is loaded. -/
theorem fst_missingBlock (cache : BlockCache) {offset : Nat}
    (h : (BlockIndex.containing offset).value < maxWord) :
    (cache.missingBlock offset).1 =
      if cache.isLoaded (.containing offset) then none else some (.containing offset) := by
  unfold missingBlock
  dsimp only
  rw [placeOf_of_lt h]

/-- The block that is missing is the one that the offset lies in. -/
theorem missingBlock_eq_some {cache : BlockCache} {offset : Nat} {index : BlockIndex}
    (h : (cache.missingBlock offset).1 = some index) : index = .containing offset := by
  unfold missingBlock at h
  dsimp only at h
  split at h
  · cases h
  · split at h
    · cases h
    · exact (Option.some.inj h).symm

/-- A block that can have no place is not kept. -/
theorem install_of_not_lt {index : BlockIndex} (h : ¬ index.value < maxWord) (cache : BlockCache)
    (data : Bytes) (filled : Nat) : cache.install index data filled = cache := by
  have hplace : placeOf index = none := if_neg h
  unfold install
  rw [hplace]

/-- A block that is loaded is not replaced. -/
theorem install_of_isLoaded {cache : BlockCache} {index : BlockIndex}
    (h : cache.isLoaded index = true) (data : Bytes) (filled : Nat) :
    cache.install index data filled = cache := by
  unfold install
  cases placeOf index with
  | none => rfl
  | some place => exact if_pos h

/-- The first block put in a place is found there; every other block stays as it was. -/
theorem block?_install (cache : BlockCache) (index other : BlockIndex) (data : Bytes)
    (filled : Nat) (h : index.value < maxWord) :
    (cache.install index data filled).block? other =
      if other = index then some ((cache.block? index).getD (data.take filled))
      else cache.block? other := by
  unfold install
  rw [placeOf, if_pos h]
  dsimp only
  split
  · rename_i hloaded
    split
    · rename_i heq
      subst heq
      obtain ⟨block, hblock⟩ := Option.isSome_iff_exists.1 hloaded
      rw [hblock, Option.getD_some]
    · rfl
  · rename_i hloaded
    have hnone : cache.block? index = none := by
      simpa [isLoaded] using hloaded
    have hplaces := lt_length_growTo cache index.value
    split
    · rename_i heq
      subst heq
      rw [hnone, Option.getD_none]
      simp [block?, placeOf, h, List.getElem?_set, hplaces, CachedBlock.data?]
    · rename_i hne
      have hvalue : index.value ≠ other.value := by
        intro hv
        apply hne
        cases index; cases other
        simp_all
      rw [← block?_growTo cache (index.value + 1) other]
      unfold block? placeOf
      split
      · simp [List.getElem?_set, hvalue]
      · rfl

theorem isLoaded_install (cache : BlockCache) (index other : BlockIndex) (data : Bytes)
    (filled : Nat) (h : index.value < maxWord) :
    (cache.install index data filled).isLoaded other =
      (decide (other = index) || cache.isLoaded other) := by
  unfold isLoaded
  rw [block?_install _ _ _ _ _ h]
  split <;> simp_all

/-- A block that is put in its place is one more. -/
theorem loadedCount_install {cache : BlockCache} {index : BlockIndex}
    (hword : index.value < maxWord)
    (hnot : cache.isLoaded index = false) (data : Bytes) (filled : Nat) :
    (cache.install index data filled).loadedCount = cache.loadedCount + 1 := by
  have hplaces := lt_length_growTo cache index.value
  have hblock : ((cache.growTo (index.value + 1)).blocks[index.value]).isLoaded = false := by
    have hnone : (cache.growTo (index.value + 1)).block? index = none := by
      rw [block?_growTo]
      simpa [isLoaded] using hnot
    unfold block? at hnone
    rw [placeOf, if_pos hword, Option.bind_some, List.getElem?_eq_getElem hplaces,
      Option.bind_some] at hnone
    cases hplace : (cache.growTo (index.value + 1)).blocks[index.value] with
    | notLoaded => rfl
    | loaded data =>
      rw [hplace] at hnone
      cases hnone
  unfold install
  rw [placeOf, if_pos hword]
  dsimp only
  rw [hnot, if_neg Bool.false_ne_true, ← loadedCount_growTo cache (index.value + 1)]
  unfold loadedCount
  dsimp only
  rw [List.countP_set hplaces, hblock]
  rfl

theorem capacity_install (cache : BlockCache) (index : BlockIndex) (data : Bytes) (filled : Nat)
    (h : index.value < maxWord) :
    (cache.install index data filled).capacity =
      max cache.capacity (index.value + 1) := by
  unfold install
  rw [placeOf, if_pos h]
  dsimp only
  split
  · rename_i hloaded
    have : index.value < cache.capacity := by
      simp only [isLoaded, block?, placeOf, if_pos h, Option.bind_some] at hloaded
      unfold capacity
      rcases Nat.lt_or_ge index.value cache.blocks.length with hlt | hge
      · exact hlt
      · rw [List.getElem?_eq_none hge] at hloaded
        cases hloaded
    omega
  · simp only [capacity, List.length_set]
    exact capacity_growTo _ _

theorem length_copyOut_le (cache : BlockCache) (offset room : Nat) :
    (cache.copyOut offset room).length ≤ room := by
  unfold copyOut
  split
  · exact Nat.zero_le _
  · rw [Bytes.length_window]
    exact Nat.min_le_left _ _

/-- Bytes served in bulk are the bytes served one by one, up to the end of the block. -/
theorem getElem?_copyOut (cache : BlockCache) (offset room i : Nat)
    (h : BlockIndex.offsetWithin offset + i < blockSize) :
    (cache.copyOut offset room)[i]? = if i < room then cache.byteAt (offset + i) else none := by
  have hsame : BlockIndex.containing (offset + i) = BlockIndex.containing offset := by
    simp only [BlockIndex.containing, BlockIndex.offsetWithin, blockSize, BlockIndex.mk.injEq] at *
    omega
  have hwithin : BlockIndex.offsetWithin (offset + i) = BlockIndex.offsetWithin offset + i := by
    simp only [BlockIndex.offsetWithin, blockSize] at *
    omega
  unfold copyOut byteAt blockAt
  rw [hsame, hwithin]
  cases cache.block? (.containing offset) with
  | none => simp
  | some data => simp [Bytes.getElem?_window]

/-- What holds of an index and the bytes of its block holds of every loaded block. -/
def Every (holds : BlockIndex → Bytes → Prop) (cache : BlockCache) : Prop :=
  ∀ index data, cache.block? index = some data → holds index data

section Every

variable {holds : BlockIndex → Bytes → Prop} {cache cache' : BlockCache}

theorem every_empty : empty.Every holds := by
  intro index data h
  rw [block?_empty] at h
  cases h

theorem Every.of_block?_eq (h : cache.Every holds)
    (heq : ∀ index, cache'.block? index = cache.block? index) : cache'.Every holds := by
  intro index data hdata
  rw [heq] at hdata
  exact h index data hdata

theorem Every.install (h : cache.Every holds) {index : BlockIndex} {data : Bytes} {filled : Nat}
    (hdata : holds index (data.take filled)) : (cache.install index data filled).Every holds := by
  by_cases hword : index.value < maxWord
  · intro other bytes hbytes
    rw [block?_install _ _ _ _ _ hword] at hbytes
    split at hbytes
    · rename_i heq
      subst heq
      cases hold : cache.block? other with
      | none =>
        rw [hold, Option.getD_none] at hbytes
        cases hbytes
        exact hdata
      | some old =>
        rw [hold, Option.getD_some] at hbytes
        cases hbytes
        exact h other bytes hold
    · exact h other bytes hbytes
  · rw [install_of_not_lt hword]
    exact h

end Every

end BlockCache

end LayeredStreams
