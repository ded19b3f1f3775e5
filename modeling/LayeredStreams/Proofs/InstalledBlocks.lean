import LayeredStreams.Block.Cache
import Mathlib.Data.Finset.Lattice.Fold
import Mathlib.Data.List.DropRight
import Mathlib.Order.Lattice.Nat

/-!
# Installed blocks

What a cache holds is told by what was done with it since it was last cleared. Of each block it has
the bytes that came first; what came for it later makes no difference.

* `Operation.named?`, `Operation.brought?` — the block that an operation makes a place for, and the
  block that it brings.
* `sinceCleared` — the operations after the last one that cleared the cache.
* `installs` — the blocks that operations bring, in order; to look one up is to find the first.
* `installedBlocks`, `placesFor` — which blocks these are, and how many places operations make.
* `Reflects` — the blocks of a cache, their number and its places are those that operations account
  for.
* `Recounts` — the answers of a cache are.

Principal results: `Reflects.apply` (one operation), `reflects_run` (any run), `Every.run` (what
holds of all that is brought holds of all blocks) and `first_install_wins`.
-/

set_option autoImplicit false

namespace LayeredStreams

namespace BlockCache

namespace Operation

/-- The block that an operation makes a place for. -/
def named? : Operation → Option BlockIndex
  | missingBlock offset => some (.containing offset)
  | install index _ _ => some index
  | _ => none

/-- The block that an operation brings, with its bytes. -/
def brought? : Operation → Option (BlockIndex × Bytes)
  | install index data filled => some (index, data.take filled)
  | _ => none

/-- The block that an operation names can have a place in a cache. -/
def IsPlaceable (operation : Operation) : Prop :=
  ∀ index ∈ operation.named?, index.value < maxWord

instance : DecidablePred IsPlaceable := fun operation =>
  inferInstanceAs (Decidable (∀ index ∈ operation.named?, index.value < maxWord))

end Operation

/-! ## What operations account for -/

/-- The operations since a cache was last cleared. -/
def sinceCleared (operations : List Operation) : List Operation :=
  operations.rtakeWhile (· ≠ .clear)

/-- The blocks that operations bring, with their bytes, in the order in which they come. -/
def installs (operations : List Operation) : List (BlockIndex × Bytes) :=
  operations.filterMap Operation.brought?

/-- The blocks that operations bring, each of them once. -/
def installedBlocks (operations : List Operation) : Finset BlockIndex :=
  ((installs operations).map Prod.fst).toFinset

/-- How many places there are once there is one for each block that operations name. -/
def placesFor (operations : List Operation) : Nat :=
  (operations.filterMap Operation.named?).toFinset.sup fun index => index.value + 1

theorem sinceCleared_append_clear (operations : List Operation) :
    sinceCleared (operations ++ [.clear]) = [] := by
  unfold sinceCleared
  rw [List.rtakeWhile_concat]
  rfl

theorem sinceCleared_append_of_ne {operation : Operation} (h : operation ≠ .clear)
    (operations : List Operation) :
    sinceCleared (operations ++ [operation]) = sinceCleared operations ++ [operation] := by
  unfold sinceCleared
  rw [List.rtakeWhile_concat, if_pos (decide_eq_true h)]

theorem installs_append (operations later : List Operation) :
    installs (operations ++ later) = installs operations ++ installs later :=
  List.filterMap_append

theorem installedBlocks_append (operations later : List Operation) :
    installedBlocks (operations ++ later) = installedBlocks operations ∪ installedBlocks later := by
  unfold installedBlocks
  rw [installs_append, List.map_append, List.toFinset_append]

theorem placesFor_append (operations later : List Operation) :
    placesFor (operations ++ later) = max (placesFor operations) (placesFor later) := by
  unfold placesFor
  rw [List.filterMap_append, List.toFinset_append, Finset.sup_union]

theorem mem_installedBlocks {operations : List Operation} {index : BlockIndex} :
    index ∈ installedBlocks operations ↔
      ∃ data filled, Operation.install index data filled ∈ operations := by
  unfold installedBlocks installs
  rw [List.mem_toFinset, List.mem_map]
  constructor
  · rintro ⟨block, hblock, rfl⟩
    obtain ⟨operation, hmem, hbrought⟩ := List.mem_filterMap.mp hblock
    cases operation with
    | install index data filled =>
      cases hbrought
      exact ⟨data, filled, hmem⟩
    | _ => cases hbrought
  · rintro ⟨data, filled, hmem⟩
    exact ⟨(index, data.take filled), List.mem_filterMap.mpr ⟨_, hmem, rfl⟩, rfl⟩

theorem isSome_lookup_installs {operations : List Operation} {index : BlockIndex} :
    ((installs operations).lookup index).isSome = true ↔ index ∈ installedBlocks operations := by
  unfold installedBlocks
  rw [List.lookup_isSome_iff, List.mem_toFinset, List.mem_map]
  constructor
  · rintro ⟨block, hblock, hindex⟩
    exact ⟨block, hblock, (beq_iff_eq.mp hindex).symm⟩
  · rintro ⟨block, hblock, rfl⟩
    exact ⟨block, hblock, beq_self_eq_true _⟩

/-! ## One operation -/

variable {cache : BlockCache} {operation : Operation} {recent : List Operation}

/-- An operation that does not clear the cache keeps the blocks that are there, and adds the one
that it brings. -/
theorem block?_apply (cache : BlockCache) (h : operation.IsPlaceable) (hclear : operation ≠ .clear)
    (index : BlockIndex) :
    (cache.apply operation).2.block? index =
      (cache.block? index).or ((installs [operation]).lookup index) := by
  cases operation with
  | missingBlock offset =>
    exact (block?_missingBlock cache offset index).trans Option.or_none.symm
  | install place data filled =>
    show (cache.install place data filled).block? index =
      (cache.block? index).or (List.lookup index [(place, data.take filled)])
    rw [block?_install _ _ _ _ _ (h place rfl), List.lookup_cons]
    by_cases hindex : index = place
    · subst hindex
      rw [if_pos rfl, beq_self_eq_true]
      cases cache.block? index with
      | none => rfl
      | some bytes => rfl
    · rw [if_neg hindex, beq_false_of_ne hindex]
      exact Option.or_none.symm
  | clear => exact absurd rfl hclear
  | _ => exact Option.or_none.symm

/-- An operation that does not clear the cache makes a place for the block that it names. -/
theorem capacity_apply (cache : BlockCache) (h : operation.IsPlaceable)
    (hclear : operation ≠ .clear) :
    (cache.apply operation).2.capacity = max cache.capacity (placesFor [operation]) := by
  cases operation with
  | missingBlock offset => exact capacity_missingBlock cache offset (h (.containing offset) rfl)
  | install index data filled => exact capacity_install cache index data filled (h index rfl)
  | clear => exact absurd rfl hclear
  | _ => exact (Nat.max_zero _).symm

/-- What holds of every block, and of one that is brought, holds of every block afterwards. -/
theorem Every.apply {holds : BlockIndex → Bytes → Prop} (h : cache.Every holds)
    (hbrought : ∀ block ∈ installs [operation], holds block.1 block.2) :
    (cache.apply operation).2.Every holds := by
  cases operation with
  | missingBlock offset => exact h.of_block?_eq (cache.block?_missingBlock offset)
  | install index data filled =>
    exact h.install (hbrought (index, data.take filled) List.mem_cons_self)
  | clear => exact every_empty
  | _ => exact h

/-- The blocks of a cache, their number and the number of its places are those that operations
account for. -/
structure Reflects (cache : BlockCache) (recent : List Operation) : Prop where
  block?_eq : ∀ index, cache.block? index = (installs recent).lookup index
  loadedCount_eq : cache.loadedCount = (installedBlocks recent).card
  capacity_eq : cache.capacity = placesFor recent

theorem reflects_empty : empty.Reflects [] where
  block?_eq := block?_empty
  loadedCount_eq := rfl
  capacity_eq := rfl

theorem Reflects.isLoaded_iff (h : cache.Reflects recent) (index : BlockIndex) :
    cache.isLoaded index = true ↔ index ∈ installedBlocks recent := by
  unfold isLoaded
  rw [h.block?_eq]
  exact isSome_lookup_installs

/-- A block that is brought again is not counted again. -/
theorem Reflects.loadedCount_apply (h : cache.Reflects recent) (hplace : operation.IsPlaceable)
    (hclear : operation ≠ .clear) :
    (cache.apply operation).2.loadedCount = (installedBlocks (recent ++ [operation])).card := by
  rw [installedBlocks_append]
  cases operation with
  | missingBlock offset =>
    show (cache.missingBlock offset).2.loadedCount = (installedBlocks recent ∪ ∅).card
    rw [loadedCount_missingBlock, Finset.union_empty]
    exact h.loadedCount_eq
  | install index data filled =>
    show (cache.install index data filled).loadedCount = (installedBlocks recent ∪ {index}).card
    rw [Finset.union_comm, ← Finset.insert_eq]
    -- A block joins the set exactly if it is not loaded, and only then it is put in its place.
    have hloaded := h.isLoaded_iff index
    cases hold : cache.isLoaded index with
    | true =>
      rw [Finset.insert_eq_of_mem (hloaded.mp hold), install_of_isLoaded hold]
      exact h.loadedCount_eq
    | false =>
      have hnew : index ∉ installedBlocks recent := by
        rw [← hloaded, hold]
        exact Bool.false_ne_true
      rw [Finset.card_insert_of_notMem hnew, loadedCount_install (hplace index rfl) hold,
        h.loadedCount_eq]
  | clear => exact absurd rfl hclear
  | _ =>
    show cache.loadedCount = (installedBlocks recent ∪ ∅).card
    rw [Finset.union_empty]
    exact h.loadedCount_eq

/-- **One operation.** What accounts for a cache accounts, with an operation that does not clear it,
for the cache afterwards. -/
theorem Reflects.apply (h : cache.Reflects recent) (hplace : operation.IsPlaceable)
    (hclear : operation ≠ .clear) : (cache.apply operation).2.Reflects (recent ++ [operation]) where
  block?_eq index := by
    rw [block?_apply cache hplace hclear, installs_append, List.lookup_append, h.block?_eq]
  loadedCount_eq := h.loadedCount_apply hplace hclear
  capacity_eq := by
    rw [capacity_apply cache hplace hclear, placesFor_append, h.capacity_eq]

/-! ## Runs -/

theorem run_append (cache : BlockCache) (operations later : List Operation) :
    cache.run (operations ++ later) = (cache.run operations).run later :=
  List.foldl_append

/-- What holds of every block that is brought in a run holds of every block after it. -/
theorem Every.run {holds : BlockIndex → Bytes → Prop} {operations : List Operation}
    (h : cache.Every holds) (hbrought : ∀ block ∈ installs operations, holds block.1 block.2) :
    (cache.run operations).Every holds := by
  induction operations generalizing cache with
  | nil => exact h
  | cons operation operations ih =>
    have hsplit := installs_append [operation] operations
    rw [List.singleton_append] at hsplit
    rw [hsplit] at hbrought
    exact ih (h.apply fun block hblock => hbrought block (List.mem_append_left _ hblock))
      fun block hblock => hbrought block (List.mem_append_right _ hblock)

/-- **A cache is accounted for by the operations since it was last cleared.** The induction is on
the operations, the last one first, since a clear makes those before it void. -/
theorem reflects_run {operations : List Operation}
    (h : ∀ operation ∈ operations, operation.IsPlaceable) :
    (empty.run operations).Reflects (sinceCleared operations) := by
  induction operations using List.reverseRecOn with
  | nil => exact reflects_empty
  | append_singleton operations operation ih =>
    rw [run_append]
    by_cases hclear : operation = .clear
    · subst hclear
      rw [sinceCleared_append_clear]
      exact reflects_empty
    · rw [sinceCleared_append_of_ne hclear]
      have hbefore := ih fun operation hmem => h operation (List.mem_append_left _ hmem)
      exact hbefore.apply (h operation (List.mem_append_right _ List.mem_cons_self)) hclear

/-- As long as a cache is not cleared it gives up no place. -/
theorem capacity_le_capacity_run {later : List Operation}
    (h : ∀ operation ∈ later, operation.IsPlaceable) (hclear : .clear ∉ later)
    (cache : BlockCache) :
    cache.capacity ≤ (cache.run later).capacity := by
  induction later generalizing cache with
  | nil => exact Nat.le_refl _
  | cons operation later ih =>
    have hne : operation ≠ .clear := fun heq => hclear (heq ▸ List.mem_cons_self)
    calc cache.capacity
        ≤ max cache.capacity (placesFor [operation]) := Nat.le_max_left _ _
      _ = (cache.apply operation).2.capacity :=
          (capacity_apply cache (h operation List.mem_cons_self) hne).symm
      _ ≤ ((cache.apply operation).2.run later).capacity :=
          ih (fun operation hmem => h operation (List.mem_cons_of_mem _ hmem))
            (fun hmem => hclear (List.mem_cons_of_mem _ hmem)) _

/-- The answers of a cache are what operations account for. -/
structure Recounts (cache : BlockCache) (recent : List Operation) : Prop where
  isLoaded_iff : ∀ index, cache.isLoaded index = true ↔
    ∃ data filled, Operation.install index data filled ∈ recent
  /-- The bytes of a block are those that came first for it. -/
  byteAt_eq : ∀ (index : BlockIndex) (place : Nat), place < blockSize →
    cache.byteAt (index.start + place) = ((installs recent).lookup index).bind (·[place]?)
  loadedCount_eq : cache.loadedCount = (installedBlocks recent).card
  capacity_eq : cache.capacity = placesFor recent
  missingBlock_eq : ∀ offset, offset / blockSize < maxWord → (cache.missingBlock offset).1 =
    if cache.isLoaded (.containing offset) then none else some (.containing offset)
  /-- To ask for a missing block changes no block. -/
  block?_missing : ∀ offset index, (cache.missingBlock offset).2.block? index = cache.block? index

theorem Reflects.recounts (h : cache.Reflects recent) : cache.Recounts recent where
  isLoaded_iff index := (h.isLoaded_iff index).trans mem_installedBlocks
  byteAt_eq index place hplace := by
    unfold byteAt blockAt
    rw [index.containing_start_add hplace, index.offsetWithin_start_add hplace, h.block?_eq]
  loadedCount_eq := h.loadedCount_eq
  capacity_eq := h.capacity_eq
  missingBlock_eq _ hword := cache.fst_missingBlock hword
  block?_missing := cache.block?_missingBlock

/-- **A cache keeps what comes first.** After any operations on an empty cache, on blocks that can
have a place, its answers are what the operations since it was last cleared account for: a block is
loaded exactly if it was installed, its bytes are the first ones that were installed for it, and
there are as many places as it takes for every block that was named. As long as the cache is not
cleared, whatever is done with it gives up no place. -/
theorem first_install_wins {operations : List Operation}
    (h : ∀ operation ∈ operations, operation.IsPlaceable) :
    (empty.run operations).Recounts (sinceCleared operations) ∧
      ∀ later : List Operation, (∀ operation ∈ later, operation.IsPlaceable) → .clear ∉ later →
        (empty.run operations).capacity ≤ (empty.run (operations ++ later)).capacity := by
  refine ⟨(reflects_run h).recounts, fun later hlater hclear => ?_⟩
  rw [run_append]
  exact capacity_le_capacity_run hlater hclear _

/-- After a clear a block is installed twice, with two of three bytes at first, and two blocks are
asked for. -/
def installedTwice : List Operation :=
  [.install ⟨0⟩ [1] 1, .clear, .missingBlock 4100, .install ⟨1⟩ [7, 8, 9] 2, .install ⟨1⟩
  [5, 5, 5] 3,
    .missingBlock 20000]

/-- The two bytes are what there is of the block, no other block is loaded, and there are places up
to that of the last one that was asked for. -/
theorem first_install_wins_installedTwice :
    (∀ operation ∈ installedTwice, operation.IsPlaceable) ∧
      (empty.run installedTwice).byteAt 4096 = some 7 ∧
      (empty.run installedTwice).byteAt 4098 = none ∧
      (empty.run installedTwice).isLoaded ⟨0⟩ = false ∧
      (empty.run installedTwice).loadedCount = 1 ∧
      (empty.run installedTwice).capacity = 5 ∧
      ((empty.run installedTwice).missingBlock 20000).1 = some ⟨4⟩ ∧
      5 ≤ (empty.run (installedTwice ++ [.install ⟨2⟩ [] 0])).capacity := by
  have hplaceable : ∀ operation ∈ installedTwice, operation.IsPlaceable := by decide
  obtain ⟨recounts, hkept⟩ := first_install_wins hplaceable
  have hcapacity : (empty.run installedTwice).capacity = 5 := recounts.capacity_eq
  have hmissing := recounts.missingBlock_eq 20000 (by decide)
  have hlater := hkept [.install ⟨2⟩ [] 0] (by decide) (by decide)
  rw [hcapacity] at hlater
  exact ⟨hplaceable, recounts.byteAt_eq ⟨1⟩ 0 (by decide), recounts.byteAt_eq ⟨1⟩ 2 (by decide),
    rfl, recounts.loadedCount_eq, hcapacity, hmissing, hlater⟩

end BlockCache

end LayeredStreams
