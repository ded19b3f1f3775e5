import LayeredStreams.Proofs.CachedReading

/-!
# What a load asks of the stream below

A load of a block that is not there yet is a computation on the stream below: it asks for the
length, goes to the start of the block and reads it. What is brought is put in its place; whatever
goes wrong leaves every block as it was.

* `Cached.fetchBelow`, `Cached.bring` — the requests of a load, as a computation on the stream
  below.
* `Cached.opened` — an open cached layer over a stream.
* `BlockCache.taking` — the blocks after one was brought.
* `Cached.loading` — a load that says which block it brought; `Cached.load_eq_loading`.

Principal results: `Cached.ends_loading_of_not_loaded` (a load is what it asks of the stream below,
and the block it brought) and `Cached.load_of_loaded` (of a block that is there, nothing).
-/

set_option autoImplicit false

namespace LayeredStreams

section Carried

variable {ω σ τ : Type} [Cancellation ω]

theorem Mode.carries_admission (mode : Mode) (f : σ → τ) :
    StreamM.Carries f (mode.checkToken : StreamM ω σ Unit) mode.checkToken := by
  intro part w
  rw [Mode.checkToken_apply, Mode.checkToken_apply]
  cases mode.isCancelled w with
  | true => rfl
  | false => rfl

variable [ByteStream ω σ] [ByteStream ω τ]

theorem carries_fillWithin {f : σ → τ} {mode : Mode}
    (h : ∀ room : Nat, StreamM.Carries f (ByteStream.read mode room : StreamM ω σ Bytes)
      (ByteStream.read mode room)) :
    ∀ reads room : Nat, StreamM.Carries f (fillWithin mode reads room : StreamM ω σ Filled)
      (fillWithin mode reads room)
  -- the induction is on the reads that are left
  | 0, _ => StreamM.carries_pure f _
  | reads + 1, room => by
    unfold fillWithin
    split
    · exact StreamM.carries_pure f _
    have hread := ((mode.carries_admission f).bind fun _ => h room).attempt
    refine hread.bind fun outcome => ?_
    split
    · exact StreamM.carries_pure f _
    · exact StreamM.carries_pure f _
    · exact (carries_fillWithin h reads _).bind fun _ => StreamM.carries_pure f _

end Carried

/-- The blocks after a load for an offset that brought a block, or nothing. -/
def BlockCache.taking (cache : BlockCache) (offset : Nat) : Option Bytes → BlockCache
  | none => cache
  | some data => (cache.missingBlock offset).2.install (.containing offset) data data.length

namespace Cached

variable {ω σ α : Type} {ownership : Ownership} {cache : BlockCache} {cursor : Nat}

/-- An open layer with given blocks and cursor over a stream. -/
def opened (ownership : Ownership) (cache : BlockCache) (cursor : Nat) (stream : σ) : Cached σ :=
  ⟨⟨.live stream, ownership⟩, cache, cursor⟩

/-- What is done on the layer that a cached layer is built over leaves blocks and cursor alone. -/
theorem carries_layer (cache : BlockCache) (cursor : Nat) (act : StreamM ω (Passthrough σ) α) :
    StreamM.Carries (fun base : Passthrough σ => (⟨base, cache, cursor⟩ : Cached σ)) act
      (onBase act) := fun _ _ => rfl

variable [ByteStream ω σ]

theorem carries_onBase {request : Request} (hquiet : request.isQuiet = true) :
    StreamM.Carries (opened ownership cache cursor)
      (ByteStream.perform request : StreamM ω σ request.Answer)
      (onBase (ByteStream.perform request)) :=
  (Passthrough.conducts ownership request hquiet).trans (carries_layer cache cursor _)

variable [Cancellation ω]

/-- Read a block from a stream. -/
def fetchBelow (mode : Mode) (index : BlockIndex) : StreamM ω σ Bytes := do
  let _ ← ByteStream.seek (.fromStart index.start)
  let filled ← fill mode blockSize
  StreamM.settle filled.outcome

/-- Read a block from a stream, unless it starts at or beyond the end or has no place in a cache. -/
def bring (mode : Mode) (index : BlockIndex) : StreamM ω σ (Option Bytes) := do
  let size ← ByteStream.length
  if size ≤ index.start then return none
  else match BlockCache.placeOf index with
    | none => return none
    | some _ => return some (← fetchBelow mode index)

/-- A load that says which block it brought. -/
def loading (mode : Mode) : StreamM ω (Cached σ) (Option BlockIndex) := do
  onBase Passthrough.ensureOpen
  let layer ← StreamM.state
  let index := BlockIndex.containing layer.cursor
  if layer.cache.isLoaded index then return none
  else do
    let size ← onBase ByteStream.length
    if size ≤ index.start then return none
    else do
      let (missing, cache) := layer.cache.missingBlock layer.cursor
      updateCache fun _ => cache
      match missing with
      | none => return none
      | some index => do
        fetch mode index
        return some index

theorem load_eq_loading (mode : Mode) :
    (load mode : StreamM ω (Cached σ) Unit) = do let _ ← loading mode; return () := by
  unfold load loading
  simp only [bind_assoc]
  refine congrArg _ (funext fun _ => congrArg _ (funext fun layer => ?_))
  split
  · rfl
  rw [bind_assoc]
  refine congrArg _ (funext fun size => ?_)
  split
  · rfl
  rw [bind_assoc]
  refine congrArg _ (funext fun _ => ?_)
  cases (layer.cache.missingBlock layer.cursor).1 with
  | none => rfl
  | some index =>
    dsimp only
    rw [bind_assoc]
    simp only [pure_bind, bind_pure_unit]

theorem carries_fill (mode : Mode) (room : Nat) :
    StreamM.Carries (opened ownership cache cursor) (fill mode room : StreamM ω σ Filled)
      (onBase (fill mode room)) := by
  have hfill : StreamM.Carries (fun stream : σ => (⟨.live stream, ownership⟩ : Passthrough σ))
      (fill mode room : StreamM ω σ Filled) (fill mode room) :=
    carries_fillWithin (fun room => Passthrough.conducts ownership (.read mode room) rfl) room room
  exact hfill.trans (carries_layer cache cursor _)

theorem fetch_apply (mode : Mode) (index : BlockIndex) (below : σ) (w : ω) :
    (fetch mode index : StreamM ω (Cached σ) Unit) (opened ownership cache cursor below, w) =
      match (fetchBelow mode index : StreamM ω σ Bytes) (below, w) with
      | .ok data (below, w) =>
        .ok () (opened ownership (cache.install index data data.length) cursor below, w)
      | .error e (below, w) => .error e (opened ownership cache cursor below, w) := by
  let readBlock : StreamM ω (Cached σ) Bytes := do
    let _ ← onBase (ByteStream.seek (.fromStart index.start))
    let filled ← onBase (fill mode blockSize)
    StreamM.settle filled.outcome
  have hread : StreamM.Carries (opened ownership cache cursor)
      (fetchBelow mode index : StreamM ω σ Bytes) readBlock := by
    have hseek : Request.isQuiet (.seek (.fromStart index.start)) = true := rfl
    refine (carries_onBase hseek).bind fun _ => ?_
    exact (carries_fill mode blockSize).bind fun filled => StreamM.carries_settle _ _
  have hfetch : (fetch mode index : StreamM ω (Cached σ) Unit) =
      readBlock >>= fun data =>
        updateCache fun cache => cache.install index data data.length := by
    unfold fetch readBlock
    simp only [bind_assoc]
  rw [hfetch, StreamM.bind_apply, hread]
  cases (fetchBelow mode index : StreamM ω σ Bytes) (below, w) with
  | ok data s' => rfl
  | error e s' => rfl

/-- A load of a block that is not there asks for the length, and fetches a block before the end. -/
theorem loading_apply (hnot : cache.isLoaded (.containing cursor) = false) (mode : Mode) (below : σ)
    (w : ω) :
    (loading mode : StreamM ω (Cached σ) (Option BlockIndex))
        (opened ownership cache cursor below, w) =
      match (ByteStream.length : StreamM ω σ Nat) (below, w) with
      | .ok size (below, w) =>
        if size ≤ (BlockIndex.containing cursor).start then
          .ok none (opened ownership cache cursor below, w)
        else
          (match (cache.missingBlock cursor).1 with
            | none => return none
            | some index => do
              fetch mode index
              return some index : StreamM ω (Cached σ) (Option BlockIndex))
            (opened ownership (cache.missingBlock cursor).2 cursor below, w)
      | .error e (below, w) => .error e (opened ownership cache cursor below, w) := by
  have hlength : StreamM.Carries (opened ownership cache cursor)
      (ByteStream.length : StreamM ω σ Nat) (onBase ByteStream.length) :=
    carries_onBase (show Request.length.isQuiet = true from rfl)
  have hopen : (onBase Passthrough.ensureOpen : StreamM ω (Cached σ) Unit)
      (opened ownership cache cursor below, w) = .ok () (opened ownership cache cursor below, w) :=
    rfl
  have hcursor : (opened ownership cache cursor below).cursor = cursor := rfl
  have hcache : (opened ownership cache cursor below).cache = cache := rfl
  unfold loading
  rw [StreamM.bind_apply, hopen]
  dsimp only
  rw [StreamM.bind_apply, StreamM.state_apply]
  dsimp only
  rw [hcursor, hcache, hnot, if_neg Bool.false_ne_true, StreamM.bind_apply, hlength]
  cases (ByteStream.length : StreamM ω σ Nat) (below, w) with
  | error e s' => rfl
  | ok size s' =>
    dsimp only
    by_cases hend : size ≤ (BlockIndex.containing cursor).start
    · rw [if_pos hend, if_pos hend]
      rfl
    · rw [if_neg hend, if_neg hend]
      rfl

/-- **A load of a block that is not there is what it asks of the stream below**: what was brought is
put in its place, and no block is changed by what goes wrong. -/
theorem ends_loading_of_not_loaded (hnot : cache.isLoaded (.containing cursor) = false)
    {mode : Mode} {below : σ} {w : ω} {good : Option Bytes → σ × ω → Prop}
    {bad : StreamError → σ × ω → Prop}
    (h : (bring mode (.containing cursor) : StreamM ω σ (Option Bytes)).Ends (below, w) good bad) :
    (loading mode : StreamM ω (Cached σ) (Option BlockIndex)).Ends
      (opened ownership cache cursor below, w)
      (fun loaded s' => ∃ brought below', loaded = brought.map (fun _ => .containing cursor) ∧
        s'.1 = opened ownership (cache.taking cursor brought) cursor below' ∧
          good brought (below', s'.2))
      (fun e s' => ∃ cache' below', s'.1 = opened ownership cache' cursor below' ∧
        (cache' = cache ∨ cache' = (cache.missingBlock cursor).2) ∧ bad e (below', s'.2)) := by
  unfold StreamM.Ends at h ⊢
  rw [loading_apply hnot]
  unfold bring at h
  rw [StreamM.bind_apply] at h
  cases hlength : (ByteStream.length : StreamM ω σ Nat) (below, w) with
  | error e s' =>
    rw [hlength] at h
    exact ⟨cache, s'.1, rfl, Or.inl rfl, h⟩
  | ok size s' =>
    rw [hlength] at h
    dsimp only at h ⊢
    by_cases hend : size ≤ (BlockIndex.containing cursor).start
    · rw [if_pos hend] at h ⊢
      exact ⟨none, s'.1, rfl, rfl, h⟩
    rw [if_neg hend] at h ⊢
    cases hplace : BlockCache.placeOf (.containing cursor) with
    | none =>
      -- the block has no place in a cache, and none is made for it
      rw [hplace] at h
      have hmissing : cache.missingBlock cursor = (none, cache) := by
        unfold BlockCache.missingBlock
        dsimp only
        rw [hplace]
      rw [hmissing]
      exact ⟨none, s'.1, rfl, rfl, h⟩
    | some place =>
      have hmissing : (cache.missingBlock cursor).1 = some (.containing cursor) := by
        unfold BlockCache.missingBlock
        dsimp only
        rw [hplace, hnot]
        rfl
      rw [hplace] at h
      dsimp only at h
      rw [StreamM.bind_apply] at h
      rw [hmissing]
      dsimp only
      rw [StreamM.bind_apply, fetch_apply]
      cases hfetch : (fetchBelow mode (.containing cursor) : StreamM ω σ Bytes) s' with
      | error e s'' =>
        rw [hfetch] at h
        exact ⟨_, s''.1, rfl, Or.inr rfl, h⟩
      | ok data s'' =>
        rw [hfetch] at h
        exact ⟨some data, s''.1, rfl, rfl, h⟩

theorem ends_load_of_not_loaded (hnot : cache.isLoaded (.containing cursor) = false)
    {mode : Mode} {below : σ} {w : ω} {good : Option Bytes → σ × ω → Prop}
    {bad : StreamError → σ × ω → Prop}
    (h : (bring mode (.containing cursor) : StreamM ω σ (Option Bytes)).Ends (below, w) good bad) :
    (load mode : StreamM ω (Cached σ) Unit).Ends (opened ownership cache cursor below, w)
      (fun _ s' => ∃ brought below',
        s'.1 = opened ownership (cache.taking cursor brought) cursor below' ∧
          good brought (below', s'.2))
      (fun e s' => ∃ cache' below', s'.1 = opened ownership cache' cursor below' ∧
        (cache' = cache ∨ cache' = (cache.missingBlock cursor).2) ∧ bad e (below', s'.2)) := by
  rw [load_eq_loading]
  refine (ends_loading_of_not_loaded hnot h).bind ?_
  intro loaded s' hout
  obtain ⟨brought, below', -, hlayer, hgood⟩ := hout
  exact StreamM.ends_pure ⟨brought, below', hlayer, hgood⟩

theorem loading_of_loaded (hloaded : cache.isLoaded (.containing cursor) = true) (mode : Mode)
    (below : σ) (w : ω) :
    (loading mode : StreamM ω (Cached σ) (Option BlockIndex))
        (opened ownership cache cursor below, w) =
      .ok none (opened ownership cache cursor below, w) := by
  have hopen : (onBase Passthrough.ensureOpen : StreamM ω (Cached σ) Unit)
      (opened ownership cache cursor below, w) = .ok () (opened ownership cache cursor below, w) :=
    rfl
  unfold loading
  rw [StreamM.bind_apply, hopen]
  dsimp only
  rw [StreamM.bind_apply, StreamM.state_apply]
  dsimp only
  rw [show (opened ownership cache cursor below).cache.isLoaded
    (.containing (opened ownership cache cursor below).cursor) = true from hloaded, if_pos rfl]
  rfl

/-- A load of a block that is there asks nothing of the stream below. -/
theorem load_of_loaded (hloaded : cache.isLoaded (.containing cursor) = true) (mode : Mode)
    (below : σ) (w : ω) :
    (load mode : StreamM ω (Cached σ) Unit) (opened ownership cache cursor below, w) =
      .ok () (opened ownership cache cursor below, w) :=
  load_of_isLoaded _ mode w rfl hloaded

end Cached

end LayeredStreams
