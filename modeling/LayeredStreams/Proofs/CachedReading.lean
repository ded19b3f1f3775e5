import LayeredStreams.Layer.Cached
import LayeredStreams.Proofs.ProbeSource

/-!
# Reading through a cache

A cached layer over a located stream gives the bytes of the content, block by block, whatever was
asked of it before and wherever the stream below stands.

* `BlockCache.Mirrors content size` — the loaded blocks are blocks of the content, and none of them
  starts at or beyond `size`.
* `BlockCache.Adds content size offset` — the block of an offset is there besides the blocks of
  before.
* `Cached.Below` — an open cached layer with given blocks and cursor, over a stream that stands at a
  position.
* `Cached.Answers`, `Cached.Excuse` — what a request may be answered, and what errors it may end in.

Principal results: `Cached.ends_load` (a load adds the block at the cursor, or leaves all blocks as
they are), `Cached.ends_read` and `Cached.answers_after_wrap` (every answer of a cached layer,
after any run of requests, is that of the bare content).
-/

set_option autoImplicit false

namespace LayeredStreams

namespace BlockIndex

/-- The block of a content at an offset, unless it starts at or beyond `size`. -/
def blockOf (content : Bytes) (size offset : Nat) : Option Bytes :=
  if (containing offset).start < size then some (content.window (containing offset).start blockSize)
  else none

theorem start_containing_le (offset : Nat) : (containing offset).start ≤ offset := by
  have := start_add_offsetWithin offset
  omega

end BlockIndex

namespace BlockCache

/-- The loaded blocks are blocks of the content that start before `size`. -/
def Mirrors (content : Bytes) (size : Nat) (cache : BlockCache) : Prop :=
  ∀ index data, cache.block? index = some data →
    data = content.window index.start blockSize ∧ index.start < size

theorem mirrors_empty (content : Bytes) (size : Nat) : empty.Mirrors content size := every_empty

variable {content : Bytes} {size : Nat} {cache cache' : BlockCache}

theorem Mirrors.of_block?_eq (h : cache.Mirrors content size)
    (heq : ∀ index, cache'.block? index = cache.block? index) : cache'.Mirrors content size :=
  Every.of_block?_eq h heq

/-- `cache'` has the block of an offset besides the blocks of `cache`. A block that is there stays
as it is, and none is put in that starts at or beyond `size`. -/
def Adds (content : Bytes) (size offset : Nat) (cache cache' : BlockCache) : Prop :=
  ∀ index, cache'.block? index = (cache.block? index).or
    (if index = .containing offset then BlockIndex.blockOf content size offset else none)

variable {offset : Nat}

theorem Adds.blockAt_eq (h : Adds content size offset cache cache') :
    cache'.blockAt offset =
      (cache.blockAt offset).or (BlockIndex.blockOf content size offset) := by
  unfold blockAt
  rw [h, if_pos rfl]

theorem adds_self
    (h : (cache.blockAt offset).isSome = true ∨ size ≤ (BlockIndex.containing offset).start) :
    Adds content size offset cache cache := by
  intro index
  by_cases hindex : index = .containing offset
  · subst hindex
    rw [if_pos rfl]
    rcases h with hsome | hend
    · obtain ⟨data, hdata⟩ := Option.isSome_iff_exists.mp hsome
      unfold blockAt at hdata
      rw [hdata, Option.some_or]
    · unfold BlockIndex.blockOf
      rw [if_neg (Nat.not_lt.mpr hend), Option.or_none]
  · rw [if_neg hindex, Option.or_none]

theorem adds_install {data : Bytes} (hword : (BlockIndex.containing offset).value < maxWord)
    (hdata : BlockIndex.blockOf content size offset = some data) :
    Adds content size offset cache (cache.install (.containing offset) data data.length) := by
  intro index
  rw [block?_install _ _ _ _ _ hword, List.take_length, hdata]
  split
  · rename_i hindex
    subst hindex
    cases cache.block? (.containing offset) with
    | none => rfl
    | some block => rfl
  · rw [Option.or_none]

theorem Every.adds {holds : BlockIndex → Bytes → Prop} (h : cache.Every holds)
    (hadds : Adds content size offset cache cache')
    (hblock : (BlockIndex.containing offset).start < size →
      holds (.containing offset) (content.window (BlockIndex.containing offset).start blockSize)) :
    cache'.Every holds := by
  intro index data hdata
  rw [hadds index, Option.or_eq_some_iff] at hdata
  rcases hdata with hdata | ⟨-, hdata⟩
  · exact h index data hdata
  · unfold BlockIndex.blockOf at hdata
    split at hdata
    · rename_i hindex
      subst hindex
      split at hdata
      · rename_i hstart
        cases hdata
        exact hblock hstart
      · cases hdata
    · cases hdata

/-- Blocks of the content, and the block that is added to them, are blocks of the content. -/
theorem Mirrors.adds (h : cache.Mirrors content size)
    (hadds : Adds content size offset cache cache') : cache'.Mirrors content size :=
  Every.adds h hadds fun hstart => ⟨rfl, hstart⟩

theorem Mirrors.blockAt_of_adds (h : cache.Mirrors content size)
    (hadds : Adds content size offset cache cache') :
    cache'.blockAt offset = BlockIndex.blockOf content size offset := by
  rw [hadds.blockAt_eq]
  cases hloaded : cache.blockAt offset with
  | none => rfl
  | some data =>
    obtain ⟨rfl, hstart⟩ := h _ _ hloaded
    unfold BlockIndex.blockOf
    rw [if_pos hstart, Option.some_or]

end BlockCache

/-- The bytes that one read of a cached layer gives: none at or beyond the last block that starts
before `size`, and none of the next block. -/
def servedBytes (content : Bytes) (size offset room : Nat) : Bytes :=
  if (BlockIndex.containing offset).start < size then
    content.window offset (min room (blockSize - BlockIndex.offsetWithin offset))
  else []

theorem BlockIndex.value_lt_maxWord {index : BlockIndex} {size : Nat} (hstart : index.start < size)
    (hsize : size ≤ maxPosition) : index.value < maxWord := by
  unfold start blockSize at hstart
  unfold maxPosition at hsize
  unfold maxWord
  omega

/-- A block that starts before the end has a place in a cache. -/
theorem Located.value_lt_maxWord {ω σ : Type} [Cancellation ω] [ByteStream ω σ] {content : Bytes}
    {size : Nat}
    {fault : StreamError → Prop} {stands : σ × ω → Nat → Prop}
    (located : Located content size fault stands) {index : BlockIndex}
    (hstart : index.start < size) : index.value < maxWord :=
  index.value_lt_maxWord hstart (Nat.le_trans located.size_le located.fits)

namespace Cached

variable {ω σ α : Type} {content : Bytes} {size : Nat} {fault : StreamError → Prop}
  {stands : σ × ω → Nat → Prop} {ownership : Ownership} {cache : BlockCache} {cursor : Nat}
  {s : Cached σ × ω} {p : Nat}

/-- An open layer with given blocks and cursor, over a stream that stands at `p`. -/
def Below (ownership : Ownership) (stands : σ × ω → Nat → Prop) (cache : BlockCache)
    (cursor : Nat) (s : Cached σ × ω) (p : Nat) : Prop :=
  (s.1.cache = cache ∧ s.1.cursor = cursor) ∧
    Passthrough.Stands ownership stands (s.1.base, s.2) p

theorem ends_onBase (h : s.1.cache = cache ∧ s.1.cursor = cursor)
    {act : StreamM ω (Passthrough σ) α} {good : α → Passthrough σ × ω → Prop}
    {bad : StreamError → Passthrough σ × ω → Prop} (hact : act.Ends (s.1.base, s.2) good bad) :
    (onBase act).Ends s
      (fun value s' => (s'.1.cache = cache ∧ s'.1.cursor = cursor) ∧ good value (s'.1.base, s'.2))
      fun e s' => (s'.1.cache = cache ∧ s'.1.cursor = cursor) ∧ bad e (s'.1.base, s'.2) := by
  unfold onBase
  refine StreamM.Ends.within_keeping
    (fun layer : Cached σ => layer.cache = cache ∧ layer.cursor = cursor) ?_ ?_ h hact
  · intro _ _; rfl
  · intro _ _ hrest; exact hrest

theorem moves_onBase (h : Below ownership stands cache cursor s p)
    {act : StreamM ω (Passthrough σ) α} {good : α → Nat → Prop} {bad : StreamError → Nat → Prop}
    (hact : act.Moves (Passthrough.Stands ownership stands) (s.1.base, s.2) good bad) :
    (onBase act).Moves (Below ownership stands cache cursor) s good bad := by
  refine (ends_onBase h.1 hact).mono ?_ ?_
  · rintro value s' ⟨hfields, q, hgood, hstands⟩
    exact ⟨q, hgood, hfields, hstands⟩
  · rintro e s' ⟨hfields, q, hbad, hstands⟩
    exact ⟨q, hbad, hfields, hstands⟩

theorem onBase_ensureOpen (h : Below ownership stands cache cursor s p) :
    (onBase Passthrough.ensureOpen : StreamM ω (Cached σ) Unit) s = .ok () s := by
  unfold onBase StreamM.within
  rw [Passthrough.ensureOpen_of_held h.2]

/-- Bytes served from the block at the cursor are bytes of the content. -/
theorem copyOut_of_blockAt {cursor : Nat}
    (h : cache.blockAt cursor = BlockIndex.blockOf content size cursor) (room : Nat) :
    cache.copyOut cursor room = servedBytes content size cursor room := by
  unfold BlockCache.copyOut servedBytes
  rw [h]
  unfold BlockIndex.blockOf
  split
  · rename_i hsome
    split at hsome
    · cases hsome
    · rename_i hge
      rw [if_neg hge]
  · rename_i data hsome
    split at hsome
    · rename_i hlt
      cases hsome
      rw [if_pos hlt, Bytes.window_window, BlockIndex.start_add_offsetWithin]
    · cases hsome

theorem byteAt_of_blockAt {cursor : Nat}
    (h : cache.blockAt cursor = BlockIndex.blockOf content size cursor) :
    cache.byteAt cursor =
      if (BlockIndex.containing cursor).start < size then content[cursor]? else none := by
  unfold BlockCache.byteAt
  rw [h]
  unfold BlockIndex.blockOf
  split
  · have hwithin := BlockIndex.offsetWithin_lt cursor
    rw [Option.bind_some, Bytes.getElem?_window, if_pos hwithin,
      BlockIndex.start_add_offsetWithin]
  · rfl

theorem serveByte_apply (layer : Cached σ) (w : ω) :
    serveByte (layer, w) = .ok (layer.cache.byteAt layer.cursor)
      ({ layer with
          cursor := if (layer.cache.byteAt layer.cursor).isSome then layer.cursor + 1
            else layer.cursor }, w) := by
  unfold serveByte
  rw [StreamM.bind_apply, StreamM.state_apply]
  dsimp only
  cases layer.cache.byteAt layer.cursor with
  | none => rfl
  | some byte => rfl

variable [Cancellation ω] [ByteStream ω σ]

/-- Fetching the block of an offset before the end puts it in its place. -/
theorem ends_fetch (located : Located content size fault stands) (mode : Mode)
    (h : Below ownership stands cache cursor s p) {offset : Nat}
    (hstart : (BlockIndex.containing offset).start < size) :
    (fetch mode (.containing offset) : StreamM ω (Cached σ) Unit).Ends s
      (fun _ s' => ∃ cache' q, BlockCache.Adds content size offset cache cache' ∧
        Below ownership stands cache' cursor s' q)
      (fun e s' => mode.Excuses fault s'.2 e ∧
        ∃ q, Below ownership stands cache cursor s' q) := by
  have hreach := Nat.lt_of_lt_of_le hstart located.size_le
  have hword := located.value_lt_maxWord hstart
  have base := located.passthrough ownership
  unfold fetch
  have hsought := moves_onBase h (base.seekStart h.2 hreach)
  refine (StreamM.Ends.mono hsought (fun _ _ h => h) ?_).bind ?_
  · intro e s' hout
    obtain ⟨q, ⟨hfault, -⟩, hbelow⟩ := hout
    exact ⟨Or.inl hfault, q, hbelow⟩
  intro _ s₁ hout
  obtain ⟨_, ⟨-, rfl⟩, h₁⟩ := hout
  refine ((ends_onBase h₁.1 (base.ends_fill mode blockSize h₁.2)).mono (fun _ _ h => h)
    fun _ _ hout => hout.2.elim).bind ?_
  intro filled s₂ hout
  obtain ⟨hfields, hfilled, hstands⟩ := hout
  have h₂ : ∃ q, Below ownership stands cache cursor s₂ q := ⟨_, hfields, hstands⟩
  unfold Filled.outcome
  cases hfailure : filled.failure with
  | some e => exact ⟨(hfilled.excuse e hfailure).2, h₂⟩
  | none =>
    have hblock : BlockIndex.blockOf content size offset = some filled.bytes := by
      unfold BlockIndex.blockOf
      rw [if_pos hstart, hfilled.complete hfailure]
    show (updateCache fun cache => cache.install (.containing offset) filled.bytes
      filled.bytes.length : StreamM ω (Cached σ) Unit).Ends s₂ _ _
    obtain ⟨layer, w⟩ := s₂
    obtain ⟨rfl, rfl⟩ := hfields
    exact StreamM.ends_update
      ⟨_, _, BlockCache.adds_install hword hblock, ⟨rfl, rfl⟩, hstands⟩

/-- **A load adds the block at the cursor**, as it is in the content, unless it is there already or
starts at or beyond the end. A load that ends in an error leaves every block as it was. -/
theorem ends_load (located : Located content size fault stands) (mode : Mode)
    (h : Below ownership stands cache cursor s p) :
    (load mode : StreamM ω (Cached σ) Unit).Ends s
      (fun _ s' => ∃ cache' q, BlockCache.Adds content size cursor cache cache' ∧
        Below ownership stands cache' cursor s' q)
      (fun e s' => mode.Excuses fault s'.2 e ∧ ∃ cache' q,
        (∀ index, cache'.block? index = cache.block? index) ∧
        Below ownership stands cache' cursor s' q) := by
  obtain ⟨layer, w⟩ := s
  obtain ⟨⟨rfl, rfl⟩, hstands⟩ := h
  have h : Below ownership stands layer.cache layer.cursor (layer, w) p := ⟨⟨rfl, rfl⟩, hstands⟩
  have base := located.passthrough ownership
  unfold load
  refine StreamM.ends_bind_of_eq_ok (onBase_ensureOpen h) ?_
  refine StreamM.ends_state_bind ?_
  dsimp only
  split
  · -- the block is there
    rename_i hloaded
    exact StreamM.ends_pure ⟨layer.cache, p, BlockCache.adds_self (.inl hloaded), h⟩
  rename_i hloaded
  refine (StreamM.Ends.mono (moves_onBase h (base.length h.2)) (fun _ _ h => h) ?_).bind ?_
  · intro e s' hout
    obtain ⟨q, ⟨hfault, -⟩, hbelow⟩ := hout
    exact ⟨Or.inl hfault, layer.cache, q, fun _ => rfl, hbelow⟩
  intro _ s₁ hout
  obtain ⟨q, ⟨rfl, -⟩, h₁⟩ := hout
  split
  · -- the block is beyond the end
    rename_i hge
    exact StreamM.ends_pure ⟨layer.cache, q, BlockCache.adds_self (.inr hge), h₁⟩
  rename_i hlt
  have hstart := Nat.lt_of_not_le hlt
  have hmissing := layer.cache.fst_missingBlock (located.value_lt_maxWord hstart)
  rw [if_neg hloaded] at hmissing
  have hblocks := BlockCache.block?_missingBlock layer.cache layer.cursor
  generalize layer.cache.missingBlock layer.cursor = asked at hmissing hblocks
  obtain ⟨missing, grown⟩ := asked
  subst hmissing
  refine StreamM.ends_update_bind ?_
  have h₂ : Below ownership stands grown layer.cursor ({ s₁.1 with cache := grown }, s₁.2) q :=
    ⟨⟨rfl, h₁.1.2⟩, h₁.2⟩
  refine (ends_fetch located mode h₂ hstart).mono ?_ ?_
  · intro _ s' hout
    obtain ⟨cache', q', hadds, hbelow⟩ := hout
    refine ⟨cache', q', fun index => ?_, hbelow⟩
    rw [hadds index, hblocks index]
  · intro e s' hout
    obtain ⟨hexcuse, q', hbelow⟩ := hout
    exact ⟨hexcuse, grown, q', hblocks, hbelow⟩

/-- An open layer with its cursor at `cursor`, whose blocks mirror the content. -/
def Stands (content : Bytes) (size : Nat) (ownership : Ownership) (stands : σ × ω → Nat → Prop)
    (s : Cached σ × ω) (cursor : Nat) : Prop :=
  ∃ cache p, cache.Mirrors content size ∧ Below ownership stands cache cursor s p

/-- An open layer with its cursor at `cursor` and the blocks of `cache`, perhaps in more places. -/
def Undisturbed (ownership : Ownership) (stands : σ × ω → Nat → Prop) (cache : BlockCache)
    (cursor : Nat) (s : Cached σ × ω) : Prop :=
  ∃ cache' p, (∀ index, cache'.block? index = cache.block? index) ∧
    Below ownership stands cache' cursor s p

theorem ends_wrap (located : Located content size fault stands) {s : σ × ω} (h : stands s p)
    (ownership : Ownership) :
    (wrap ownership : StreamM ω σ (Cached σ)).Ends s
      (fun layer s' => Stands content size ownership stands (layer, s'.2) p)
      fun e _ => fault e := by
  unfold wrap
  refine (StreamM.Ends.mono (located.position h) (fun _ _ h => h) fun _ _ ⟨_, h, _⟩ => h.1).bind ?_
  intro place s' hout
  obtain ⟨q, ⟨hplace, hq⟩, hstands⟩ := hout
  refine StreamM.ends_state_bind (StreamM.ends_pure ?_)
  exact ⟨.empty, q, BlockCache.mirrors_empty content size, ⟨rfl, hplace⟩, s'.1, rfl, hstands⟩

theorem ends_read_adding (located : Located content size fault stands)
    (h : Below ownership stands cache cursor s p) (mode : Mode) (room : Nat) :
    (ByteStream.read mode room : StreamM ω (Cached σ) Bytes).Ends s
      (fun bytes s' => ∃ cache' q, BlockCache.Adds content size cursor cache cache' ∧
        bytes = cache'.copyOut cursor room ∧
        Below ownership stands cache' (cursor + bytes.length) s' q)
      (fun e s' => mode.Excuses fault s'.2 e ∧
        Undisturbed ownership stands cache cursor s') := by
  refine StreamM.Ends.bind (ends_load located mode h) ?_
  rintro _ ⟨layer, w⟩ ⟨cache', q, hadds, ⟨⟨rfl, rfl⟩, hstands⟩⟩
  exact StreamM.ends_of_eq_ok rfl ⟨layer.cache, q, hadds, rfl, ⟨rfl, rfl⟩, hstands⟩

/-- A read of one byte serves it from the block at the cursor, once that is added. -/
theorem ends_readByte_adding (located : Located content size fault stands)
    (h : Below ownership stands cache cursor s p) :
    (ByteStream.readByte : StreamM ω (Cached σ) (Option UInt8)).Ends s
      (fun byte s' => ∃ cache' q, BlockCache.Adds content size cursor cache cache' ∧
        byte = cache'.byteAt cursor ∧
        Below ownership stands cache' (if byte.isSome then cursor + 1 else cursor) s' q)
      (fun e s' => fault e ∧ Undisturbed ownership stands cache cursor s') := by
  refine ((ends_load located .blocking h).mono (fun _ _ h => h) ?_).bind ?_
  · intro e s' hout
    obtain ⟨hexcuse, hkept⟩ := hout
    exact ⟨hexcuse.fault_of_admitted rfl, hkept⟩
  rintro _ ⟨layer, w⟩ ⟨cache', q, hadds, ⟨⟨rfl, rfl⟩, hstands⟩⟩
  refine StreamM.ends_of_eq_ok (serveByte_apply layer w) ?_
  exact ⟨layer.cache, q, hadds, rfl, ⟨rfl, rfl⟩, hstands⟩

/-- **A read gives what the content has at the cursor**, up to the end of the block, and moves the
cursor behind it. -/
theorem ends_read (located : Located content size fault stands)
    (h : Below ownership stands cache cursor s p) (hmirrors : cache.Mirrors content size)
    (mode : Mode) (room : Nat) :
    (ByteStream.read mode room : StreamM ω (Cached σ) Bytes).Ends s
      (fun bytes s' => bytes = servedBytes content size cursor room ∧
        Stands content size ownership stands s' (cursor + bytes.length))
      (fun e s' => mode.Excuses fault s'.2 e ∧
        Undisturbed ownership stands cache cursor s') := by
  refine (ends_read_adding located h mode room).mono ?_ fun _ _ h => h
  rintro bytes s' ⟨cache', q, hadds, hbytes, hbelow⟩
  have hblock := hmirrors.blockAt_of_adds hadds
  rw [copyOut_of_blockAt hblock] at hbytes
  exact ⟨hbytes, cache', q, hmirrors.adds hadds, hbelow⟩

theorem ends_readByte (located : Located content size fault stands)
    (h : Below ownership stands cache cursor s p) (hmirrors : cache.Mirrors content size) :
    (ByteStream.readByte : StreamM ω (Cached σ) (Option UInt8)).Ends s
      (fun byte s' =>
        byte = (if (BlockIndex.containing cursor).start < size then content[cursor]? else none) ∧
        Stands content size ownership stands s' (if byte.isSome then cursor + 1 else cursor))
      (fun e s' => fault e ∧ Undisturbed ownership stands cache cursor s') := by
  refine (ends_readByte_adding located h).mono ?_ fun _ _ h => h
  rintro byte s' ⟨cache', q, hadds, hbyte, hbelow⟩
  have hblock := hmirrors.blockAt_of_adds hadds
  rw [byteAt_of_blockAt hblock] at hbyte
  exact ⟨hbyte, cache', q, hmirrors.adds hadds, hbelow⟩

theorem ends_seek (steady : Steady content fault stands)
    (h : Below ownership stands cache cursor s p) (target : SeekTarget) :
    (ByteStream.seek target : StreamM ω (Cached σ) Nat).Ends s
      (fun place s' => target.resolve cursor content.length = .ok place ∧
        ∃ q, Below ownership stands cache place s' q)
      (fun e s' => (fault e ∨ maxPosition < cursor ∨
          ∃ cause, target.resolve cursor content.length = .error cause ∧ e = .refusal cause) ∧
        ∃ q, Below ownership stands cache cursor s' q) := by
  have base := steady.passthrough ownership
  obtain ⟨layer, w⟩ := s
  obtain ⟨⟨rfl, rfl⟩, hstands⟩ := h
  have h : Below ownership stands layer.cache layer.cursor (layer, w) p := ⟨⟨rfl, rfl⟩, hstands⟩
  show (Cached.seek target : StreamM ω (Cached σ) Nat).Ends (layer, w) _ _
  unfold Cached.seek
  refine StreamM.ends_state_bind ?_
  refine (StreamM.Ends.mono (moves_onBase h (base.setPosition h.2 layer.cursor))
    (fun _ _ h => h) ?_).bind ?_
  · rintro e s' ⟨q, ⟨hfault | hbeyond, -⟩, hbelow⟩
    · exact ⟨Or.inl hfault, q, hbelow⟩
    · exact ⟨Or.inr (Or.inl hbeyond), q, hbelow⟩
  intro _ s₁ hout
  obtain ⟨_, rfl, h₁⟩ := hout
  refine (StreamM.Ends.mono (moves_onBase h₁ (base.seek h₁.2 target)) (fun _ _ h => h) ?_).bind ?_
  · rintro e s' ⟨q, ⟨hfault | hrefused, -⟩, hbelow⟩
    · exact ⟨Or.inl hfault, q, hbelow⟩
    · exact ⟨Or.inr (Or.inr hrefused), q, hbelow⟩
  intro place s₂ hout
  obtain ⟨q, ⟨hplace, -⟩, h₂⟩ := hout
  exact StreamM.ends_update_bind (StreamM.ends_pure ⟨hplace, q, ⟨h₂.1.1, rfl⟩, h₂.2⟩)

/-! ## Runs of requests -/

/-- What a request may be answered by a cached layer over a content, when it takes the cursor from
`p` to `q`. -/
def Answers (content : Bytes) (p q : Nat) : (request : Request) → request.Answer → Prop
  | .position, place => place = p ∧ q = p
  | .setPosition target, _ => q = target
  | .seek target, place => target.resolve p content.length = .ok place ∧ q = place
  | .read _ room, bytes =>
    bytes.length = min (min room (blockSize - p % blockSize)) (content.length - p) ∧
      bytes = content.window p bytes.length ∧ q = p + bytes.length
  | .readByte, byte => byte = content[p]? ∧ q = if p < content.length then p + 1 else p
  | _, _ => False

/-- The errors that a request to a cached layer may end in, in given surroundings: a fault of the
stream below, a token that is cancelled, or a seek that leads to no position. -/
def Excuse {ω : Type} [Cancellation ω] (content : Bytes) (fault : StreamError → Prop) (p : Nat)
    (w : ω) : (request : Request) → StreamError → Prop
  | .seek target, e => fault e ∨ maxPosition < p ∨
      ∃ cause, target.resolve p content.length = .error cause ∧ e = .refusal cause
  | .read mode _, e => mode.Excuses fault w e
  | .readByte, e => fault e
  | _, _ => False

end Cached

/-- Whether a request reads, or moves the cursor, or asks where it is. -/
def Request.browses : Request → Bool
  | position | setPosition _ | seek _ | read _ _ | readByte => true
  | _ => false

/-- Before the end of the content a read through the blocks gives what is left of the block. -/
theorem servedBytes_length (content : Bytes) (p room : Nat) :
    (servedBytes content content.length p room).length =
        min (min room (blockSize - p % blockSize)) (content.length - p) ∧
      servedBytes content content.length p room =
        content.window p (servedBytes content content.length p room).length := by
  have hstart := BlockIndex.start_containing_le p
  unfold servedBytes
  split
  · exact ⟨Bytes.length_window _ _ _, (Bytes.window_length_window _ _ _).symm⟩
  · rename_i hge
    have : content.length - p = 0 := by omega
    rw [this]
    simp

theorem servedByte_eq (content : Bytes) (p : Nat) :
    (if (BlockIndex.containing p).start < content.length then content[p]? else none) =
      content[p]? := by
  have hstart := BlockIndex.start_containing_le p
  split
  · rfl
  · rename_i hge
    exact (List.getElem?_eq_none (by omega)).symm

namespace Cached

variable {ω σ : Type} [Cancellation ω] [ByteStream ω σ] {content : Bytes}
  {fault : StreamError → Prop} {stands : σ × ω → Nat → Prop} {ownership : Ownership}
  {cache : BlockCache} {cursor : Nat} {s : Cached σ × ω} {p : Nat}

omit [Cancellation ω] [ByteStream ω σ] in
theorem Undisturbed.isBlockLoaded_eq (h : Undisturbed ownership stands cache cursor s) :
    s.1.cursor = cursor ∧ ∀ index, s.1.isBlockLoaded index = cache.isLoaded ⟨index⟩ := by
  obtain ⟨cache', q, hblocks, ⟨⟨rfl, rfl⟩, -⟩⟩ := h
  refine ⟨rfl, fun index => ?_⟩
  unfold isBlockLoaded BlockCache.isLoaded
  rw [hblocks]

omit [Cancellation ω] [ByteStream ω σ] in
theorem Stands.cursor_eq {size : Nat} (h : Stands content size ownership stands s cursor) :
    s.1.cursor = cursor := by
  obtain ⟨cache, p, -, ⟨⟨-, hcursor⟩, -⟩⟩ := h
  exact hcursor

omit [Cancellation ω] [ByteStream ω σ] in
theorem Undisturbed.mirroring {size : Nat} (h : Undisturbed ownership stands cache cursor s)
    (hmirrors : cache.Mirrors content size) : Stands content size ownership stands s cursor := by
  obtain ⟨cache', q, hblocks, hbelow⟩ := h
  exact ⟨cache', q, hmirrors.of_block?_eq hblocks, hbelow⟩

/-- One request, made where the blocks mirror the content, is answered from the content and leaves
them so; one that ends in an error leaves cursor and blocks alone. -/
theorem ends_browse (steady : Steady content fault stands) (hfits : content.length ≤ maxPosition)
    (h : Below ownership stands cache cursor s p) (hmirrors : cache.Mirrors content content.length)
    {request : Request} (hbrowses : request.browses = true) :
    (ByteStream.perform request : StreamM ω (Cached σ) request.Answer).Ends s
      (fun answer s' => Answers content cursor s'.1.cursor request answer ∧
        Stands content content.length ownership stands s' s'.1.cursor)
      (fun e s' => Excuse content fault cursor s'.2 request e ∧
        Undisturbed ownership stands cache cursor s') := by
  have located := steady.located hfits
  cases request with
  | position =>
    refine StreamM.ends_bind_of_eq_ok (onBase_ensureOpen h) ?_
    refine StreamM.ends_state_bind (StreamM.ends_pure ⟨⟨h.1.2, h.1.2⟩, ?_⟩)
    exact ⟨cache, p, hmirrors, ⟨⟨h.1.1, rfl⟩, h.2⟩⟩
  | setPosition target =>
    refine StreamM.ends_bind_of_eq_ok (onBase_ensureOpen h) ?_
    exact StreamM.ends_update ⟨rfl, cache, p, hmirrors, ⟨⟨h.1.1, rfl⟩, h.2⟩⟩
  | seek target =>
    refine (ends_seek steady h target).mono ?_ ?_
    · intro place s' hout
      obtain ⟨hplace, q, hbelow⟩ := hout
      obtain ⟨⟨hcache, rfl⟩, hstands⟩ := hbelow
      exact ⟨⟨hplace, rfl⟩, cache, q, hmirrors, ⟨⟨hcache, rfl⟩, hstands⟩⟩
    · intro e s' hout
      obtain ⟨hexcuse, q, hbelow⟩ := hout
      exact ⟨hexcuse, cache, q, fun _ => rfl, hbelow⟩
  | read mode room =>
    refine (ends_read located h hmirrors mode room).mono ?_ fun _ _ h => h
    intro bytes s' hout
    obtain ⟨rfl, hstands⟩ := hout
    obtain ⟨hlength, hwindow⟩ := servedBytes_length content cursor room
    rw [hstands.cursor_eq]
    exact ⟨⟨hlength, hwindow, rfl⟩, hstands⟩
  | readByte =>
    refine (ends_readByte located h hmirrors).mono ?_ fun _ _ h => h
    intro byte s' hout
    obtain ⟨hbyte, hstands⟩ := hout
    rw [servedByte_eq] at hbyte
    subst hbyte
    simp only [isSome_getElem?] at hstands
    rw [hstands.cursor_eq]
    exact ⟨⟨rfl, rfl⟩, hstands⟩
  | length | setLength | write | writeByte | flush | timeout | setTimeout | dispose =>
    cases hbrowses

/-- **Every answer of a cached layer is that of the bare content.** The layer is put over a stream
that stands at `p`. After any run of requests, of which any may have failed, the next one is
answered from the content at the cursor; if it fails, then with an excuse, and cursor and blocks
stay. -/
theorem answers_after_wrap (steady : Steady content fault stands)
    (hfits : content.length ≤ maxPosition) {s : σ × ω} (h : stands s p) (ownership : Ownership) :
    (wrap ownership : StreamM ω σ (Cached σ)).Ends s
      (fun layer s₁ => layer.cursor = p ∧
        ∀ requests : List Request, (∀ request ∈ requests, request.browses = true) →
        ∀ request : Request, request.browses = true →
          (ByteStream.perform request : StreamM ω (Cached σ) request.Answer).Ends
            (ByteStream.after requests (layer, s₁.2))
            (fun answer s' => Answers content
              (ByteStream.after requests (layer, s₁.2)).1.cursor s'.1.cursor request answer)
            (fun e s' => Excuse content fault
                (ByteStream.after requests (layer, s₁.2)).1.cursor s'.2 request e ∧
              s'.1.cursor = (ByteStream.after requests (layer, s₁.2)).1.cursor ∧
              ∀ index, s'.1.isBlockLoaded index =
                (ByteStream.after requests (layer, s₁.2)).1.isBlockLoaded index))
      (fun e _ => fault e) := by
  refine (ends_wrap (steady.located hfits) h ownership).mono ?_ fun _ _ h => h
  intro layer s₁ hstart
  have hcursor := hstart.cursor_eq
  refine ⟨hcursor, ?_⟩
  rw [← hcursor] at hstart
  intro requests hrequests request hrequest
  -- between two requests the blocks mirror the content
  have hstep : ∀ request ∈ requests, ∀ t : Cached σ × ω,
      Stands content content.length ownership stands t t.1.cursor →
      (ByteStream.perform request : StreamM ω (Cached σ) request.Answer).Ends t
        (fun _ t' => Stands content content.length ownership stands t' t'.1.cursor)
        (fun _ t' => Stands content content.length ownership stands t' t'.1.cursor) := by
    intro request hmem t hout
    obtain ⟨cache, q, hmirrors, hbelow⟩ := hout
    refine (ends_browse steady hfits hbelow hmirrors (hrequests request hmem)).mono
      (fun _ _ h => h.2) ?_
    intro e t' hout
    obtain ⟨-, hkept⟩ := hout
    rw [hkept.isBlockLoaded_eq.1]
    exact hkept.mirroring hmirrors
  obtain ⟨cache, q, hmirrors, hbelow⟩ := ByteStream.after_induction hstep hstart
  refine (ends_browse steady hfits hbelow hmirrors hrequest).mono (fun _ _ h => h.1) ?_
  intro e s' hout
  obtain ⟨hexcuse, hkept⟩ := hout
  obtain ⟨hcursor, hloaded⟩ := hkept.isBlockLoaded_eq
  refine ⟨hexcuse, hcursor, fun index => ?_⟩
  rw [hloaded, isBlockLoaded, hbelow.1.1]

/-- A probe of five bytes at its second, which gives two bytes at a time, fails the first read and
cancels a token in the second. -/
def troubledProbe : Probe where
  scripted := ⟨[1, 2, 3, 4, 5], 1, some 2,
    ⟨[("read", [.fail (.refusal .overflow), .cancel "stop"])]⟩, 0⟩
  claimedLength := none
  offers _ := true
  limits _ := none
  disposed := false

theorem stands_troubledProbe :
    Probe.Stands [1, 2, 3, 4, 5] (troubledProbe, Surroundings.initial) 1 where
  isOpen := rfl
  content_eq := rfl
  cursor_eq := rfl
  honest := rfl
  chunk_ne := nofun
  generous name hmem := by
    unfold Script.queue troubledProbe at hmem
    by_cases h : name = "read"
    · subst h
      simp at hmem
    · simp [List.lookup_cons, beq_eq_false_iff_ne.mpr h] at hmem

/-- The requests that meet the probe's faults: the first read fails, the second is cancelled. -/
def troubledRequests : List Request :=
  [.readByte, .read (.suspending (.named "stop")) 9, .seek (.fromEnd (-2))]

/-- After a read that fails, one that is cancelled and a seek, the next read is answered from the
five bytes. -/
theorem answers_after_trouble :
    (wrap .owns : StreamM Surroundings Probe (Cached Probe)).Ends (troubledProbe, .initial)
      (fun layer s₁ => layer.cursor = 1 ∧
        (ByteStream.perform (.read .blocking 9) : StreamM Surroundings (Cached Probe) Bytes).Ends
          (ByteStream.after troubledRequests (layer, s₁.2))
          (fun answer s' => Answers [1, 2, 3, 4, 5]
            (ByteStream.after troubledRequests (layer, s₁.2)).1.cursor s'.1.cursor
            (.read .blocking 9) answer)
          fun _ s' => s'.1.cursor = (ByteStream.after troubledRequests (layer, s₁.2)).1.cursor)
      (fun _ _ => True) := by
  refine (answers_after_wrap (Probe.steady [1, 2, 3, 4, 5]) (by decide) stands_troubledProbe
    .owns).mono ?_ fun _ _ _ => trivial
  intro layer s₁ hout
  obtain ⟨hcursor, hrun⟩ := hout
  refine ⟨hcursor, ?_⟩
  exact (hrun troubledRequests (by decide) (.read .blocking 9) rfl).mono (fun _ _ h => h)
    fun _ _ h => h.2.1

end Cached

end LayeredStreams
