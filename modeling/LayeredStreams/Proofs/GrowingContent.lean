import LayeredStreams.Proofs.CachedReading
import LayeredStreams.Proofs.Resizing

/-!
# Caches of a growing stream

A cached layer shares the stream below with another user, who moves it and appends to it while the
layer is read. A block stays as it was when it was loaded, while the length is asked of the stream
below.

* `BlockCache.Recalls seen` — each loaded block is a block of one of the contents that were seen.
* `Cached.History first content seen` — contents that grew from `first` to `content`.
* `Cached.Shared stands first start content seen s` — what the layer and the other user can make of
  a layer `start` over `first`.

Principal results: `Cached.Shared.recalling` (whatever the two users do, each block is one of a
content that was seen) and `Cached.answers_of_growing` (a read is answered from the content as it
was when the block at the cursor was loaded, so it can come to an end before the end).
-/

set_option autoImplicit false

namespace LayeredStreams

namespace DeviceStream

variable {ω : Type} [Cancellation ω]

/-- **A stream over memory is steady**, and never fails but by a refusal. -/
theorem steady (shown : Bytes) :
    Steady (ω := ω) shown (fun _ => False) (Standing Calm content cursor shown) where
  read h mode room := by
    refine (ends_read h mode room).mono (fun _ _ h => h) ?_
    rintro e _ ⟨hcancelled, rfl⟩
    exact ⟨.inr hcancelled, h⟩
  position h := (moves_position h).mono (fun _ _ h => h) fun _ _ h => h.elim
  setPosition h target :=
    (moves_setPosition h target).mono (fun _ _ h => h) fun _ _ h => ⟨.inr h.1, h.2⟩
  length {s p} h := by
    obtain ⟨stream, w⟩ := s
    obtain ⟨memory, rfl, hwords, rfl, rfl⟩ := exists_of_standing h
    have met := meets_memory hwords w .length rfl
    refine (met.ends_of_near rfl rfl).mono ?_ fun _ _ h => h.elim
    rintro reach _ ⟨rfl, rfl⟩
    exact ⟨_, ⟨rfl, rfl⟩, h⟩
  seek h target := (moves_seek h target).mono (fun _ _ h => h) fun _ _ h => ⟨.inr h.1, h.2⟩

end DeviceStream

namespace BlockCache

variable {content : Bytes} {seen : List Bytes} {offset : Nat} {cache cache' : BlockCache}

/-- Each loaded block is a block of one of the contents that were seen, and starts before its
end. -/
def Recalls (seen : List Bytes) (cache : BlockCache) : Prop :=
  ∀ index data, cache.block? index = some data → ∃ earlier ∈ seen,
    data = earlier.window index.start blockSize ∧ index.start < earlier.length

theorem Recalls.of_block?_eq (h : cache.Recalls seen)
    (heq : ∀ index, cache'.block? index = cache.block? index) : cache'.Recalls seen :=
  Every.of_block?_eq h heq

theorem Recalls.cons (h : cache.Recalls seen) (content : Bytes) :
    cache.Recalls (content :: seen) := by
  intro index data hdata
  obtain ⟨earlier, hseen, hblock⟩ := h index data hdata
  exact ⟨earlier, List.mem_cons_of_mem _ hseen, hblock⟩

/-- A block that is added is one of the present content. -/
theorem Recalls.adds (h : cache.Recalls seen) (hcontent : content ∈ seen)
    (hadds : Adds content content.length offset cache cache') : cache'.Recalls seen :=
  Every.adds h hadds fun hstart => ⟨content, hcontent, rfl, hstart⟩

/-- **The block at an offset is that of one content**, however it comes to be there: of the present
one, unless it is loaded already. -/
theorem Recalls.exists_earlier (h : cache.Recalls seen) (hcontent : content ∈ seen) (offset : Nat) :
    ∃ earlier ∈ seen,
      (cache.blockAt offset = none ∧ earlier = content ∨
        cache.blockAt offset =
          some (earlier.window (BlockIndex.containing offset).start blockSize)) ∧
      ∀ cache', Adds content content.length offset cache cache' →
        cache'.blockAt offset = BlockIndex.blockOf earlier earlier.length offset := by
  cases hloaded : cache.blockAt offset with
  | none =>
    refine ⟨content, hcontent, .inl ⟨rfl, rfl⟩, fun cache' hadds => ?_⟩
    rw [hadds.blockAt_eq, hloaded, Option.none_or]
  | some data =>
    obtain ⟨earlier, hseen, hblock, hstart⟩ := h _ _ hloaded
    refine ⟨earlier, hseen, .inr (congrArg some hblock), fun cache' hadds => ?_⟩
    unfold BlockIndex.blockOf
    rw [hadds.blockAt_eq, hloaded, Option.some_or, if_pos hstart, hblock]

end BlockCache

namespace Cached

/-- The contents that were seen while `first` grew to `content`. -/
structure History (first content : Bytes) (seen : List Bytes) : Prop where
  fits : content.length ≤ maxPosition
  mem : content ∈ seen
  grew : ∀ earlier ∈ seen, first <+: earlier ∧ earlier <+: content

theorem History.start {first : Bytes} (hfits : first.length ≤ maxPosition) :
    History first first [first] where
  fits := hfits
  mem := List.mem_singleton_self first
  grew earlier hmem := by
    obtain rfl := List.mem_singleton.mp hmem
    exact ⟨List.prefix_refl _, List.prefix_refl _⟩

theorem History.grown {first content : Bytes} {seen : List Bytes} (h : History first content seen)
    {more : Bytes} (hfits : (content ++ more).length ≤ maxPosition) :
    History first (content ++ more) ((content ++ more) :: seen) where
  fits := hfits
  mem := List.mem_cons_self
  grew earlier hmem := by
    have hmore : content <+: content ++ more := List.prefix_append content more
    rcases List.mem_cons.mp hmem with rfl | hseen
    · exact ⟨(h.grew content h.mem).1.trans hmore, List.prefix_refl _⟩
    · exact ⟨(h.grew earlier hseen).1, (h.grew earlier hseen).2.trans hmore⟩

variable {ω σ : Type} [Cancellation ω] [ByteStream ω σ]

/-- The layer with another state of the stream below. -/
def putBelow (below : σ) (layer : Cached σ) : Cached σ :=
  { layer with base := { layer.base with slot := .live below } }

/-- What becomes of a layer `start` over `first` that shares the stream below with another user: the
layer is asked something, or the stream below is taken to a place of a content with more bytes
behind it, perhaps none. Then `content` is below, after the contents that were `seen`. -/
inductive Shared (stands : Bytes → σ × ω → Nat → Prop) (first : Bytes) (start : Cached σ × ω) :
    Bytes → List Bytes → Cached σ × ω → Prop
  | start : Shared stands first start first [first] start
  | asked {content : Bytes} {seen : List Bytes} {s : Cached σ × ω} (request : Request) :
      request.browses = true ∨ request = .length → Shared stands first start content seen s →
      Shared stands first start content seen
        ((ByteStream.perform request : StreamM ω (Cached σ) request.Answer).final s)
  | grown {content : Bytes} {seen : List Bytes} {s : Cached σ × ω} {more : Bytes} {below : σ}
      {w : ω} {q : Nat} : (content ++ more).length ≤ maxPosition →
      stands (content ++ more) (below, w) q →
      Shared stands first start content seen s →
      Shared stands first start (content ++ more) ((content ++ more) :: seen)
        (s.1.putBelow below, w)

variable {first content earlier : Bytes} {seen : List Bytes} {fault : StreamError → Prop}
  {stands : Bytes → σ × ω → Nat → Prop} {ownership : Ownership} {cache : BlockCache}
  {cursor p : Nat} {s : Cached σ × ω}

/-- An open layer over a content, whose blocks are of contents that were seen. -/
def Recalling (ownership : Ownership) (stands : σ × ω → Nat → Prop) (seen : List Bytes)
    (s : Cached σ × ω) : Prop :=
  ∃ cache p, cache.Recalls seen ∧ Below ownership stands cache s.1.cursor s p

omit [Cancellation ω] [ByteStream ω σ] in
theorem Below.recalling {stands : σ × ω → Nat → Prop} (h : Below ownership stands cache cursor s p)
    (hrecalls : cache.Recalls seen) : Recalling ownership stands seen s := by
  obtain ⟨⟨hcache, rfl⟩, hstands⟩ := h
  exact ⟨cache, p, hrecalls, ⟨⟨hcache, rfl⟩, hstands⟩⟩

omit [Cancellation ω] [ByteStream ω σ] in
theorem Undisturbed.recalling {stands : σ × ω → Nat → Prop}
    (h : Undisturbed ownership stands cache cursor s) (hrecalls : cache.Recalls seen) :
    Recalling ownership stands seen s := by
  obtain ⟨cache', q, hblocks, hbelow⟩ := h
  exact hbelow.recalling (hrecalls.of_block?_eq hblocks)

theorem position_eq {stands : σ × ω → Nat → Prop} (h : Below ownership stands cache cursor s p) :
    (ByteStream.position : StreamM ω (Cached σ) Nat) s = .ok s.1.cursor s := by
  show (onBase Passthrough.ensureOpen >>= fun _ => StreamM.state >>= fun layer =>
    pure layer.cursor : StreamM ω (Cached σ) Nat) s = _
  rw [StreamM.bind_apply, onBase_ensureOpen h]
  rfl

theorem moves_length {stands : σ × ω → Nat → Prop} (steady : Steady content fault stands)
    (h : Below ownership stands cache cursor s p) :
    (ByteStream.length : StreamM ω (Cached σ) Nat).Moves (Below ownership stands cache cursor) s
      (fun reach q => reach = content.length ∧ q = p) (fun e q => fault e ∧ q = p) :=
  moves_onBase h ((steady.passthrough ownership).length h.2)

/-- **A request leaves blocks that were seen.** -/
theorem ends_asked {stands : σ × ω → Nat → Prop} (steady : Steady content fault stands)
    (history : History first content seen) (h : Below ownership stands cache cursor s p)
    (hrecalls : cache.Recalls seen) {request : Request}
    (hrequest : request.browses = true ∨ request = .length) :
    (ByteStream.perform request : StreamM ω (Cached σ) request.Answer).Ends s
      (fun _ => Recalling ownership stands seen) fun _ => Recalling ownership stands seen := by
  have located := steady.located history.fits
  cases request with
  | position =>
    refine StreamM.ends_bind_of_eq_ok (onBase_ensureOpen h) ?_
    exact StreamM.ends_state_bind (StreamM.ends_pure (h.recalling hrecalls))
  | setPosition target =>
    refine StreamM.ends_bind_of_eq_ok (onBase_ensureOpen h) ?_
    have hmoved : Below ownership stands cache target ({ s.1 with cursor := target }, s.2) p :=
      ⟨⟨h.1.1, rfl⟩, h.2⟩
    exact StreamM.ends_update (hmoved.recalling hrecalls)
  | seek target =>
    refine (ends_seek steady h target).mono ?_ ?_
    · rintro place s' ⟨-, q, hbelow⟩
      exact hbelow.recalling hrecalls
    · rintro e s' ⟨-, q, hbelow⟩
      exact hbelow.recalling hrecalls
  | length =>
    refine StreamM.Ends.mono (moves_length steady h) ?_ ?_
    · rintro reach s' ⟨q, -, hbelow⟩
      exact hbelow.recalling hrecalls
    · rintro e s' ⟨q, -, hbelow⟩
      exact hbelow.recalling hrecalls
  | read mode room =>
    refine (ends_read_adding located h mode room).mono ?_ ?_
    · rintro bytes s' ⟨cache', q, hadds, -, hbelow⟩
      exact hbelow.recalling (hrecalls.adds history.mem hadds)
    · rintro e s' ⟨-, hkept⟩
      exact hkept.recalling hrecalls
  | readByte =>
    refine (ends_readByte_adding located h).mono ?_ ?_
    · rintro byte s' ⟨cache', q, hadds, -, hbelow⟩
      exact hbelow.recalling (hrecalls.adds history.mem hadds)
    · rintro e s' ⟨-, hkept⟩
      exact hkept.recalling hrecalls
  | setLength | write | writeByte | flush | timeout | setTimeout | dispose =>
    rcases hrequest with hbrowses | hlength
    · cases hbrowses
    · cases hlength

/-- **Whatever the two users do, each block is one of a content that was seen.** The induction is on
what they did. -/
theorem Shared.recalling
    (growing : ∀ content, content.length ≤ maxPosition → Steady content fault (stands content))
    (hfits : first.length ≤ maxPosition) {start : Cached σ × ω}
    (hstart : Recalling ownership (stands first) [first] start)
    (h : Shared stands first start content seen s) :
    History first content seen ∧ Recalling ownership (stands content) seen s := by
  induction h with
  | start => exact ⟨.start hfits, hstart⟩
  | asked request hrequest _ ih =>
    obtain ⟨history, cache, p, hrecalls, hbelow⟩ := ih
    have hasked := ends_asked (growing _ history.fits) history hbelow hrecalls hrequest
    exact ⟨history, hasked.final⟩
  | grown hfits hstands _ ih =>
    obtain ⟨history, cache, p, hrecalls, ⟨hcache, -⟩, below, hbase, -⟩ := ih
    have hownership := congrArg Passthrough.ownership hbase
    refine ⟨history.grown hfits, cache, _, hrecalls.cons _, ⟨hcache, rfl⟩, _, ?_, hstands⟩
    exact congrArg (Passthrough.mk (.live _)) hownership

/-- **A cache of a growing stream reads what was there when the block at the cursor was loaded.** It
says how long the content is now, and reads of it what is there as long as that block is not loaded;
a block that was loaded before may end before the content does. -/
theorem answers_of_growing
    (growing : ∀ content, content.length ≤ maxPosition → Steady content fault (stands content))
    (hfits : first.length ≤ maxPosition) {s₀ s₁ : σ × ω} (h : stands first s₀ p)
    {layer : Cached σ} (hmade : (wrap ownership : StreamM ω σ (Cached σ)) s₀ = .ok layer s₁)
    (hshared : Shared stands first (layer, s₁.2) content seen s) :
    ∃ earlier ∈ seen, first <+: earlier ∧ earlier <+: content ∧
      (s.1.cache.blockAt s.1.cursor = none ∧ earlier = content ∨
        s.1.cache.blockAt s.1.cursor =
          some (earlier.window (BlockIndex.containing s.1.cursor).start blockSize)) ∧
      (ByteStream.position : StreamM ω (Cached σ) Nat).result s = .ok s.1.cursor ∧
      (ByteStream.length : StreamM ω (Cached σ) Nat).Ends s
        (fun reach _ => reach = content.length) (fun e _ => fault e) ∧
      (ByteStream.readByte : StreamM ω (Cached σ) (Option UInt8)).Ends s
        (fun byte _ => byte = earlier[s.1.cursor]?) (fun e _ => fault e) ∧
      ∀ (mode : Mode) (room : Nat), 0 < room →
        (ByteStream.read mode room : StreamM ω (Cached σ) Bytes).Ends s
          (fun bytes s' => Answers earlier s.1.cursor s'.1.cursor (.read mode room) bytes ∧
            (bytes = [] ↔ earlier.length ≤ s.1.cursor))
          (fun e s' => mode.Excuses fault s'.2 e) := by
  have located := (growing first hfits).located hfits
  have hstart : Recalling ownership (stands first) [first] (layer, s₁.2) := by
    obtain ⟨cache, q, hmirrors, hbelow⟩ := (ends_wrap located h ownership).of_eq_ok hmade
    refine hbelow.recalling fun index data hdata => ?_
    exact ⟨first, List.mem_singleton_self first, hmirrors index data hdata⟩
  obtain ⟨history, cache, q, hrecalls, hbelow⟩ := hshared.recalling growing hfits hstart
  have steady := growing content history.fits
  have located := steady.located history.fits
  obtain ⟨earlier, hseen, hloaded, hblock⟩ := hrecalls.exists_earlier history.mem s.1.cursor
  refine ⟨earlier, hseen, (history.grew earlier hseen).1, (history.grew earlier hseen).2, ?_⟩
  refine ⟨hbelow.1.1 ▸ hloaded, ?_, ?_, ?_, ?_⟩
  · exact StreamM.result_of_eq_ok (position_eq hbelow)
  · exact StreamM.Ends.mono (moves_length steady hbelow) (fun _ _ ⟨_, h, _⟩ => h.1)
      fun _ _ ⟨_, h, _⟩ => h.1
  · refine (ends_readByte_adding located hbelow).mono ?_ fun _ _ h => h.1
    rintro byte s' ⟨cache', q', hadds, hbyte, -⟩
    rw [hbyte, byteAt_of_blockAt (hblock cache' hadds), servedByte_eq]
  · intro mode room hroom
    refine (ends_read_adding located hbelow mode room).mono ?_ fun _ _ h => h.1
    rintro bytes s' ⟨cache', q', hadds, hbytes, hbelow'⟩
    rw [copyOut_of_blockAt (hblock cache' hadds)] at hbytes
    subst hbytes
    obtain ⟨hlength, hwindow⟩ := servedBytes_length earlier s.1.cursor room
    refine ⟨⟨hlength, hwindow, hbelow'.1.2⟩, ?_⟩
    rw [← List.length_eq_zero_iff, hlength]
    have hwithin := BlockIndex.offsetWithin_lt s.1.cursor
    unfold BlockIndex.offsetWithin at hwithin
    omega

/-- Memory of the bytes 0 and 1, with its cursor at the first. -/
def twoBytes : DeviceStream MemoryDevice := .ofDevice ⟨[0, 1], 0⟩ .resizable

/-- Bytes put behind the end. -/
def append (data : Bytes) : StreamM Surroundings (DeviceStream MemoryDevice) Unit := do
  let _ ← ByteStream.seek (.fromEnd 0)
  ByteStream.write .blocking data

/-- A cache of the two bytes, before anything is asked of it. -/
def cachedTwoBytes : Cached (DeviceStream MemoryDevice) := ⟨⟨.live twoBytes, .borrows⟩, .empty, 0⟩

/-- **A cache of two bytes that become four has none at the place 2.** The block was loaded when
there were two. -/
theorem answers_of_appended :
    ∃ (s s' : Cached (DeviceStream MemoryDevice) × Surroundings)
      (below : DeviceStream MemoryDevice),
      (wrap .borrows : StreamM Surroundings _ _) (twoBytes, .initial) =
        .ok cachedTwoBytes (twoBytes, .initial) ∧
      ByteStream.read .blocking 2 (cachedTwoBytes, Surroundings.initial) = .ok [0, 1] s ∧
      s.1.base.slot = .live below ∧
      s' = (s.1.putBelow ((append [2, 3]).final (below, s.2)).1, s.2) ∧
      StreamM.result ByteStream.position s' = .ok 2 ∧
      StreamM.result ByteStream.length s' = .ok 4 ∧
      ∃ s'', ByteStream.read .blocking 1 s' = .ok [] s'' := by
  have hstands : Standing DeviceStream.Calm DeviceStream.content DeviceStream.cursor [0, 1]
      (twoBytes, Surroundings.initial) 0 :=
    DeviceStream.standing_ofDevice ⟨by decide, by decide⟩ Surroundings.initial
  have hmade : (wrap .borrows : StreamM Surroundings _ _) (twoBytes, .initial) =
      .ok cachedTwoBytes (twoBytes, .initial) := rfl
  have happended : Standing DeviceStream.Calm DeviceStream.content DeviceStream.cursor
      ([0, 1] ++ [2, 3]) (.ofDevice ⟨[0, 1, 2, 3], 4⟩ .resizable, Surroundings.initial) 4 :=
    DeviceStream.standing_ofDevice ⟨by decide, by decide⟩ Surroundings.initial
  have hstart : Shared (Standing DeviceStream.Calm DeviceStream.content DeviceStream.cursor) [0, 1]
      (cachedTwoBytes, Surroundings.initial) [0, 1] [[0, 1]] (cachedTwoBytes, .initial) := .start
  have hshared := (hstart.asked (.read .blocking 2) (.inl rfl)).grown (by decide) happended
  obtain ⟨earlier, hseen, -, -, hloaded, hposition, -, -, hreads⟩ :=
    answers_of_growing (fun content _ => DeviceStream.steady content) (by decide) hstands hmade
      hshared
  -- the block is of the two bytes, not of the four
  obtain rfl : earlier = [0, 1] := by
    rcases hloaded with ⟨hnone, -⟩ | hblock
    · cases hnone
    · rcases List.mem_cons.mp hseen with rfl | hfirst
      · cases hblock
      · exact List.mem_singleton.mp hfirst
  obtain ⟨bytes, s', heq, -, hnil⟩ := ((hreads .blocking 1 Nat.one_pos).mono (fun _ _ h => h)
    fun _ _ h => Mode.Excuses.fault_of_admitted h rfl).exists_ok
  obtain rfl : bytes = [] := hnil.mpr (Nat.le_refl 2)
  exact ⟨_, _, _, hmade, rfl, rfl, rfl, hposition, rfl, s', heq⟩

end Cached

end LayeredStreams
