import LayeredStreams.Proofs.BlockFetches
import LayeredStreams.Proofs.FickleBase

/-!
# Far positions cost nothing

A cached layer takes any position, however far. It asks the stream below for its length before it
makes a place for a block, so the places it has are bounded by the greatest length that it was ever
told, and a read beyond the end is answered after that one question.

* `BlockIndex.count size` — the number of blocks of a content of that length.
* `ReportsWithin limit sound` — a stream that never reports a length beyond `limit`, whatever it is
  asked and whatever comes of it.
* `Cached.Contained places sound` — a layer with at most so many places for blocks, over a sound
  stream, if it still holds one.
* `Cached.Reached sound` — the states a layer comes to over a sound stream: made, asked anything,
  and left while others use the stream.
* `Request.Nothing`, `Cached.OnlyMeasured` — the answers of a read that gives nothing, and a layer
  after a request that did no more than ask for the length below.

Principal results: `Cached.keeps_contained_load` (a load makes no place beyond the blocks of a
content of the limit, even if it fails), `Cached.Reached.contained` (hence no run does),
`Cached.load_far` (a load beyond the end asks for the length and does nothing else) and
`Cached.far_positions_cost_nothing`.
-/

set_option autoImplicit false

namespace LayeredStreams

/-- The number of blocks of a content of a length. -/
def BlockIndex.count (size : Nat) : Nat := (size + blockSize - 1) / blockSize

theorem BlockIndex.start_lt_iff {index : BlockIndex} {size : Nat} :
    index.start < size ↔ index.value < count size := by
  unfold start count blockSize
  omega

theorem BlockCache.capacity_missingBlock_le (cache : BlockCache) {offset places : Nat}
    (hcache : cache.capacity ≤ places) (hoffset : offset / blockSize < places) :
    (cache.missingBlock offset).2.capacity ≤ places := by
  by_cases hword : offset / blockSize < maxWord
  · rw [capacity_missingBlock cache offset hword]
    omega
  · have hplace : placeOf (.containing offset) = none := if_neg hword
    unfold missingBlock
    dsimp only
    rw [hplace]
    exact hcache

theorem BlockCache.capacity_install_le (cache : BlockCache) {index : BlockIndex} {places : Nat}
    (data : Bytes) (filled : Nat) (hcache : cache.capacity ≤ places)
    (hindex : index.value < places) :
    (cache.install index data filled).capacity ≤ places := by
  by_cases hword : index.value < maxWord
  · rw [capacity_install cache index data filled hword]
    omega
  · rw [install_of_not_lt hword]
    exact hcache

/-- A stream whose soundness nothing it is asked takes away, short of a change or a dispose, and
which reports no length beyond `limit` while it is sound. Any call may fail. -/
structure ReportsWithin {ω σ : Type} [ByteStream ω σ] (limit : Nat) (sound : σ × ω → Prop) :
    Prop where
  keeps : ByteStream.PreservesOn ω (fun request => request.isQuiet = true) sound
  length : ∀ {s : σ × ω}, sound s → (ByteStream.length : StreamM ω σ Nat).Ends s
    (fun size _ => size ≤ limit) fun _ _ => True

/-- What holds of a stream, with its visits kept. -/
def Logged.Is {ω σ : Type} (sound : σ × ω → Prop) (s : Logged σ × Logbook ω σ) : Prop :=
  sound (s.1.stream, s.2.surroundings)

/-- The answers to a read that gives nothing. -/
def Request.Nothing : (request : Request) → request.Answer → Prop
  | .read _ _, bytes => bytes = []
  | .readByte, byte => byte = none
  | _, _ => False

section Reports

variable {ω σ : Type} [ByteStream ω σ] {limit : Nat} {sound : σ × ω → Prop}

theorem Logged.ends_performed {request : Request} {s : Logged σ × Logbook ω σ}
    {good : request.Answer → σ × ω → Prop} {bad : StreamError → σ × ω → Prop}
    (h : (ByteStream.perform request : StreamM ω σ request.Answer).Ends
      (s.1.stream, s.2.surroundings) good bad) :
    (ByteStream.perform request : StreamM (Logbook ω σ) (Logged σ) request.Answer).Ends s
      (fun answer s' => good answer (s'.1.stream, s'.2.surroundings))
      fun e s' => bad e (s'.1.stream, s'.2.surroundings) := by
  show (Logged.perform request).Ends s _ _
  unfold StreamM.Ends at h
  unfold StreamM.Ends Logged.perform
  dsimp only
  cases heq : (ByteStream.perform request : StreamM ω σ _) (s.1.stream, s.2.surroundings) with
  | ok answer s' => rwa [heq] at h
  | error e s' => rwa [heq] at h

theorem ReportsWithin.logged (h : ReportsWithin limit sound) :
    ReportsWithin limit (Logged.Is sound) where
  keeps request hquiet _ hs := Logged.ends_performed (h.keeps request hquiet _ hs)
  length hs := Logged.ends_performed (h.length hs)

end Reports

namespace Cached

variable {ω σ : Type} [ByteStream ω σ] {limit places : Nat} {sound : σ × ω → Prop}
  {ownership : Ownership} {cache : BlockCache} {cursor : Nat}

/-! ## The places of a layer -/

/-- A layer with at most `places` places for blocks. The stream it holds, if it holds one, is sound.
-/
def Contained (places : Nat) (sound : σ × ω → Prop) (s : Cached σ × ω) : Prop :=
  s.1.cache.capacity ≤ places ∧ Passthrough.While sound (fun _ => True) (s.1.base, s.2)

theorem preservesOn_held
    (h : ByteStream.PreservesOn ω (fun request => request.isQuiet = true) sound) :
    ByteStream.PreservesOn ω (fun request => request.mutates = false)
      (Passthrough.While sound fun _ => True) := by
  refine Passthrough.preservesOn_while ?_ (fun _ _ => trivial) fun _ _ => trivial
  intro request hmutates hne
  refine h request ?_
  simp [Request.isQuiet, hmutates, hne]

omit [ByteStream ω σ] in
theorem keeps_contained_onBase {α : Type} {act : StreamM ω (Passthrough σ) α}
    (h : StreamM.Keeps (Passthrough.While sound fun _ => True) act) :
    StreamM.Keeps (Contained places sound) (onBase act) :=
  h.within_keeping (fun layer : Cached σ => layer.cache.capacity ≤ places) (fun _ _ => rfl)
    fun _ _ hrest => hrest

omit [ByteStream ω σ] in
theorem keeps_contained_updateCache {f : BlockCache → BlockCache}
    (hf : ∀ cache : BlockCache, cache.capacity ≤ places → (f cache).capacity ≤ places) :
    StreamM.Keeps (Contained places sound) (updateCache f : StreamM ω (Cached σ) Unit) :=
  StreamM.keeps_update fun _ _ h => ⟨hf _ h.1, h.2⟩

theorem ends_contained_length (h : ReportsWithin limit sound) {s : Cached σ × ω}
    (hs : Contained places sound s) :
    (onBase ByteStream.length : StreamM ω (Cached σ) Nat).Ends s
      (fun size s' => size ≤ limit ∧ Contained places sound s')
      fun _ => Contained places sound := by
  have hkeeps := keeps_contained_onBase (preservesOn_held h.keeps .length rfl) s hs
  have hreport : (onBase ByteStream.length : StreamM ω (Cached σ) Nat).Ends s
      (fun size _ => size ≤ limit) fun _ _ => True := by
    obtain ⟨⟨⟨slot, ownership⟩, cache, cursor⟩, w⟩ := s
    cases slot with
    | disposed => trivial
    | live stream =>
      have hlength := h.length (s := (stream, w)) hs.2
      exact (carries_onBase (show Request.length.isQuiet = true from rfl)).ends_at hlength
  exact (hreport.and hkeeps).mono (fun _ _ h => h) fun _ _ h => h.2

variable [Cancellation ω]

theorem keeps_contained_fetch
    (h : ByteStream.PreservesOn ω (fun request => request.isQuiet = true) sound) (mode : Mode)
    {index : BlockIndex} (hindex : index.value < places) :
    StreamM.Keeps (Contained places sound) (fetch mode index : StreamM ω (Cached σ) Unit) := by
  have hbelow := preservesOn_held h
  unfold fetch
  refine (keeps_contained_onBase (hbelow (.seek _) rfl)).bind fun _ => ?_
  have hfill := keeps_fillWithin (fun room => hbelow (.read mode room) rfl) blockSize blockSize
  refine (keeps_contained_onBase hfill).bind fun filled => ?_
  refine (StreamM.keeps_settle _).bind fun data => ?_
  exact keeps_contained_updateCache fun cache hcache =>
    cache.capacity_install_le data data.length hcache hindex

/-- **A load makes no place that a content of the limit has no block for**, even if it fails. -/
theorem keeps_contained_load (h : ReportsWithin limit sound) (mode : Mode) :
    StreamM.Keeps (Contained (BlockIndex.count limit) sound)
      (load mode : StreamM ω (Cached σ) Unit) := by
  intro s hs
  unfold load
  refine (keeps_contained_onBase Passthrough.keeps_ensureOpen s hs).bind fun _ s₁ hs₁ => ?_
  refine StreamM.ends_state_bind ?_
  dsimp only
  split
  · exact StreamM.ends_pure hs₁
  refine (ends_contained_length h hs₁).bind fun size s₂ hout => ?_
  obtain ⟨hsize, hs₂⟩ := hout
  split
  · exact StreamM.ends_pure hs₂
  rename_i hstart
  have hplace : s₁.1.cursor / blockSize < BlockIndex.count limit :=
    BlockIndex.start_lt_iff.mp (Nat.lt_of_lt_of_le (Nat.lt_of_not_le hstart) hsize)
  have hgrown := s₁.1.cache.capacity_missingBlock_le hs₁.1 hplace
  refine StreamM.ends_update_bind ?_
  have hs₃ : Contained (BlockIndex.count limit) sound
      ({ s₂.1 with cache := (s₁.1.cache.missingBlock s₁.1.cursor).2 }, s₂.2) := ⟨hgrown, hs₂.2⟩
  split
  · exact StreamM.ends_pure hs₃
  · rename_i index heq
    refine keeps_contained_fetch h.keeps mode ?_ _ hs₃
    rw [BlockCache.missingBlock_eq_some heq]
    exact hplace

/-- **No request makes a place that a content of the limit has no block for.** -/
theorem keeps_contained (h : ReportsWithin limit sound) (request : Request) :
    StreamM.Keeps (Contained (BlockIndex.count limit) sound)
      (ByteStream.perform request : StreamM ω (Cached σ) request.Answer) := by
  have hbelow := preservesOn_held h.keeps
  have hidle : request.reads = false → request ≠ .dispose →
      StreamM.Keeps (Contained (BlockIndex.count limit) sound)
        (ByteStream.perform request : StreamM ω (Cached σ) request.Answer) := by
    intro hreads hne s hs
    refine (keeps_idle (fun request hallowed => hbelow request hallowed.1) s.1.cache hreads hne s
      ⟨rfl, hs.2⟩).mono ?_ ?_
    · intro _ s' hout
      exact ⟨hout.1 ▸ hs.1, hout.2⟩
    · intro _ s' hout
      exact ⟨hout.1 ▸ hs.1, hout.2⟩
  have hmove : ∀ place : Nat, StreamM.Keeps (Contained (BlockIndex.count limit) sound)
      (moveTo place : StreamM ω (Cached σ) Unit) :=
    fun place => StreamM.keeps_update fun _ _ hs => hs
  cases request with
  | read mode room =>
    refine (keeps_contained_load h mode).bind fun _ => ?_
    refine StreamM.keeps_state_bind fun layer => ?_
    exact (hmove _).bind fun _ => StreamM.keeps_pure _
  | readByte =>
    refine (keeps_contained_load h .blocking).bind fun _ s hs => ?_
    exact StreamM.ends_of_eq_ok (serveByte_apply s.1 s.2) hs
  | dispose =>
    show StreamM.Keeps _ release
    unfold release
    refine (keeps_contained_onBase (hbelow .dispose rfl)).attempt.bind fun outcome => ?_
    refine (keeps_contained_updateCache fun _ _ => Nat.zero_le _).bind fun _ => ?_
    exact StreamM.keeps_settle outcome
  | _ => exact hidle rfl nofun

/-! ## The states of a layer -/

/-- The states that a layer comes to over a sound stream. It is made over the stream and asked
anything, whatever comes of it; meanwhile others may use the stream, as long as it stays sound. -/
inductive Reached (sound : σ × ω → Prop) : Cached σ × ω → Prop
  | made {s s' : σ × ω} {layer : Cached σ} (ownership : Ownership) (hsound : sound s)
      (hwrap : (wrap ownership : StreamM ω σ (Cached σ)) s = .ok layer s') :
      Reached sound (layer, s'.2)
  | asked {s : Cached σ × ω} (h : Reached sound s) (request : Request) :
      Reached sound ((ByteStream.perform request : StreamM ω (Cached σ) request.Answer).final s)
  | meanwhile {below below' : σ} {w w' : ω} {ownership : Ownership} {cache : BlockCache}
      {cursor : Nat} (h : Reached sound (opened ownership cache cursor below, w))
      (hsound : sound (below', w')) : Reached sound (opened ownership cache cursor below', w')

/-- **A layer never has more places than a content of the limit has blocks.** The induction is on
the run. -/
theorem Reached.contained (h : ReportsWithin limit sound) {s : Cached σ × ω}
    (hreached : Reached sound s) : Contained (BlockIndex.count limit) sound s := by
  induction hreached with
  | @made s s' layer ownership hsound hwrap =>
    have hkept : (wrap ownership : StreamM ω σ (Cached σ)).Ends s
        (fun layer s' => Contained (BlockIndex.count limit) sound (layer, s'.2))
        fun _ _ => True := by
      refine (h.keeps .position rfl s hsound).of_value.bind fun place s' hs' => ?_
      exact StreamM.ends_state_bind (StreamM.ends_pure ⟨Nat.zero_le _, hs'⟩)
    exact hkept.of_eq_ok hwrap
  | asked _ request ih => exact (keeps_contained h request _ ih).final
  | meanwhile _ hsound ih => exact ⟨ih.1, hsound⟩

/-! ## Reads beyond the end -/

/-- **A load of a block at or beyond the end asks for the length and does nothing else.** -/
theorem load_far (hnot : cache.isLoaded (.containing cursor) = false) {below : σ} {w : ω}
    (hfar : (ByteStream.length : StreamM ω σ Nat).Ends (below, w)
      (fun size _ => size ≤ (BlockIndex.containing cursor).start) fun _ _ => True) (mode : Mode) :
    (load mode : StreamM ω (Cached σ) Unit) (opened ownership cache cursor below, w) =
      match (ByteStream.length : StreamM ω σ Nat) (below, w) with
      | .ok _ (below, w) => .ok () (opened ownership cache cursor below, w)
      | .error e (below, w) => .error e (opened ownership cache cursor below, w) := by
  unfold StreamM.Ends at hfar
  rw [load_eq_loading, StreamM.bind_apply, loading_apply hnot]
  cases hlength : (ByteStream.length : StreamM ω σ Nat) (below, w) with
  | error e s' => rfl
  | ok size s' =>
    rw [hlength] at hfar
    dsimp only at hfar ⊢
    rw [if_pos hfar]
    rfl

omit [ByteStream ω σ] [Cancellation ω] in
theorem serve_of_not_loaded (hnot : cache.isLoaded (.containing cursor) = false) (room : Nat)
    (below : σ) (w : ω) :
    (serve room : StreamM ω (Cached σ) Bytes) (opened ownership cache cursor below, w) =
        .ok [] (opened ownership cache cursor below, w) ∧
      (serveByte : StreamM ω (Cached σ) (Option UInt8)) (opened ownership cache cursor below, w) =
        .ok none (opened ownership cache cursor below, w) := by
  have hnone : cache.blockAt cursor = none := by
    simpa [BlockCache.isLoaded, BlockCache.blockAt] using hnot
  constructor
  · show EStateM.Result.ok (cache.copyOut cursor room)
      (opened ownership cache (cursor + (cache.copyOut cursor room).length) below, w) = _
    unfold BlockCache.copyOut
    rw [hnone]
    rfl
  · rw [serveByte_apply]
    show EStateM.Result.ok (cache.byteAt cursor)
      (opened ownership cache (if (cache.byteAt cursor).isSome then cursor + 1 else cursor) below,
        w) = _
    unfold BlockCache.byteAt
    rw [hnone]
    rfl

theorem ends_read_far (hnot : cache.isLoaded (.containing cursor) = false) {below : σ} {w : ω}
    {holds : σ × ω → Prop} {bad : StreamError → σ × ω → Prop}
    (hfar : (ByteStream.length : StreamM ω σ Nat).Ends (below, w)
      (fun size s' => size ≤ (BlockIndex.containing cursor).start ∧ holds s') bad)
    {request : Request} (hreads : request.reads = true) :
    (ByteStream.perform request : StreamM ω (Cached σ) request.Answer).Ends
      (opened ownership cache cursor below, w)
      (fun answer s' => request.Nothing answer ∧
        StreamM.Held (opened ownership cache cursor) holds s')
      fun e => StreamM.Held (opened ownership cache cursor) (bad e) := by
  have hload : ∀ mode : Mode, (load mode : StreamM ω (Cached σ) Unit).Ends
      (opened ownership cache cursor below, w)
      (fun _ => StreamM.Held (opened ownership cache cursor) holds)
      fun e => StreamM.Held (opened ownership cache cursor) (bad e) := by
    intro mode
    unfold StreamM.Ends
    rw [load_far hnot (hfar.mono (fun _ _ h => h.1) fun _ _ _ => trivial) mode]
    unfold StreamM.Ends at hfar
    cases hlength : (ByteStream.length : StreamM ω σ Nat) (below, w) with
    | error e s' =>
      rw [hlength] at hfar
      exact ⟨s'.1, rfl, hfar⟩
    | ok size s' =>
      rw [hlength] at hfar
      exact ⟨s'.1, rfl, hfar.2⟩
  cases request with
  | read mode room =>
    refine (hload mode).bind fun _ s' hheld => ?_
    obtain ⟨layer, w'⟩ := s'
    obtain ⟨below', rfl, hholds⟩ := hheld
    refine StreamM.ends_of_eq_ok (serve_of_not_loaded hnot room below' w').1 ?_
    exact ⟨rfl, below', rfl, hholds⟩
  | readByte =>
    refine (hload .blocking).bind fun _ s' hheld => ?_
    obtain ⟨layer, w'⟩ := s'
    obtain ⟨below', rfl, hholds⟩ := hheld
    refine StreamM.ends_of_eq_ok (serve_of_not_loaded hnot 0 below' w').2 ?_
    exact ⟨rfl, below', rfl, hholds⟩
  | _ => cases hreads

end Cached

section Far

variable {ω σ : Type} [ByteStream ω σ] {limit : Nat} {sound : σ × ω → Prop}

theorem Logged.ends_measured {below : Logged σ} {book : Logbook ω σ} {bound : Nat}
    (h : (ByteStream.length : StreamM ω σ Nat).Ends (below.stream, book.surroundings)
      (fun size _ => size ≤ bound) fun _ _ => True) :
    (ByteStream.length : StreamM (Logbook ω σ) (Logged σ) Nat).Ends (below, book)
      (fun size s' => size ≤ bound ∧
        s'.2.visits = ⟨.length, below.stream, book.surroundings⟩ :: book.visits)
      fun e s' =>
        (ByteStream.length : StreamM ω σ Nat).result (below.stream, book.surroundings) = .error e ∧
          s'.2.visits = ⟨.length, below.stream, book.surroundings⟩ :: book.visits := by
  have hresult : (ByteStream.length : StreamM ω σ Nat).Ends (below.stream, book.surroundings)
      (fun size _ => size ≤ bound) fun e _ =>
        (ByteStream.length : StreamM ω σ Nat).result (below.stream, book.surroundings)
          = .error e := by
    unfold StreamM.Ends at h
    unfold StreamM.Ends StreamM.result
    split at h
    · exact h
    · rfl
  have hvisits : (ByteStream.length : StreamM (Logbook ω σ) (Logged σ) Nat).Ends (below, book)
      (fun _ s' => s'.2.visits = ⟨.length, below.stream, book.surroundings⟩ :: book.visits)
      fun _ s' => s'.2.visits = ⟨.length, below.stream, book.surroundings⟩ :: book.visits :=
    StreamM.ends_of_final (Logged.final_visits .length (below, book))
  exact (Logged.ends_performed hresult).and hvisits

namespace Cached

/-- A layer that did no more than to ask the stream below once for its length: blocks, places and
cursor are as they were. -/
def OnlyMeasured (s s' : Cached (Logged σ) × Logbook ω σ) : Prop :=
  s'.1.cache = s.1.cache ∧ s'.1.cursor = s.1.cursor ∧
    ∃ visit : Visit ω σ, visit.request = .length ∧ s'.2.visits = visit :: s.2.visits

variable [Cancellation ω]

/-- **Far positions cost nothing.** A cached layer is put over a stream that never reports a length
beyond `limit` and any of whose calls may fail, and is asked anything. It never has more places than
a content of that length has blocks; and a read whose block is not there, and starts at or beyond
the length that the stream reports, gives nothing, or the error of the question for the length,
which is all that it asks of the stream. It makes no place. -/
theorem far_positions_cost_nothing (h : ReportsWithin limit sound)
    {s : Cached (Logged σ) × Logbook ω σ} (hreached : Reached (Logged.Is sound) s) :
    s.1.cache.capacity ≤ BlockIndex.count limit ∧
      ∀ below : Logged σ, s.1.base.slot = .live below →
        s.1.cache.isLoaded (.containing s.1.cursor) = false →
        (ByteStream.length : StreamM ω σ Nat).Ends (below.stream, s.2.surroundings)
          (fun size _ => size ≤ (BlockIndex.containing s.1.cursor).start) (fun _ _ => True) →
        ∀ request : Request, request.reads = true →
          (ByteStream.perform request :
            StreamM (Logbook ω σ) (Cached (Logged σ)) request.Answer).Ends s
            (fun answer s' => request.Nothing answer ∧ OnlyMeasured s s')
            fun e s' => (ByteStream.length : StreamM ω σ Nat).result
                (below.stream, s.2.surroundings) = .error e ∧ OnlyMeasured s s' := by
  refine ⟨(hreached.contained h.logged).1, ?_⟩
  obtain ⟨⟨⟨slot, ownership⟩, cache, cursor⟩, book⟩ := s
  intro below hlive hnot hfar request hreads
  obtain rfl : slot = .live below := hlive
  refine (ends_read_far hnot (Logged.ends_measured hfar) hreads).mono ?_ ?_
  · rintro answer ⟨layer, book'⟩ ⟨hnothing, below', rfl, hvisits⟩
    exact ⟨hnothing, rfl, rfl, _, rfl, hvisits⟩
  · rintro e ⟨layer, book'⟩ ⟨below', rfl, hresult, hvisits⟩
    exact ⟨hresult, rfl, rfl, _, rfl, hvisits⟩

end Cached

end Far

namespace Fickle

theorem keeps_content (content : Bytes) (request : Request) :
    StreamM.Keeps (fun s => s.1.content = content)
      (ByteStream.perform request : StreamM Fate Fickle request.Answer) := by
  have hundergo : StreamM.Keeps (fun s => s.1.content = content) (undergo request) := by
    rintro ⟨base, fate⟩ hs
    unfold StreamM.Ends undergo
    dsimp only
    cases fate.turns 0 with
    | fail e => exact hs
    | grant bound => exact hs
  have hmove : ∀ f : Fickle → Fickle, (∀ base, (f base).content = base.content) →
      StreamM.Keeps (fun s : Fickle × Fate => s.1.content = content) (StreamM.update f) :=
    fun f hf => StreamM.keeps_update fun base _ h => (hf base).trans h
  have htake : ∀ bound room,
      StreamM.Keeps (fun s => s.1.content = content) (take bound room) := by
    intro bound room
    refine StreamM.keeps_state_bind fun base => ?_
    refine StreamM.Keeps.bind (hmove _ ?_) fun _ => StreamM.keeps_pure _
    exact fun _ => rfl
  show StreamM.Keeps _ (Fickle.perform request)
  unfold Fickle.perform
  refine (keeps_admission request.mode).bind fun _ => StreamM.keeps_state_bind fun base => ?_
  split
  · cases request <;> first | exact StreamM.keeps_pure _ | exact StreamM.keeps_refuse _
  refine hundergo.bind fun bound => ?_
  cases request with
  | position | length => exact StreamM.keeps_state_bind fun base => StreamM.keeps_pure _
  | setPosition target => exact hmove _ fun _ => rfl
  | seek target =>
    refine StreamM.keeps_state_bind fun base => (StreamM.keeps_ofExcept _).bind fun place => ?_
    refine StreamM.Keeps.bind (hmove _ ?_) fun _ => StreamM.keeps_pure _
    exact fun _ => rfl
  | read mode room => exact htake bound room
  | readByte => exact (htake none 1).bind fun _ => StreamM.keeps_pure _
  | flush mode => exact StreamM.keeps_pure _
  | dispose => exact hmove _ fun _ => rfl
  | _ => exact StreamM.keeps_refuse _

theorem reportsWithin (content : Bytes) :
    ReportsWithin content.length fun s : Fickle × Fate => s.1.content = content where
  keeps request _ := keeps_content content request
  length := by
    rintro ⟨base, fate⟩ rfl
    show StreamM.Ends (Fickle.perform .length) _ _ _
    refine StreamM.ends_bind_of_eq_ok rfl (StreamM.ends_state_bind ?_)
    dsimp only
    split
    · exact StreamM.ends_refuse trivial
    · unfold StreamM.Ends
      rw [StreamM.bind_apply]
      unfold undergo
      dsimp only
      cases fate.turns 0 with
      | fail e => trivial
      | grant bound => exact Nat.le_refl _

end Fickle

namespace Cached

/-- The greatest position that a caller can ask for. -/
def farthest : Nat := 18446744073709551615

/-- Five bytes, of which a read fails for once: the fourth call is made to fail. -/
def failingOnce : Logged Fickle × Logbook Fate Fickle :=
  (⟨⟨[1, 2, 3, 4, 5], 1, false⟩⟩,
    ⟨[], ⟨fun index => if index = 3 then .fail (.refusal .overflow) else .grant none, [], []⟩⟩)

/-- Over five bytes, after a load that failed, a layer that is sent to the farthest position has one
place, and a read there gives nothing and asks for nothing but the length. -/
theorem far_positions_cost_nothing_failing :
    (wrap .owns : StreamM (Logbook Fate Fickle) (Logged Fickle) (Cached (Logged Fickle))).Ends
      failingOnce
      (fun layer first => ∀ t : Cached (Logged Fickle) × Logbook Fate Fickle,
        t = ByteStream.after [.readByte, .setPosition farthest] (layer, first.2) →
        t.1.cache = ⟨[.notLoaded]⟩ ∧ t.1.cache.capacity ≤ 1 ∧ t.1.cursor = farthest ∧
          (ByteStream.perform (.read .blocking 9) : StreamM (Logbook Fate Fickle)
            (Cached (Logged Fickle)) Bytes).Ends t
            (fun bytes t' => bytes = [] ∧ OnlyMeasured t t') fun _ _ => False)
      fun _ _ => False := by
  refine StreamM.ends_of_eq_ok rfl ?_
  rintro t rfl
  have hsound : Logged.Is (fun s => s.1.content = [1, 2, 3, 4, 5]) failingOnce := rfl
  have hreached := ((Reached.made .owns hsound rfl).asked .readByte).asked (.setPosition farthest)
  obtain ⟨hplaces, hfar⟩ :=
    far_positions_cost_nothing (Fickle.reportsWithin [1, 2, 3, 4, 5]) hreached
  refine ⟨rfl, hplaces, rfl, ?_⟩
  have hbeyond : (5 : Nat) ≤ (BlockIndex.containing farthest).start := by decide
  refine (hfar _ rfl rfl hbeyond (.read .blocking 9) rfl).mono (fun _ _ h => h) ?_
  rintro e t' ⟨hresult, -⟩
  cases hresult

end Cached

end LayeredStreams
