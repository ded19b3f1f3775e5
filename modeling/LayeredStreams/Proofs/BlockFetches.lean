import LayeredStreams.Proofs.CachedLoading
import LayeredStreams.Proofs.Disposal
import LayeredStreams.Proofs.Preserved

/-!
# Blocks are fetched once

What a cached layer reads from the stream below, it reads to load a block that is not there, from
inside this block up to its end. A block that was loaded is not read again.

* `Visit`, `Logbook`, `Logged` — surroundings with a logbook of the requests that a stream received
  and of the state in which each of them found it.
* `Logbook.GrowsBy` — a later logbook, with what holds of the visits that came to it.
* `Fetchable content fault stands` — a source that is where it was sent, and stands somewhere
  whatever it is asked short of a change.
* `Visit.Fetches stands index` — a read of the rest of a block.
* `Cached.completedLoad`, `Cached.completedLoads` — the block whose load a request completes, and
  those of a run.
* `Cached.Fetched stands seen` — an open layer has the blocks of `seen` and no others.

Principal results: `Cached.keeps_bring` (a load reads the rest of its block and nothing else),
`Cached.Fetched.step` (what one request does to blocks and logbook) and `Cached.fetches_once` (over
every run no block is fetched again).
-/

set_option autoImplicit false

namespace LayeredStreams

/-- Whether a request reads. -/
def Request.reads : Request → Bool
  | read _ _ | readByte => true
  | _ => false

/-! ## Logged streams -/

/-- A request that a stream received, and how it found the stream. -/
structure Visit (ω σ : Type) where
  request : Request
  stream : σ
  surroundings : ω

/-- Surroundings with the visits to a stream. -/
structure Logbook (ω σ : Type) where
  /-- The visits, the latest first. -/
  visits : List (Visit ω σ)
  surroundings : ω

instance Logbook.cancellation {ω σ : Type} [Cancellation ω] : Cancellation (Logbook ω σ) where
  isCancelled name book := Cancellation.isCancelled name book.surroundings

namespace Logbook

variable {ω σ : Type} {allowed allowed' : Visit ω σ → Prop} {start middle later : Logbook ω σ}

/-- A later logbook. The visits that came to it are allowed. -/
def GrowsBy (allowed : Visit ω σ → Prop) (start later : Logbook ω σ) : Prop :=
  ∃ visits, later.visits = visits ++ start.visits ∧ ∀ visit ∈ visits, allowed visit

theorem growsBy_self (allowed : Visit ω σ → Prop) (start : Logbook ω σ) :
    start.GrowsBy allowed start := ⟨[], rfl, nofun⟩

theorem GrowsBy.mono (h : start.GrowsBy allowed later)
    (himp : ∀ visit, allowed visit → allowed' visit) : start.GrowsBy allowed' later := by
  obtain ⟨visits, heq, hall⟩ := h
  exact ⟨visits, heq, fun visit hmem => himp visit (hall visit hmem)⟩

theorem GrowsBy.visit (h : start.GrowsBy allowed middle) {visit : Visit ω σ}
    (hvisit : allowed visit)
    (heq : later.visits = visit :: middle.visits) : start.GrowsBy allowed later := by
  obtain ⟨visits, hvisits, hall⟩ := h
  refine ⟨visit :: visits, by rw [heq, hvisits, List.cons_append], fun other hmem => ?_⟩
  rcases List.mem_cons.mp hmem with rfl | hmem
  · exact hvisit
  · exact hall other hmem

end Logbook

/-- A stream whose visits are kept. -/
structure Logged (σ : Type) where
  stream : σ

namespace Logged

variable {ω σ : Type} [ByteStream ω σ]

/-- Enter a request in the logbook, and answer it. -/
def perform (request : Request) : StreamM (Logbook ω σ) (Logged σ) request.Answer := fun s =>
  let visit : Visit ω σ := ⟨request, s.1.stream, s.2.surroundings⟩
  match (ByteStream.perform request : StreamM ω σ _) (s.1.stream, s.2.surroundings) with
  | .ok answer (stream, w) => .ok answer (⟨stream⟩, ⟨visit :: s.2.visits, w⟩)
  | .error e (stream, w) => .error e (⟨stream⟩, ⟨visit :: s.2.visits, w⟩)

instance : ByteStream (Logbook ω σ) (Logged σ) where
  can capability logged book := ByteStream.can capability logged.stream book.surroundings
  isDisposed logged book := ByteStream.isDisposed logged.stream book.surroundings
  perform := Logged.perform

/-- What holds of a stream that stands somewhere, with its visits kept. -/
def At (stands : σ × ω → Nat → Prop) (s : Logged σ × Logbook ω σ) (p : Nat) : Prop :=
  stands (s.1.stream, s.2.surroundings) p

/-- A stream that stands somewhere, in surroundings to which allowed visits came since `start`. -/
def Tracks (stands : σ × ω → Nat → Prop) (allowed : Visit ω σ → Prop) (start : Logbook ω σ)
    (s : Logged σ × Logbook ω σ) : Prop :=
  (∃ p, At stands s p) ∧ start.GrowsBy allowed s.2

theorem final_visits (request : Request) (s : Logged σ × Logbook ω σ) :
    (StreamM.final (ByteStream.perform request) s).2.visits =
      ⟨request, s.1.stream, s.2.surroundings⟩ :: s.2.visits := by
  show (StreamM.final (Logged.perform request) s).2.visits = _
  unfold StreamM.final Logged.perform
  dsimp only
  cases (ByteStream.perform request : StreamM ω σ _) (s.1.stream, s.2.surroundings) with
  | ok answer s' => rfl
  | error e s' => rfl

theorem ends_perform {stands : σ × ω → Nat → Prop} {allowed : Visit ω σ → Prop}
    {start : Logbook ω σ} {request : Request} {s : Logged σ × Logbook ω σ}
    {good : request.Answer → Nat → Prop} {bad : StreamError → Nat → Prop}
    (h : (ByteStream.perform request : StreamM ω σ request.Answer).Moves stands
      (s.1.stream, s.2.surroundings) good bad)
    (hgrows : start.GrowsBy allowed s.2)
    (hvisit : allowed ⟨request, s.1.stream, s.2.surroundings⟩) :
    (ByteStream.perform request : StreamM (Logbook ω σ) (Logged σ) request.Answer).Ends s
      (fun answer s' => ∃ q, good answer q ∧ At stands s' q ∧ start.GrowsBy allowed s'.2)
      fun _ => Tracks stands allowed start := by
  show (Logged.perform request).Ends s _ _
  unfold StreamM.Moves StreamM.Ends at h
  unfold StreamM.Ends Logged.perform
  dsimp only
  cases heq : (ByteStream.perform request : StreamM ω σ _) (s.1.stream, s.2.surroundings) with
  | ok answer s' =>
    rw [heq] at h
    obtain ⟨q, hgood, hstands⟩ := h
    exact ⟨q, hgood, hstands, hgrows.visit hvisit rfl⟩
  | error e s' =>
    rw [heq] at h
    obtain ⟨q, -, hstands⟩ := h
    exact ⟨⟨q, hstands⟩, hgrows.visit hvisit rfl⟩

end Logged

/-! ## Sources that are fetched from -/

/-- A source that is where it was sent, and stands somewhere whatever it is asked, short of what
would change or dispose it. Any call may fail. -/
structure Fetchable {ω σ : Type} [Cancellation ω] [ByteStream ω σ] (content : Bytes)
    (fault : StreamError → Prop) (stands : σ × ω → Nat → Prop) : Prop
    extends Source content fault stands where
  seekStart : ∀ {s : σ × ω} {p : Nat}, stands s p → ∀ target : Nat,
    (ByteStream.seek (.fromStart target) : StreamM ω σ Nat).Moves stands s (fun _ q => q = target)
      fun _ _ => True
  quiet : ∀ {s : σ × ω} {p : Nat}, stands s p → ∀ request : Request, request.isQuiet = true →
    (ByteStream.perform request : StreamM ω σ request.Answer).Moves stands s (fun _ _ => True)
      fun _ _ => True

/-- A read of the rest of a block, from where the stream stood inside the block. -/
def Visit.Fetches {ω σ : Type} (stands : σ × ω → Nat → Prop) (index : BlockIndex)
    (visit : Visit ω σ) : Prop :=
  ∃ mode room p, visit.request = .read mode room ∧ stands (visit.stream, visit.surroundings) p ∧
    BlockIndex.containing p = index ∧ p + room = index.start + blockSize

section Fetching

variable {ω σ : Type} [Cancellation ω] [ByteStream ω σ] {content : Bytes}
  {fault : StreamError → Prop} {stands : σ × ω → Nat → Prop} {allowed : Visit ω σ → Prop}
  {start : Logbook ω σ} {index : BlockIndex}

open Logged

theorem Fetchable.keeps_tracks (fetchable : Fetchable content fault stands) {request : Request}
    (hquiet : request.isQuiet = true)
    (hallowed : ∀ visit : Visit ω σ, visit.request = request → allowed visit) :
    StreamM.Keeps (Tracks stands allowed start)
      (ByteStream.perform request : StreamM (Logbook ω σ) (Logged σ) request.Answer) := by
  intro s hs
  obtain ⟨⟨p, hstands⟩, hgrows⟩ := hs
  refine (ends_perform (fetchable.quiet hstands request hquiet) hgrows (hallowed _ rfl)).mono ?_
    fun _ _ h => h
  intro answer s' hout
  obtain ⟨q, -, hstands', hgrows'⟩ := hout
  exact ⟨⟨q, hstands'⟩, hgrows'⟩

/-- A fill of the rest of a block asks for the rest of the block. The induction is on the reads that
are left: what is still asked for ends where the block does. -/
theorem Fetchable.ends_fillWithin (fetchable : Fetchable content fault stands) (mode : Mode)
    (hallowed : ∀ visit : Visit ω σ, visit.Fetches stands index → allowed visit) :
    ∀ (reads room p : Nat) (s : Logged σ × Logbook ω σ), index.start ≤ p →
      p + room = index.start + blockSize → At stands s p → start.GrowsBy allowed s.2 →
      (fillWithin mode reads room : StreamM (Logbook ω σ) (Logged σ) Filled).Ends s
        (fun _ => Tracks stands allowed start) fun _ => Tracks stands allowed start
  | 0, _, p, s, _, _, hstands, hgrows => ⟨⟨p, hstands⟩, hgrows⟩
  | reads + 1, room, p, s, hstart, hend, hstands, hgrows => by
    unfold fillWithin
    split
    · exact ⟨⟨p, hstands⟩, hgrows⟩
    rename_i hroom
    have hplace : BlockIndex.containing p = index :=
      BlockIndex.containing_eq_iff.mpr ⟨hstart, by omega⟩
    have hvisit : allowed ⟨.read mode room, s.1.stream, s.2.surroundings⟩ :=
      hallowed _ ⟨mode, room, p, rfl, hstands, hplace, hend⟩
    have hread : (readAdmitted mode room : StreamM (Logbook ω σ) (Logged σ) Bytes).Ends s
        (fun bytes s' => At stands s' (p + bytes.length) ∧ bytes.length ≤ room ∧
          start.GrowsBy allowed s'.2) fun _ => Tracks stands allowed start := by
      refine ((mode.ends_checkToken s).mono (fun _ _ h => h) ?_).bind ?_
      · intro e s' hout
        rw [hout.1]
        exact ⟨⟨p, hstands⟩, hgrows⟩
      · intro _ s' heq
        rw [heq]
        refine (ends_perform (fetchable.moves_read hstands mode room) hgrows hvisit).mono ?_
          fun _ _ h => h
        intro bytes s'' hout
        obtain ⟨q, ⟨hdelivers, rfl⟩, hstands', hgrows'⟩ := hout
        exact ⟨hstands', hdelivers.length_le, hgrows'⟩
    refine (hread.attempt.mono (fun _ _ h => h) fun _ _ h => h.elim).bind ?_
    intro outcome s' hout
    split
    · exact hout
    · obtain ⟨hstands', -, hgrows'⟩ := hout
      exact ⟨⟨_, hstands'⟩, hgrows'⟩
    · rename_i bytes _
      obtain ⟨hstands', hlength, hgrows'⟩ := hout
      have hrest := fetchable.ends_fillWithin mode hallowed reads (room - bytes.length)
        (p + bytes.length) s' (by omega) (by omega) hstands' hgrows'
      exact hrest.bind fun _ _ htracks => htracks

theorem Cached.keeps_fetchBelow (fetchable : Fetchable content fault stands) (mode : Mode)
    (hallowed : ∀ visit : Visit ω σ,
      (visit.request.reads = true → visit.Fetches stands index) → allowed visit) :
    StreamM.Keeps (Tracks stands allowed start)
      (fetchBelow mode index : StreamM (Logbook ω σ) (Logged σ) Bytes) := by
  intro s hs
  obtain ⟨⟨p, hstands⟩, hgrows⟩ := hs
  refine (ends_perform (fetchable.seekStart hstands index.start) hgrows (hallowed _ nofun)).bind ?_
  intro _ s' hout
  obtain ⟨_, rfl, hstands', hgrows'⟩ := hout
  have hfill := fetchable.ends_fillWithin mode (fun visit hvisit => hallowed visit fun _ => hvisit)
    blockSize blockSize index.start s' (Nat.le_refl _) rfl hstands' hgrows'
  exact hfill.bind fun filled s'' hs'' => StreamM.keeps_settle filled.outcome s'' hs''

/-- **A load reads the rest of its block and nothing else**, and a block that it brings has a place
in a cache. -/
theorem Cached.ends_bring (fetchable : Fetchable content fault stands) (mode : Mode)
    (hallowed : ∀ visit : Visit ω σ,
      (visit.request.reads = true → visit.Fetches stands index) → allowed visit)
    {s : Logged σ × Logbook ω σ} (hs : Tracks stands allowed start s) :
    (bring mode index : StreamM (Logbook ω σ) (Logged σ) (Option Bytes)).Ends s
      (fun brought s' => (brought.isSome = true → index.value < maxWord) ∧
        Tracks stands allowed start s') fun _ => Tracks stands allowed start := by
  have hlength : StreamM.Keeps (Tracks stands allowed start)
      (ByteStream.length : StreamM (Logbook ω σ) (Logged σ) Nat) := by
    refine fetchable.keeps_tracks (show Request.length.isQuiet = true from rfl) ?_
    intro visit heq
    exact hallowed visit fun hreads => by rw [heq] at hreads; cases hreads
  unfold bring
  refine (hlength s hs).bind fun size s' hs' => ?_
  split
  · exact ⟨nofun, hs'⟩
  unfold BlockCache.placeOf
  by_cases hword : index.value < maxWord
  · rw [if_pos hword]
    refine (keeps_fetchBelow fetchable mode hallowed s' hs').bind fun data s'' hs'' => ?_
    exact ⟨fun _ => hword, hs''⟩
  · rw [if_neg hword]
    exact ⟨nofun, hs'⟩

end Fetching

namespace Probe

variable {content : Bytes} {s : Probe × Surroundings} {p : Nat}

theorem moves_accept_then {α : Type} (h : Stands content s p) (request : Request)
    {next : Option Nat → StreamM Surroundings Probe α}
    (hnext : ∀ bound s', Stands content s' p →
      (next bound).Moves (Stands content) s' (fun _ _ => True) fun _ q => q = p) :
    (accept request >>= next).Moves (Stands content) s (fun _ _ => True) fun _ _ => True :=
  (moves_accept_bind h request fun bound s' _ h' => hnext bound s' h').mono (fun _ _ h => h)
    fun _ _ _ => trivial

theorem moves_quiet (h : Stands content s p) {request : Request} (hquiet : request.isQuiet = true) :
    (ByteStream.perform request : StreamM Surroundings Probe request.Answer).Moves
    (Stands content) s
      (fun _ _ => True) fun _ _ => True := by
  cases request with
  | position => exact (moves_position h).mono (fun _ _ _ => trivial) fun _ _ _ => trivial
  | setPosition target =>
    exact (moves_setPosition h target).mono (fun _ _ _ => trivial) fun _ _ _ => trivial
  | length => exact (moves_length h).mono (fun _ _ _ => trivial) fun _ _ _ => trivial
  | seek target => exact (moves_seek h target).mono (fun _ _ _ => trivial) fun _ _ _ => trivial
  | read mode room =>
    exact (moves_read h mode room).mono (fun _ _ _ => trivial) fun _ _ _ => trivial
  | readByte =>
    refine moves_accept_then h .readByte fun bound s' h' => ?_
    refine (moves_take h' (fun _ => Nat.one_pos) (Nat.le_refl 1)).bind ?_
    exact fun bytes q s'' _ h'' => ⟨q, trivial, h''⟩
  | flush mode =>
    cases mode with
    | blocking => exact moves_accept_then h (.flush .blocking) fun bound s' h' => ⟨p, trivial, h'⟩
    | suspending token =>
      refine StreamM.Moves.mono (moves_suspended_bind h (.flush (.suspending token)) ?_)
        (fun _ _ h => h) fun _ _ _ => trivial
      intro s' h'
      exact moves_accept_bind h' (.flush .blocking) fun bound s'' _ h'' => ⟨p, trivial, h''⟩
  | timeout direction =>
    refine moves_accept_then h (.timeout direction) fun bound s' h' => ?_
    refine (moves_ensureTiming h' (.timeout direction)).bind ?_
    exact fun _ q s'' _ h'' => StreamM.ends_state_bind ⟨q, trivial, h''⟩
  | setTimeout direction limit =>
    refine moves_accept_then h (.setTimeout direction limit) fun bound s' h' => ?_
    refine (moves_ensureTiming h' (.setTimeout direction limit)).bind ?_
    intro _ q s'' _ h''
    exact ⟨q, trivial, h''.isOpen, h''.content_eq, h''.cursor_eq, h''.honest, h''.chunk_ne,
      h''.generous⟩
  | setLength | write | writeByte | dispose => cases hquiet

/-- **A probe is fetchable**, with any error for a fault. -/
theorem fetchable (content : Bytes) : Fetchable content (fun _ => True) (Stands content) where
  toSource := (steady content).toSource
  seekStart h target := by
    refine (moves_seek h (.fromStart target)).mono ?_ fun _ _ _ => trivial
    intro place q hout
    obtain ⟨hplace, rfl⟩ := hout
    rw [SeekTarget.resolve_fromStart] at hplace
    split at hplace
    · cases hplace
      rfl
    · cases hplace
  quiet h _ hquiet := moves_quiet h hquiet

end Probe

/-! ## Blocks -/

namespace BlockCache

variable {cache cache' : BlockCache} {offset : Nat}

/-- The blocks of `cache'` are those of `cache`, and the one that was loaded. -/
structure Gains (cache cache' : BlockCache) (loaded : Option BlockIndex) : Prop where
  isLoaded_eq : ∀ index, cache'.isLoaded index =
    (decide (loaded = some index) || cache.isLoaded index)
  loadedCount_eq : cache'.loadedCount = cache.loadedCount + loaded.toList.length
  isNew : ∀ index, loaded = some index → cache.isLoaded index = false

theorem gains_self (cache : BlockCache) : Gains cache cache none :=
  ⟨fun _ => rfl, rfl, nofun⟩

theorem gains_missingBlock (cache : BlockCache) (offset : Nat) :
    Gains cache (cache.missingBlock offset).2 none where
  isLoaded_eq index := by
    unfold isLoaded
    rw [block?_missingBlock]
    rfl
  loadedCount_eq := loadedCount_missingBlock cache offset
  isNew := nofun

theorem gains_taking (hnot : cache.isLoaded (.containing offset) = false) {brought : Option Bytes}
    (hword : brought.isSome = true → (BlockIndex.containing offset).value < maxWord) :
    Gains cache (cache.taking offset brought) (brought.map fun _ => .containing offset) := by
  cases brought with
  | none => exact gains_self cache
  | some data =>
    have hmissing := gains_missingBlock cache offset
    have hword' := hword rfl
    refine ⟨fun index => ?_, ?_, ?_⟩
    · unfold taking
      rw [isLoaded_install _ _ _ _ _ hword', hmissing.isLoaded_eq]
      simp [eq_comm]
    · unfold taking
      rw [loadedCount_install hword' (by rw [hmissing.isLoaded_eq, hnot]; rfl),
        hmissing.loadedCount_eq]
      rfl
    · intro index heq
      cases heq
      exact hnot

end BlockCache

/-! ## Layers that are disposed on the way -/

/-- What holds of a stream and its surroundings while a layer holds it, and of the surroundings once
it does not. -/
def Passthrough.While {ω σ : Type} (keeps : σ × ω → Prop) (left : ω → Prop)
    (s : Passthrough σ × ω) : Prop :=
  match s.1.slot with
  | .live stream => keeps (stream, s.2)
  | .disposed => left s.2

section While

variable {ω σ : Type} [ByteStream ω σ] {keeps : σ × ω → Prop} {left : ω → Prop}

theorem Passthrough.preservesOn_while {allowed : Request → Prop}
    (h : ∀ request : Request, allowed request → request ≠ .dispose →
      StreamM.Keeps keeps (ByteStream.perform request : StreamM ω σ request.Answer))
    (hdispose : ∀ s, keeps s → left ((ByteStream.dispose : StreamM ω σ Unit).final s).2)
    (hleft : ∀ s, keeps s → left s.2) :
    ByteStream.PreservesOn ω allowed (While keeps left) := by
  intro request hrequest s hs
  obtain ⟨⟨slot, ownership⟩, w⟩ := s
  cases slot with
  | disposed => cases request <;> exact hs
  | live stream =>
    by_cases hne : request = .dispose
    · subst hne
      cases ownership with
      | borrows => exact hleft (stream, w) hs
      | owns =>
        have hout := hdispose (stream, w) hs
        unfold StreamM.final at hout
        show StreamM.Ends release _ _ _
        unfold StreamM.Ends release
        simp only [Ownership.isOwner, if_true]
        cases heq : (ByteStream.dispose : StreamM ω σ Unit) (stream, w) with
        | ok value s' =>
          rw [heq] at hout
          exact hout
        | error e s' =>
          rw [heq] at hout
          exact hout
    · have hkeeps := h request hrequest hne (stream, w) hs
      have hforward : (ByteStream.perform request : StreamM ω (Passthrough σ) request.Answer) =
          forward (ByteStream.perform request) := by
        cases request with
        | dispose => exact absurd rfl hne
        | _ => rfl
      rw [hforward]
      exact StreamM.Carries.ends_keeps _ (carries_forward ownership _) (fun _ hs' => hs') hkeeps

end While

/-! ## The requests of a cached layer -/

namespace Cached

section Requests

variable {ω σ : Type} [Cancellation ω] [ByteStream ω σ]

/-- The block whose load a request completes, if it completes any. -/
def completedLoad (request : Request) (s : Cached σ × ω) : Option BlockIndex :=
  if request.reads then
    match (loading request.mode : StreamM ω (Cached σ) (Option BlockIndex)).result s with
    | .ok loaded => loaded
    | .error _ => none
  else none

/-- The blocks whose loads a run completes, in order. -/
def completedLoads : List Request → Cached σ × ω → List BlockIndex
  | [], _ => []
  | request :: requests, s =>
    (completedLoad request s).toList ++
      completedLoads requests ((ByteStream.perform request : StreamM ω (Cached σ) _).final s)

theorem final_of_reads {request : Request} (hreads : request.reads = true) (s : Cached σ × ω) :
    ∃ cursor, (ByteStream.perform request : StreamM ω (Cached σ) request.Answer).final s =
      ({ ((loading request.mode : StreamM ω (Cached σ) _).final s).1 with cursor := cursor },
        ((loading request.mode : StreamM ω (Cached σ) _).final s).2) := by
  have hserved : ∀ {α : Type} {serving : StreamM ω (Cached σ) α} (mode : Mode),
      (∀ s : Cached σ × ω, ∃ value cursor,
        serving s = .ok value ({ s.1 with cursor := cursor }, s.2)) →
      ∃ cursor, (load mode >>= fun _ => serving).final s =
        ({ ((loading mode : StreamM ω (Cached σ) _).final s).1 with cursor := cursor },
          ((loading mode : StreamM ω (Cached σ) _).final s).2) := by
    intro α serving mode hserving
    rw [load_eq_loading, bind_assoc]
    unfold StreamM.final
    rw [StreamM.bind_apply]
    cases (loading mode : StreamM ω (Cached σ) (Option BlockIndex)) s with
    | ok loaded s' =>
      obtain ⟨value, cursor, heq⟩ := hserving s'
      refine ⟨cursor, ?_⟩
      dsimp only
      rw [StreamM.bind_apply, StreamM.pure_apply]
      dsimp only
      rw [heq]
    | error e s' => exact ⟨s'.1.cursor, rfl⟩
  cases request with
  | read mode room => exact hserved mode fun s => ⟨_, _, rfl⟩
  | readByte => exact hserved .blocking fun s => ⟨_, _, serveByte_apply s.1 s.2⟩
  | _ => cases hreads

variable {keeps : Passthrough σ × ω → Prop}

/-- What neither reads nor disposes leaves the blocks as they are, and asks the layer below for
nothing else. -/
theorem keeps_idle
    (h : ByteStream.PreservesOn ω (fun request => request.mutates = false ∧ request.reads = false)
      keeps) (cache : BlockCache) {request : Request} (hreads : request.reads = false)
    (hne : request ≠ .dispose) :
    StreamM.Keeps (fun s : Cached σ × ω => s.1.cache = cache ∧ keeps (s.1.base, s.2))
      (ByteStream.perform request : StreamM ω (Cached σ) request.Answer) := by
  have honBase : ∀ {α : Type} {act : StreamM ω (Passthrough σ) α}, StreamM.Keeps keeps act →
      StreamM.Keeps (fun s : Cached σ × ω => s.1.cache = cache ∧ keeps (s.1.base, s.2))
        (onBase act) := fun hact =>
    hact.within_keeping (fun layer : Cached σ => layer.cache = cache) (fun _ _ => rfl)
      fun _ _ h => h
  have hmove : ∀ place : Nat,
      StreamM.Keeps (fun s : Cached σ × ω => s.1.cache = cache ∧ keeps (s.1.base, s.2))
        (moveTo place : StreamM ω (Cached σ) Unit) :=
    fun place => StreamM.keeps_update fun _ _ h => h
  have hunless : StreamM.Keeps keeps
      (Passthrough.performUnless request.mutates request :
        StreamM ω (Passthrough σ) request.Answer) := by
    unfold Passthrough.performUnless
    split
    · exact Passthrough.keeps_decline request
    · rename_i hmutates
      exact h request ⟨Bool.eq_false_iff.mpr hmutates, hreads⟩
  cases request with
  | dispose => exact absurd rfl hne
  | read | readByte => cases hreads
  | position =>
    refine (honBase Passthrough.keeps_ensureOpen).bind fun _ => ?_
    exact StreamM.keeps_state_bind fun _ => StreamM.keeps_pure _
  | setPosition target => exact (honBase Passthrough.keeps_ensureOpen).bind fun _ => hmove target
  | seek target =>
    show StreamM.Keeps _ (Cached.seek target)
    unfold Cached.seek
    refine StreamM.keeps_state_bind fun layer => ?_
    refine (honBase (h (.setPosition layer.cursor) ⟨rfl, rfl⟩)).bind fun _ => ?_
    refine (honBase (h (.seek target) ⟨rfl, rfl⟩)).bind fun place => ?_
    exact (hmove place).bind fun _ => StreamM.keeps_pure _
  | _ => exact honBase hunless

end Requests

section Fetching

variable {ω σ : Type} [Cancellation ω] [ByteStream ω σ] {content : Bytes}
  {fault : StreamError → Prop} {stands : σ × ω → Nat → Prop} {request : Request}
  {seen : List BlockIndex} {s : Cached (Logged σ) × Logbook ω σ}

/-- What a visit may be that a request leads to: no read, or a read of the rest of the block at the
cursor, where the request reads, the layer is open and the block is not there. -/
def Fetching (stands : σ × ω → Nat → Prop) (request : Request)
    (s : Cached (Logged σ) × Logbook ω σ) (visit : Visit ω σ) : Prop :=
  visit.request.reads = true → request.reads = true ∧ s.1.base.isDisposed = false ∧
    s.1.cache.isLoaded (.containing s.1.cursor) = false ∧
    visit.Fetches stands (.containing s.1.cursor)

/-- An open layer has the blocks that were seen to be loaded, each loaded once, and no others. -/
structure Fetched (stands : σ × ω → Nat → Prop) (seen : List BlockIndex)
    (s : Cached (Logged σ) × Logbook ω σ) : Prop where
  stands : ∀ stream, s.1.base.slot = .live stream → ∃ p, Logged.At stands (stream, s.2) p
  count : s.1.base.isDisposed = false → s.1.cachedBlockCount = seen.length
  isLoaded : s.1.base.isDisposed = false → ∀ index,
    s.1.cache.isLoaded index = true ↔ index ∈ seen
  nodup : seen.Nodup

omit [Cancellation ω] [ByteStream ω σ] in
theorem fetched_of_isDisposed (hdisposed : s.1.base.isDisposed = true) (hnodup : seen.Nodup) :
    Fetched stands seen s := by
  refine ⟨fun stream hlive => ?_, fun hopen => ?_, fun hopen => ?_, hnodup⟩
  · unfold Passthrough.isDisposed at hdisposed
    rw [hlive] at hdisposed
    cases hdisposed
  · rw [hdisposed] at hopen
    cases hopen
  · rw [hdisposed] at hopen
    cases hopen

omit [Cancellation ω] [ByteStream ω σ] in
theorem Fetched.gains (h : Fetched stands seen s) (hopen : s.1.base.isDisposed = false)
    {s' : Cached (Logged σ) × Logbook ω σ} {loaded : Option BlockIndex}
    (hstands : ∀ stream, s'.1.base.slot = .live stream → ∃ p, Logged.At stands (stream, s'.2) p)
    (hgains : s.1.cache.Gains s'.1.cache loaded) : Fetched stands (seen ++ loaded.toList) s' where
  stands := hstands
  count _ := by
    unfold cachedBlockCount
    rw [hgains.loadedCount_eq, List.length_append]
    exact congrArg (· + _) (h.count hopen)
  isLoaded _ index := by
    rw [hgains.isLoaded_eq, List.mem_append, ← h.isLoaded hopen index]
    simp [or_comm]
  nodup := by
    refine List.nodup_append.mpr ⟨h.nodup, by cases loaded <;> simp, ?_⟩
    intro index hseen index' hloaded heq
    have hnew := hgains.isNew index (by rw [heq]; simpa using hloaded)
    rw [(h.isLoaded hopen index).mpr hseen] at hnew
    cases hnew

omit [Cancellation ω] [ByteStream ω σ] in
theorem Fetched.same (h : Fetched stands seen s) (hopen : s.1.base.isDisposed = false)
    {s' : Cached (Logged σ) × Logbook ω σ}
    (hstands : ∀ stream, s'.1.base.slot = .live stream → ∃ p, Logged.At stands (stream, s'.2) p)
    (hgains : s.1.cache.Gains s'.1.cache none) : Fetched stands seen s' := by
  have hsame := h.gains hopen hstands hgains
  rwa [Option.toList_none, List.append_nil] at hsame

theorem Fetched.ends_loading (fetchable : Fetchable content fault stands)
    (h : Fetched stands seen s) (hreads : request.reads = true) :
    (loading request.mode : StreamM (Logbook ω σ) (Cached (Logged σ)) (Option BlockIndex)).Ends s
      (fun loaded s' => Fetched stands (seen ++ loaded.toList) s' ∧
        s.2.GrowsBy (Fetching stands request s) s'.2)
      fun _ s' => Fetched stands seen s' ∧ s.2.GrowsBy (Fetching stands request s) s'.2 := by
  obtain ⟨⟨⟨slot, ownership⟩, cache, cursor⟩, book⟩ := s
  cases slot with
  | disposed => exact ⟨h, Logbook.growsBy_self _ _⟩
  | live stream =>
    obtain ⟨p, hstands⟩ := h.stands stream rfl
    by_cases hloaded : cache.isLoaded (.containing cursor) = true
    · refine StreamM.ends_of_eq_ok (loading_of_loaded hloaded request.mode stream book) ?_
      rw [Option.toList_none, List.append_nil]
      exact ⟨h, Logbook.growsBy_self _ _⟩
    have hnot := Bool.eq_false_iff.mpr hloaded
    let allowed : Visit ω σ → Prop :=
      Fetching stands request (⟨⟨.live stream, ownership⟩, cache, cursor⟩, book)
    have hbring : (bring request.mode (.containing cursor) :
        StreamM (Logbook ω σ) (Logged σ) (Option Bytes)).Ends (stream, book)
        (fun brought s' =>
          (brought.isSome = true → (BlockIndex.containing cursor).value < maxWord) ∧
            Logged.Tracks stands allowed book s')
        fun _ => Logged.Tracks stands allowed book := by
      refine ends_bring fetchable request.mode ?_ ⟨⟨p, hstands⟩, Logbook.growsBy_self _ book⟩
      exact fun visit hvisit hread => ⟨hreads, rfl, hnot, hvisit hread⟩
    refine (ends_loading_of_not_loaded hnot hbring).mono ?_ ?_
    · intro loaded s' hout
      obtain ⟨brought, below', rfl, hlayer, hword, hplace, hgrows⟩ := hout
      refine ⟨h.gains rfl ?_ ?_, hgrows⟩
      · intro stream' hlive
        rw [hlayer] at hlive
        cases hlive
        exact hplace
      · rw [hlayer]
        exact BlockCache.gains_taking hnot hword
    · intro e s' hout
      obtain ⟨cache', below', hlayer, hcache, hplace, hgrows⟩ := hout
      have hgains : cache.Gains cache' none := by
        rcases hcache with rfl | rfl
        · exact BlockCache.gains_self _
        · exact BlockCache.gains_missingBlock _ _
      refine ⟨h.same rfl ?_ ?_, hgrows⟩
      · intro stream' hlive
        rw [hlayer] at hlive
        cases hlive
        exact hplace
      · rw [hlayer]
        exact hgains

theorem preservesOn_while_tracks (fetchable : Fetchable content fault stands)
    (start : Logbook ω σ) :
    ByteStream.PreservesOn (Logbook ω σ)
      (fun request => request.mutates = false ∧ request.reads = false)
      (Passthrough.While (Logged.Tracks stands (fun visit => visit.request.reads = false) start)
        (start.GrowsBy fun visit => visit.request.reads = false)) := by
  refine Passthrough.preservesOn_while ?_ ?_ fun s hs => hs.2
  · intro request hrequest hne
    refine fetchable.keeps_tracks ?_ fun visit heq => by rw [heq]; exact hrequest.2
    simp [Request.isQuiet, hrequest.1, hne]
  · intro s hs
    exact hs.2.visit rfl (Logged.final_visits .dispose s)

/-- A read is a load, and the cursor is nothing to blocks and logbook. -/
theorem Fetched.step_of_reads (fetchable : Fetchable content fault stands)
    (h : Fetched stands seen s) (hreads : request.reads = true) :
    Fetched stands (seen ++ (completedLoad request s).toList)
        ((ByteStream.perform request :
          StreamM (Logbook ω σ) (Cached (Logged σ)) request.Answer).final s) ∧
      s.2.GrowsBy (Fetching stands request s)
        ((ByteStream.perform request :
          StreamM (Logbook ω σ) (Cached (Logged σ)) request.Answer).final s).2 := by
  obtain ⟨cursor, hfinal⟩ := final_of_reads hreads s
  have hload := h.ends_loading fetchable hreads
  rw [hfinal]
  unfold completedLoad
  rw [if_pos hreads]
  unfold StreamM.Ends at hload
  unfold StreamM.result StreamM.final
  cases hout : (loading request.mode :
      StreamM (Logbook ω σ) (Cached (Logged σ)) (Option BlockIndex)) s with
  | ok loaded s' =>
    rw [hout] at hload
    exact ⟨⟨hload.1.stands, hload.1.count, hload.1.isLoaded, hload.1.nodup⟩, hload.2⟩
  | error e s' =>
    rw [hout] at hload
    dsimp only
    rw [Option.toList_none, List.append_nil]
    exact ⟨⟨hload.1.stands, hload.1.count, hload.1.isLoaded, hload.1.nodup⟩, hload.2⟩

omit [Cancellation ω] [ByteStream ω σ] in
/-- Visits that are no reads are none that fetch. -/
theorem growsBy_fetching_of_while {s' : Cached (Logged σ) × Logbook ω σ}
    (h : Passthrough.While (Logged.Tracks stands (fun visit => visit.request.reads = false) s.2)
      (s.2.GrowsBy fun visit => visit.request.reads = false) (s'.1.base, s'.2)) :
    s.2.GrowsBy (Fetching stands request s) s'.2 := by
  have hquiet : s.2.GrowsBy (fun visit => visit.request.reads = false) s'.2 := by
    unfold Passthrough.While at h
    split at h
    · exact h.2
    · exact h
  refine hquiet.mono fun visit hvisit hread => ?_
  rw [hvisit] at hread
  cases hread

theorem Fetched.step_of_not_reads (fetchable : Fetchable content fault stands)
    (h : Fetched stands seen s) (hreads : request.reads = false) :
    Fetched stands seen ((ByteStream.perform request :
        StreamM (Logbook ω σ) (Cached (Logged σ)) request.Answer).final s) ∧
      s.2.GrowsBy (Fetching stands request s)
        ((ByteStream.perform request :
          StreamM (Logbook ω σ) (Cached (Logged σ)) request.Answer).final s).2 := by
  have hbelow := preservesOn_while_tracks fetchable s.2
  have hstart : Passthrough.While
      (Logged.Tracks stands (fun visit => visit.request.reads = false) s.2)
      (s.2.GrowsBy fun visit => visit.request.reads = false) (s.1.base, s.2) := by
    unfold Passthrough.While
    split
    · rename_i stream hlive
      exact ⟨h.stands stream hlive, Logbook.growsBy_self _ _⟩
    · exact Logbook.growsBy_self _ _
  by_cases hdispose : request = .dispose
  · subst hdispose
    have hdisposed : (StreamM.final (ByteStream.perform .dispose) s).1.base.isDisposed = true :=
      (Cached.refuses.dispose s).final
    exact ⟨fetched_of_isDisposed hdisposed h.nodup,
      growsBy_fetching_of_while (keeps_release (hbelow .dispose ⟨rfl, rfl⟩) s hstart).final⟩
  cases hopen : s.1.base.isDisposed with
  | true =>
    obtain ⟨e, heq, -⟩ := (Cached.refuses.silent s hopen).refuse request hdispose
    rw [StreamM.final_of_eq_error heq]
    exact ⟨h, Logbook.growsBy_self _ _⟩
  | false =>
    have hkept := (keeps_idle hbelow s.1.cache hreads hdispose s ⟨rfl, hstart⟩).final
    refine ⟨h.same hopen ?_ ?_, growsBy_fetching_of_while hkept.2⟩
    · intro stream hlive
      have hwhile := hkept.2
      unfold Passthrough.While at hwhile
      rw [show (((ByteStream.perform request :
        StreamM (Logbook ω σ) (Cached (Logged σ)) request.Answer).final s).1.base, _).1.slot = _
        from hlive] at hwhile
      exact hwhile.1
    · rw [hkept.1]
      exact BlockCache.gains_self _

/-- **What one request does to blocks and logbook.** -/
theorem Fetched.step (fetchable : Fetchable content fault stands) (h : Fetched stands seen s)
    (request : Request) :
    Fetched stands (seen ++ (completedLoad request s).toList)
        ((ByteStream.perform request :
          StreamM (Logbook ω σ) (Cached (Logged σ)) request.Answer).final s) ∧
      s.2.GrowsBy (Fetching stands request s)
        ((ByteStream.perform request :
          StreamM (Logbook ω σ) (Cached (Logged σ)) request.Answer).final s).2 := by
  cases hreads : request.reads with
  | true => exact h.step_of_reads fetchable hreads
  | false =>
    have hnone : completedLoad request s = none := if_neg (Bool.eq_false_iff.mp hreads)
    rw [hnone, Option.toList_none, List.append_nil]
    exact h.step_of_not_reads fetchable hreads

theorem Fetched.run (fetchable : Fetchable content fault stands) (requests : List Request)
    (h : Fetched stands seen s) :
    Fetched stands (seen ++ completedLoads requests s) (ByteStream.after requests s) := by
  -- the induction is on the requests
  induction requests generalizing seen s with
  | nil =>
    unfold completedLoads
    rw [List.append_nil]
    exact h
  | cons request requests ih =>
    have hrun := ih (h.step fetchable request).1
    unfold completedLoads
    rw [← List.append_assoc]
    exact hrun

/-- A read of a block that is there asks nothing of the stream below. -/
theorem final_of_loaded (hreads : request.reads = true) {t : Cached σ × ω}
    (hopen : t.1.base.isDisposed = false)
    (hloaded : t.1.cache.isLoaded (.containing t.1.cursor) = true) :
    ∃ cursor, (ByteStream.perform request : StreamM ω (Cached σ) request.Answer).final t =
      ({ t.1 with cursor := cursor }, t.2) := by
  obtain ⟨cursor, hfinal⟩ := final_of_reads hreads t
  obtain ⟨⟨⟨slot, ownership⟩, cache, cursor'⟩, w⟩ := t
  cases slot with
  | disposed => cases hopen
  | live stream =>
    have hload : (loading request.mode : StreamM ω (Cached σ) _).final
        (opened ownership cache cursor' stream, w) = (opened ownership cache cursor' stream, w) :=
      StreamM.final_of_eq_ok (loading_of_loaded hloaded request.mode stream w)
    rw [hfinal]
    unfold opened at hload
    rw [hload]
    exact ⟨cursor, rfl⟩

theorem ends_wrap_fetched (fetchable : Fetchable content fault stands)
    {start : Logged σ × Logbook ω σ} {p : Nat} (h : Logged.At stands start p)
    (ownership : Ownership) :
    (wrap ownership : StreamM (Logbook ω σ) (Logged σ) (Cached (Logged σ))).Ends start
      (fun layer first => Fetched stands [] (layer, first.2)) fun _ _ => True := by
  have hkeeps : StreamM.Keeps (Logged.Tracks stands (fun _ => True) start.2)
      (ByteStream.position : StreamM (Logbook ω σ) (Logged σ) Nat) :=
    fetchable.keeps_tracks (show Request.position.isQuiet = true from rfl) fun _ _ => trivial
  have hposition := hkeeps start ⟨⟨p, h⟩, Logbook.growsBy_self _ _⟩
  refine (StreamM.Ends.mono hposition (fun _ _ h => h) fun _ _ _ => trivial).bind ?_
  intro cursor first hout
  refine StreamM.ends_state_bind (StreamM.ends_pure ⟨?_, fun _ => rfl, fun _ index => ?_, .nil⟩)
  · intro stream hlive
    cases hlive
    exact hout.1
  · unfold BlockCache.isLoaded
    simp

/-- **Each block is fetched at most once.** A cached layer is put over a stream whose reads give a
part of a content, and of which any call may fail. After any run of requests, of which any may have
failed, a read of a block that is there asks nothing of the stream; any other request leads to no
read, but for one whose block is not there, which reads the rest of this block: and this is a block
of which no load was completed before. Until the layer is disposed it has as many blocks as loads
were completed. -/
theorem fetches_once (fetchable : Fetchable content fault stands) {ownership : Ownership}
    {start : Logged σ × Logbook ω σ} {p : Nat} (h : Logged.At stands start p) :
    (wrap ownership : StreamM (Logbook ω σ) (Logged σ) (Cached (Logged σ))).Ends start
      (fun layer first => ∀ (requests : List Request) (request : Request)
          (t t' : Cached (Logged σ) × Logbook ω σ),
        t = ByteStream.after requests (layer, first.2) →
        t' = (ByteStream.perform request :
          StreamM (Logbook ω σ) (Cached (Logged σ)) request.Answer).final t →
        (completedLoads requests (layer, first.2)).Nodup ∧
        (t.1.base.isDisposed = false →
          t.1.cachedBlockCount = (completedLoads requests (layer, first.2)).length) ∧
        (request.reads = true → t.1.base.isDisposed = false →
          t.1.cache.isLoaded (.containing t.1.cursor) = true →
          t'.1.base = t.1.base ∧ t'.2 = t.2) ∧
        t.2.GrowsBy (fun visit => visit.request.reads = true →
          request.reads = true ∧ t.1.cache.isLoaded (.containing t.1.cursor) = false ∧
          visit.Fetches stands (.containing t.1.cursor) ∧
          BlockIndex.containing t.1.cursor ∉ completedLoads requests (layer, first.2)) t'.2)
      fun _ _ => True := by
  refine (ends_wrap_fetched fetchable h ownership).mono ?_ fun _ _ h => h
  intro layer first hfetched requests request t t' ht ht'
  have hrun := hfetched.run fetchable requests
  rw [← ht, List.nil_append] at hrun
  have hstep := (hrun.step fetchable request).2
  rw [← ht'] at hstep
  refine ⟨hrun.nodup, hrun.count, fun hreads hopen hloaded => ?_, hstep.mono ?_⟩
  · obtain ⟨cursor, hfinal⟩ := final_of_loaded hreads hopen hloaded
    rw [ht', hfinal]
    exact ⟨rfl, rfl⟩
  · intro visit hvisit hread
    obtain ⟨hreads, hopen, hnot, hfetches⟩ := hvisit hread
    refine ⟨hreads, hnot, hfetches, fun hmem => ?_⟩
    rw [(hrun.isLoaded hopen _).mpr hmem] at hnot
    cases hnot

end Fetching

/-- Of the reads of a probe, of which the first fails and the second is cancelled, those that
complete a load are as many as the blocks that are there, and what the next one reads is of another
block. -/
theorem fetches_once_troubled :
    (wrap .owns : StreamM (Logbook Surroundings Probe) (Logged Probe) (Cached (Logged Probe))).Ends
      (⟨troubledProbe⟩, ⟨[], .initial⟩)
      (fun layer first => ∀ t : Cached (Logged Probe) × Logbook Surroundings Probe,
        t = ByteStream.after troubledRequests (layer, first.2) →
        (t.1.base.isDisposed = false →
          t.1.cachedBlockCount = (completedLoads troubledRequests (layer, first.2)).length) ∧
        t.2.GrowsBy (fun visit => visit.request.reads = true →
            visit.Fetches (Probe.Stands [1, 2, 3, 4, 5]) (.containing t.1.cursor) ∧
            BlockIndex.containing t.1.cursor ∉ completedLoads troubledRequests (layer, first.2))
          ((ByteStream.perform (.read .blocking 9) : StreamM (Logbook Surroundings Probe)
            (Cached (Logged Probe)) Bytes).final t).2)
      fun _ _ => True := by
  have hstart : Logged.At (Probe.Stands [1, 2, 3, 4, 5])
      ((⟨troubledProbe⟩, ⟨[], .initial⟩) : Logged Probe × Logbook Surroundings Probe) 1 :=
    stands_troubledProbe
  refine (fetches_once (Probe.fetchable [1, 2, 3, 4, 5]) hstart).mono ?_ fun _ _ h => h
  intro layer first hout t ht
  obtain ⟨-, hcount, -, hgrows⟩ := hout troubledRequests (.read .blocking 9) t _ ht rfl
  refine ⟨hcount, hgrows.mono fun visit hvisit hread => ?_⟩
  obtain ⟨-, -, hfetches, hnew⟩ := hvisit hread
  exact ⟨hfetches, hnew⟩

end Cached

end LayeredStreams
