import LayeredStreams.Proofs.CachedLoading
import LayeredStreams.Proofs.Cascade
import LayeredStreams.Proofs.WaitingBases

/-!
# Reads under a cancelled token

A read whose token was cancelled is refused by the base before anything happens, if it gets there.
Every layer but a cached one sends it straight down. A cached layer looks at its blocks first: it
serves a block that it has, and takes the stream below to the start of one that it has not.

* `LayerKind.Encloses`, `Stack.Encloses` — open layers, none of them cached, as functions of the
  stream that they are put over, and for how much of a read they ask it.
* `Cached.approach` — the way to a block that is not read: the length, and a seek to its start.

Principal results: `Stack.Encloses.ends_read` (a read through such layers is one of the stream below
them), `Cached.ends_read_of_cancelled` (what a cached layer does under a cancelled token) and
`Stack.read_of_cancelled` (what every stack does).
-/

set_option autoImplicit false

namespace LayeredStreams

/-! ## Layers that a read passes -/

/-- `f` puts an open layer of a kind over a stream, which it asks for `ask room` bytes of a read of
`room`. None of these layers keeps blocks. -/
inductive LayerKind.Encloses {σ : Type} :
    (kind : LayerKind) → (σ → kind.Over σ) → (Nat → Nat) → Prop
  | passthrough (ownership : Ownership) :
      Encloses .passthrough (fun stream => (⟨.live stream, ownership⟩ : Passthrough σ)) id
  | rebased (ownership : Ownership) (origin : Nat) :
      Encloses .rebased (fun stream => (⟨⟨.live stream, ownership⟩, origin⟩ : Rebased σ)) id
  | truncated (ownership : Ownership) (origin maxLength cursor : Nat) :
      Encloses .truncated
        (fun stream => (⟨⟨.live stream, ownership⟩, origin, maxLength, cursor⟩ : Truncated σ))
        fun room => min room (saturatingAdd origin maxLength - cursor)
  | readOnly (ownership : Ownership) :
      Encloses .readOnly (fun stream => (⟨⟨.live stream, ownership⟩⟩ : ReadOnly σ)) id
  /-- A window that is the stream itself. -/
  | unwrapped : Encloses .window Window.unwrapped id
  | rebasedWindow (ownership : Ownership) (origin : Nat) :
      Encloses .window (fun stream => Window.rebased ⟨⟨.live stream, ownership⟩, origin⟩) id
  | truncatedWindow (ownership : Ownership) (origin maxLength cursor : Nat) :
      Encloses .window
        (fun stream => Window.truncated ⟨⟨.live stream, ownership⟩, origin, maxLength, cursor⟩)
        fun room => min room (saturatingAdd origin maxLength - cursor)
  | window (outer inner : Ownership) (offset origin maxLength cursor : Nat) :
      Encloses .window
        (fun stream => Window.rebasedTruncated
          ⟨⟨.live ⟨⟨.live stream, inner⟩, offset⟩, outer⟩, origin, maxLength, cursor⟩)
        fun room => min room (saturatingAdd origin maxLength - cursor)

/-- `f` puts open layers, none of which keeps blocks, over a stream, which they ask for `ask room`
bytes of a read of `room`. -/
inductive Stack.Encloses {β : Type} :
    (kinds : List LayerKind) → (β → Stack kinds β) → (Nat → Nat) → Prop
  | nil : Encloses [] id id
  | cons {kind : LayerKind} {kinds : List LayerKind} {f : Stack kinds β → kind.Over (Stack kinds β)}
      {g : β → Stack kinds β} {ask ask' : Nat → Nat} (hlayer : kind.Encloses f ask)
      (hbelow : Encloses kinds g ask') :
      Encloses (kind :: kinds) (fun base => f (g base)) fun room => ask' (ask room)

section Layers

variable {ω σ : Type} [ByteStream ω σ] {mode : Mode} {room : Nat} {below : σ} {w : ω}
  {good : Bytes → σ × ω → Prop} {bad : StreamError → σ × ω → Prop}

theorem Passthrough.carries_read (mode : Mode) (room : Nat) (ownership : Ownership) :
    StreamM.Carries (fun stream : σ => (⟨.live stream, ownership⟩ : Passthrough σ))
      (ByteStream.read mode room : StreamM ω σ Bytes) (ByteStream.read mode room) :=
  Passthrough.conducts ownership (.read mode room) rfl

theorem Rebased.carries_read (mode : Mode) (room : Nat) (ownership : Ownership) (origin : Nat) :
    StreamM.Carries (fun stream : σ => (⟨⟨.live stream, ownership⟩, origin⟩ : Rebased σ))
      (ByteStream.read mode room : StreamM ω σ Bytes) (ByteStream.read mode room) := by
  have hlayer : StreamM.Carries (fun base : Passthrough σ => (⟨base, origin⟩ : Rebased σ))
      (ByteStream.read mode room : StreamM ω (Passthrough σ) Bytes) (ByteStream.read mode room) :=
    fun _ _ => rfl
  exact (Passthrough.carries_read mode room ownership).trans hlayer

theorem ReadOnly.carries_read (mode : Mode) (room : Nat) (ownership : Ownership) :
    StreamM.Carries (fun stream : σ => (⟨⟨.live stream, ownership⟩⟩ : ReadOnly σ))
      (ByteStream.read mode room : StreamM ω σ Bytes) (ByteStream.read mode room) := by
  have hlayer : StreamM.Carries (fun base : Passthrough σ => (⟨base⟩ : ReadOnly σ))
      (ByteStream.read mode room : StreamM ω (Passthrough σ) Bytes) (ByteStream.read mode room) :=
    fun _ _ => rfl
  exact (Passthrough.carries_read mode room ownership).trans hlayer

theorem Truncated.ends_read_below {ownership : Ownership} {origin maxLength cursor : Nat}
    (hread : (ByteStream.read mode (min room (saturatingAdd origin maxLength - cursor)) :
      StreamM ω σ Bytes).Ends (below, w) good bad) :
    (ByteStream.read mode room : StreamM ω (Truncated σ) Bytes).Ends
      (⟨⟨.live below, ownership⟩, origin, maxLength, cursor⟩, w)
      (fun bytes s' => ∃ cursor' below',
        s'.1 = ⟨⟨.live below', ownership⟩, origin, maxLength, cursor'⟩ ∧ good bytes (below', s'.2))
      (fun e s' => ∃ below',
        s'.1 = ⟨⟨.live below', ownership⟩, origin, maxLength, cursor⟩ ∧ bad e (below', s'.2)) := by
  have hlayer : StreamM.Carries
      (fun base : Passthrough σ => (⟨base, origin, maxLength, cursor⟩ : Truncated σ))
      (ByteStream.read mode (min room (saturatingAdd origin maxLength - cursor)) :
        StreamM ω (Passthrough σ) Bytes) (onBase (ByteStream.read mode _)) := fun _ _ => rfl
  have hcarries := (Passthrough.carries_read mode _ ownership).trans hlayer
  show (Truncated.read mode room).Ends _ _ _
  unfold Truncated.read
  refine StreamM.ends_state_bind (((hcarries.ends_of hread).mono (fun _ _ h => h) ?_).bind ?_)
  · intro e s' hout
    exact hout
  · intro bytes s' hout
    obtain ⟨below', heq, hgood⟩ := hout
    refine StreamM.ends_update_bind (StreamM.ends_pure ?_)
    exact ⟨cursor + bytes.length, below', by rw [heq], hgood⟩

/-- What a layer makes of the outcome of a read of the stream below: bytes are handed on, and an
error leaves the layer as it was. -/
def LayerKind.HandsOn {kind : LayerKind} (f : σ → kind.Over σ) (good : Bytes → σ × ω → Prop)
    (bad : StreamError → σ × ω → Prop) [Cancellation ω] (mode : Mode) (room : Nat) (below : σ)
    (w : ω) : Prop :=
  (ByteStream.read mode room : StreamM ω (kind.Over σ) Bytes).Ends (f below, w)
    (fun bytes s' => ∃ f' ask, kind.Encloses f' ask ∧ StreamM.Held f' (good bytes) s')
    fun e => StreamM.Held f (bad e)

namespace LayerKind.Encloses

variable [Cancellation ω] {kind : LayerKind} {f : σ → kind.Over σ} {ask : Nat → Nat}

theorem handsOn_of_carries (h : kind.Encloses f ask)
    (hcarries : StreamM.Carries f (ByteStream.read mode (ask room) : StreamM ω σ Bytes)
      (ByteStream.read mode room))
    (hread : (ByteStream.read mode (ask room) : StreamM ω σ Bytes).Ends (below, w) good bad) :
    kind.HandsOn f good bad mode room below w :=
  (hcarries.ends_of hread).mono (fun _ _ hheld => ⟨f, ask, h, hheld⟩) fun _ _ hheld => hheld

/-- **A read through an open layer without blocks is one of the stream below.** -/
theorem handsOn (h : kind.Encloses f ask)
    (hread : (ByteStream.read mode (ask room) : StreamM ω σ Bytes).Ends (below, w) good bad) :
    kind.HandsOn f good bad mode room below w := by
  cases h with
  | passthrough ownership =>
    exact handsOn_of_carries (.passthrough ownership)
      (Passthrough.carries_read mode room ownership) hread
  | rebased ownership origin =>
    exact handsOn_of_carries (.rebased ownership origin)
      (Rebased.carries_read mode room ownership origin) hread
  | readOnly ownership =>
    exact handsOn_of_carries (.readOnly ownership) (ReadOnly.carries_read mode room ownership) hread
  | unwrapped => exact handsOn_of_carries .unwrapped (fun _ _ => rfl) hread
  | rebasedWindow ownership origin =>
    have hwindow : StreamM.Carries (Window.rebased : Rebased σ → Window σ)
        (ByteStream.read mode room : StreamM ω (Rebased σ) Bytes) (ByteStream.read mode room) :=
      fun _ _ => rfl
    exact handsOn_of_carries (.rebasedWindow ownership origin)
      ((Rebased.carries_read mode room ownership origin).trans hwindow) hread
  | truncated ownership origin maxLength cursor =>
    refine (Truncated.ends_read_below hread).mono ?_ fun _ _ hheld => hheld
    intro bytes s' hout
    obtain ⟨cursor', hheld⟩ := hout
    exact ⟨_, _, .truncated ownership origin maxLength cursor', hheld⟩
  | truncatedWindow ownership origin maxLength cursor =>
    have hwindow : StreamM.Carries (Window.truncated : Truncated σ → Window σ)
        (ByteStream.read mode room : StreamM ω (Truncated σ) Bytes) (ByteStream.read mode room) :=
      fun _ _ => rfl
    refine (hwindow.ends_of (Truncated.ends_read_below hread)).mono ?_ ?_
    · intro bytes s' hout
      obtain ⟨layer, heq, cursor', below', hlayer, hgood⟩ := hout
      refine ⟨_, _, .truncatedWindow ownership origin maxLength cursor', below', ?_, hgood⟩
      rw [heq]
      exact congrArg Window.truncated hlayer
    · intro e s' hout
      obtain ⟨layer, heq, below', hlayer, hbad⟩ := hout
      refine ⟨below', ?_, hbad⟩
      rw [heq]
      exact congrArg Window.truncated hlayer
  | window outer inner offset origin maxLength cursor =>
    have hwindow : StreamM.Carries (Window.rebasedTruncated : Truncated (Rebased σ) → Window σ)
        (ByteStream.read mode room : StreamM ω (Truncated (Rebased σ)) Bytes)
        (ByteStream.read mode room) := fun _ _ => rfl
    have hinner := (Rebased.carries_read mode _ inner offset).ends_of hread
    refine (hwindow.ends_of (Truncated.ends_read_below hinner)).mono ?_ ?_
    · intro bytes s' hout
      obtain ⟨layer, heq, cursor', rebased, hlayer, below', hrebased, hgood⟩ := hout
      refine ⟨_, _, .window outer inner offset origin maxLength cursor', below', ?_, hgood⟩
      rw [heq]
      refine congrArg Window.rebasedTruncated (hlayer.trans ?_)
      rw [show rebased = _ from hrebased]
    · intro e s' hout
      obtain ⟨layer, heq, rebased, hlayer, below', hrebased, hbad⟩ := hout
      refine ⟨below', ?_, hbad⟩
      rw [heq]
      refine congrArg Window.rebasedTruncated (hlayer.trans ?_)
      rw [show rebased = _ from hrebased]

end LayerKind.Encloses

/-- **A read through open layers without blocks is one of the stream below them.** The induction is
on the layers. -/
theorem Stack.Encloses.ends_read [Cancellation ω] {kinds : List LayerKind} {f : σ → Stack kinds σ}
    {ask : Nat → Nat} (h : Stack.Encloses kinds f ask)
    (hread : (ByteStream.read mode (ask room) : StreamM ω σ Bytes).Ends (below, w) good bad) :
    (ByteStream.read mode room : StreamM ω (Stack kinds σ) Bytes).Ends (f below, w)
      (fun bytes s' => ∃ f' ask', Stack.Encloses kinds f' ask' ∧ StreamM.Held f' (good bytes) s')
      fun e => StreamM.Held f (bad e) := by
  induction h generalizing room with
  | nil => exact hread.mono (fun _ s' hs' => ⟨id, id, .nil, s'.1, rfl, hs'⟩) fun _ s' hs' =>
      ⟨s'.1, rfl, hs'⟩
  | cons hlayer _ ih =>
    refine (hlayer.handsOn (ih hread)).mono ?_ ?_
    · intro bytes s' hout
      obtain ⟨f', ask', hlayer', stack, heq, g', ask'', hbelow', part, hpart, hgood⟩ := hout
      refine ⟨_, _, .cons hlayer' hbelow', part, ?_, hgood⟩
      rw [heq, show stack = g' part from hpart]
    · intro e s' hout
      obtain ⟨stack, heq, part, hpart, hbad⟩ := hout
      refine ⟨part, ?_, hbad⟩
      rw [heq, show stack = _ from hpart]

/-! ## What a cached layer does -/

section Cancelled

variable [Cancellation ω]

/-- A fill under a cancelled token ends before its first read. -/
theorem fillWithin_of_cancelled {s : σ × ω} (hcancelled : mode.isCancelled s.2 = true)
    (reads : Nat) (hroom : room ≠ 0) :
    (fillWithin mode (reads + 1) room : StreamM ω σ Filled) s =
      .ok (.failed (.refusal .cancelled)) s := by
  have hread : StreamM.attempt (readAdmitted mode room : StreamM ω σ Bytes) s =
      .ok (.error (.refusal .cancelled)) s := by
    unfold StreamM.attempt readAdmitted
    rw [StreamM.bind_apply, Mode.checkToken_apply, if_pos hcancelled]
  unfold fillWithin
  rw [if_neg hroom, StreamM.bind_apply, hread]
  rfl

namespace Cached

/-- The way to a block that is not read: the stream is asked for its length, and taken to the start
of a block before the end. -/
def approach (index : BlockIndex) : StreamM ω σ Unit := do
  let size ← ByteStream.length
  if size ≤ index.start then return ()
  else do
    let _ ← ByteStream.seek (.fromStart index.start)
    StreamM.refuse .cancelled

omit [Cancellation ω] in
theorem keeps_approach {keeps : σ × ω → Prop}
    (h : ByteStream.PreservesOn ω (fun request => request.isMove = true) keeps)
    (index : BlockIndex) : StreamM.Keeps keeps (approach index : StreamM ω σ Unit) := by
  refine (h .length rfl).bind fun size => ?_
  split
  · exact StreamM.keeps_pure _
  · exact (h (.seek (.fromStart index.start)) rfl).bind fun _ => StreamM.keeps_refuse _

variable {ownership : Ownership} {cache : BlockCache} {cursor : Nat}

theorem read_of_loaded (hloaded : cache.isLoaded (.containing cursor) = true) (mode : Mode)
    (room : Nat) (below : σ) (w : ω) :
    (ByteStream.read mode room : StreamM ω (Cached σ) Bytes)
        (opened ownership cache cursor below, w) =
      .ok (cache.copyOut cursor room)
        (opened ownership cache (cursor + (cache.copyOut cursor room).length) below, w) := by
  show (load mode >>= fun _ => serve room) _ = _
  rw [StreamM.bind_apply, load_of_loaded hloaded]
  rfl

section Staying

variable {kept : ω → Prop} (hstays : ByteStream.PreservesOn ω (fun request => request.isMove = true)
  (Amid (fun _ : σ => True) kept)) (hcancels : ∀ w, kept w → mode.isCancelled w = true)
include hstays hcancels

theorem bring_of_cancelled {index : BlockIndex} (hword : index.value < maxWord) {s : σ × ω}
    (hs : kept s.2) :
    (bring mode index : StreamM ω σ (Option Bytes)) s =
      (approach index >>= fun _ => pure none : StreamM ω σ (Option Bytes)) s := by
  have hlength := hstays .length rfl s ⟨trivial, hs⟩
  unfold bring approach
  rw [bind_assoc, StreamM.bind_apply, StreamM.bind_apply]
  unfold StreamM.Ends at hlength
  cases heq : (ByteStream.length : StreamM ω σ Nat) s with
  | error e s' => rfl
  | ok size s' =>
    rw [show (ByteStream.perform .length : StreamM ω σ Nat) s = _ from heq] at hlength
    dsimp only at hlength ⊢
    by_cases hend : size ≤ index.start
    · rw [if_pos hend, if_pos hend]
      rfl
    rw [if_neg hend, if_neg hend, bind_assoc, show BlockCache.placeOf index = some index.value from
      BlockCache.placeOf_of_lt hword]
    have hseek := hstays (.seek (.fromStart index.start)) rfl s' hlength
    unfold StreamM.Ends at hseek
    unfold fetchBelow
    dsimp only
    rw [bind_assoc, StreamM.bind_apply, StreamM.bind_apply]
    cases hsought : (ByteStream.seek (.fromStart index.start) : StreamM ω σ Nat) s' with
    | error e s'' => rfl
    | ok place s'' =>
      rw [show (ByteStream.perform (.seek (.fromStart index.start)) : StreamM ω σ Nat) s' = _ from
        hsought] at hseek
      have hcancelled := hcancels _ hseek.2
      have hfill := fillWithin_of_cancelled hcancelled 4095 (show blockSize ≠ 0 by decide)
      dsimp only
      rw [bind_assoc, StreamM.bind_apply, show (fill mode blockSize : StreamM ω σ Filled) s'' = _
        from hfill]
      rfl

theorem ends_bring_of_cancelled {index : BlockIndex} (hplace : index.value < maxWord)
    (hw : kept w) (below : σ) :
    (bring mode index : StreamM ω σ (Option Bytes)).Ends (below, w)
      (fun brought t => brought = none ∧ approach index (below, w) = .ok () t ∧ kept t.2)
      fun e t => approach index (below, w) = .error e t ∧ kept t.2 := by
  have hkeeps := (keeps_approach hstays index (below, w) ⟨trivial, hw⟩).final
  unfold StreamM.Ends
  rw [bring_of_cancelled hstays hcancels hplace hw, StreamM.bind_apply]
  cases heq : (approach index : StreamM ω σ Unit) (below, w) with
  | ok value t =>
    rw [StreamM.final_of_eq_ok heq] at hkeeps
    exact ⟨rfl, rfl, hkeeps.2⟩
  | error e t =>
    rw [StreamM.final_of_eq_error heq] at hkeeps
    exact ⟨rfl, hkeeps.2⟩

/-- **Under a cancelled token a block that is not there is approached and not read.** Nothing is
served, and the blocks and the cursor stay as they are. -/
theorem ends_read_of_cancelled (hw : kept w) (hword : cursor ≤ maxWord)
    (hnot : cache.isLoaded (.containing cursor) = false) (room : Nat) :
    (ByteStream.read mode room : StreamM ω (Cached σ) Bytes).Ends
      (opened ownership cache cursor below, w)
      (fun bytes s' => bytes = [] ∧ StreamM.Held (opened ownership cache cursor)
        (fun t => approach (.containing cursor) (below, w) = .ok () t ∧ kept t.2) s')
      (fun e s' => ∃ cache', (∀ index, cache'.block? index = cache.block? index) ∧
        StreamM.Held (opened ownership cache' cursor)
          (fun t => approach (.containing cursor) (below, w) = .error e t ∧ kept t.2) s') := by
  have hplace : (BlockIndex.containing cursor).value < maxWord := by
    show cursor / blockSize < maxWord
    unfold blockSize maxWord at *
    omega
  have hblock : cache.copyOut cursor room = [] := by
    have hnone : cache.block? (.containing cursor) = none := by
      simpa [BlockCache.isLoaded] using hnot
    unfold BlockCache.copyOut BlockCache.blockAt
    rw [hnone]
  have hbring := ends_bring_of_cancelled hstays hcancels hplace hw below
  refine ((ends_load_of_not_loaded hnot hbring).mono (fun _ _ h => h) ?_).bind ?_
  · intro e s' hout
    obtain ⟨cache', below', heq, hcache, happroach⟩ := hout
    refine ⟨cache', fun index => ?_, below', heq, happroach⟩
    rcases hcache with rfl | rfl
    · rfl
    · exact BlockCache.block?_missingBlock _ _ _
  · intro _ s' hout
    obtain ⟨brought, below', heq, rfl, happroach⟩ := hout
    obtain ⟨layer, w'⟩ := s'
    rw [show layer = opened ownership cache cursor below' from heq]
    refine StreamM.ends_state_bind (StreamM.ends_update_bind (StreamM.ends_pure ?_))
    refine ⟨hblock, below', ?_, happroach⟩
    show opened ownership cache (cursor + (cache.copyOut cursor room).length) below' = _
    rw [hblock]
    rfl

end Staying

end Cached

end Cancelled

end Layers

/-! ## Every stack -/

/-- Since `start` a stream was only asked where it stands and how long it is, or moved. -/
def Journal.MovedSince {ω : Type} (start journal : Journal ω) : Prop :=
  ∃ calls, journal.calls = calls ++ start.calls ∧ ∀ call ∈ calls, call.isMove = true

theorem Mode.isCancelled_journal {ω : Type} [Cancellation ω] (mode : Mode) (journal : Journal ω) :
    mode.isCancelled journal = mode.isCancelled journal.surroundings := by
  cases mode with
  | blocking => rfl
  | suspending token => cases token <;> rfl

theorem Watched.preservesOn_movedSince {ω β : Type} [ByteStream ω β] {kept : ω → Prop}
    (h : ByteStream.PreservesOn ω (fun request => request.isMove = true)
      (Amid (fun _ : β => True) kept)) (start : Journal ω) :
    ByteStream.PreservesOn (Journal ω) (fun request => request.isMove = true)
      (Amid (fun _ : Watched β => True) fun journal =>
        kept journal.surroundings ∧ start.MovedSince journal) := by
  intro request hmove s hs
  obtain ⟨-, hkept, calls, hcalls, hmoves⟩ := hs
  have hfinal := (h request hmove (s.1.stream, s.2.surroundings) ⟨trivial, hkept⟩).final
  refine StreamM.ends_of_final ⟨trivial, ?_, request :: calls, ?_, ?_⟩
  · rw [final_surroundings]
    exact hfinal.2
  · rw [calls_final, hcalls, List.cons_append]
  · intro call hmem
    rcases List.mem_cons.mp hmem with rfl | hmem
    · exact hmove
    · exact hmoves call hmem

theorem MemoryDevice.leaves {ω : Type} (kept : ω → Prop) :
    Device.Leaves ω (fun _ : MemoryDevice => True) kept where
  operate call := by
    intro s hs
    cases call with
    | seek target =>
      obtain ⟨device, w⟩ := s
      dsimp only [Device.operate, MemoryDevice.operate]
      by_cases hplace : 0 ≤ target.destination device.cursor device.content.length ∧
          target.destination device.cursor device.content.length ≤ maxWord
      · rw [if_pos hplace]
        exact hs
      · rw [if_neg hplace]
        exact hs
    | _ => exact hs
  writeNothing := fun _ hs => hs

namespace BaseKind

variable {ω δ : Type} [Cancellation ω] [Device ω δ] {kept : ω → Prop}

theorem admitsAndBlocks (base : BaseKind) : AdmitsAndBlocks ω (base.Over δ) := by
  cases base with
  | zeros => exact Zeros.admitsAndBlocks
  | device => exact DeviceStream.admitsAndBlocks

theorem read_eq_cancelled (base : BaseKind) {mode : Mode} {w : ω}
    (hcancelled : mode.isCancelled w = true) (room : Nat) (stream : base.Over δ) :
    (ByteStream.read mode room : StreamM ω (base.Over δ) Bytes) (stream, w) =
      .error (.refusal .cancelled) (stream, w) := by
  rw [base.admitsAndBlocks.read, StreamM.bind_apply, Mode.checkToken_apply, if_pos hcancelled]

theorem preservesOn (base : BaseKind) {allowed : Request → Prop}
    (h : Device.Leaves ω (fun _ : δ => True) kept) :
    ByteStream.PreservesOn ω allowed (Amid (fun _ : base.Over δ => True) kept) := by
  intro request _ s hs
  cases base with
  | zeros => exact Zeros.keeps_perform kept request s hs
  | device =>
    have hsound : DeviceStream.Sound (fun _ : δ => True) s.1 := fun _ _ => trivial
    refine (DeviceStream.keeps_perform h request s ⟨hsound, hs.2⟩).mono ?_ ?_
    · exact fun _ _ hs' => ⟨trivial, hs'.2⟩
    · exact fun _ _ hs' => ⟨trivial, hs'.2⟩

end BaseKind

namespace Stack

section Encloses

variable {ω σ : Type} [Cancellation ω] [ByteStream ω σ] {mode : Mode} {w : ω}
  {kinds : List LayerKind} {ask : Nat → Nat} {room : Nat}

theorem Encloses.read_eq_cancelled {f : σ → Stack kinds σ} (h : Encloses kinds f ask) {stream : σ}
    (hread : (ByteStream.read mode (ask room) : StreamM ω σ Bytes) (stream, w) =
      .error (.refusal .cancelled) (stream, w)) :
    (ByteStream.read mode room : StreamM ω (Stack kinds σ) Bytes) (f stream, w) =
      .error (.refusal .cancelled) (f stream, w) := by
  have hends : (ByteStream.read mode (ask room) : StreamM ω σ Bytes).Ends (stream, w)
      (fun _ _ => False) fun e s' => e = .refusal .cancelled ∧ s' = (stream, w) :=
    StreamM.ends_of_eq_error hread ⟨rfl, rfl⟩
  refine ((h.ends_read hends).mono ?_ ?_).eq_error
  · intro _ _ hout
    obtain ⟨_, _, _, _, _, hfalse⟩ := hout
    exact hfalse
  · intro e s' hout
    obtain ⟨part, heq, he, hs'⟩ := hout
    cases hs'
    exact ⟨he, Prod.ext heq rfl⟩

variable {ownership : Ownership} {cache : BlockCache} {cursor : Nat}
  {f : Cached σ → Stack kinds (Cached σ)}

theorem Encloses.ends_read_of_loaded (h : Encloses kinds f ask)
    (hloaded : cache.isLoaded (.containing cursor) = true) (mode : Mode) (room : Nat) (stream : σ)
    (w : ω) :
    (ByteStream.read mode room : StreamM ω (Stack kinds (Cached σ)) Bytes).Ends
      (f (.opened ownership cache cursor stream), w)
      (fun bytes s' => bytes = cache.copyOut cursor (ask room) ∧ ∃ f' ask', Encloses kinds f' ask' ∧
        s' = (f' (.opened ownership cache (cursor + bytes.length) stream), w))
      fun _ _ => False := by
  have hserve : (ByteStream.read mode (ask room) : StreamM ω (Cached σ) Bytes).Ends
      (.opened ownership cache cursor stream, w)
      (fun bytes s' => bytes = cache.copyOut cursor (ask room) ∧
        s' = (.opened ownership cache (cursor + bytes.length) stream, w)) fun _ _ => False :=
    StreamM.ends_of_eq_ok (Cached.read_of_loaded hloaded mode (ask room) stream w) ⟨rfl, rfl⟩
  refine (h.ends_read hserve).mono ?_ ?_
  · intro bytes s' hout
    obtain ⟨f', ask', hencloses, layer, heq, hbytes, hlayer⟩ := hout
    cases hlayer
    exact ⟨hbytes, f', ask', hencloses, Prod.ext heq rfl⟩
  · intro _ _ hout
    obtain ⟨_, _, hfalse⟩ := hout
    exact hfalse

theorem Encloses.ends_read_of_not_loaded (h : Encloses kinds f ask) {stream : σ} {kept : ω → Prop}
    (hstays : ByteStream.PreservesOn ω (fun request => request.isMove = true)
      (Amid (fun _ : σ => True) kept))
    (hcancels : ∀ w, kept w → mode.isCancelled w = true) (hw : kept w) (hword : cursor ≤ maxWord)
    (hnot : cache.isLoaded (.containing cursor) = false) (room : Nat) :
    (ByteStream.read mode room : StreamM ω (Stack kinds (Cached σ)) Bytes).Ends
      (f (.opened ownership cache cursor stream), w)
      (fun bytes s' => bytes = [] ∧ ∃ f' ask' stream', Encloses kinds f' ask' ∧
        s'.1 = f' (.opened ownership cache cursor stream') ∧
        Cached.approach (.containing cursor) (stream, w) = .ok () (stream', s'.2) ∧ kept s'.2)
      fun e s' => ∃ cache' stream', (∀ index, cache'.block? index = cache.block? index) ∧
        s'.1 = f (.opened ownership cache' cursor stream') ∧
        Cached.approach (.containing cursor) (stream, w) = .error e (stream', s'.2) ∧
        kept s'.2 := by
  refine (h.ends_read
    (Cached.ends_read_of_cancelled hstays hcancels hw hword hnot (ask room))).mono ?_ ?_
  · intro bytes s' hout
    obtain ⟨f', ask', hencloses, layer, heq, hempty, stream', hlayer, happroach⟩ := hout
    exact ⟨hempty, f', ask', stream', hencloses, heq.trans (congrArg f' hlayer), happroach⟩
  · intro e s' hout
    obtain ⟨layer, heq, cache', hblocks, stream', hlayer, happroach⟩ := hout
    exact ⟨cache', stream', hblocks, heq.trans (congrArg f hlayer), happroach⟩

end Encloses

/-- **What a read does under a cancelled token.** Open layers without blocks over a base refuse it,
and nothing moves. Over the outermost cached layer it depends on the block at the cursor: a block
that is there is served, and nothing below is asked; one that is not there is approached, which
moves the streams below and reads nothing, and what comes of it is an empty read or the error. -/
theorem read_of_cancelled {ω δ : Type} [Cancellation ω] [Device ω δ] (base : BaseKind) {mode : Mode}
    (hleaves : Device.Leaves ω (fun _ : δ => True) fun w => mode.isCancelled w = true)
    (room : Nat) :
    (∀ (kinds : List LayerKind) (f : base.Over δ → Stack kinds (base.Over δ)) (ask : Nat → Nat)
        (stream : base.Over δ) (w : ω), Encloses kinds f ask → mode.isCancelled w = true →
      (ByteStream.read mode room : StreamM ω (Stack kinds (base.Over δ)) Bytes) (f stream, w) =
        .error (.refusal .cancelled) (f stream, w)) ∧
    ∀ (above below : List LayerKind) (ownership : Ownership) (cache : BlockCache) (cursor : Nat)
      (f : Cached (Stack below (Watched (base.Over δ))) →
        Stack above (Cached (Stack below (Watched (base.Over δ)))))
      (ask : Nat → Nat) (stream : Stack below (Watched (base.Over δ))) (w : Journal ω),
      Encloses above f ask → mode.isCancelled w = true → cursor ≤ maxWord →
      (cache.isLoaded (.containing cursor) = true →
        (ByteStream.read mode room : StreamM (Journal ω) (Stack above (Cached (Stack below
            (Watched (base.Over δ))))) Bytes).Ends (f (.opened ownership cache cursor stream), w)
          (fun bytes s' => bytes = cache.copyOut cursor (ask room) ∧ ∃ f' ask',
            Encloses above f' ask' ∧
              s' = (f' (.opened ownership cache (cursor + bytes.length) stream), w))
          fun _ _ => False) ∧
      (cache.isLoaded (.containing cursor) = false →
        (ByteStream.read mode room : StreamM (Journal ω) (Stack above (Cached (Stack below
            (Watched (base.Over δ))))) Bytes).Ends (f (.opened ownership cache cursor stream), w)
          (fun bytes s' => bytes = [] ∧ ∃ f' ask' stream', Encloses above f' ask' ∧
            s'.1 = f' (.opened ownership cache cursor stream') ∧
            Cached.approach (.containing cursor) (stream, w) = .ok () (stream', s'.2) ∧
            w.MovedSince s'.2)
          fun e s' => ∃ cache' stream', (∀ index, cache'.block? index = cache.block? index) ∧
            s'.1 = f (.opened ownership cache' cursor stream') ∧
            Cached.approach (.containing cursor) (stream, w) = .error e (stream', s'.2) ∧
            w.MovedSince s'.2) := by
  refine ⟨fun kinds f ask stream w hencloses hcancelled => ?_, ?_⟩
  · exact hencloses.read_eq_cancelled (base.read_eq_cancelled hcancelled _ stream)
  intro above below ownership cache cursor f ask stream w hencloses hcancelled hword
  refine ⟨fun hloaded => hencloses.ends_read_of_loaded hloaded mode room stream w, fun hnot => ?_⟩
  have hstays := preservesOn_kept Request.closed_isMove
    (Watched.preservesOn_movedSince (base.preservesOn hleaves) w) below
  have hcancels : ∀ journal : Journal ω, mode.isCancelled journal.surroundings = true ∧
      w.MovedSince journal → mode.isCancelled journal = true := by
    intro journal hkept
    rw [Mode.isCancelled_journal]
    exact hkept.1
  rw [Mode.isCancelled_journal] at hcancelled
  refine (hencloses.ends_read_of_not_loaded hstays hcancels ⟨hcancelled, [], rfl, nofun⟩ hword hnot
    room).mono ?_ ?_
  · intro bytes s' hout
    obtain ⟨hempty, f', ask', stream', hencloses', heq, happroach, hkept⟩ := hout
    exact ⟨hempty, f', ask', stream', hencloses', heq, happroach, hkept.2⟩
  · intro e s' hout
    obtain ⟨cache', stream', hblocks, heq, happroach, hkept⟩ := hout
    exact ⟨cache', stream', hblocks, heq, happroach, hkept.2⟩

/-- A cached layer without blocks over two zeros, both standing at 1. -/
def halfwayZeros : Stack [] (Cached (Stack [] (Watched (BaseKind.zeros.Over MemoryDevice)))) :=
  .opened .borrows .empty 1 (⟨{ Zeros.ofSize 2 with cursor := 1 }⟩ : Watched Zeros)

/-- A read of it under a cancelled token is refused when the zeros were taken back to 0. -/
theorem read_of_cancelled_zeros :
    (ByteStream.read (.suspending (.named "stop")) 1 :
        StreamM (Journal Surroundings) (Stack [] (Cached (Stack [] (Watched
          (BaseKind.zeros.Over MemoryDevice))))) Bytes).Ends
      (halfwayZeros, ⟨[], ⟨["stop"], []⟩⟩) (fun _ _ => False)
      fun e s' => e = .refusal .cancelled ∧ s'.2.calls = [.seek (.fromStart 0), .length] ∧
        ∃ cache, s'.1 = Cached.opened .borrows cache 1 (⟨.ofSize 2⟩ : Watched Zeros) := by
  have hleaves : Device.Leaves Surroundings (fun _ : MemoryDevice => True) fun w =>
      (Mode.suspending (.named "stop")).isCancelled w = true := MemoryDevice.leaves _
  have hread := (read_of_cancelled .zeros hleaves 1).2 [] [] .borrows .empty 1 id id
    (⟨{ Zeros.ofSize 2 with cursor := 1 }⟩ : Watched Zeros) ⟨[], ⟨["stop"], []⟩⟩ .nil rfl
    (by decide)
  have hsought : (Cached.approach (.containing 1) :
      StreamM (Journal Surroundings) (Watched Zeros) Unit)
        (⟨{ Zeros.ofSize 2 with cursor := 1 }⟩, ⟨[], ⟨["stop"], []⟩⟩) =
      .error (.refusal .cancelled)
        (⟨.ofSize 2⟩, ⟨[.seek (.fromStart 0), .length], ⟨["stop"], []⟩⟩) := rfl
  refine (hread.2 rfl).mono ?_ ?_
  · intro bytes s' hout
    obtain ⟨-, _, _, _, _, _, happroach, -⟩ := hout
    have hneither := hsought.symm.trans happroach
    cases hneither
  · intro e s' hout
    obtain ⟨cache, stream, -, heq, happroach, -⟩ := hout
    obtain ⟨he, hs'⟩ := EStateM.Result.error.inj (hsought.symm.trans happroach)
    obtain ⟨hstream, hw⟩ := Prod.mk.inj hs'
    rw [← hw, heq, ← hstream]
    exact ⟨he.symm, rfl, cache, rfl⟩

end Stack

end LayeredStreams
