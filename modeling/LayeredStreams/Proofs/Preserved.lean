import LayeredStreams.Layer.Cached
import LayeredStreams.Proofs.Stack

/-!
# What layers preserve

Whatever is asked of an open layer, short of disposing it, it goes on holding the stream below,
which is not disposed either. What requests of the stream below keep of the surroundings, a layer
keeps, open or not.

* `StreamM.Keeps keeps act` — `keeps` holds after `act`, whatever comes of it, if it held before.
* `ByteStream.PreservesOn ω allowed keeps`, `ByteStream.Preserves ω keeps` — every allowed request,
  and every request but a dispose, keeps `keeps`.
* `Request.Closed` — the sets of requests that a layer answers by requests of the set.
* `Passthrough.Holds`, `Passthrough.HoldsAt`, `LayerKind.Holds` — an open layer of an ownership over
  a stream of which something holds.
* `Passthrough.At` — a layer over a part of which something holds, be the part open or not.
* `Amid sound kept` — a sound stream in surroundings of which `kept` holds; `LayerKind.Sound`,
  `Stack.Sound` — the layers and stacks over a sound stream, disposed ones too.

Principal results: `LayerKind.preserves` (what the stream below preserves, a layer over it preserves
of the stream it holds), `Wrapping.ends_wrap_holds` (a layer is open when it is made) and
`Stack.preservesOn_sound` (what a base preserves of the surroundings, a stack preserves, whatever
was disposed).
-/

set_option autoImplicit false

namespace LayeredStreams

namespace StreamM

variable {ω σ τ α β : Type}

/-- Whatever comes of a computation, what held before holds after it. -/
def Keeps (keeps : σ × ω → Prop) (act : StreamM ω σ α) : Prop :=
  ∀ s, keeps s → act.Ends s (fun _ => keeps) fun _ => keeps

variable {keeps : σ × ω → Prop} {act : StreamM ω σ α}

theorem keeps_pure (value : α) : Keeps keeps (pure value : StreamM ω σ α) := fun _ h => h

theorem keeps_refuse (cause : Refusal) : Keeps keeps (refuse cause : StreamM ω σ α) :=
  fun _ h => h

theorem keeps_ofExcept (outcome : Except Refusal α) :
    Keeps keeps (ofExcept outcome : StreamM ω σ α) := by
  cases outcome with
  | ok value => exact keeps_pure value
  | error cause => exact keeps_refuse cause

theorem keeps_settle (outcome : Except StreamError α) :
    Keeps keeps (settle outcome : StreamM ω σ α) := by
  cases outcome with
  | ok value => exact fun _ h => h
  | error e => exact fun _ h => h

theorem Keeps.bind {next : α → StreamM ω σ β} (h : Keeps keeps act)
    (hnext : ∀ value, Keeps keeps (next value)) : Keeps keeps (act >>= next) :=
  fun s hs => (h s hs).bind fun value s' hs' => hnext value s' hs'

theorem keeps_state_bind {next : σ → StreamM ω σ α} (hnext : ∀ stream, Keeps keeps (next stream)) :
    Keeps keeps (state >>= next) :=
  fun s hs => ends_state_bind (hnext s.1 s hs)

theorem keeps_update {f : σ → σ} (hf : ∀ stream w, keeps (stream, w) → keeps (f stream, w)) :
    Keeps keeps (update f) :=
  fun s hs => hf s.1 s.2 hs

theorem Keeps.attempt (h : Keeps keeps act) : Keeps keeps act.attempt := by
  intro s hs
  refine (Ends.attempt (h s hs)).mono ?_ fun _ _ h => h.elim
  rintro (e | value) s' hs'
  · exact hs'
  · exact hs'

/-- What holds of a part of the state is kept as by the part alone, besides what holds of the rest.
-/
theorem Keeps.within_keeping {get : σ → τ} {put : τ → σ → σ} {keeps : τ × ω → Prop}
    {act : StreamM ω τ α} (rest : σ → Prop) (get_put : ∀ part t, get (put part t) = part)
    (rest_put : ∀ part t, rest t → rest (put part t)) (h : Keeps keeps act) :
    Keeps (fun s : σ × ω => rest s.1 ∧ keeps (get s.1, s.2)) (StreamM.within get put act) :=
  fun s hs => Ends.within_keeping rest get_put rest_put hs.1 (h (get s.1, s.2) hs.2)

theorem Keeps.within {get : σ → τ} {put : τ → σ → σ} {keeps : τ × ω → Prop} {act : StreamM ω τ α}
    (get_put : ∀ part t, get (put part t) = part) (h : Keeps keeps act) :
    Keeps (fun s : σ × ω => keeps (get s.1, s.2)) (StreamM.within get put act) :=
  fun s hs => (h (get s.1, s.2) hs).within_part get_put

end StreamM

/-- Every allowed request keeps what holds of a stream. -/
def ByteStream.PreservesOn (ω : Type) {σ : Type} [ByteStream ω σ] (allowed : Request → Prop)
    (keeps : σ × ω → Prop) : Prop :=
  ∀ request : Request, allowed request →
    StreamM.Keeps keeps (ByteStream.perform request : StreamM ω σ request.Answer)

/-- Every request but a dispose keeps what holds of a stream. -/
def ByteStream.Preserves (ω : Type) {σ : Type} [ByteStream ω σ] (keeps : σ × ω → Prop) : Prop :=
  ∀ request : Request, request ≠ .dispose →
    StreamM.Keeps keeps (ByteStream.perform request : StreamM ω σ request.Answer)

namespace Request

/-- Whether a request only asks where the stream stands and how long it is, or moves it. -/
def isMove : Request → Bool
  | position | setPosition _ | length | seek _ => true
  | _ => false

/-- A set of requests that a layer answers by requests of the set: it moves the stream below for
whatever it is asked, reads less or more at a time, reads a block for a byte, and counts a length
from another place. -/
structure Closed (allowed : Request → Prop) : Prop where
  move : ∀ {request : Request}, request.isMove = true → allowed request
  read : ∀ {mode : Mode} {room : Nat}, allowed (.read mode room) →
    ∀ room' : Nat, allowed (.read mode room')
  readByte : allowed .readByte → ∀ room : Nat, allowed (.read .blocking room)
  setLength : ∀ {size : Nat}, allowed (.setLength size) → ∀ size' : Nat, allowed (.setLength size')

theorem closed_all : Closed fun _ => True where
  move _ := trivial
  read _ _ := trivial
  readByte _ _ := trivial
  setLength _ _ := trivial

theorem closed_isMove : Closed fun request => request.isMove = true where
  move hmove := hmove
  read h := by cases h
  readByte h := by cases h
  setLength h := by cases h

theorem closed_not_mutates : Closed fun request => request.mutates = false where
  move {request} hmove := by cases request <;> first | rfl | cases hmove
  read _ _ := rfl
  readByte _ _ := rfl
  setLength h := by cases h

theorem closed_ne_dispose : Closed (· ≠ .dispose) where
  move hmove := by rintro rfl; cases hmove
  read _ _ := nofun
  readByte _ _ := nofun
  setLength _ _ := nofun

end Request

section Transfers

variable {ω σ : Type} [Cancellation ω] {keeps : σ × ω → Prop}

theorem keeps_admission (mode : Mode) : StreamM.Keeps keeps mode.checkToken := by
  intro s hs
  refine (Mode.ends_checkToken mode s).mono ?_ ?_
  · intro _ s' heq
    rw [heq]
    exact hs
  · intro e s' h
    rw [h.1]
    exact hs

/-- The induction is on the reads that are left. -/
theorem keeps_fillWithin [ByteStream ω σ] {mode : Mode}
    (h : ∀ room : Nat, StreamM.Keeps keeps (ByteStream.read mode room : StreamM ω σ Bytes)) :
    ∀ reads room : Nat, StreamM.Keeps keeps (fillWithin mode reads room : StreamM ω σ Filled)
  | 0, _ => StreamM.keeps_pure _
  | reads + 1, room => by
    unfold fillWithin
    split
    · exact StreamM.keeps_pure _
    have hread : StreamM.Keeps keeps (readAdmitted mode room : StreamM ω σ Bytes) :=
      (keeps_admission mode).bind fun _ => h room
    refine hread.attempt.bind fun outcome => ?_
    split
    · exact StreamM.keeps_pure _
    · exact StreamM.keeps_pure _
    · exact (keeps_fillWithin h reads _).bind fun _ => StreamM.keeps_pure _

omit [Cancellation ω] in
/-- The induction is on the reads that are left. -/
theorem keeps_readToEndWithin [ByteStream ω σ]
    (h : StreamM.Keeps keeps (ByteStream.read .blocking chunkSize : StreamM ω σ Bytes)) :
    ∀ reads : Nat, StreamM.Keeps keeps (readToEndWithin reads : StreamM ω σ Bytes)
  | 0 => StreamM.keeps_pure _
  | reads + 1 => by
    unfold readToEndWithin
    refine h.bind fun bytes => ?_
    split
    · exact StreamM.keeps_pure _
    · exact (keeps_readToEndWithin h reads).bind fun _ => StreamM.keeps_pure _

omit [Cancellation ω] in
/-- What the reads from one stream and the writes to the other keep, a copy keeps. The induction is
on the reads that are left. -/
theorem keeps_copyWithin {τ : Type} [ByteStream ω σ] [ByteStream ω τ]
    {keeps : (σ × τ) × ω → Prop} {mode : Mode}
    (hread : StreamM.Keeps keeps
      (onSource (ByteStream.read mode copyBufferSize : StreamM ω σ Bytes)))
    (hwrite : ∀ data : Bytes, StreamM.Keeps keeps
      (onDestination (ByteStream.write mode data : StreamM ω τ Unit))) :
    ∀ reads : Nat, StreamM.Keeps keeps (copyWithin mode reads : StreamM ω (σ × τ) Nat)
  | 0 => StreamM.keeps_pure _
  | reads + 1 => by
    unfold copyWithin
    refine hread.bind fun bytes => ?_
    split
    · exact StreamM.keeps_pure _
    refine (hwrite _).bind fun _ => ?_
    exact (keeps_copyWithin hread hwrite reads).bind fun _ => StreamM.keeps_pure _

end Transfers

/-! ## Layers -/

section Layers

variable {ω σ α : Type} {ownership : Ownership} {keeps : σ × ω → Prop}

namespace Passthrough

/-- An open layer of an ownership over a stream of which `keeps` holds. -/
def Holds (ownership : Ownership) (keeps : σ × ω → Prop) (s : Passthrough σ × ω) : Prop :=
  StreamM.Held (fun stream => ⟨.live stream, ownership⟩) keeps s

/-- A layer that is built over an open layer of an ownership over a stream of which `keeps`
holds. -/
def HoldsAt {τ : Type} (base : τ → Passthrough σ) (ownership : Ownership) (keeps : σ × ω → Prop)
    (s : τ × ω) : Prop :=
  Holds ownership keeps (base s.1, s.2)

/-- What holds of the part of a layer that holds the stream below. -/
def At {τ : Type} (base : τ → Passthrough σ) (keeps : Passthrough σ × ω → Prop)
    (s : τ × ω) : Prop :=
  keeps (base s.1, s.2)

theorem keeps_forward {act : StreamM ω σ α} (h : StreamM.Keeps keeps act) :
    StreamM.Keeps (Holds ownership keeps) (forward act) :=
  fun _ hs => (carries_forward ownership act).ends hs h

/-- To look whether a layer is open changes nothing. -/
theorem ensureOpen_eq (s : Passthrough σ × ω) :
    (ensureOpen : StreamM ω (Passthrough σ) Unit).final s = s := by
  obtain ⟨⟨slot, ownership⟩, w⟩ := s
  cases slot with
  | disposed => rfl
  | live stream => rfl

theorem keeps_ensureOpen {keeps : Passthrough σ × ω → Prop} :
    StreamM.Keeps keeps (ensureOpen : StreamM ω (Passthrough σ) Unit) := by
  intro s hs
  refine StreamM.ends_of_final ?_
  rw [ensureOpen_eq]
  exact hs

theorem keeps_decline {keeps : Passthrough σ × ω → Prop} (request : Request) :
    StreamM.Keeps keeps (decline request : StreamM ω (Passthrough σ) request.Answer) := by
  refine StreamM.keeps_state_bind fun layer => ?_
  split
  · exact StreamM.keeps_refuse _
  · exact StreamM.keeps_refuse _

variable [ByteStream ω σ]

theorem preserves (h : ByteStream.Preserves ω keeps) :
    ByteStream.Preserves ω (Holds ownership keeps) := by
  intro request hne
  cases request with
  | dispose => exact absurd rfl hne
  | _ => exact keeps_forward (h _ nofun)

variable {allowed : Request → Prop}

theorem keeps_performUnless {keeps : Passthrough σ × ω → Prop}
    (h : ByteStream.PreservesOn ω allowed keeps) (declined : Bool) {request : Request}
    (hrequest : allowed request) :
    StreamM.Keeps keeps
      (performUnless declined request : StreamM ω (Passthrough σ) request.Answer) := by
  unfold performUnless
  split
  · exact keeps_decline request
  · exact h request hrequest

end Passthrough

section Parts

variable {keeps : Passthrough σ × ω → Prop} {allowed : Request → Prop}

namespace Rebased

/-- A layer that counts from a given origin, with what holds of the part that holds the stream
below. -/
def CountsFrom (origin : Nat) (keeps : Passthrough σ × ω → Prop) (s : Rebased σ × ω) : Prop :=
  s.1.baseOffset = origin ∧ keeps (s.1.base, s.2)

variable {origin : Nat}

theorem keeps_onBase {act : StreamM ω (Passthrough σ) α}
    (h : StreamM.Keeps keeps act) :
    StreamM.Keeps (CountsFrom origin keeps) (onBase act) :=
  h.within_keeping (fun layer : Rebased σ => layer.baseOffset = origin) (fun _ _ => rfl)
    fun _ _ hrest => hrest

theorem keeps_toBase (position : Nat) :
    StreamM.Keeps (CountsFrom origin keeps) (toBase position : StreamM ω (Rebased σ) Nat) := by
  refine StreamM.keeps_state_bind fun layer => ?_
  dsimp only
  split
  · exact StreamM.keeps_pure _
  · exact StreamM.keeps_refuse _

theorem keeps_fromBase (place : Nat) :
    StreamM.Keeps (CountsFrom origin keeps) (fromBase place : StreamM ω (Rebased σ) Nat) := by
  refine StreamM.keeps_state_bind fun layer => ?_
  dsimp only
  split
  · exact StreamM.keeps_pure _
  · exact StreamM.keeps_refuse _

theorem keeps_ensureFromOrigin (place : Int) :
    StreamM.Keeps (CountsFrom origin keeps)
      (ensureFromOrigin place : StreamM ω (Rebased σ) Unit) := by
  refine StreamM.keeps_state_bind fun layer => ?_
  dsimp only
  split
  · exact StreamM.keeps_refuse _
  · exact StreamM.keeps_pure _

variable [ByteStream ω σ]

theorem keeps_targetBelow (hclosed : Request.Closed allowed)
    (h : ByteStream.PreservesOn ω allowed keeps) (target : SeekTarget) :
    StreamM.Keeps (CountsFrom origin keeps)
      (targetBelow target : StreamM ω (Rebased σ) SeekTarget) := by
  cases target with
  | fromStart offset => exact (keeps_toBase offset).bind fun _ => StreamM.keeps_pure _
  | fromCurrent offset =>
    refine (keeps_onBase (h .position (hclosed.move rfl))).bind fun place => ?_
    exact (keeps_ensureFromOrigin _).bind fun _ => StreamM.keeps_pure _
  | fromEnd offset =>
    refine (keeps_onBase (h .length (hclosed.move rfl))).bind fun size => ?_
    exact (keeps_ensureFromOrigin _).bind fun _ => StreamM.keeps_pure _

/-- A layer goes on counting from its origin, whatever it is asked. -/
theorem preservesOn_countsFrom (hclosed : Request.Closed allowed)
    (h : ByteStream.PreservesOn ω allowed keeps) (origin : Nat) :
    ByteStream.PreservesOn ω allowed (CountsFrom origin keeps) := by
  intro request hrequest
  cases request with
  | position => exact (keeps_onBase (h .position hrequest)).bind keeps_fromBase
  | setPosition target =>
    refine (keeps_toBase target).bind fun place => ?_
    exact keeps_onBase (h (.setPosition place) (hclosed.move rfl))
  | length =>
    refine (keeps_onBase (h .length hrequest)).bind fun size => ?_
    exact StreamM.keeps_state_bind fun layer => StreamM.keeps_pure _
  | setLength size =>
    refine (keeps_toBase size).bind fun place => ?_
    exact keeps_onBase (h (.setLength place) (hclosed.setLength hrequest place))
  | seek target =>
    refine (keeps_targetBelow hclosed h target).bind fun below => ?_
    exact (keeps_onBase (h (.seek below) (hclosed.move rfl))).bind keeps_fromBase
  | _ => exact keeps_onBase (h _ hrequest)

theorem preservesOn (hclosed : Request.Closed allowed)
    (h : ByteStream.PreservesOn ω allowed keeps) :
    ByteStream.PreservesOn ω allowed (Passthrough.At Rebased.base keeps) := by
  intro request hrequest s hs
  exact (preservesOn_countsFrom hclosed h s.1.baseOffset request hrequest s ⟨rfl, hs⟩).mono
    (fun _ _ hkept => hkept.2) fun _ _ hkept => hkept.2

end Rebased

namespace Truncated

theorem keeps_onBase {act : StreamM ω (Passthrough σ) α}
    (h : StreamM.Keeps keeps act) :
    StreamM.Keeps (Passthrough.At Truncated.base keeps) (onBase act) :=
  h.within fun _ _ => rfl

theorem keeps_moveTo (place : Nat) :
    StreamM.Keeps (Passthrough.At Truncated.base keeps)
      (moveTo place : StreamM ω (Truncated σ) Unit) :=
  StreamM.keeps_update fun _ _ h => h

theorem keeps_advance (count : Nat) :
    StreamM.Keeps (Passthrough.At Truncated.base keeps)
      (advance count : StreamM ω (Truncated σ) Unit) :=
  StreamM.keeps_update fun _ _ h => h

variable [ByteStream ω σ]

theorem keeps_visibleLength
    (h : StreamM.Keeps keeps (ByteStream.length : StreamM ω (Passthrough σ) Nat)) :
    StreamM.Keeps (Passthrough.At Truncated.base keeps)
      (visibleLength : StreamM ω (Truncated σ) Nat) := by
  refine (keeps_onBase h).bind fun size => ?_
  exact StreamM.keeps_state_bind fun layer => StreamM.keeps_pure _

theorem keeps_targetBelow
    (h : StreamM.Keeps keeps (ByteStream.length : StreamM ω (Passthrough σ) Nat))
    (target : SeekTarget) :
    StreamM.Keeps (Passthrough.At Truncated.base keeps)
      (targetBelow target : StreamM ω (Truncated σ) SeekTarget) := by
  cases target with
  | fromStart offset => exact StreamM.keeps_pure _
  | fromCurrent offset => exact StreamM.keeps_pure _
  | fromEnd offset =>
    refine (keeps_visibleLength h).bind fun visible => ?_
    refine (StreamM.keeps_ofExcept _).bind fun place => ?_
    exact StreamM.keeps_state_bind fun layer => StreamM.keeps_pure _

theorem keeps_read {mode : Mode}
    (h : ∀ room : Nat,
      StreamM.Keeps keeps (ByteStream.read mode room : StreamM ω (Passthrough σ) Bytes))
    (room : Nat) :
    StreamM.Keeps (Passthrough.At Truncated.base keeps)
      (read mode room : StreamM ω (Truncated σ) Bytes) := by
  refine StreamM.keeps_state_bind fun layer => ?_
  refine (keeps_onBase (h _)).bind fun bytes => ?_
  exact (keeps_advance bytes.length).bind fun _ => StreamM.keeps_pure _

theorem keeps_readByte
    (h : StreamM.Keeps keeps (ByteStream.readByte : StreamM ω (Passthrough σ) (Option UInt8))) :
    StreamM.Keeps (Passthrough.At Truncated.base keeps)
      (readByte : StreamM ω (Truncated σ) (Option UInt8)) := by
  refine (keeps_onBase Passthrough.keeps_ensureOpen).bind fun _ => ?_
  refine StreamM.keeps_state_bind fun layer => ?_
  split
  · exact StreamM.keeps_pure _
  refine (keeps_onBase h).bind fun byte => ?_
  split
  · exact (keeps_advance 1).bind fun _ => StreamM.keeps_pure _
  · exact StreamM.keeps_pure _

theorem preservesOn (hclosed : Request.Closed allowed)
    (h : ByteStream.PreservesOn ω allowed keeps) :
    ByteStream.PreservesOn ω allowed (Passthrough.At Truncated.base keeps) := by
  intro request hrequest
  cases request with
  | setPosition target =>
    exact (keeps_onBase (h (.setPosition target) hrequest)).bind fun _ => keeps_moveTo target
  | length => exact keeps_visibleLength (h .length hrequest)
  | seek target =>
    refine (keeps_targetBelow (h .length (hclosed.move rfl)) target).bind fun below => ?_
    refine (keeps_onBase (h (.seek below) (hclosed.move rfl))).bind fun place => ?_
    exact (keeps_moveTo place).bind fun _ => StreamM.keeps_pure _
  | read mode room => exact keeps_read (fun room' => h _ (hclosed.read hrequest room')) room
  | readByte => exact keeps_readByte (h .readByte hrequest)
  | _ => exact keeps_onBase (Passthrough.keeps_performUnless h _ hrequest)

end Truncated

namespace ReadOnly

theorem keeps_onBase {act : StreamM ω (Passthrough σ) α}
    (h : StreamM.Keeps keeps act) :
    StreamM.Keeps (Passthrough.At ReadOnly.base keeps) (onBase act) :=
  h.within fun _ _ => rfl

theorem preservesOn [ByteStream ω σ] (h : ByteStream.PreservesOn ω allowed keeps) :
    ByteStream.PreservesOn ω allowed (Passthrough.At ReadOnly.base keeps) := by
  intro request hrequest
  exact keeps_onBase (Passthrough.keeps_performUnless h request.mutates hrequest)

end ReadOnly

namespace Cached

theorem keeps_onBase {act : StreamM ω (Passthrough σ) α}
    (h : StreamM.Keeps keeps act) :
    StreamM.Keeps (Passthrough.At Cached.base keeps) (onBase act) :=
  h.within fun _ _ => rfl

theorem keeps_updateCache (f : BlockCache → BlockCache) :
    StreamM.Keeps (Passthrough.At Cached.base keeps)
      (updateCache f : StreamM ω (Cached σ) Unit) :=
  StreamM.keeps_update fun _ _ h => h

theorem keeps_moveTo (place : Nat) :
    StreamM.Keeps (Passthrough.At Cached.base keeps)
      (moveTo place : StreamM ω (Cached σ) Unit) :=
  StreamM.keeps_update fun _ _ h => h

theorem keeps_serve (room : Nat) :
    StreamM.Keeps (Passthrough.At Cached.base keeps)
      (serve room : StreamM ω (Cached σ) Bytes) := by
  refine StreamM.keeps_state_bind fun layer => ?_
  exact (keeps_moveTo _).bind fun _ => StreamM.keeps_pure _

theorem keeps_serveByte :
    StreamM.Keeps (Passthrough.At Cached.base keeps)
      (serveByte : StreamM ω (Cached σ) (Option UInt8)) := by
  refine StreamM.keeps_state_bind fun layer => ?_
  dsimp only
  split
  · exact (keeps_moveTo _).bind fun _ => StreamM.keeps_pure _
  · exact StreamM.keeps_pure _

variable [ByteStream ω σ]

theorem keeps_seek (hclosed : Request.Closed allowed)
    (h : ByteStream.PreservesOn ω allowed keeps) (target : SeekTarget) :
    StreamM.Keeps (Passthrough.At Cached.base keeps)
      (seek target : StreamM ω (Cached σ) Nat) := by
  refine StreamM.keeps_state_bind fun layer => ?_
  refine (keeps_onBase (h (.setPosition _) (hclosed.move rfl))).bind fun _ => ?_
  refine (keeps_onBase (h (.seek target) (hclosed.move rfl))).bind fun place => ?_
  exact (keeps_moveTo place).bind fun _ => StreamM.keeps_pure _

/-- The blocks are given up, whatever comes of disposing the layer below. -/
theorem keeps_release
    (h : StreamM.Keeps keeps (ByteStream.dispose : StreamM ω (Passthrough σ) Unit)) :
    StreamM.Keeps (Passthrough.At Cached.base keeps) (release : StreamM ω (Cached σ) Unit) := by
  refine (keeps_onBase h).attempt.bind fun outcome => ?_
  exact (keeps_updateCache _).bind fun _ => StreamM.keeps_settle outcome

variable [Cancellation ω]

theorem keeps_fetch (hclosed : Request.Closed allowed)
    (h : ByteStream.PreservesOn ω allowed keeps) (mode : Mode)
    (hread : ∀ room : Nat, allowed (.read mode room)) (index : BlockIndex) :
    StreamM.Keeps (Passthrough.At Cached.base keeps)
      (fetch mode index : StreamM ω (Cached σ) Unit) := by
  refine (keeps_onBase (h (.seek _) (hclosed.move rfl))).bind fun _ => ?_
  have hfill := keeps_fillWithin (fun room => h _ (hread room)) blockSize blockSize
  refine (keeps_onBase hfill).bind fun filled => ?_
  refine (StreamM.keeps_settle _).bind fun data => ?_
  exact keeps_updateCache _

theorem keeps_load (hclosed : Request.Closed allowed)
    (h : ByteStream.PreservesOn ω allowed keeps) (mode : Mode)
    (hread : ∀ room : Nat, allowed (.read mode room)) :
    StreamM.Keeps (Passthrough.At Cached.base keeps)
      (load mode : StreamM ω (Cached σ) Unit) := by
  refine (keeps_onBase Passthrough.keeps_ensureOpen).bind fun _ => ?_
  refine StreamM.keeps_state_bind fun layer => ?_
  dsimp only
  split
  · exact StreamM.keeps_pure _
  refine (keeps_onBase (h .length (hclosed.move rfl))).bind fun size => ?_
  split
  · exact StreamM.keeps_pure _
  refine (keeps_updateCache _).bind fun _ => ?_
  split
  · exact StreamM.keeps_pure _
  · exact keeps_fetch hclosed h mode hread _

theorem preservesOn (hclosed : Request.Closed allowed)
    (h : ByteStream.PreservesOn ω allowed keeps) :
    ByteStream.PreservesOn ω allowed (Passthrough.At Cached.base keeps) := by
  intro request hrequest
  cases request with
  | dispose => exact keeps_release (h .dispose hrequest)
  | position =>
    refine (keeps_onBase Passthrough.keeps_ensureOpen).bind fun _ => ?_
    exact StreamM.keeps_state_bind fun layer => StreamM.keeps_pure _
  | setPosition target =>
    exact (keeps_onBase Passthrough.keeps_ensureOpen).bind fun _ => keeps_moveTo target
  | seek target => exact keeps_seek hclosed h target
  | read mode room =>
    exact (keeps_load hclosed h mode (hclosed.read hrequest)).bind fun _ => keeps_serve room
  | readByte =>
    exact (keeps_load hclosed h _ (hclosed.readByte hrequest)).bind fun _ => keeps_serveByte
  | _ => exact keeps_onBase (Passthrough.keeps_performUnless h _ hrequest)

end Cached

end Parts

namespace LayerKind

/-- An open layer of a kind and an ownership over a stream of which `keeps` holds. A window may be
the stream itself, and is none of these. -/
def Holds (ownership : Ownership) (keeps : σ × ω → Prop) :
    (kind : LayerKind) → kind.Over σ × ω → Prop
  | passthrough => Passthrough.Holds ownership keeps
  | rebased => Passthrough.HoldsAt Rebased.base ownership keeps
  | truncated => Passthrough.HoldsAt Truncated.base ownership keeps
  | readOnly => Passthrough.HoldsAt ReadOnly.base ownership keeps
  | cached => Passthrough.HoldsAt Cached.base ownership keeps
  | window => fun _ => False

theorem Holds.mono (kind : LayerKind) {keeps' : σ × ω → Prop} {s : kind.Over σ × ω}
    (h : kind.Holds ownership keeps s)
    (hkeeps : ∀ below, keeps (below, s.2) → keeps' (below, s.2)) :
    kind.Holds ownership keeps' s := by
  cases kind with
  | window => exact h.elim
  | _ =>
    obtain ⟨below, heq, hbelow⟩ := h
    exact ⟨below, heq, hkeeps below hbelow⟩

/-- What the stream below preserves, an open layer over it preserves of the stream it holds. -/
theorem preserves [Cancellation ω] [ByteStream ω σ] (h : ByteStream.Preserves ω keeps)
    (kind : LayerKind) : ByteStream.Preserves ω (kind.Holds ownership keeps) := by
  have hclosed := Request.closed_ne_dispose
  cases kind with
  | passthrough => exact Passthrough.preserves h
  | rebased => exact Rebased.preservesOn hclosed (Passthrough.preserves h)
  | truncated => exact Truncated.preservesOn hclosed (Passthrough.preserves h)
  | readOnly => exact ReadOnly.preservesOn (Passthrough.preserves h)
  | cached => exact Cached.preservesOn hclosed (Passthrough.preserves h)
  | window => exact fun _ _ _ hs => hs.elim

end LayerKind

end Layers

/-! ## Layers that may be disposed -/

section Disposable

variable {ω σ τ α : Type} {sound : σ → Prop} {kept : ω → Prop} {allowed : Request → Prop}

/-- A sound stream, amid surroundings of which `kept` holds. -/
def Amid (sound : σ → Prop) (kept : ω → Prop) (s : σ × ω) : Prop := sound s.1 ∧ kept s.2

/-- What holds of the state that a computation leaves, and of every embedding of it, holds of the
state that the embedded computation leaves. -/
theorem StreamM.Carries.ends_keeps (f : σ → τ) {act : StreamM ω σ α} {act' : StreamM ω τ α}
    (hcarries : StreamM.Carries f act act') {keeps : σ × ω → Prop} {keeps' : τ × ω → Prop}
    (hkeeps : ∀ part, keeps part → keeps' (f part.1, part.2)) {part : σ} {w : ω}
    (h : act.Ends (part, w) (fun _ => keeps) fun _ => keeps) :
    act'.Ends (f part, w) (fun _ => keeps') fun _ => keeps' := by
  refine StreamM.ends_of_final ?_
  rw [hcarries.final]
  exact hkeeps _ h.final

namespace Passthrough

/-- A layer over a sound stream, or a disposed one. -/
def Sound (sound : σ → Prop) (layer : Passthrough σ) : Prop :=
  ∀ stream, layer.slot = .live stream → sound stream

theorem sound_disposed (ownership : Ownership) : Sound sound ⟨.disposed, ownership⟩ := by
  intro stream hlive
  cases hlive

theorem sound_live {stream : σ} (h : sound stream) (ownership : Ownership) :
    Sound sound ⟨.live stream, ownership⟩ := by
  intro stream' hlive
  cases hlive
  exact h

theorem keeps_forward_sound {act : StreamM ω σ α} (h : StreamM.Keeps (Amid sound kept) act) :
    StreamM.Keeps (Amid (Sound sound) kept) (forward act) := by
  intro s hs
  obtain ⟨⟨slot, ownership⟩, w⟩ := s
  cases slot with
  | disposed => exact hs
  | live stream =>
    have hkeeps := h (stream, w) ⟨hs.1 stream rfl, hs.2⟩
    refine StreamM.Carries.ends_keeps _ (carries_forward ownership act) (fun s' hs' => ?_) hkeeps
    exact ⟨sound_live hs'.1 ownership, hs'.2⟩

variable [ByteStream ω σ]

/-- A disposed layer is sound, and so are the surroundings that the stream below leaves. -/
theorem keeps_release
    (h : StreamM.Keeps (Amid sound kept) (ByteStream.dispose : StreamM ω σ Unit)) :
    StreamM.Keeps (Amid (Sound sound) kept) (release : StreamM ω (Passthrough σ) Unit) := by
  intro s hs
  obtain ⟨⟨slot, ownership⟩, w⟩ := s
  cases slot with
  | disposed => exact hs
  | live stream =>
    cases ownership with
    | borrows => exact ⟨sound_disposed _, hs.2⟩
    | owns =>
      have hout := h (stream, w) ⟨hs.1 stream rfl, hs.2⟩
      unfold StreamM.Ends at hout ⊢
      unfold release
      simp only [Ownership.isOwner, if_true]
      cases heq : (ByteStream.dispose : StreamM ω σ Unit) (stream, w) with
      | ok value s' =>
        rw [heq] at hout
        exact ⟨sound_disposed _, hout.2⟩
      | error e s' =>
        rw [heq] at hout
        exact ⟨sound_disposed _, hout.2⟩

theorem preservesOn_sound (h : ByteStream.PreservesOn ω allowed (Amid sound kept)) :
    ByteStream.PreservesOn ω allowed (Amid (Passthrough.Sound sound) kept) := by
  intro request hrequest
  cases request with
  | dispose => exact keeps_release (h .dispose hrequest)
  | _ => exact keeps_forward_sound (h _ hrequest)

end Passthrough

/-- Windows over a sound stream, or disposed ones. -/
def Window.Sound (sound : σ → Prop) : Window σ → Prop
  | .unwrapped stream => sound stream
  | .rebased layer => Passthrough.Sound sound layer.base
  | .truncated layer => Passthrough.Sound sound layer.base
  | .rebasedTruncated layer =>
    Passthrough.Sound (fun inner : Rebased σ => Passthrough.Sound sound inner.base) layer.base

variable [ByteStream ω σ]

theorem Window.preservesOn_sound (hclosed : Request.Closed allowed)
    (h : ByteStream.PreservesOn ω allowed (Amid sound kept)) :
    ByteStream.PreservesOn ω allowed (Amid (Window.Sound sound) kept) := by
  intro request hrequest s hs
  have hlayer := Passthrough.preservesOn_sound h
  obtain ⟨window, w⟩ := s
  cases window with
  | unwrapped stream =>
    have hkeeps := h request hrequest (stream, w) hs
    exact StreamM.Carries.ends_keeps unwrapped (fun _ _ => rfl) (fun _ h => h) hkeeps
  | rebased layer =>
    have hkeeps := Rebased.preservesOn hclosed hlayer request hrequest (layer, w) hs
    exact StreamM.Carries.ends_keeps rebased (fun _ _ => rfl) (fun _ h => h) hkeeps
  | truncated layer =>
    have hkeeps := Truncated.preservesOn hclosed hlayer request hrequest (layer, w) hs
    exact StreamM.Carries.ends_keeps truncated (fun _ _ => rfl) (fun _ h => h) hkeeps
  | rebasedTruncated layer =>
    have hrebased : ByteStream.PreservesOn ω allowed
        (Amid (fun inner : Rebased σ => Passthrough.Sound sound inner.base) kept) :=
      Rebased.preservesOn hclosed hlayer
    have hboth := Passthrough.preservesOn_sound hrebased
    have hkeeps := Truncated.preservesOn hclosed hboth request hrequest (layer, w) hs
    exact StreamM.Carries.ends_keeps rebasedTruncated (fun _ _ => rfl) (fun _ h => h) hkeeps

namespace LayerKind

/-- The layers of a kind over a sound stream, disposed ones too. -/
def Sound (sound : σ → Prop) : (kind : LayerKind) → kind.Over σ → Prop
  | passthrough => Passthrough.Sound sound
  | rebased => fun layer : Rebased σ => Passthrough.Sound sound layer.base
  | truncated => fun layer : Truncated σ => Passthrough.Sound sound layer.base
  | readOnly => fun layer : ReadOnly σ => Passthrough.Sound sound layer.base
  | cached => fun layer : Cached σ => Passthrough.Sound sound layer.base
  | window => Window.Sound sound

/-- **What requests of the stream below keep of the surroundings, those of a layer keep**, whether
it was disposed or not. -/
theorem preservesOn_sound [Cancellation ω] (hclosed : Request.Closed allowed)
    (h : ByteStream.PreservesOn ω allowed (Amid sound kept)) (kind : LayerKind) :
    ByteStream.PreservesOn ω allowed (Amid (kind.Sound sound) kept) := by
  have hlayer := Passthrough.preservesOn_sound h
  cases kind with
  | passthrough => exact hlayer
  | rebased => exact Rebased.preservesOn hclosed hlayer
  | truncated => exact Truncated.preservesOn hclosed hlayer
  | readOnly => exact ReadOnly.preservesOn hlayer
  | cached => exact Cached.preservesOn hclosed hlayer
  | window => exact Window.preservesOn_sound hclosed h

omit [ByteStream ω σ] in
/-- A layer over a stream that is sound whatever it is, is itself. -/
theorem sound_of_forall (h : ∀ stream, sound stream) :
    ∀ (kind : LayerKind) (layer : kind.Over σ), kind.Sound sound layer
  | passthrough, _ | rebased, _ | truncated, _ | readOnly, _ | cached, _ => fun stream _ => h stream
  | window, .unwrapped stream => h stream
  | window, .rebased _ | window, .truncated _ => fun stream _ => h stream
  | window, .rebasedTruncated _ => fun _ _ stream _ => h stream

theorem preservesOn_kept [Cancellation ω] (hclosed : Request.Closed allowed)
    (h : ByteStream.PreservesOn ω allowed (Amid (fun _ : σ => True) kept)) (kind : LayerKind) :
    ByteStream.PreservesOn ω allowed (Amid (fun _ : kind.Over σ => True) kept) := by
  intro request hrequest s hs
  have hsound := sound_of_forall (fun _ : σ => trivial) kind s.1
  have hkept := kind.preservesOn_sound hclosed h request hrequest s ⟨hsound, hs.2⟩
  exact hkept.mono (fun _ _ hs' => ⟨trivial, hs'.2⟩) fun _ _ hs' => ⟨trivial, hs'.2⟩

end LayerKind

namespace Stack

/-- The stacks over a sound base, of layers that may be disposed. -/
def Sound (sound : σ → Prop) : (kinds : List LayerKind) → Stack kinds σ → Prop
  | [] => sound
  | kind :: kinds => kind.Sound (Sound sound kinds)

/-- **What a base keeps of the surroundings, every stack over it keeps.** The recursion is on the
layers. -/
theorem preservesOn_sound [Cancellation ω] (hclosed : Request.Closed allowed)
    (h : ByteStream.PreservesOn ω allowed (Amid sound kept)) : ∀ kinds : List LayerKind,
    ByteStream.PreservesOn ω allowed (Amid (Sound sound kinds) kept)
  | [] => h
  | kind :: kinds => kind.preservesOn_sound hclosed (preservesOn_sound hclosed h kinds)

/-- The recursion is on the layers. -/
theorem preservesOn_kept [Cancellation ω] (hclosed : Request.Closed allowed)
    (h : ByteStream.PreservesOn ω allowed (Amid (fun _ : σ => True) kept)) :
    ∀ kinds : List LayerKind,
      ByteStream.PreservesOn ω allowed (Amid (fun _ : Stack kinds σ => True) kept)
  | [] => h
  | kind :: kinds => kind.preservesOn_kept hclosed (preservesOn_kept hclosed h kinds)

end Stack

end Disposable

namespace Wrapping

/-- The ownership of a layer to make. A read-only layer borrows. -/
def ownership : Wrapping → Ownership
  | passthrough ownership | rebased ownership | truncated _ ownership | cached ownership
  | window _ _ ownership => ownership
  | readOnly => .borrows

/-- A layer is open when it is made, and a stream over which none is made stays as it was asked
to. -/
theorem ends_wrap_holds {ω σ : Type} [ByteStream ω σ] {keeps : σ × ω → Prop}
    (h : ByteStream.Preserves ω keeps) {wrapping : Wrapping} (hne : wrapping.kind ≠ .window)
    {s : σ × ω} (hs : keeps s) :
    (wrapping.wrap : StreamM ω σ (wrapping.kind.Over σ)).Ends s
      (fun layer s' => wrapping.kind.Holds wrapping.ownership keeps (layer, s'.2))
      fun _ => keeps := by
  cases wrapping with
  | passthrough ownership => exact StreamM.ends_state_bind (StreamM.ends_pure ⟨s.1, rfl, hs⟩)
  | readOnly => exact StreamM.ends_state_bind (StreamM.ends_pure ⟨s.1, rfl, hs⟩)
  | rebased ownership =>
    refine (h .position nofun s hs).bind fun origin s' hs' => ?_
    exact StreamM.ends_state_bind (StreamM.ends_pure ⟨s'.1, rfl, hs'⟩)
  | cached ownership =>
    refine (h .position nofun s hs).bind fun cursor s' hs' => ?_
    exact StreamM.ends_state_bind (StreamM.ends_pure ⟨s'.1, rfl, hs'⟩)
  | truncated maxLength ownership =>
    show StreamM.Ends (Truncated.wrap maxLength ownership) s _ _
    unfold Truncated.wrap
    split
    · exact StreamM.ends_refuse hs
    refine (h .position nofun s hs).bind fun origin s' hs' => ?_
    exact StreamM.ends_state_bind (StreamM.ends_pure ⟨s'.1, rfl, hs'⟩)
  | window => exact absurd rfl hne

end Wrapping

end LayeredStreams
