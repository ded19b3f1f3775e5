import LayeredStreams.Proofs.CachedLoading
import LayeredStreams.Proofs.Preserved
import LayeredStreams.Proofs.Rebasing
import LayeredStreams.Proofs.View

/-!
# Bearings

Where a stream stands is told by the place of its base: the position it reports, counted from its
origin. Each layer turns the bearing of the stream below it into its own.

* `Bearing` — origin and mark of a stream as places of its base, the length it reports, where its
  end is, and whether its cursors are in range.
* `Bearing.Moved`, `Bearing.Led` — what is left of a bearing when the cursor is moved, and when
  something else is done that leaves the origin where it is.
* `StreamM.MovesBearing bearing act s good bad` — what comes of a computation, told of bearings.
* `FollowsBearing bearing` — a stream that is moved as its bearing says.

Principal results: `Passthrough.followsBearing`, `Rebased.followsBearing`,
`ReadOnly.followsBearing`, `Truncated.followsBearing` and `Cached.followsBearing`: a layer over a
stream that is moved as its bearing says is moved as its own says.
-/

set_option autoImplicit false

namespace LayeredStreams

/-- Where a stream stands and how far it goes, told of the places of its base. -/
structure Bearing where
  /-- The place of the base that the stream counts as zero. -/
  origin : Nat
  /-- The place of the base at which the stream stands. -/
  mark : Nat
  /-- The length that the stream reports. -/
  size : Nat
  /-- Where a seek to the end leads; that may be before the origin. -/
  reach : Int
  /-- Whether no layer takes the end for a later place than it is. -/
  level : Prop
  /-- Whether every cursor in the stream is where a seek can follow it: not before the origin of a
  layer, and not behind the greatest position. -/
  ranged : Prop
  /-- Whether a write that would lead behind the greatest position is refused. -/
  stops : Prop

namespace Bearing

/-- A seek that answers a position answers the right one. -/
def Leads (x : Bearing) (position : Nat) : SeekTarget → Prop
  | .fromStart offset => position = offset
  | .fromCurrent offset => ((x.origin + position : Nat) : Int) = x.mark + offset
  | .fromEnd offset => (position : Int) = x.reach + offset

/-- Another bearing of the same stream, when nothing but the cursor was moved. -/
structure Moved (mark : Nat) (x x' : Bearing) : Prop where
  origin_eq : x'.origin = x.origin
  mark_eq : x'.mark = mark
  size_eq : x'.size = x.size
  reach_eq : x'.reach = x.reach
  level_iff : x'.level ↔ x.level
  ranged : x.ranged → mark ≤ maxPosition → x'.ranged

/-- Another bearing of the same stream, when something was done that leads nowhere out of range. -/
structure Led (mark : Nat) (x x' : Bearing) : Prop where
  origin_eq : x'.origin = x.origin
  mark_eq : x'.mark = mark
  ranged : x.ranged → x'.ranged

theorem moved_self (x : Bearing) : Moved x.mark x x := ⟨rfl, rfl, rfl, rfl, .rfl, fun h _ => h⟩

theorem led_self (x : Bearing) : Led x.mark x x := ⟨rfl, rfl, fun h => h⟩

theorem Led.trans {first second : Nat} {x y z : Bearing} (h : Led first x y)
    (h' : Led second y z) : Led second x z where
  origin_eq := h'.origin_eq.trans h.origin_eq
  mark_eq := h'.mark_eq
  ranged hranged := h'.ranged (h.ranged hranged)

theorem Moved.led {mark : Nat} {x x' : Bearing} (h : Moved mark x x') (hmark : mark ≤ maxPosition) :
    Led mark x x' :=
  ⟨h.origin_eq, h.mark_eq, fun hranged => h.ranged hranged hmark⟩

/-- A write leads to a place in range, or it is refused. -/
def Fits (x : Bearing) : Request → Prop
  | .write _ data => x.stops ∨ x.mark + data.length ≤ maxPosition
  | .writeByte _ => x.stops ∨ x.mark + 1 ≤ maxPosition
  | _ => True

/-- How far back a change of the content can take the stream. -/
def floor (x : Bearing) : Request → Nat
  | .setLength size => min x.mark (x.origin + size)
  | _ => x.mark

theorem floor_le (x : Bearing) (request : Request) : x.floor request ≤ x.mark := by
  cases request with
  | setLength size => exact Nat.min_le_left _ _
  | _ => exact Nat.le_refl _

end Bearing

namespace StreamM

variable {ω σ τ α β : Type} {bearing : σ × ω → Bearing → Prop} {act : StreamM ω σ α} {s : σ × ω}

/-- What holds of the outcome of a computation on a stream and of a bearing of the stream after it.
-/
def MovesBearing (bearing : σ × ω → Bearing → Prop) (act : StreamM ω σ α) (s : σ × ω)
    (good : α → Bearing → Prop) (bad : StreamError → Bearing → Prop) : Prop :=
  act.Ends s (fun value s' => ∃ x, good value x ∧ bearing s' x)
    fun e s' => ∃ x, bad e x ∧ bearing s' x

variable {good good' : α → Bearing → Prop} {bad bad' : StreamError → Bearing → Prop}

theorem MovesBearing.mono (h : act.MovesBearing bearing s good bad)
    (hgood : ∀ value x, good value x → good' value x)
    (hbad : ∀ e x, bad e x → bad' e x) : act.MovesBearing bearing s good' bad' := by
  apply Ends.mono h
  · intro value _ hout
    obtain ⟨x, hx, hbearing⟩ := hout
    exact ⟨x, hgood value x hx, hbearing⟩
  · intro e _ hout
    obtain ⟨x, hx, hbearing⟩ := hout
    exact ⟨x, hbad e x hx, hbearing⟩

theorem MovesBearing.bind {next : α → StreamM ω σ β} {good' : β → Bearing → Prop}
    (h : act.MovesBearing bearing s good bad)
    (hnext : ∀ value x s', good value x → bearing s' x →
      (next value).MovesBearing bearing s' good' bad) :
    (act >>= next).MovesBearing bearing s good' bad := by
  apply Ends.bind h
  intro value s' hout
  obtain ⟨x, hx, hbearing⟩ := hout
  exact hnext value x s' hx hbearing

theorem movesBearing_pure {value : α} {x : Bearing} (hbearing : bearing s x)
    (hgood : good value x) :
    (pure value : StreamM ω σ α).MovesBearing bearing s good bad := ⟨x, hgood, hbearing⟩

/-- The outcome of a computation, once looked at. -/
theorem MovesBearing.attempt (h : act.MovesBearing bearing s good bad) :
    act.attempt.MovesBearing bearing s (fun outcome x =>
      match outcome with
      | .ok value => good value x
      | .error e => bad e x) fun _ _ => False := by
  apply (Ends.attempt h).mono
  · intro outcome s' hs'
    cases outcome with
    | ok value => exact hs'
    | error e => exact hs'
  · intro _ _ hfalse
    exact hfalse.elim

/-- A computation that is carried turns the bearing as the layer does. -/
theorem MovesBearing.carried {f : σ → τ} {act' : StreamM ω τ α} {bearing' : τ × ω → Bearing → Prop}
    {turn : Bearing → Bearing} {part : σ} {w : ω} (h : act.MovesBearing bearing (part, w) good bad)
    (hcarries : Carries f act act')
    (hturn : ∀ {part w x}, bearing (part, w) x → bearing' (f part, w) (turn x))
    (hgood : ∀ value x, good value x → good' value (turn x))
    (hbad : ∀ e x, bad e x → bad' e (turn x)) :
    act'.MovesBearing bearing' (f part, w) good' bad' := by
  apply (hcarries.ends_of h).mono
  · intro value s' hout
    obtain ⟨stream', w'⟩ := s'
    obtain ⟨part', rfl, x, hx, hbearing⟩ := hout
    exact ⟨turn x, hgood value x hx, hturn hbearing⟩
  · intro e s' hout
    obtain ⟨stream', w'⟩ := s'
    obtain ⟨part', rfl, x, hx, hbearing⟩ := hout
    exact ⟨turn x, hbad e x hx, hturn hbearing⟩

/-- A computation that is carried and changes nothing there changes nothing here. -/
theorem Carries.ends_same {f : σ → τ} {act' : StreamM ω τ α} (hcarries : Carries f act act')
    {part : σ} {w : ω} {good : α → Prop} {bad : StreamError → Prop}
    (h : act.Ends (part, w) (fun value s' => good value ∧ s' = (part, w))
      fun e s' => bad e ∧ s' = (part, w)) :
    act'.Ends (f part, w) (fun value s' => good value ∧ s' = (f part, w))
      fun e s' => bad e ∧ s' = (f part, w) := by
  apply hcarries.ends_at
  apply h.mono
  · intro value s' hout
    obtain ⟨hgood, rfl⟩ := hout
    exact ⟨hgood, rfl⟩
  · intro e s' hout
    obtain ⟨hbad, rfl⟩ := hout
    exact ⟨hbad, rfl⟩

end StreamM

/-- Whether a request asks for nothing that has to do with places. -/
def Request.isPlaceless : Request → Bool
  | .flush _ | .timeout _ | .setTimeout _ _ => true
  | _ => false

/-- A stream that is moved as its bearing says. -/
structure FollowsBearing (ω : Type) {σ : Type} [ByteStream ω σ] (bearing : σ × ω → Bearing → Prop) :
    Prop where
  /-- A stream whose cursors are in range stands behind its origin and can be sought to where it
  stands. -/
  range : ∀ {s : σ × ω} {x : Bearing}, bearing s x → x.ranged →
    x.origin ≤ x.mark ∧ x.mark ≤ maxPosition
  position : ∀ {s : σ × ω} {x : Bearing}, bearing s x →
    (ByteStream.position : StreamM ω σ Nat).Ends s
      (fun position s' => x.origin + position = x.mark ∧ s' = s)
      fun _ s' => x.mark < x.origin ∧ s' = s
  length : ∀ {s : σ × ω} {x : Bearing}, bearing s x →
    (ByteStream.length : StreamM ω σ Nat) s = .ok x.size s
  setPosition : ∀ {s : σ × ω} {x : Bearing}, bearing s x → ∀ target : Nat,
    (ByteStream.setPosition target : StreamM ω σ Unit).MovesBearing bearing s
      (fun _ => x.Moved (x.origin + target))
      fun _ x' => maxPosition < x.origin + target ∧ x.Moved x.mark x'
  /-- Only a seek from the end can be refused after the stream was moved. -/
  seek : ∀ {s : σ × ω} {x : Bearing}, bearing s x → ∀ target : SeekTarget,
    (ByteStream.seek target : StreamM ω σ Nat).MovesBearing bearing s
      (fun position x' => x.Leads position target ∧ x.origin + position ≤ maxPosition ∧
        x.Moved (x.origin + position) x')
      fun _ x' => (target = .fromCurrent 0 → x.mark < x.origin ∨ maxPosition < x.mark) ∧
        ((Request.isFromEnd (.seek target) = true → x.level) → x.Moved x.mark x')
  read : ∀ {s : σ × ω} {x : Bearing}, bearing s x → ∀ (mode : Mode) (room : Nat),
    (ByteStream.read mode room : StreamM ω σ Bytes).MovesBearing bearing s
      (fun bytes => x.Led (x.mark + bytes.length)) fun _ => x.Led x.mark
  readByte : ∀ {s : σ × ω} {x : Bearing}, bearing s x →
    (ByteStream.readByte : StreamM ω σ (Option UInt8)).MovesBearing bearing s
      (fun byte => x.Led (x.mark + byte.toList.length)) fun _ => x.Led x.mark
  placeless : ∀ {s : σ × ω} {x : Bearing}, bearing s x → ∀ request : Request,
    request.isPlaceless = true →
    (ByteStream.perform request : StreamM ω σ request.Answer).MovesBearing bearing s
      (fun _ => x.Led x.mark) fun _ => x.Led x.mark
  /-- A change of the content that fits takes no cursor out of range. -/
  mutating : ∀ {s : σ × ω} {x : Bearing}, bearing s x → x.ranged → ∀ request : Request,
    request.mutates = true → x.Fits request →
    (ByteStream.perform request : StreamM ω σ request.Answer).MovesBearing bearing s
      (fun _ x' => x'.origin = x.origin ∧ x'.ranged ∧ x.floor request ≤ x'.mark)
      fun _ x' => x'.origin = x.origin ∧ x'.ranged ∧ x.floor request ≤ x'.mark

section Layers

variable {ω σ α : Type} {bearing : σ × ω → Bearing → Prop}

/-- A filled buffer takes the stream over the bytes that came, whatever ended the fill. The
induction is on the reads that are left. -/
theorem FollowsBearing.movesBearing_fillWithin [Cancellation ω] [ByteStream ω σ]
    (h : FollowsBearing ω bearing) (mode : Mode) :
    ∀ (reads room : Nat) {s : σ × ω} {x : Bearing}, bearing s x →
      (fillWithin mode reads room : StreamM ω σ Filled).MovesBearing bearing s
        (fun filled => x.Led (x.mark + filled.bytes.length)) fun _ _ => False
  | 0, _, s, x, hs => StreamM.movesBearing_pure hs x.led_self
  | reads + 1, room, s, x, hs => by
    unfold fillWithin
    split
    · exact StreamM.movesBearing_pure hs x.led_self
    have hread : (readAdmitted mode room : StreamM ω σ Bytes).MovesBearing bearing s
        (fun bytes => x.Led (x.mark + bytes.length)) fun _ => x.Led x.mark := by
      apply Mode.ends_checkToken_bind
      · intro _
        exact ⟨x, x.led_self, hs⟩
      · intro _
        exact h.read hs mode room
    apply hread.attempt.bind
    intro outcome x' s' hx' hs'
    cases outcome with
    | error e => exact StreamM.movesBearing_pure hs' hx'
    | ok bytes =>
      cases bytes with
      | nil => exact StreamM.movesBearing_pure hs' hx'
      | cons byte bytes =>
        apply StreamM.MovesBearing.bind (h.movesBearing_fillWithin mode reads _ hs')
        intro filled x'' s'' hx'' hs''
        apply StreamM.movesBearing_pure hs''
        have hall := hx'.trans hx''
        rw [hx'.mark_eq, Nat.add_assoc, ← List.length_append] at hall
        exact hall

/-! ## Layers that change nothing -/

namespace Passthrough

/-- An open layer over a stream with a bearing. -/
def HasBearing (bearing : σ × ω → Bearing → Prop) (s : Passthrough σ × ω) (x : Bearing) : Prop :=
  ∃ ownership, Holds ownership (bearing · x) s

theorem hasBearing_live {stream : σ} {w : ω} {x : Bearing} (h : bearing (stream, w) x)
    (ownership : Ownership) : HasBearing bearing (⟨.live stream, ownership⟩, w) x :=
  ⟨ownership, stream, rfl, h⟩

theorem ensureOpen_of_hasBearing {s : Passthrough σ × ω} {x : Bearing}
    (h : HasBearing bearing s x) :
    (ensureOpen : StreamM ω (Passthrough σ) Unit) s = .ok () s := by
  obtain ⟨ownership, hs⟩ := h
  exact ensureOpen_of_held hs

/-- What is done on the stream below turns no bearing. -/
theorem movesBearing_forward {act : StreamM ω σ α} {s : Passthrough σ × ω} {x : Bearing}
    {good : α → Bearing → Prop} {bad : StreamError → Bearing → Prop} (hs : HasBearing bearing s x)
    (h : ∀ {s : σ × ω}, bearing s x → act.MovesBearing bearing s good bad) :
    (forward act).MovesBearing (HasBearing bearing) s good bad := by
  obtain ⟨layer, w⟩ := s
  obtain ⟨ownership, stream, rfl, hstream⟩ := hs
  exact (h hstream).carried (carries_forward ownership _) (fun hs => hasBearing_live hs ownership)
    (fun _ _ h => h) fun _ _ h => h

/-- **A layer that changes nothing** has the bearing of the stream below. -/
theorem followsBearing [ByteStream ω σ] (h : FollowsBearing ω bearing) :
    FollowsBearing ω (HasBearing bearing) where
  range := by
    intro s x hs
    obtain ⟨ownership, stream, -, hstream⟩ := hs
    exact h.range hstream
  position := by
    intro s x hs
    obtain ⟨layer, w⟩ := s
    obtain ⟨ownership, stream, rfl, hstream⟩ := hs
    exact (carries_forward ownership _).ends_same (h.position hstream)
  length := by
    intro s x hs
    obtain ⟨layer, w⟩ := s
    obtain ⟨ownership, stream, rfl, hstream⟩ := hs
    exact (carries_forward ownership _).eq_ok (h.length hstream)
  setPosition hs target := movesBearing_forward hs fun hs => h.setPosition hs target
  seek hs target := movesBearing_forward hs fun hs => h.seek hs target
  read hs mode room := movesBearing_forward hs fun hs => h.read hs mode room
  readByte hs := movesBearing_forward hs fun hs => h.readByte hs
  placeless hs request hplaceless := by
    cases request with
    | dispose => cases hplaceless
    | _ => exact movesBearing_forward hs fun hs => h.placeless hs _ hplaceless
  mutating hs hranged request hmutates hfits := by
    cases request with
    | dispose => cases hmutates
    | _ => exact movesBearing_forward hs fun hs => h.mutating hs hranged _ hmutates hfits

/-- A request that is declined leaves the layer as it is. -/
theorem movesBearing_decline {bearing : Passthrough σ × ω → Bearing → Prop} {s : Passthrough σ × ω}
    {x : Bearing} (hs : bearing s x) (request : Request) :
    (decline request : StreamM ω (Passthrough σ) α).MovesBearing bearing s (fun _ _ => False)
      fun _ x' => x' = x := by
  apply (ends_decline request s).mono
  · intro _ _ hfalse
    exact hfalse.elim
  · intro _ s' heq
    rw [heq]
    exact ⟨x, rfl, hs⟩

end Passthrough

end Layers

/-! ## Layers over a part -/

section Parts

variable {ω σ α : Type} {bearing : Passthrough σ × ω → Bearing → Prop}

namespace ReadOnly

/-- What is done on the part is carried by the layer. -/
theorem carries_onBase (act : StreamM ω (Passthrough σ) α) :
    StreamM.Carries (fun base => (⟨base⟩ : ReadOnly σ)) act (onBase act) := fun _ _ => rfl

/-- A read-only layer over a part with a bearing. -/
def HasBearing (bearing : Passthrough σ × ω → Bearing → Prop) (s : ReadOnly σ × ω)
    (x : Bearing) : Prop :=
  bearing (s.1.base, s.2) x

theorem movesBearing_onBase {act : StreamM ω (Passthrough σ) α} {s : ReadOnly σ × ω}
    {good : α → Bearing → Prop} {bad : StreamError → Bearing → Prop}
    (h : act.MovesBearing bearing (s.1.base, s.2) good bad) :
    (onBase act).MovesBearing (HasBearing bearing) s good bad :=
  h.carried (carries_onBase act) (fun hs => hs) (fun _ _ h => h) fun _ _ h => h

/-- **A read-only layer** has the bearing of the stream below, and refuses to change it. -/
theorem followsBearing [ByteStream ω σ] (h : FollowsBearing ω bearing) :
    FollowsBearing ω (HasBearing bearing) where
  range hs := h.range hs
  position hs := (carries_onBase _).ends_same (h.position hs)
  length hs := (carries_onBase _).eq_ok (h.length hs)
  setPosition hs target := movesBearing_onBase (h.setPosition hs target)
  seek hs target := movesBearing_onBase (h.seek hs target)
  read hs mode room := movesBearing_onBase (h.read hs mode room)
  readByte hs := movesBearing_onBase (h.readByte hs)
  placeless hs request hplaceless := by
    cases request with
    | flush mode => exact movesBearing_onBase (h.placeless hs (.flush mode) rfl)
    | timeout direction => exact movesBearing_onBase (h.placeless hs (.timeout direction) rfl)
    | setTimeout direction limit =>
      exact movesBearing_onBase (h.placeless hs (.setTimeout direction limit) rfl)
    | _ => cases hplaceless
  mutating {s x} hs hranged request hmutates _ := by
    have hdeclined : (ByteStream.perform request : StreamM ω (ReadOnly σ) request.Answer) =
        onBase (Passthrough.decline request) := perform_of_mutates hmutates
    rw [hdeclined]
    apply (movesBearing_onBase (Passthrough.movesBearing_decline hs request)).mono
    · intro _ _ hfalse
      exact hfalse.elim
    · intro _ x' heq
      rw [heq]
      exact ⟨rfl, hranged, x.floor_le request⟩

end ReadOnly

/-! ## Rebased layers -/

namespace Bearing

/-- The bearing of a layer that counts from the position `start` of the stream below. -/
def rebase (start : Nat) (x : Bearing) : Bearing where
  origin := x.origin + start
  mark := x.mark
  size := x.size - start
  reach := x.reach - start
  level := x.level ∧ (x.size : Int) ≤ x.reach
  ranged := x.ranged ∧ x.origin + start ≤ x.mark
  stops := x.stops

theorem Moved.rebase {mark : Nat} {x x' : Bearing} (h : Moved mark x x') (start : Nat)
    (hmark : x.origin + start ≤ x.mark → x.origin + start ≤ mark) :
    Moved mark (x.rebase start) (x'.rebase start) where
  origin_eq := congrArg (· + start) h.origin_eq
  mark_eq := h.mark_eq
  size_eq := congrArg (· - start) h.size_eq
  reach_eq := congrArg (· - (start : Int)) h.reach_eq
  level_iff := by
    show x'.level ∧ (x'.size : Int) ≤ x'.reach ↔ x.level ∧ (x.size : Int) ≤ x.reach
    rw [h.level_iff, h.size_eq, h.reach_eq]
  ranged hranged hle := by
    refine ⟨h.ranged hranged.1 hle, ?_⟩
    rw [h.origin_eq, h.mark_eq]
    exact hmark hranged.2

theorem Led.rebase {mark : Nat} {x x' : Bearing} (h : Led mark x x') (start : Nat)
    (hmark : x.mark ≤ mark) : Led mark (x.rebase start) (x'.rebase start) where
  origin_eq := congrArg (· + start) h.origin_eq
  mark_eq := h.mark_eq
  ranged hranged := by
    refine ⟨h.ranged hranged.1, ?_⟩
    rw [h.origin_eq, h.mark_eq]
    exact Nat.le_trans hranged.2 hmark

end Bearing

namespace Rebased

variable {s : Rebased σ × ω} {y : Bearing}

/-- A rebased layer over a part with a bearing. -/
def HasBearing (bearing : Passthrough σ × ω → Bearing → Prop) (s : Rebased σ × ω)
    (x : Bearing) : Prop :=
  ∃ y, bearing (s.1.base, s.2) y ∧ x = y.rebase s.1.baseOffset

theorem movesBearing_onBase {act : StreamM ω (Passthrough σ) α} {good good' : α → Bearing → Prop}
    {bad bad' : StreamError → Bearing → Prop}
    (h : act.MovesBearing bearing (s.1.base, s.2) good bad)
    (hgood : ∀ value x, good value x → good' value (x.rebase s.1.baseOffset))
    (hbad : ∀ e x, bad e x → bad' e (x.rebase s.1.baseOffset)) :
    (onBase act).MovesBearing (HasBearing bearing) s good' bad' :=
  h.carried (carries_base s.1.baseOffset act) (fun hs => ⟨_, hs, rfl⟩) hgood hbad

/-- A target of the stream below stands for a target of the layer. Where it leads before the origin,
the layer takes the end for a later place than it is. -/
structure Translates (start : Nat) (y : Bearing) (target below : SeekTarget) : Prop where
  leads : ∀ position, y.Leads (start + position) below → (y.rebase start).Leads position target
  behind : ∀ place, y.Leads place below → place < start →
    Request.isFromEnd (.seek target) = true ∧ ¬ (y.rebase start).level
  fromCurrent : target = .fromCurrent 0 → below = .fromCurrent 0
  fromEnd : Request.isFromEnd (.seek below) = true → Request.isFromEnd (.seek target) = true

variable [ByteStream ω σ]

/-- A target is looked at before the stream below is moved. -/
theorem ends_targetBelow_hasBearing (h : FollowsBearing ω bearing) {base : Passthrough σ}
    {start : Nat} {w : ω}
    (hy : bearing (base, w) y) (target : SeekTarget) :
    (targetBelow target : StreamM ω (Rebased σ) SeekTarget).Ends (⟨base, start⟩, w)
      (fun below s' => Translates start y target below ∧ s' = (⟨base, start⟩, w))
      fun _ s' => (target = .fromCurrent 0 → y.mark < y.origin + start) ∧
        s' = (⟨base, start⟩, w) := by
  cases target with
  | fromStart offset =>
    have hbelow : (targetBelow (.fromStart offset) : StreamM ω (Rebased σ) SeekTarget).Ends
        (⟨base, start⟩, w) (fun below s' => below = .fromStart (offset + start) ∧ s' = _)
        fun _ s' => _ ∧ s' = _ := ends_targetBelow_fromStart rfl offset
    apply hbelow.mono
    · intro below s' hout
      obtain ⟨rfl, rfl⟩ := hout
      refine ⟨⟨?_, ?_, nofun, nofun⟩, rfl⟩
      · intro position hleads
        have hplace : start + position = offset + start := hleads
        show position = offset
        omega
      · intro place hleads hlt
        have hplace : place = offset + start := hleads
        omega
    · intro e s' hout
      exact ⟨nofun, hout.2⟩
  | fromCurrent offset =>
    have hposition := (carries_base start _).ends_same (h.position hy)
    apply StreamM.Ends.bind (hposition.mono (fun _ _ h => h) ?_)
    · intro place s' hout
      obtain ⟨hplace, rfl⟩ := hout
      apply StreamM.Ends.bind ((ends_ensureFromOrigin_mk _).mono (fun _ _ h => h) ?_)
      · intro _ s' hout
        obtain ⟨hle, rfl⟩ := hout
        have hle : (start : Int) ≤ place + offset := hle
        refine ⟨⟨?_, ?_, id, nofun⟩, rfl⟩
        · intro position hleads
          have hleads : ((y.origin + (start + position) : Nat) : Int) = y.mark + offset :=
            hleads
          show ((y.origin + start + position : Nat) : Int) = y.mark + offset
          omega
        · intro there hleads hlt
          have hleads : ((y.origin + there : Nat) : Int) = y.mark + offset := hleads
          omega
      · intro e s' hout
        obtain ⟨hlt, rfl⟩ := hout
        have hlt : (place : Int) + offset < start := hlt
        refine ⟨?_, rfl⟩
        intro htarget
        cases htarget
        omega
    · intro e s' hout
      obtain ⟨hlt, rfl⟩ := hout
      exact ⟨fun _ => Nat.lt_add_right _ hlt, rfl⟩
  | fromEnd offset =>
    have hlength := (carries_base start _).eq_ok (h.length hy)
    apply StreamM.ends_bind_of_eq_ok hlength
    apply StreamM.Ends.bind ((ends_ensureFromOrigin_mk _).mono (fun _ _ h => h) ?_)
    · intro _ s' hout
      obtain ⟨hle, rfl⟩ := hout
      have hle : (start : Int) ≤ y.size + offset := hle
      refine ⟨⟨?_, ?_, nofun, id⟩, rfl⟩
      · intro position hleads
        have hleads : ((start + position : Nat) : Int) = y.reach + offset := hleads
        show (position : Int) = y.reach - start + offset
        omega
      · intro place hleads hlt
        have hleads : (place : Int) = y.reach + offset := hleads
        refine ⟨rfl, ?_⟩
        intro hlevel
        have hlevel : (y.size : Int) ≤ y.reach := hlevel.2
        omega
    · intro e s' hout
      obtain ⟨-, rfl⟩ := hout
      exact ⟨nofun, rfl⟩

/-- The position is counted from the origin, behind which the stream below must stand. -/
theorem ends_position_hasBearing (h : FollowsBearing ω bearing) {base : Passthrough σ} {start : Nat}
    {w : ω}
    (hy : bearing (base, w) y) :
    (ByteStream.position : StreamM ω (Rebased σ) Nat).Ends (⟨base, start⟩, w)
      (fun position s' => y.origin + start + position = y.mark ∧ s' = (⟨base, start⟩, w))
      fun _ s' => y.mark < y.origin + start ∧ s' = (⟨base, start⟩, w) := by
  have hposition := (carries_base start _).ends_same (h.position hy)
  apply StreamM.Ends.bind (hposition.mono (fun _ _ h => h) ?_)
  · intro place s' hout
    obtain ⟨hplace, rfl⟩ := hout
    apply (ends_fromBase_mk place).mono
    · intro position s' hout
      obtain ⟨hposition, rfl⟩ := hout
      exact ⟨by omega, rfl⟩
    · intro e s' hout
      obtain ⟨hlt, rfl⟩ := hout
      exact ⟨by omega, rfl⟩
  · intro e s' hout
    obtain ⟨hlt, rfl⟩ := hout
    exact ⟨Nat.lt_add_right _ hlt, rfl⟩

theorem length_eq_hasBearing (h : FollowsBearing ω bearing) {base : Passthrough σ} {start : Nat}
    {w : ω}
    (hy : bearing (base, w) y) :
    (ByteStream.length : StreamM ω (Rebased σ) Nat) (⟨base, start⟩, w) =
      .ok (y.size - start) (⟨base, start⟩, w) := by
  have hlength := (carries_base start _).eq_ok (h.length hy)
  show (onBase ByteStream.length >>= fun size => StreamM.state >>= fun layer =>
    pure (size - layer.baseOffset)) (_, w) = _
  rw [StreamM.bind_apply, hlength]
  rfl

/-- A place that is no machine word below is out of range there, too. -/
theorem movesBearing_setPosition (h : FollowsBearing ω bearing) {base : Passthrough σ} {start : Nat}
    {w : ω}
    (hy : bearing (base, w) y) (target : Nat) :
    (ByteStream.setPosition target : StreamM ω (Rebased σ) Unit).MovesBearing (HasBearing bearing)
      (⟨base, start⟩, w) (fun _ => (y.rebase start).Moved (y.origin + start + target))
      fun _ x' => maxPosition < y.origin + start + target ∧
        (y.rebase start).Moved (y.rebase start).mark x' := by
  have hsum : y.origin + (target + start) = y.origin + start + target := by omega
  apply StreamM.Ends.bind ((ends_toBase_mk target).mono (fun _ _ h => h) ?_)
  · intro place s' hout
    obtain ⟨rfl, rfl⟩ := hout
    have hset := h.setPosition hy (target + start)
    rw [hsum] at hset
    apply movesBearing_onBase hset
    · intro _ y' hmoved
      exact hmoved.rebase _ fun _ => Nat.le_add_right _ _
    · intro _ y' hout
      exact ⟨hout.1, hout.2.rebase _ id⟩
  · intro e s' hout
    obtain ⟨hword, rfl⟩ := hout
    have hpositions := le_maxWord (Nat.le_refl maxPosition)
    have hfar : maxPosition < y.origin + start + target := by omega
    exact ⟨_, ⟨hfar, Bearing.moved_self _⟩, y, hy, rfl⟩

/-- A seek is made below with the target that was looked at. Only a seek from the end can be refused
after the stream below was moved: to a place before the origin of the layer. -/
theorem movesBearing_seek (h : FollowsBearing ω bearing) {base : Passthrough σ} {start : Nat}
    {w : ω}
    (hy : bearing (base, w) y) (target : SeekTarget) :
    (ByteStream.seek target : StreamM ω (Rebased σ) Nat).MovesBearing (HasBearing bearing)
      (⟨base, start⟩, w)
      (fun position x' => (y.rebase start).Leads position target ∧
        y.origin + start + position ≤ maxPosition ∧
        (y.rebase start).Moved (y.origin + start + position) x')
      fun _ x' => (target = .fromCurrent 0 → y.mark < y.origin + start ∨ maxPosition < y.mark) ∧
        ((Request.isFromEnd (.seek target) = true → (y.rebase start).level) →
          (y.rebase start).Moved (y.rebase start).mark x') := by
  apply StreamM.Ends.bind ((ends_targetBelow_hasBearing h hy target).mono (fun _ _ h => h) ?_)
  · intro below s' hout
    obtain ⟨htranslates, rfl⟩ := hout
    have hseek := (carries_base start _).ends_of (h.seek hy below)
    apply StreamM.Ends.bind (hseek.mono (fun _ _ h => h) ?_)
    · intro place s'' hout
      obtain ⟨_, w'⟩ := s''
      obtain ⟨base', rfl, y', ⟨hleads, hmax, hmoved⟩, hy'⟩ := hout
      apply (ends_fromBase_mk place).mono
      · intro position s'' hout
        obtain ⟨rfl, rfl⟩ := hout
        rw [← Nat.add_assoc] at hmax hmoved
        refine ⟨_, ⟨htranslates.leads position hleads, hmax, ?_⟩, y', hy', rfl⟩
        exact hmoved.rebase _ fun _ => Nat.le_add_right _ _
      · intro e s'' hout
        obtain ⟨hlt, rfl⟩ := hout
        obtain ⟨hend, hlevel⟩ := htranslates.behind place hleads hlt
        refine ⟨_, ⟨?_, fun hall => absurd (hall hend) hlevel⟩, y', hy', rfl⟩
        intro htarget
        rw [htarget] at hend
        cases hend
    · intro e s'' hout
      obtain ⟨_, w'⟩ := s''
      obtain ⟨base', rfl, y', ⟨hhere, hmoved⟩, hy'⟩ := hout
      refine ⟨_, ⟨?_, ?_⟩, y', hy', rfl⟩
      · intro htarget
        exact (hhere (htranslates.fromCurrent htarget)).imp_left fun hlt => Nat.lt_add_right _ hlt
      · intro hlevel
        exact (hmoved fun hend => (hlevel (htranslates.fromEnd hend)).1).rebase _ id
  · intro e s' hout
    obtain ⟨hbefore, rfl⟩ := hout
    exact ⟨_, ⟨fun htarget => .inl (hbefore htarget), fun _ => Bearing.moved_self _⟩, y, hy, rfl⟩

/-- A change of the part that takes it no further back than the origin leaves the layer in range. -/
theorem movesBearing_onBase_mutating (h : FollowsBearing ω bearing) {base : Passthrough σ}
    {start : Nat} {w : ω}
    (hy : bearing (base, w) y) (hranged : y.ranged) {request : Request}
    (hmutates : request.mutates = true) (hfits : y.Fits request)
    (hfloor : y.origin + start ≤ y.floor request) :
    (onBase (ByteStream.perform request) : StreamM ω (Rebased σ) request.Answer).MovesBearing
      (HasBearing bearing) (⟨base, start⟩, w)
      (fun _ x' => x'.origin = y.origin + start ∧ x'.ranged ∧ y.floor request ≤ x'.mark)
      fun _ x' => x'.origin = y.origin + start ∧ x'.ranged ∧ y.floor request ≤ x'.mark := by
  have hturned : ∀ y' : Bearing,
      y'.origin = y.origin ∧ y'.ranged ∧ y.floor request ≤ y'.mark →
      (y'.rebase start).origin = y.origin + start ∧
        (y'.rebase start).ranged ∧ y.floor request ≤ (y'.rebase start).mark := by
    intro y' hy'
    obtain ⟨horigin', hranged', hmark⟩ := hy'
    refine ⟨congrArg (· + start) horigin', ⟨hranged', ?_⟩, hmark⟩
    rw [horigin']
    exact Nat.le_trans hfloor hmark
  exact movesBearing_onBase (h.mutating hy hranged request hmutates hfits) (fun _ => hturned)
    fun _ => hturned

theorem movesBearing_mutating (h : FollowsBearing ω bearing) {base : Passthrough σ} {start : Nat}
    {w : ω}
    (hy : bearing (base, w) y) (hranged : (y.rebase start).ranged) {request : Request}
    (hmutates : request.mutates = true) (hfits : (y.rebase start).Fits request) :
    (ByteStream.perform request : StreamM ω (Rebased σ) request.Answer).MovesBearing
      (HasBearing bearing)
      (⟨base, start⟩, w)
      (fun _ x' => x'.origin = y.origin + start ∧ x'.ranged ∧
        (y.rebase start).floor request ≤ x'.mark)
      fun _ x' => x'.origin = y.origin + start ∧ x'.ranged ∧
        (y.rebase start).floor request ≤ x'.mark := by
  obtain ⟨hbelow, horigin⟩ : y.ranged ∧ y.origin + start ≤ y.mark := hranged
  cases request with
  | setLength size =>
    have hfloor : y.floor (.setLength (size + start)) =
        (y.rebase start).floor (.setLength size) := by
      show min y.mark (y.origin + (size + start)) = min y.mark (y.origin + start + size)
      omega
    have hfar : y.origin + start ≤ y.floor (.setLength (size + start)) := by
      show _ ≤ min y.mark (y.origin + (size + start))
      omega
    have hset := movesBearing_onBase_mutating h hy hbelow
      (show (Request.setLength (size + start)).mutates = true from rfl) trivial hfar
    rw [hfloor] at hset
    apply StreamM.Ends.bind ((ends_toBase_mk size).mono (fun _ _ h => h) ?_)
    · intro place s' hout
      obtain ⟨rfl, rfl⟩ := hout
      exact hset
    · intro e s' hout
      obtain ⟨-, rfl⟩ := hout
      have hself : HasBearing bearing (⟨base, start⟩, w) (y.rebase start) := ⟨y, hy, rfl⟩
      exact ⟨y.rebase start, ⟨rfl, ⟨hbelow, horigin⟩, Bearing.floor_le _ _⟩, hself⟩
  | write mode data => exact movesBearing_onBase_mutating h hy hbelow hmutates hfits horigin
  | writeByte byte => exact movesBearing_onBase_mutating h hy hbelow hmutates hfits horigin
  | _ => cases hmutates

/-- **A rebased layer** adds to the origin what it counts from. -/
theorem followsBearing (h : FollowsBearing ω bearing) : FollowsBearing ω (HasBearing bearing) where
  range := by
    intro ⟨⟨base, start⟩, w⟩ x ⟨y, hy, hx⟩ hranged
    subst hx
    exact ⟨hranged.2, (h.range hy hranged.1).2⟩
  position := by
    intro ⟨⟨base, start⟩, w⟩ x ⟨y, hy, hx⟩
    subst hx
    exact ends_position_hasBearing h hy
  length := by
    intro ⟨⟨base, start⟩, w⟩ x ⟨y, hy, hx⟩
    subst hx
    exact length_eq_hasBearing h hy
  setPosition := by
    intro ⟨⟨base, start⟩, w⟩ x ⟨y, hy, hx⟩ target
    subst hx
    exact movesBearing_setPosition h hy target
  seek := by
    intro ⟨⟨base, start⟩, w⟩ x ⟨y, hy, hx⟩ target
    subst hx
    exact movesBearing_seek h hy target
  read := by
    intro ⟨⟨base, start⟩, w⟩ x ⟨y, hy, hx⟩ mode room
    subst hx
    exact movesBearing_onBase (h.read hy mode room)
      (fun _ _ hled => hled.rebase _ (Nat.le_add_right _ _))
      fun _ _ hled => hled.rebase _ (Nat.le_refl _)
  readByte := by
    intro ⟨⟨base, start⟩, w⟩ x ⟨y, hy, hx⟩
    subst hx
    exact movesBearing_onBase (h.readByte hy) (fun _ _ hled => hled.rebase _ (Nat.le_add_right _ _))
      fun _ _ hled => hled.rebase _ (Nat.le_refl _)
  placeless := by
    intro ⟨⟨base, start⟩, w⟩ x ⟨y, hy, hx⟩ request hplaceless
    subst hx
    have hpassed := movesBearing_onBase (h.placeless hy request hplaceless)
      (fun _ _ hled => hled.rebase _ (Nat.le_refl _)) fun _ _ hled => hled.rebase _ (Nat.le_refl _)
    cases request with
    | flush mode => exact hpassed
    | timeout direction => exact hpassed
    | setTimeout direction limit => exact hpassed
    | _ => cases hplaceless
  mutating := by
    intro ⟨⟨base, start⟩, w⟩ x ⟨y, hy, hx⟩ hranged request hmutates hfits
    subst hx
    exact movesBearing_mutating h hy hranged hmutates hfits

end Rebased

end Parts

end LayeredStreams
