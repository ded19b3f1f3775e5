import LayeredStreams.Proofs.StackBearings

/-!
# Stacks in range

A stack stays in range, with all its cursors and its end, as long as it is asked for no place out of
range.

* `Bearing.AsksInRange` — the requests that ask for no place out of range.
* `Ranged` — a stream whose cursors are in range.
* `Stack.Rules.inRange` — stacks that are asked for nothing out of range.

Principal results: `FollowsBearing.ends_asksInRange` (one request), `Wrapping.ends_wrap_ranged` (a
layer is made in range where the stream below is in range) and `Stack.Reached.ranged` (a whole run).
-/

set_option autoImplicit false

namespace LayeredStreams

section Layers

variable {ω σ : Type} {bearing : σ × ω → Bearing → Prop}

/-! ## Requests for places in range -/

/-- A request that asks for no place out of range, of a stream with that bearing. -/
def Bearing.AsksInRange (x : Bearing) : Request → Prop
  | .setPosition target => x.origin + target ≤ maxPosition
  | .seek (.fromEnd _) => x.level
  | .dispose => False
  | request => x.Fits request

/-- A stream whose cursors are in range. -/
def Ranged (bearing : σ × ω → Bearing → Prop) (s : σ × ω) : Prop := ∃ x, bearing s x ∧ x.ranged

theorem StreamM.MovesBearing.ends_ranged {α : Type} {act : StreamM ω σ α} {s : σ × ω}
    {good : α → Bearing → Prop} {bad : StreamError → Bearing → Prop}
    (h : act.MovesBearing bearing s good bad) (hgood : ∀ value x, good value x → x.ranged)
    (hbad : ∀ e x, bad e x → x.ranged) :
    act.Ends s (fun _ => Ranged bearing) fun _ => Ranged bearing := by
  apply StreamM.Ends.mono h
  · intro value s' hout
    obtain ⟨x, hx, hs'⟩ := hout
    exact ⟨x, hs', hgood value x hx⟩
  · intro e s' hout
    obtain ⟨x, hx, hs'⟩ := hout
    exact ⟨x, hs', hbad e x hx⟩

section Runs

variable [ByteStream ω σ] {s : σ × ω} {x : Bearing}

/-- A seek that is let through leads to a place in range, and one that is refused leads nowhere. -/
theorem FollowsBearing.ends_seek_ranged (h : FollowsBearing ω bearing) (hs : bearing s x)
    (hranged : x.ranged)
    {target : SeekTarget} (hlevel : Request.isFromEnd (.seek target) = true → x.level) :
    (ByteStream.seek target : StreamM ω σ Nat).Ends s (fun _ => Ranged bearing)
      fun _ => Ranged bearing := by
  apply (h.seek hs target).ends_ranged
  · intro _ x' hout
    exact hout.2.2.ranged hranged hout.2.1
  · intro _ x' hout
    exact (hout.2 hlevel).ranged hranged (h.range hs hranged).2

/-- **What asks for no place out of range leaves the cursors in range**, whatever comes of it. -/
theorem FollowsBearing.ends_asksInRange (h : FollowsBearing ω bearing) (hs : bearing s x)
    (hranged : x.ranged)
    {request : Request} (hasks : x.AsksInRange request) :
    (ByteStream.perform request : StreamM ω σ request.Answer).Ends s (fun _ => Ranged bearing)
      fun _ => Ranged bearing := by
  have hrange := h.range hs hranged
  have hled : ∀ {α : Type} {act : StreamM ω σ α} {mark : α → Nat},
      act.MovesBearing bearing s (fun value => x.Led (mark value)) (fun _ => x.Led x.mark) →
        act.Ends s (fun _ => Ranged bearing) fun _ => Ranged bearing := fun hmoves =>
    hmoves.ends_ranged (fun _ _ hled => hled.ranged hranged) fun _ _ hled => hled.ranged hranged
  have hmutating : request.mutates = true → x.Fits request →
      (ByteStream.perform request : StreamM ω σ request.Answer).Ends s (fun _ => Ranged bearing)
        fun _ => Ranged bearing := fun hmutates hfits =>
    (h.mutating hs hranged request hmutates hfits).ends_ranged (fun _ _ hout => hout.2.1)
      fun _ _ hout => hout.2.1
  cases request with
  | position =>
    apply (h.position hs).mono
    · intro _ s' hout
      exact ⟨x, hout.2 ▸ hs, hranged⟩
    · intro _ s' hout
      exact ⟨x, hout.2 ▸ hs, hranged⟩
  | setPosition target =>
    apply (h.setPosition hs target).ends_ranged
    · intro _ x' hmoved
      exact hmoved.ranged hranged hasks
    · intro _ x' hout
      exact hout.2.ranged hranged hrange.2
  | length => exact StreamM.ends_of_eq_ok (h.length hs) ⟨x, hs, hranged⟩
  | setLength size => exact hmutating rfl hasks
  | seek target =>
    cases target with
    | fromEnd offset => exact h.ends_seek_ranged hs hranged fun _ => hasks
    | fromStart offset => exact h.ends_seek_ranged hs hranged nofun
    | fromCurrent offset => exact h.ends_seek_ranged hs hranged nofun
  | read mode room => exact hled (h.read hs mode room)
  | readByte => exact hled (h.readByte hs)
  | write mode data => exact hmutating rfl hasks
  | writeByte byte => exact hmutating rfl hasks
  | flush mode => exact hled (h.placeless hs (.flush mode) rfl)
  | timeout direction => exact hled (h.placeless hs (.timeout direction) rfl)
  | setTimeout direction limit => exact hled (h.placeless hs (.setTimeout direction limit) rfl)
  | dispose => exact hasks.elim

/-! ## Layers that are made -/

theorem Rebased.ends_wrap_ranged (h : FollowsBearing ω bearing) (hs : Ranged bearing s)
    (ownership : Ownership) :
    (Rebased.wrap ownership : StreamM ω σ _).Ends s
      (fun layer s' => Ranged (Rebased.HasBearing (Passthrough.HasBearing bearing)) (layer, s'.2))
      fun _ => Ranged bearing := by
  obtain ⟨x, hs, hranged⟩ := hs
  apply StreamM.Ends.bind ((h.position hs).mono (fun _ _ h => h) ?_)
  · intro place s' hout
    obtain ⟨hplace, rfl⟩ := hout
    apply StreamM.ends_state_bind
    exact StreamM.ends_pure ⟨_, ⟨x, Passthrough.hasBearing_live hs ownership, rfl⟩, hranged,
      Nat.le_of_eq hplace⟩
  · intro e s' hout
    obtain ⟨-, rfl⟩ := hout
    exact ⟨x, hs, hranged⟩

theorem Truncated.ends_wrap_ranged (h : FollowsBearing ω bearing) (hs : Ranged bearing s)
    (maxLength : Nat)
    (ownership : Ownership) :
    (Truncated.wrap maxLength ownership : StreamM ω σ _).Ends s
      (fun layer s' => Ranged (Truncated.HasBearing (Passthrough.HasBearing bearing)) (layer, s'.2))
      fun _ => Ranged bearing := by
  obtain ⟨x, hs, hranged⟩ := hs
  unfold Truncated.wrap
  split
  · exact ⟨x, hs, hranged⟩
  apply StreamM.Ends.bind ((h.position hs).mono (fun _ _ h => h) ?_)
  · intro place s' hout
    obtain ⟨hplace, rfl⟩ := hout
    apply StreamM.ends_state_bind
    exact StreamM.ends_pure ⟨_, ⟨x, Passthrough.hasBearing_live hs ownership, rfl⟩, hranged, hplace⟩
  · intro e s' hout
    obtain ⟨-, rfl⟩ := hout
    exact ⟨x, hs, hranged⟩

theorem Cached.ends_wrap_ranged (h : FollowsBearing ω bearing) (hs : Ranged bearing s)
    (ownership : Ownership) :
    (Cached.wrap ownership : StreamM ω σ _).Ends s
      (fun layer s' => Ranged (Cached.HasBearing (Passthrough.HasBearing bearing)) (layer, s'.2))
      fun _ => Ranged bearing := by
  obtain ⟨x, hs, hranged⟩ := hs
  apply StreamM.Ends.bind ((h.position hs).mono (fun _ _ h => h) ?_)
  · intro place s' hout
    obtain ⟨hplace, rfl⟩ := hout
    apply StreamM.ends_state_bind
    have hcursor : x.origin + place ≤ maxPosition := hplace ▸ (h.range hs hranged).2
    exact StreamM.ends_pure ⟨_, ⟨x, Passthrough.hasBearing_live hs ownership, rfl⟩, hranged,
      hcursor,
      BlockCache.endsBy_empty maxPosition x.origin⟩
  · intro e s' hout
    obtain ⟨-, rfl⟩ := hout
    exact ⟨x, hs, hranged⟩

omit [ByteStream ω σ] in
theorem Passthrough.ranged_of_get? {layer : Passthrough σ} {w : ω} {below : σ}
    (h : Ranged (HasBearing bearing) (layer, w)) (hget : layer.slot.get? = some below) :
    Ranged bearing (below, w) := by
  obtain ⟨x, ⟨ownership, stream, rfl, hstream⟩, hranged⟩ := h
  cases hget
  exact ⟨x, hstream, hranged⟩

omit [ByteStream ω σ] in
theorem Rebased.ranged_of_get? {layer : Rebased σ} {w : ω} {below : σ}
    (h : Ranged (HasBearing (Passthrough.HasBearing bearing)) (layer, w))
    (hget : layer.base.slot.get? = some below) : Ranged bearing (below, w) := by
  obtain ⟨_, ⟨y, hy, rfl⟩, hranged⟩ := h
  exact Passthrough.ranged_of_get? ⟨y, hy, hranged.1⟩ hget

omit [ByteStream ω σ] in
theorem Truncated.ranged_of_get? {layer : Truncated σ} {w : ω} {below : σ}
    (h : Ranged (HasBearing (Passthrough.HasBearing bearing)) (layer, w))
    (hget : layer.base.slot.get? = some below) : Ranged bearing (below, w) := by
  obtain ⟨_, ⟨y, hy, rfl⟩, hranged⟩ := h
  exact Passthrough.ranged_of_get? ⟨y, hy, hranged.1⟩ hget

omit [ByteStream ω σ] in
theorem Window.ranged_of_stream? {window : Window σ} {w : ω} {stream : σ}
    (h : Ranged (HasBearing bearing) (window, w)) (hstream : window.stream? = some stream) :
    Ranged bearing (stream, w) := by
  cases window with
  | unwrapped _ =>
    cases hstream
    exact h
  | rebased layer => exact Rebased.ranged_of_get? h hstream
  | truncated layer => exact Truncated.ranged_of_get? h hstream
  | rebasedTruncated layer =>
    obtain ⟨inner, hinner, hstream⟩ := Option.bind_eq_some_iff.mp hstream
    exact Rebased.ranged_of_get? (Truncated.ranged_of_get? h hinner) hstream

omit [ByteStream ω σ] in
/-- What lies below a layer whose cursors are in range is in range, too. -/
theorem LayerKind.ranged_below {kind : LayerKind} {s : kind.Over σ × ω} {below : σ}
    (h : Ranged (kind.HasBearing bearing) s) (hbelow : kind.below? s.1 = some below) :
    Ranged bearing (below, s.2) := by
  cases kind with
  | passthrough => exact Passthrough.ranged_of_get? h hbelow
  | rebased => exact Rebased.ranged_of_get? h hbelow
  | truncated => exact Truncated.ranged_of_get? h hbelow
  | readOnly => exact Passthrough.ranged_of_get? h hbelow
  | cached =>
    obtain ⟨_, ⟨y, hy, rfl⟩, hranged⟩ := h
    exact Passthrough.ranged_of_get? ⟨y, hy, hranged.1⟩ hbelow
  | window => exact Window.ranged_of_stream? h hbelow

theorem Window.ends_truncate_ranged (h : FollowsBearing ω bearing) {layer : Rebased σ}
    (hlayer : Ranged (Rebased.HasBearing (Passthrough.HasBearing bearing)) (layer, s.2))
    (size : Nat) :
    (truncate layer size : StreamM ω σ _).Ends s
      (fun layer' s' => Ranged (HasBearing bearing) (.rebasedTruncated layer', s'.2))
      fun _ => Ranged bearing := by
  have hfollows := Rebased.followsBearing (Passthrough.followsBearing h)
  have hmade := Truncated.ends_wrap_ranged hfollows hlayer size .owns
  apply (StreamM.Ends.within hmade).mono
  · intro layer' s' hout
    obtain ⟨part, hlayer', -⟩ := hout
    exact hlayer'
  · intro e s' hout
    obtain ⟨stream', w'⟩ := s'
    obtain ⟨part, ⟨x, ⟨y, ⟨ownership, stream, hbase, hstream⟩, rfl⟩, hranged⟩, rfl⟩ := hout
    have hpart : part.base = ⟨.live stream, ownership⟩ := hbase
    rw [hpart]
    exact ⟨y, hstream, hranged.1⟩

theorem Window.ends_ofPart_ranged (h : FollowsBearing ω bearing) (hs : Ranged bearing s)
    (offset : Nat)
    (size : Option Nat) (ownership : Ownership) :
    (ofPart offset size ownership : StreamM ω σ _).Ends s
      (fun window s' => Ranged (HasBearing bearing) (window, s'.2)) fun _ => Ranged bearing := by
  cases offset with
  | zero =>
    cases size with
    | none => exact StreamM.ends_state_bind (StreamM.ends_pure hs)
    | some size =>
      apply StreamM.Ends.bind (Truncated.ends_wrap_ranged h hs size ownership)
      intro layer s' hlayer
      exact StreamM.ends_pure hlayer
  | succ offset =>
    obtain ⟨x, hs, hranged⟩ := hs
    have hseek := h.ends_seek_ranged hs hranged
      (show Request.isFromEnd (.seek (.fromStart (offset + 1))) = true → x.level from nofun)
    apply StreamM.Ends.bind hseek
    intro _ s₁ hs₁
    apply StreamM.Ends.bind (Rebased.ends_wrap_ranged h hs₁ ownership)
    intro layer s₂ hlayer
    cases size with
    | none => exact StreamM.ends_pure hlayer
    | some size =>
      apply StreamM.Ends.bind (Window.ends_truncate_ranged h hlayer size)
      intro layer' s₃ hlayer'
      exact StreamM.ends_pure hlayer'

/-- **A layer is made in range** where the stream below is in range, and where none is made the
stream stays in range. -/
theorem Wrapping.ends_wrap_ranged [Cancellation ω] (h : FollowsBearing ω bearing)
    (hs : Ranged bearing s) :
    ∀ wrapping : Wrapping, (wrapping.wrap : StreamM ω σ (wrapping.kind.Over σ)).Ends s
      (fun layer s' => Ranged (wrapping.kind.HasBearing bearing) (layer, s'.2))
      fun _ => Ranged bearing
  | passthrough ownership => by
    obtain ⟨x, hs, hranged⟩ := hs
    exact StreamM.ends_state_bind
      (StreamM.ends_pure ⟨x, Passthrough.hasBearing_live hs ownership, hranged⟩)
  | rebased ownership => Rebased.ends_wrap_ranged h hs ownership
  | truncated maxLength ownership => Truncated.ends_wrap_ranged h hs maxLength ownership
  | readOnly => by
    obtain ⟨x, hs, hranged⟩ := hs
    exact StreamM.ends_state_bind
      (StreamM.ends_pure ⟨x, Passthrough.hasBearing_live hs .borrows, hranged⟩)
  | cached ownership => Cached.ends_wrap_ranged h hs ownership
  | window offset size ownership => Window.ends_ofPart_ranged h hs offset size ownership

end Runs

end Layers

namespace Stack

variable {ω β : Type} {stands : β × ω → Bearing → Prop}

/-- Stacks that are asked for nothing out of range, unless they refuse to be moved there, and on
which layers are put and taken off. -/
def Rules.inRange [Cancellation ω] [ByteStream ω β] (stands : β × ω → Bearing → Prop) : Rules ω β :=
  .permitting fun kinds s step =>
    match step with
    | .ask request => (∀ x, HasBearing stands kinds s x → x.AsksInRange request) ∨
        ∃ target e s', request = .setPosition target ∧
          (ByteStream.setPosition target : StreamM ω (Stack kinds β) Unit) s = .error e s'
    | .wrap _ | .unwrap => True
    | .change _ => False

/-- **A stack that is asked for nothing out of range stays in range.** -/
theorem Reached.ranged [Cancellation ω] [ByteStream ω β] (base : FollowsBearing ω stands)
    {kinds : List LayerKind} {s : Stack kinds β × ω}
    (h : Reached (.inRange stands) (Ranged stands) kinds s) :
    Ranged (HasBearing stands kinds) s := by
  have hkeeps : (Rules.inRange stands).Keeps fun kinds => Ranged (HasBearing stands kinds) := {
    ask := by
      rintro kinds s request ⟨x, hs, hranged⟩ (hasks | ⟨target, e, s', rfl, hrefused⟩)
      · exact (followsBearing base _).ends_asksInRange hs hranged (hasks x hs)
      · -- a stack that refuses to be moved stays where it is
        obtain ⟨x', ⟨-, hmoved⟩, hs'⟩ :=
          ((followsBearing base _).setPosition hs _).of_eq_error hrefused
        refine StreamM.ends_of_eq_error hrefused ⟨x', hs', ?_⟩
        exact hmoved.ranged hranged ((followsBearing base _).range hs hranged).2
    change := fun _ hpermits => hpermits.elim
    wrap := fun {_ _ wrapping} hs _ => wrapping.ends_wrap_ranged (followsBearing base _) hs
    unwrap := fun hs _ hbelow => LayerKind.ranged_below hs hbelow }
  exact h.keeps hkeeps fun _ hs => hs

end Stack

end LayeredStreams
