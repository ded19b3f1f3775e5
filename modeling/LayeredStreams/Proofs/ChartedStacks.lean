import LayeredStreams.Proofs.ChartedCaches

/-!
# Charts of stacks

A stack lies on some chart in every state in which it can be, if at most one of its layers keeps
blocks or it is not sent out of range. A cached layer out of range refuses to be sought from there,
and so one that lies over it cannot load.

* `Care` — one of the two ways to take care of cached layers.
* `Chart.Permits` — the requests that may be made of a stream that lies at a place.
* `LayerKind.Lies`, `Stack.Lies` — open layers and stacks, lying on a chart.
* `Stack.Rules.onCharts` — stacks that are used with care for their cached layers.

Principal results: `Stack.followsChart_and_finds` (a stack answers as its chart says),
`FollowsChart.ends_permitted` (whatever comes of a request, a stream lies on some chart afterwards),
`Wrapping.ends_wrap_charted` (so does a layer that is put over it) and `Stack.Reached.charted` (a
whole run).
-/

set_option autoImplicit false

namespace LayeredStreams

/-- How care is taken that what is below a cached layer can be sought. -/
inductive Care
  /-- At most one layer keeps blocks. -/
  | oneCache
  /-- No stream is sent out of range. -/
  | inRange
  deriving DecidableEq, Repr

namespace Care

/-- The places to which a stream may be sent. -/
def Admits : Care → Nat → Prop
  | oneCache, _ => True
  | inRange, place => place ≤ maxPosition

/-- The kinds of layers of which a stack may consist. -/
def Allows : Care → List LayerKind → Prop
  | oneCache, kinds => kinds.count .cached ≤ 1
  | inRange, _ => True

/-- The kinds of layers over which one may be put that keeps blocks. -/
def AllowsCache : Care → List LayerKind → Prop
  | oneCache, kinds => .cached ∉ kinds
  | inRange, _ => True

theorem admits_of_le (care : Care) {place : Nat} (h : place ≤ maxPosition) : care.Admits place := by
  cases care with
  | oneCache => exact trivial
  | inRange => exact h

theorem allowsCache_nil (care : Care) : care.AllowsCache [] := by
  cases care with
  | oneCache => exact List.not_mem_nil
  | inRange => exact trivial

variable {care : Care} {kind : LayerKind} {kinds : List LayerKind}

theorem Allows.tail (h : care.Allows (kind :: kinds)) : care.Allows kinds := by
  cases care with
  | oneCache => exact Nat.le_trans List.count_le_count_cons h
  | inRange => exact trivial

theorem AllowsCache.allows (h : care.AllowsCache kinds) : care.Allows kinds := by
  cases care with
  | oneCache =>
    show kinds.count .cached ≤ 1
    rw [List.count_eq_zero_of_not_mem h]
    exact Nat.zero_le 1
  | inRange => exact trivial

theorem AllowsCache.tail (h : care.AllowsCache (kind :: kinds)) : care.AllowsCache kinds := by
  cases care with
  | oneCache => exact fun hmem => h (List.mem_cons_of_mem kind hmem)
  | inRange => exact trivial

/-- Under a cached layer another may be put only where no stream is sent out of range. -/
theorem Allows.allowsCache (h : care.Allows (.cached :: kinds)) : care.AllowsCache kinds := by
  cases care with
  | oneCache =>
    have h : (LayerKind.cached :: kinds).count .cached ≤ 1 := h
    rw [List.count_cons_self] at h
    exact List.count_eq_zero.mp (by omega)
  | inRange => exact trivial

theorem AllowsCache.range (h : care.AllowsCache (.cached :: kinds)) {place : Nat}
    (hadmits : care.Admits place) : place ≤ maxPosition := by
  cases care with
  | oneCache => exact absurd List.mem_cons_self h
  | inRange => exact hadmits

end Care

/-! ## Requests that are permitted -/

/-- The requests that may be made of a stream that lies at a place: it is sent to no place that is
not admitted, and not disposed. -/
def Chart.Permits (admits : Nat → Prop) (x : Chart) (place : Nat) : Request → Prop
  | .setPosition target => x.setPosition target = .ok () → admits (x.origin + target)
  | .dispose => False
  | request => request.FitsAt place

section Streams

variable {ω σ : Type} {admits : Nat → Prop} {lies : σ → Chart → Nat → Prop}

theorem StreamM.Moves.ends_charted {α : Type} {act : StreamM ω σ α} {s : σ × ω} {x : Chart} {w : ω}
    {good : α → Nat → Prop} {bad : StreamError → Nat → Prop}
    (h : act.Moves (LiesIn lies x w) s good bad) :
    act.Ends s (fun _ => Charted lies) fun _ => Charted lies := by
  apply StreamM.Ends.mono h
  · intro _ _ hout
    obtain ⟨q, -, hliesIn⟩ := hout
    exact ⟨x, q, hliesIn.1⟩
  · intro _ _ hout
    obtain ⟨q, -, hliesIn⟩ := hout
    exact ⟨x, q, hliesIn.1⟩

section Requests

variable [Cancellation ω] [ByteStream ω σ] {stream : σ} {x : Chart} {place : Nat} {w : ω}

theorem FollowsChart.moves_position (h : FollowsChart ω admits lies) (hlies : lies stream x place) :
    (ByteStream.position : StreamM ω σ Nat).Moves (LiesIn lies x w) (stream, w)
      (fun there q => x.position place = .ok there ∧ q = place)
      fun e q => x.position place = .error e ∧ q = place := by
  unfold StreamM.Moves StreamM.Ends
  rw [h.position hlies w]
  cases x.position place with
  | ok there => exact ⟨place, ⟨rfl, rfl⟩, hlies, rfl⟩
  | error e => exact ⟨place, ⟨rfl, rfl⟩, hlies, rfl⟩

/-- **Whatever comes of a request that is permitted**, a stream lies on some chart afterwards. -/
theorem FollowsChart.ends_permitted (h : FollowsChart ω admits lies) (hlies : lies stream x place)
    {request : Request} (hpermits : x.Permits admits place request) :
    (ByteStream.perform request : StreamM ω σ request.Answer).Ends (stream, w)
      (fun _ => Charted lies) fun _ => Charted lies := by
  have hself : Charted lies (stream, w) := ⟨x, place, hlies⟩
  have hplaceless : request.isPlaceless = true →
      (ByteStream.perform request : StreamM ω σ request.Answer).Ends (stream, w)
        (fun _ => Charted lies) fun _ => Charted lies := fun hplaceless =>
    (h.placeless hlies request hplaceless w).mono (fun _ _ hlies => ⟨x, place, hlies⟩)
      fun _ _ hlies => ⟨x, place, hlies⟩
  cases request with
  | position => exact (h.moves_position hlies).ends_charted
  | setPosition target => exact (h.setPosition hlies target hpermits w).ends_charted
  | length => exact StreamM.ends_of_eq_ok (h.length hlies w) hself
  | setLength size => exact h.mutating hlies (.setLength size) rfl hpermits w
  | seek target => exact (h.seek hlies target w).ends_charted
  | read mode room => exact (h.read hlies mode room w).ends_charted
  | readByte => exact (h.readByte hlies w).ends_charted
  | write mode data => exact h.mutating hlies (.write mode data) rfl hpermits w
  | writeByte byte => exact h.mutating hlies (.writeByte byte) rfl hpermits w
  | flush mode => exact hplaceless rfl
  | timeout direction => exact hplaceless rfl
  | setTimeout direction limit => exact hplaceless rfl
  | dispose => exact hpermits.elim

end Requests

/-! ## Layers of every kind -/

namespace LayerKind

/-- An open layer of a kind, lying on a chart. -/
def Lies (admits : Nat → Prop) (lies : σ → Chart → Nat → Prop) :
    (kind : LayerKind) → kind.Over σ → Chart → Nat → Prop
  | passthrough => Passthrough.Lies lies
  | rebased => Rebased.Lies (Passthrough.Lies lies)
  | truncated => Truncated.Lies (Passthrough.Lies lies)
  | readOnly => ReadOnly.Lies (Passthrough.Lies lies)
  | cached => Cached.Lies admits lies
  | window => Window.Lies lies

variable [Cancellation ω] [ByteStream ω σ]

/-- A layer of any kind answers as its chart says, if the stream below does. One that keeps blocks
asks more of it. -/
theorem followsChart (hmax : ∀ place, place ≤ maxPosition → admits place)
    (h : FollowsChart ω admits lies) (kind : LayerKind) (hfinds : kind = .cached → Finds lies) :
    FollowsChart ω admits (kind.Lies admits lies) := by
  cases kind with
  | passthrough => exact Passthrough.followsChart h
  | rebased => exact Rebased.followsChart (Passthrough.followsChart h)
  | truncated =>
    exact Truncated.followsChart (Passthrough.followsChart h) Passthrough.ensureOpen_of_lies
  | readOnly => exact ReadOnly.followsChart (Passthrough.followsChart h)
  | cached => exact Cached.followsChart hmax h (hfinds rfl)
  | window => exact Window.followsChart h

theorem finds [Nonempty ω] (h : FollowsChart ω admits lies) (hfinds : Finds lies) (kind : LayerKind)
    (hrange : kind = .cached → ∀ place, admits place → place ≤ maxPosition) :
    Finds (kind.Lies admits lies) := by
  cases kind with
  | passthrough => exact Passthrough.finds hfinds
  | rebased => exact Rebased.finds (Passthrough.followsChart h) (Passthrough.finds hfinds)
  | truncated => exact Truncated.finds (Passthrough.finds hfinds)
  | readOnly => exact ReadOnly.finds (Passthrough.finds hfinds)
  | cached => exact Cached.finds (hrange rfl) h hfinds
  | window => exact Window.finds h hfinds

end LayerKind

/-! ## Layers that are taken off -/

theorem Passthrough.charted_of_get? {layer : Passthrough σ} {x : Chart} {place : Nat} {below : σ}
    (h : Lies lies layer x place) (hget : layer.slot.get? = some below) : lies below x place := by
  obtain ⟨ownership, stream, rfl, hstream⟩ := h
  cases hget
  exact hstream

theorem Window.charted_of_stream? {window : Window σ} {w : ω} {stream : σ}
    (h : Charted (Lies lies) (window, w)) (hstream : window.stream? = some stream) :
    Charted lies (stream, w) := by
  obtain ⟨x, place, hlies⟩ := h
  cases window with
  | unwrapped _ =>
    cases hstream
    exact ⟨x, place, hlies⟩
  | rebased layer =>
    obtain ⟨y, hy, -⟩ := hlies
    exact ⟨_, _, Passthrough.charted_of_get? hy hstream⟩
  | truncated layer =>
    obtain ⟨y, hy, -⟩ := hlies
    exact ⟨_, _, Passthrough.charted_of_get? hy hstream⟩
  | rebasedTruncated layer =>
    obtain ⟨inner, hinner, hstream⟩ := Option.bind_eq_some_iff.mp hstream
    obtain ⟨y, hy, -⟩ := hlies
    obtain ⟨y', hy', -⟩ := Passthrough.charted_of_get? hy hinner
    exact ⟨_, _, Passthrough.charted_of_get? hy' hstream⟩

/-- What lies below a layer lies on some chart. -/
theorem LayerKind.charted_below {kind : LayerKind} {s : kind.Over σ × ω} {below : σ}
    (h : Charted (kind.Lies admits lies) s) (hbelow : kind.below? s.1 = some below) :
    Charted lies (below, s.2) := by
  obtain ⟨x, place, hlies⟩ := h
  cases kind with
  | passthrough => exact ⟨_, _, Passthrough.charted_of_get? hlies hbelow⟩
  | rebased =>
    obtain ⟨y, hy, -⟩ := hlies
    exact ⟨_, _, Passthrough.charted_of_get? hy hbelow⟩
  | truncated =>
    obtain ⟨y, hy, -⟩ := hlies
    exact ⟨_, _, Passthrough.charted_of_get? hy hbelow⟩
  | readOnly => exact ⟨_, _, Passthrough.charted_of_get? hlies hbelow⟩
  | cached =>
    obtain ⟨ownership, cache, cursor, stream, y, place', heq, hy, -⟩ := hlies
    have hbelow : (Cached.base s.1).slot.get? = some below := hbelow
    rw [heq] at hbelow
    cases hbelow
    exact ⟨_, _, hy⟩
  | window => exact Window.charted_of_stream? ⟨x, place, hlies⟩ hbelow

/-! ## Layers that are made -/

section Making

variable [Cancellation ω] [ByteStream ω σ] {s : σ × ω}

/-- A layer that is made where a stream tells its position is charted, if it is charted with that
position. -/
theorem FollowsChart.ends_make {τ : Type} {lies' : τ → Chart → Nat → Prop}
    (h : FollowsChart ω admits lies)
    (hs : Charted lies s) {make : σ → Nat → τ}
    (hmake : ∀ {stream : σ} {x : Chart} {place there : Nat}, lies stream x place →
      x.origin + there = place → ∃ x', lies' (make stream there) x' place) :
    (ByteStream.position >>= fun there => StreamM.state >>= fun stream =>
      pure (make stream there) : StreamM ω σ τ).Ends s
      (fun layer s' => Charted lies' (layer, s'.2)) fun _ => Charted lies := by
  obtain ⟨x, place, hlies⟩ := hs
  apply StreamM.Ends.bind (StreamM.Ends.mono (h.moves_position (w := s.2) hlies)
    (fun _ _ h => h) ?_)
  · intro there s' hout
    obtain ⟨q, ⟨hthere, rfl⟩, hlies', -⟩ := hout
    obtain ⟨x', hlayer⟩ := hmake hlies' ((h.sound hlies').position hthere)
    exact StreamM.ends_state_bind (StreamM.ends_pure ⟨x', q, hlayer⟩)
  · intro e s' hout
    obtain ⟨q, -, hlies', -⟩ := hout
    exact ⟨x, q, hlies'⟩

theorem Rebased.ends_wrap_charted (h : FollowsChart ω admits lies) (hs : Charted lies s)
    (ownership : Ownership) :
    (Rebased.wrap ownership : StreamM ω σ _).Ends s
      (fun layer s' => Charted (Rebased.Lies (Passthrough.Lies lies)) (layer, s'.2))
      fun _ => Charted lies :=
  h.ends_make hs fun hlies _ => ⟨_, _, Passthrough.lies_live hlies ownership, rfl⟩

theorem Truncated.ends_wrap_charted (h : FollowsChart ω admits lies) (hs : Charted lies s)
    (maxLength : Nat) (ownership : Ownership) :
    (Truncated.wrap maxLength ownership : StreamM ω σ _).Ends s
      (fun layer s' => Charted (Truncated.Lies (Passthrough.Lies lies)) (layer, s'.2))
      fun _ => Charted lies := by
  unfold Truncated.wrap
  split
  · exact hs
  · exact h.ends_make hs fun hlies hthere =>
      ⟨_, Truncated.lies_mk (Passthrough.lies_live hlies ownership) hthere⟩

theorem Cached.ends_wrap_charted (h : FollowsChart ω admits lies) (hs : Charted lies s)
    (ownership : Ownership) :
    (Cached.wrap ownership : StreamM ω σ _).Ends s
      (fun layer s' => Charted (Cached.Lies admits lies) (layer, s'.2)) fun _ => Charted lies := by
  apply h.ends_make hs
  intro stream x place there hlies hthere
  subst hthere
  have hempty := BlockCache.mirrors_empty x.bytes x.size
  exact ⟨x.cached, Cached.lies_opened hlies hempty (h.admitted hlies)⟩

theorem Window.ends_truncate_charted (h : FollowsChart ω admits lies) {layer : Rebased σ}
    (hlayer : Charted (Rebased.Lies (Passthrough.Lies lies)) (layer, s.2)) (size : Nat) :
    (truncate layer size : StreamM ω σ _).Ends s
      (fun layer' s' => Charted (Lies lies) (.rebasedTruncated layer', s'.2))
      fun _ => Charted lies := by
  have hfollows := Rebased.followsChart (Passthrough.followsChart h)
  have hmade := Truncated.ends_wrap_charted hfollows hlayer size .owns
  apply (StreamM.Ends.within hmade).mono
  · intro layer' s' hout
    obtain ⟨part, hlayer', -⟩ := hout
    exact hlayer'
  · intro e s' hout
    obtain ⟨stream', w'⟩ := s'
    obtain ⟨part, ⟨x, place, y, ⟨ownership, stream, hbase, hstream⟩, -⟩, rfl⟩ := hout
    have hpart : part.base = ⟨.live stream, ownership⟩ := hbase
    rw [hpart]
    exact ⟨y, place, hstream⟩

theorem Window.ends_ofPart_charted (h : FollowsChart ω admits lies) (hs : Charted lies s)
    (offset : Nat) (size : Option Nat) (ownership : Ownership) :
    (ofPart offset size ownership : StreamM ω σ _).Ends s
      (fun window s' => Charted (Lies lies) (window, s'.2)) fun _ => Charted lies := by
  cases offset with
  | zero =>
    cases size with
    | none => exact StreamM.ends_state_bind (StreamM.ends_pure hs)
    | some size =>
      apply StreamM.Ends.bind (Truncated.ends_wrap_charted h hs size ownership)
      intro layer s' hlayer
      exact StreamM.ends_pure hlayer
  | succ offset =>
    obtain ⟨x, place, hlies⟩ := hs
    have hseek := (h.seek hlies (.fromStart (offset + 1)) s.2).ends_charted
    apply StreamM.Ends.bind hseek
    intro _ s₁ hs₁
    apply StreamM.Ends.bind (Rebased.ends_wrap_charted h hs₁ ownership)
    intro layer s₂ hlayer
    cases size with
    | none => exact StreamM.ends_pure hlayer
    | some size =>
      apply StreamM.Ends.bind (Window.ends_truncate_charted h hlayer size)
      intro layer' s₃ hlayer'
      exact StreamM.ends_pure hlayer'

/-- **A layer that is made lies on some chart**, and where none is made the stream does. -/
theorem Wrapping.ends_wrap_charted (h : FollowsChart ω admits lies)
    (hs : Charted lies s) :
    ∀ wrapping : Wrapping, (wrapping.wrap : StreamM ω σ (wrapping.kind.Over σ)).Ends s
      (fun layer s' => Charted (wrapping.kind.Lies admits lies) (layer, s'.2))
      fun _ => Charted lies
  | passthrough ownership => by
    obtain ⟨x, place, hlies⟩ := hs
    exact StreamM.ends_state_bind
      (StreamM.ends_pure ⟨x, place, Passthrough.lies_live hlies ownership⟩)
  | rebased ownership => Rebased.ends_wrap_charted h hs ownership
  | truncated maxLength ownership => Truncated.ends_wrap_charted h hs maxLength ownership
  | readOnly => by
    obtain ⟨x, place, hlies⟩ := hs
    exact StreamM.ends_state_bind
      (StreamM.ends_pure ⟨x, place, Passthrough.lies_live hlies .borrows⟩)
  | cached ownership => Cached.ends_wrap_charted h hs ownership
  | window offset size ownership => Window.ends_ofPart_charted h hs offset size ownership

end Making

end Streams

/-! ## Stacks -/

namespace Stack

variable {ω β : Type} {care : Care} {stands : β → Chart → Nat → Prop}

/-- An open stack over a base that lies on a chart, lying on a chart of its own. -/
def Lies (admits : Nat → Prop) (stands : β → Chart → Nat → Prop) :
    (kinds : List LayerKind) → Stack kinds β → Chart → Nat → Prop
  | [] => stands
  | kind :: kinds => kind.Lies admits (Lies admits stands kinds)

section Answers

variable [Cancellation ω] [ByteStream ω β] [Nonempty ω]

/-- **A stack answers as its chart says**, if care is taken of its cached layers, and finds every
offset before its end, if a cached layer may be put over it. The recursion is on the layers. -/
theorem followsChart_and_finds (base : FollowsChart ω care.Admits stands) (hfinds : Finds stands) :
    ∀ kinds : List LayerKind,
      (care.Allows kinds → FollowsChart ω care.Admits (Lies care.Admits stands kinds)) ∧
        (care.AllowsCache kinds → Finds (Lies care.Admits stands kinds))
  | [] => ⟨fun _ => base, fun _ => hfinds⟩
  | kind :: kinds => by
    obtain ⟨hfollows, hfound⟩ := followsChart_and_finds base hfinds kinds
    constructor
    · intro hallows
      apply LayerKind.followsChart (fun _ => care.admits_of_le) (hfollows hallows.tail)
      rintro rfl
      exact hfound hallows.allowsCache
    · intro hallows
      apply LayerKind.finds (hfollows hallows.tail.allows) (hfound hallows.tail)
      rintro rfl _ hadmits
      exact hallows.range hadmits

end Answers

variable [Cancellation ω] [ByteStream ω β]

/-- Stacks that lie on charts, used with care for their cached layers: they are asked for what is
permitted, layers are put and taken off, whatever becomes of the surroundings. -/
def Rules.onCharts (care : Care) (stands : β → Chart → Nat → Prop) : Rules ω β :=
  .permitting fun kinds s step =>
    match step with
    | .ask request => ∀ x place, Lies care.Admits stands kinds s.1 x place →
        x.Permits care.Admits place request
    | .wrap wrapping => (wrapping.wrap : StreamM ω (Stack kinds β) _).Succeeds s →
        care.Allows (wrapping.kind :: kinds)
    | .change _ | .unwrap => True

/-- **A stack that is used with care lies on some chart.** -/
theorem Reached.charted (base : FollowsChart ω care.Admits stands) (hfinds : Finds stands)
    {kinds : List LayerKind} {s : Stack kinds β × ω}
    (h : Reached (.onCharts care stands) (Charted stands) kinds s) :
    care.Allows kinds ∧ Charted (Lies care.Admits stands kinds) s := by
  have hnonempty : Nonempty ω := ⟨s.2⟩
  have hfollows := fun kinds => (followsChart_and_finds base hfinds kinds).1
  have hkeeps : (Rules.onCharts care stands).Keeps fun kinds (s : Stack kinds β × ω) =>
      care.Allows kinds ∧ Charted (Lies care.Admits stands kinds) s := {
    ask := by
      intro kinds s request ⟨hallows, x, place, hlies⟩ hpermits
      exact StreamM.ends_of_final
        ⟨hallows, ((hfollows kinds hallows).ends_permitted hlies (hpermits x place hlies)).final⟩
    change := fun hs _ => hs
    wrap := by
      intro kinds s wrapping ⟨hbelow, hs⟩ hallows
      have hwrapped := wrapping.ends_wrap_charted (hfollows kinds hbelow) hs
      cases hwrap : (wrapping.wrap : StreamM ω (Stack kinds β) _) s with
      | ok layer s' =>
        exact StreamM.ends_of_eq_ok hwrap
          ⟨hallows (StreamM.ends_of_eq_ok hwrap trivial), hwrapped.of_eq_ok hwrap⟩
      | error e s' => exact StreamM.ends_of_eq_error hwrap ⟨hbelow, hwrapped.of_eq_error hwrap⟩
    unwrap := fun ⟨hallows, hs⟩ _ hbelow => ⟨hallows.tail, LayerKind.charted_below hs hbelow⟩ }
  exact h.keeps hkeeps fun _ hs => ⟨care.allowsCache_nil.allows, hs⟩

end Stack

end LayeredStreams
