import LayeredStreams.Proofs.Bearings

/-!
# Bearings of layers with a cursor of their own

A truncated layer notes where the stream below stands, so that it knows when it is at its boundary;
a cached layer stands where its own cursor is, wherever the stream below is.

* `Bearing.cut`, `Bearing.cached` — the bearings of the two layers, from that of the stream below.
* `BlockCache.EndsBy bound origin` — the blocks that are loaded end at places up to a bound.

Principal results: `Truncated.followsBearing` and `Cached.followsBearing`.
-/

set_option autoImplicit false

namespace LayeredStreams

/-! ## Truncated layers -/

namespace Bearing

/-- The bearing of a layer that ends `maxLength` places behind the position `start` of the stream
below, and takes that stream to stand at `cursor`. -/
def cut (start maxLength cursor : Nat) (x : Bearing) : Bearing where
  origin := x.origin
  mark := x.mark
  size := min maxLength (x.size - start)
  reach := (start + min maxLength (x.size - start) : Nat)
  level := True
  ranged := x.ranged ∧ x.origin + cursor = x.mark
  stops := x.stops

theorem Moved.cut {mark : Nat} {x x' : Bearing} (h : Moved mark x x') (start maxLength : Nat)
    {cursor cursor' : Nat} (hcursor : x.origin + cursor = x.mark → x.origin + cursor' = mark) :
    Moved mark (x.cut start maxLength cursor) (x'.cut start maxLength cursor') where
  origin_eq := h.origin_eq
  mark_eq := h.mark_eq
  size_eq := congrArg (fun size => min maxLength (size - start)) h.size_eq
  reach_eq := by
    show ((start + min maxLength (x'.size - start) : Nat) : Int) = _
    rw [h.size_eq]
    rfl
  level_iff := Iff.rfl
  ranged hranged hmark := by
    refine ⟨h.ranged hranged.1 hmark, ?_⟩
    rw [h.origin_eq, h.mark_eq]
    exact hcursor hranged.2

theorem Led.cut {mark : Nat} {x x' : Bearing} (h : Led mark x x') (start maxLength : Nat)
    {cursor cursor' : Nat} (hcursor : x.origin + cursor = x.mark → x.origin + cursor' = mark) :
    Led mark (x.cut start maxLength cursor) (x'.cut start maxLength cursor') where
  origin_eq := h.origin_eq
  mark_eq := h.mark_eq
  ranged hranged := by
    refine ⟨h.ranged hranged.1, ?_⟩
    rw [h.origin_eq, h.mark_eq]
    exact hcursor hranged.2

end Bearing

namespace Truncated

variable {ω σ α : Type} {bearing : Passthrough σ × ω → Bearing → Prop} {base : Passthrough σ}
  {start maxLength cursor : Nat} {w : ω} {y : Bearing}

/-- What is done on the part is carried by the layer. -/
theorem carries_base (start maxLength cursor : Nat) (act : StreamM ω (Passthrough σ) α) :
    StreamM.Carries (fun base => (⟨base, start, maxLength, cursor⟩ : Truncated σ)) act
      (onBase act) := fun _ _ => rfl

/-- A truncated layer over a part with a bearing. -/
def HasBearing (bearing : Passthrough σ × ω → Bearing → Prop) (s : Truncated σ × ω)
    (x : Bearing) : Prop :=
  ∃ y, bearing (s.1.base, s.2) y ∧ x = y.cut s.1.origin s.1.maxLength s.1.cursor

/-- What is done on the part turns the bearing as the layer does. -/
theorem movesBearing_onBase {act : StreamM ω (Passthrough σ) α} {good good' : α → Bearing → Prop}
    {bad bad' : StreamError → Bearing → Prop} (h : act.MovesBearing bearing (base, w) good bad)
    (hgood : ∀ value x, good value x → good' value (x.cut start maxLength cursor))
    (hbad : ∀ e x, bad e x → bad' e (x.cut start maxLength cursor)) :
    (onBase act).MovesBearing (HasBearing bearing) (⟨base, start, maxLength, cursor⟩, w)
      good' bad' :=
  h.carried (carries_base start maxLength cursor act) (fun hs => ⟨_, hs, rfl⟩) hgood hbad

variable [ByteStream ω σ]

theorem visibleLength_eq (h : FollowsBearing ω bearing) (hy : bearing (base, w) y) :
    (visibleLength : StreamM ω (Truncated σ) Nat) (⟨base, start, maxLength, cursor⟩, w) =
      .ok (min maxLength (y.size - start)) (⟨base, start, maxLength, cursor⟩, w) := by
  have hlength := (carries_base start maxLength cursor _).eq_ok (h.length hy)
  unfold visibleLength
  rw [StreamM.bind_apply, hlength]
  rfl

/-- A target of the stream below that stands for a target of the layer. A seek from the end is told
from the start below. -/
structure Translates (start maxLength : Nat) (y : Bearing) (target below : SeekTarget) : Prop where
  leads : ∀ place, place ≤ maxPosition → y.Leads place below →
    (y.cut start maxLength 0).Leads place target
  fromCurrent : target = .fromCurrent 0 → below = .fromCurrent 0
  fromEnd : Request.isFromEnd (.seek below) = false

theorem ends_targetBelow_hasBearing (h : FollowsBearing ω bearing) (hy : bearing (base, w) y)
    (target : SeekTarget) :
    (targetBelow target : StreamM ω (Truncated σ) SeekTarget).Ends
      (⟨base, start, maxLength, cursor⟩, w)
      (fun below s' => Translates start maxLength y target below ∧
        s' = (⟨base, start, maxLength, cursor⟩, w))
      fun _ s' => target ≠ .fromCurrent 0 ∧ s' = (⟨base, start, maxLength, cursor⟩, w) := by
  cases target with
  | fromStart offset =>
    exact StreamM.ends_pure ⟨⟨fun _ _ hleads => hleads, nofun, rfl⟩, rfl⟩
  | fromCurrent offset =>
    exact StreamM.ends_pure ⟨⟨fun _ _ hleads => hleads, id, rfl⟩, rfl⟩
  | fromEnd offset =>
    apply StreamM.ends_bind_of_eq_ok (visibleLength_eq h hy)
    apply StreamM.Ends.bind ((StreamM.ends_ofExcept _).mono (fun _ _ h => h) ?_)
    · intro place s' hout
      obtain ⟨hplace, rfl⟩ := hout
      apply StreamM.ends_state_bind
      apply StreamM.ends_pure
      refine ⟨⟨?_, nofun, rfl⟩, rfl⟩
      intro there hthere hleads
      obtain ⟨hplace, -⟩ := SeekTarget.resolve_eq_ok_iff.mp hplace
      have hplace : ((min maxLength (y.size - start) : Nat) : Int) + offset = place := hplace
      have hthere : there ≤ maxPosition := hthere
      have hleads : there = min (start + place) maxWord := hleads
      have hpositions : maxPosition < maxWord := by decide
      show (there : Int) = ((start + min maxLength (y.size - start) : Nat) : Int) + offset
      omega
    · intro e s' hout
      obtain ⟨cause, -, -, rfl⟩ := hout
      exact ⟨nofun, rfl⟩

theorem movesBearing_seek (h : FollowsBearing ω bearing) (hy : bearing (base, w) y)
    (target : SeekTarget) :
    (ByteStream.seek target : StreamM ω (Truncated σ) Nat).MovesBearing (HasBearing bearing)
      (⟨base, start, maxLength, cursor⟩, w)
      (fun position x' => (y.cut start maxLength cursor).Leads position target ∧
        y.origin + position ≤ maxPosition ∧
        (y.cut start maxLength cursor).Moved (y.origin + position) x')
      fun _ x' => (target = .fromCurrent 0 → y.mark < y.origin ∨ maxPosition < y.mark) ∧
        (y.cut start maxLength cursor).Moved y.mark x' := by
  apply StreamM.Ends.bind ((ends_targetBelow_hasBearing h hy target).mono (fun _ _ h => h) ?_)
  · intro below s' hout
    obtain ⟨htranslates, rfl⟩ := hout
    have hseek := (carries_base start maxLength cursor _).ends_of (h.seek hy below)
    apply StreamM.Ends.bind (hseek.mono (fun _ _ h => h) ?_)
    · intro place s'' hout
      obtain ⟨_, w'⟩ := s''
      obtain ⟨base', rfl, y', ⟨hleads, hmax, hmoved⟩, hy'⟩ := hout
      have hplace := htranslates.leads place (Nat.le_trans (Nat.le_add_left _ _) hmax) hleads
      exact ⟨_, ⟨hplace, hmax, hmoved.cut _ _ fun _ => rfl⟩, y', hy', rfl⟩
    · intro e s'' hout
      obtain ⟨_, w'⟩ := s''
      obtain ⟨base', rfl, y', ⟨hhere, hmoved⟩, hy'⟩ := hout
      have hnever : Request.isFromEnd (.seek below) = true → y.level := fun hend => by
        rw [htranslates.fromEnd] at hend
        cases hend
      exact ⟨_, ⟨fun htarget => hhere (htranslates.fromCurrent htarget),
        (hmoved hnever).cut _ _ id⟩, y', hy', rfl⟩
  · intro e s' hout
    obtain ⟨hne, rfl⟩ := hout
    exact ⟨_, ⟨fun htarget => absurd htarget hne,
      Bearing.moved_self (y.cut start maxLength cursor)⟩, y, hy, rfl⟩

/-- What the layer declines leaves it as it is. -/
theorem movesBearing_declined (hy : bearing (base, w) y) {request : Request}
    (hdeclines : declines request = true) :
    (ByteStream.perform request : StreamM ω (Truncated σ) request.Answer).MovesBearing
      (HasBearing bearing)
      (⟨base, start, maxLength, cursor⟩, w) (fun _ _ => False)
      fun _ x' => x' = y.cut start maxLength cursor := by
  have hdeclined : (ByteStream.perform request : StreamM ω (Truncated σ) request.Answer) =
      onBase (Passthrough.decline request) := perform_of_declined hdeclines
  rw [hdeclined]
  apply movesBearing_onBase (Passthrough.movesBearing_decline hy request)
  · intro _ _ hfalse
    exact hfalse
  · intro _ y' heq
    rw [heq]

theorem movesBearing_setPosition (h : FollowsBearing ω bearing) (hy : bearing (base, w) y)
    (target : Nat) :
    (ByteStream.setPosition target : StreamM ω (Truncated σ) Unit).MovesBearing (HasBearing bearing)
      (⟨base, start, maxLength, cursor⟩, w)
      (fun _ => (y.cut start maxLength cursor).Moved (y.origin + target))
      fun _ x' => maxPosition < y.origin + target ∧
        (y.cut start maxLength cursor).Moved y.mark x' := by
  have hset := (carries_base start maxLength cursor _).ends_of (h.setPosition hy target)
  apply StreamM.Ends.bind (hset.mono (fun _ _ h => h) ?_)
  · intro _ s' hout
    obtain ⟨_, w'⟩ := s'
    obtain ⟨base', rfl, y', hmoved, hy'⟩ := hout
    exact ⟨_, hmoved.cut _ _ fun _ => rfl, y', hy', rfl⟩
  · intro e s' hout
    obtain ⟨_, w'⟩ := s'
    obtain ⟨base', rfl, y', ⟨hfar, hmoved⟩, hy'⟩ := hout
    exact ⟨_, ⟨hfar, hmoved.cut _ _ id⟩, y', hy', rfl⟩

/-- The cursor of the layer goes with the stream below over the bytes that came. -/
theorem movesBearing_read (h : FollowsBearing ω bearing) (hy : bearing (base, w) y) (mode : Mode)
    (room : Nat) :
    (ByteStream.read mode room : StreamM ω (Truncated σ) Bytes).MovesBearing (HasBearing bearing)
      (⟨base, start, maxLength, cursor⟩, w)
      (fun bytes => (y.cut start maxLength cursor).Led (y.mark + bytes.length))
      fun _ => (y.cut start maxLength cursor).Led y.mark := by
  show StreamM.MovesBearing _ (Truncated.read mode room) _ _ _
  unfold Truncated.read
  apply StreamM.ends_state_bind
  have hread := (carries_base start maxLength cursor _).ends_of (h.read hy mode
    (min room (⟨base, start, maxLength, cursor⟩ : Truncated σ).remaining))
  apply StreamM.Ends.bind (hread.mono (fun _ _ h => h) ?_)
  · intro bytes s' hout
    obtain ⟨_, w'⟩ := s'
    obtain ⟨base', rfl, y', hled, hy'⟩ := hout
    refine ⟨_, hled.cut start maxLength ?_, y', hy', rfl⟩
    intro hsync
    have hsync : y.origin + cursor = y.mark := hsync
    show y.origin + (cursor + bytes.length) = y.mark + bytes.length
    omega
  · intro e s' hout
    obtain ⟨_, w'⟩ := s'
    obtain ⟨base', rfl, y', hled, hy'⟩ := hout
    exact ⟨_, hled.cut _ _ id, y', hy', rfl⟩

theorem movesBearing_readByte (h : FollowsBearing ω bearing)
    (hopen : (Passthrough.ensureOpen : StreamM ω (Passthrough σ) Unit) (base, w) = .ok () (base, w))
    (hy : bearing (base, w) y) :
    (ByteStream.readByte : StreamM ω (Truncated σ) (Option UInt8)).MovesBearing (HasBearing bearing)
      (⟨base, start, maxLength, cursor⟩, w)
      (fun byte => (y.cut start maxLength cursor).Led (y.mark + byte.toList.length))
      fun _ => (y.cut start maxLength cursor).Led y.mark := by
  apply StreamM.ends_bind_of_eq_ok ((carries_base start maxLength cursor _).eq_ok hopen)
  apply StreamM.ends_state_bind
  split
  · exact StreamM.movesBearing_pure ⟨y, hy, rfl⟩ (Bearing.led_self (y.cut start maxLength cursor))
  have hread := (carries_base start maxLength cursor _).ends_of (h.readByte hy)
  apply StreamM.Ends.bind (hread.mono (fun _ _ h => h) ?_)
  · intro byte s' hout
    obtain ⟨_, w'⟩ := s'
    obtain ⟨base', rfl, y', hled, hy'⟩ := hout
    cases byte with
    | none => exact ⟨_, hled.cut _ _ id, y', hy', rfl⟩
    | some byte =>
      refine ⟨_, hled.cut start maxLength ?_, y', hy', rfl⟩
      intro hsync
      have hsync : y.origin + cursor = y.mark := hsync
      show y.origin + (cursor + 1) = y.mark + 1
      omega
  · intro e s' hout
    obtain ⟨_, w'⟩ := s'
    obtain ⟨base', rfl, y', hled, hy'⟩ := hout
    exact ⟨_, hled.cut _ _ id, y', hy', rfl⟩

theorem movesBearing_placeless (h : FollowsBearing ω bearing) (hy : bearing (base, w) y)
    {request : Request}
    (hplaceless : request.isPlaceless = true) :
    (ByteStream.perform request : StreamM ω (Truncated σ) request.Answer).MovesBearing
      (HasBearing bearing)
      (⟨base, start, maxLength, cursor⟩, w) (fun _ => (y.cut start maxLength cursor).Led y.mark)
      fun _ => (y.cut start maxLength cursor).Led y.mark := by
  have hpassed : (onBase (ByteStream.perform request) : StreamM ω (Truncated σ) _).MovesBearing
      (HasBearing bearing) (⟨base, start, maxLength, cursor⟩, w) _ _ :=
    movesBearing_onBase (h.placeless hy request hplaceless) (fun _ _ hled => hled.cut _ _ id)
      fun _ _ hled => hled.cut _ _ id
  cases request with
  | flush mode =>
    apply (movesBearing_declined hy rfl).mono
    · intro _ _ hfalse
      exact hfalse.elim
    · intro _ x' heq
      rw [heq]
      exact Bearing.led_self (y.cut start maxLength cursor)
  | timeout direction => exact hpassed
  | setTimeout direction limit => exact hpassed
  | _ => cases hplaceless

/-- **A truncated layer** stands where the stream below stands. -/
theorem followsBearing (h : FollowsBearing ω bearing)
    (hopen : ∀ {s : Passthrough σ × ω} {x : Bearing}, bearing s x →
      (Passthrough.ensureOpen : StreamM ω (Passthrough σ) Unit) s = .ok () s) :
    FollowsBearing ω (HasBearing bearing) where
  range := by
    intro s x hs hranged
    obtain ⟨y, hy, rfl⟩ := hs
    have hbelow : y.ranged := hranged.1
    have hrange := h.range hy hbelow
    exact hrange
  position := by
    intro s x hs
    obtain ⟨⟨base, start, maxLength, cursor⟩, w⟩ := s
    obtain ⟨y, hy, rfl⟩ : ∃ y, bearing (base, w) y ∧ x = y.cut start maxLength cursor := hs
    have hposition := h.position hy
    exact (carries_base start maxLength cursor _).ends_same hposition
  length := by
    intro s x hs
    obtain ⟨⟨base, start, maxLength, cursor⟩, w⟩ := s
    obtain ⟨y, hy, rfl⟩ : ∃ y, bearing (base, w) y ∧ x = y.cut start maxLength cursor := hs
    exact visibleLength_eq h hy
  setPosition := by
    intro s x hs target
    obtain ⟨⟨base, start, maxLength, cursor⟩, w⟩ := s
    obtain ⟨y, hy, rfl⟩ : ∃ y, bearing (base, w) y ∧ x = y.cut start maxLength cursor := hs
    exact movesBearing_setPosition h hy target
  seek := by
    intro s x hs target
    obtain ⟨⟨base, start, maxLength, cursor⟩, w⟩ := s
    obtain ⟨y, hy, rfl⟩ : ∃ y, bearing (base, w) y ∧ x = y.cut start maxLength cursor := hs
    apply (movesBearing_seek h hy target).mono
    · intro _ _ hout
      exact hout
    · intro _ _ hout
      exact ⟨hout.1, fun _ => hout.2⟩
  read := by
    intro s x hs mode room
    obtain ⟨⟨base, start, maxLength, cursor⟩, w⟩ := s
    obtain ⟨y, hy, rfl⟩ : ∃ y, bearing (base, w) y ∧ x = y.cut start maxLength cursor := hs
    exact movesBearing_read h hy mode room
  readByte := by
    intro s x hs
    obtain ⟨⟨base, start, maxLength, cursor⟩, w⟩ := s
    obtain ⟨y, hy, rfl⟩ : ∃ y, bearing (base, w) y ∧ x = y.cut start maxLength cursor := hs
    exact movesBearing_readByte h (hopen hy) hy
  placeless := by
    intro s x hs request hplaceless
    obtain ⟨⟨base, start, maxLength, cursor⟩, w⟩ := s
    obtain ⟨y, hy, rfl⟩ : ∃ y, bearing (base, w) y ∧ x = y.cut start maxLength cursor := hs
    exact movesBearing_placeless h hy hplaceless
  mutating := by
    intro s x hs hranged request hmutates _
    obtain ⟨⟨base, start, maxLength, cursor⟩, w⟩ := s
    obtain ⟨y, hy, rfl⟩ : ∃ y, bearing (base, w) y ∧ x = y.cut start maxLength cursor := hs
    have hdeclines : declines request = true := by
      unfold declines
      rw [hmutates]
      rfl
    apply (movesBearing_declined hy hdeclines).mono
    · intro _ _ hfalse
      exact hfalse.elim
    · intro _ x' heq
      rw [heq]
      exact ⟨rfl, hranged, Bearing.floor_le _ request⟩

end Truncated

/-! ## Cached layers -/

namespace BlockCache

variable {bound origin cursor : Nat} {cache : BlockCache}

/-- The loaded blocks end at places of the base up to a bound. -/
def EndsBy (bound origin : Nat) (cache : BlockCache) : Prop :=
  ∀ index data, cache.block? index = some data → origin + (index.start + data.length) ≤ bound

theorem endsBy_empty (bound origin : Nat) : empty.EndsBy bound origin := every_empty

theorem EndsBy.of_block?_eq {cache' : BlockCache} (h : cache.EndsBy bound origin)
    (heq : ∀ index, cache'.block? index = cache.block? index) : cache'.EndsBy bound origin :=
  Every.of_block?_eq h heq

/-- A block that ends by the bound can be put in its place. -/
theorem EndsBy.install (h : cache.EndsBy bound origin) {index : BlockIndex} {data : Bytes}
    (hdata : origin + (index.start + data.length) ≤ bound) :
    (cache.install index data data.length).EndsBy bound origin :=
  Every.install h (by rwa [List.take_length])

/-- What is served from the cursor on ends where the block does. -/
theorem EndsBy.copyOut_le (h : cache.EndsBy bound origin) (hcursor : origin + cursor ≤ bound)
    (room : Nat) : origin + cursor + (cache.copyOut cursor room).length ≤ bound := by
  unfold copyOut
  split
  · exact hcursor
  · rename_i data hblock
    have hend := h _ data hblock
    have hplace := BlockIndex.start_add_offsetWithin cursor
    have hle := Bytes.length_window data (BlockIndex.offsetWithin cursor) room
    omega

theorem EndsBy.byteAt_le (h : cache.EndsBy bound origin) (hcursor : origin + cursor ≤ bound) :
    origin + cursor + (cache.byteAt cursor).toList.length ≤ bound := by
  unfold byteAt
  cases hblock : cache.blockAt cursor with
  | none => exact hcursor
  | some data =>
    have hend := h _ data hblock
    have hplace := BlockIndex.start_add_offsetWithin cursor
    rw [Option.bind_some]
    cases hbyte : data[BlockIndex.offsetWithin cursor]? with
    | none => exact hcursor
    | some byte =>
      have hlt := (List.getElem?_eq_some_iff.mp hbyte).1
      show origin + cursor + 1 ≤ bound
      omega

end BlockCache

namespace Bearing

/-- The bearing of a layer with a cursor of its own and blocks of the stream below. -/
def cached (cache : BlockCache) (cursor : Nat) (x : Bearing) : Bearing where
  origin := x.origin
  mark := x.origin + cursor
  size := x.size
  reach := x.reach
  level := x.level
  ranged := x.ranged ∧ x.origin + cursor ≤ maxPosition ∧ cache.EndsBy maxPosition x.origin
  stops := x.stops

variable {x x' : Bearing} {cache cache' : BlockCache} {cursor cursor' : Nat}

/-- However the stream below was moved, the layer is where its cursor is. -/
theorem Moved.cached {mark mark' : Nat} {z : Bearing} (h : Moved mark x x') (h' : Moved mark' x' z)
    (hmarks : x.ranged → x.origin + cursor ≤ maxPosition → x.origin + cursor' ≤ maxPosition →
      mark ≤ maxPosition ∧ mark' ≤ maxPosition) (cache : BlockCache) :
    Moved (x.origin + cursor') (x.cached cache cursor) (z.cached cache cursor') where
  origin_eq := h'.origin_eq.trans h.origin_eq
  mark_eq := congrArg (· + cursor') (h'.origin_eq.trans h.origin_eq)
  size_eq := h'.size_eq.trans h.size_eq
  reach_eq := h'.reach_eq.trans h.reach_eq
  level_iff := h'.level_iff.trans h.level_iff
  ranged hranged hcursor := by
    obtain ⟨hbelow, hle, hblocks⟩ := hranged
    obtain ⟨hmark, hmark'⟩ := hmarks hbelow hle hcursor
    have horigin := h'.origin_eq.trans h.origin_eq
    refine ⟨h'.ranged (h.ranged hbelow hmark) hmark', ?_, ?_⟩
    · rw [horigin]
      exact hcursor
    · rw [horigin]
      exact hblocks

theorem Led.cached {mark : Nat} (h : Led mark x x')
    (hblocks : x'.ranged → cache.EndsBy maxPosition x.origin → cache'.EndsBy maxPosition x.origin)
    (hcursor : cache.EndsBy maxPosition x.origin → x.origin + cursor ≤ maxPosition →
      x.origin + cursor' ≤ maxPosition) :
    Led (x.origin + cursor') (x.cached cache cursor) (x'.cached cache' cursor') where
  origin_eq := h.origin_eq
  mark_eq := congrArg (· + cursor') h.origin_eq
  ranged hranged := by
    obtain ⟨hbelow, hle, hold⟩ := hranged
    have hranged' := h.ranged hbelow
    refine ⟨hranged', ?_, ?_⟩
    · rw [h.origin_eq]
      exact hcursor hold hle
    · rw [h.origin_eq]
      exact hblocks hranged' hold

end Bearing

namespace Cached

variable {ω σ α : Type} {bearing : Passthrough σ × ω → Bearing → Prop} {base : Passthrough σ}
  {cache : BlockCache} {cursor : Nat} {w : ω} {y : Bearing}

/-- A cached layer over a part with a bearing. -/
def HasBearing (bearing : Passthrough σ × ω → Bearing → Prop) (s : Cached σ × ω)
    (x : Bearing) : Prop :=
  ∃ y, bearing (s.1.base, s.2) y ∧ x = y.cached s.1.cache s.1.cursor

/-- What is done on the part turns the bearing as the layer does. -/
theorem movesBearing_onBase {act : StreamM ω (Passthrough σ) α} {good good' : α → Bearing → Prop}
    {bad bad' : StreamError → Bearing → Prop} (h : act.MovesBearing bearing (base, w) good bad)
    (hgood : ∀ value x, good value x → good' value (x.cached cache cursor))
    (hbad : ∀ e x, bad e x → bad' e (x.cached cache cursor)) :
    (onBase act).MovesBearing (HasBearing bearing) (⟨base, cache, cursor⟩, w) good' bad' :=
  h.carried (carries_layer cache cursor act) (fun hs => ⟨_, hs, rfl⟩) hgood hbad

variable [ByteStream ω σ]

/-- To seek, the stream below is first moved to the cursor. -/
theorem movesBearing_seek (h : FollowsBearing ω bearing) (hy : bearing (base, w) y)
    (target : SeekTarget) :
    (Cached.seek target : StreamM ω (Cached σ) Nat).MovesBearing (HasBearing bearing)
      (⟨base, cache, cursor⟩, w)
      (fun position x' => (y.cached cache cursor).Leads position target ∧
        y.origin + position ≤ maxPosition ∧
        (y.cached cache cursor).Moved (y.origin + position) x')
      fun _ x' => (target = .fromCurrent 0 →
          y.origin + cursor < y.origin ∨ maxPosition < y.origin + cursor) ∧
        ((Request.isFromEnd (.seek target) = true → y.level) →
          (y.cached cache cursor).Moved (y.origin + cursor) x') := by
  unfold Cached.seek
  refine StreamM.ends_state_bind ?_
  have hset := (carries_layer cache cursor _).ends_of (h.setPosition hy cursor)
  apply StreamM.Ends.bind (hset.mono (fun _ _ h => h) ?_)
  · intro _ s₁ hout
    obtain ⟨_, w₁⟩ := s₁
    obtain ⟨base₁, rfl, y₁, hmoved₁, hy₁⟩ := hout
    have hseek := (carries_layer cache cursor _).ends_of (h.seek hy₁ target)
    have horigin := hmoved₁.origin_eq
    apply StreamM.Ends.bind (hseek.mono (fun _ _ h => h) ?_)
    · intro place s₂ hout
      obtain ⟨_, w₂⟩ := s₂
      obtain ⟨base₂, rfl, y₂, ⟨hleads, hmax, hmoved₂⟩, hy₂⟩ := hout
      rw [horigin] at hmax hmoved₂
      refine ⟨y₂.cached cache place, ⟨?_, hmax, ?_⟩, y₂, hy₂, rfl⟩
      · -- the seek was made from the cursor
        cases target with
        | fromStart offset => exact hleads
        | fromCurrent offset =>
          have hleads : ((y₁.origin + place : Nat) : Int) = y₁.mark + offset := hleads
          rw [horigin, hmoved₁.mark_eq] at hleads
          exact hleads
        | fromEnd offset =>
          have hleads : (place : Int) = y₁.reach + offset := hleads
          rw [hmoved₁.reach_eq] at hleads
          exact hleads
      · exact hmoved₁.cached hmoved₂ (fun _ hle hle' => ⟨hle, hle'⟩) cache
    · intro e s₂ hout
      obtain ⟨_, w₂⟩ := s₂
      obtain ⟨base₂, rfl, y₂, ⟨hhere, hmoved₂⟩, hy₂⟩ := hout
      rw [hmoved₁.mark_eq, horigin] at hhere
      rw [hmoved₁.mark_eq] at hmoved₂
      refine ⟨_, ⟨hhere, ?_⟩, y₂, hy₂, rfl⟩
      intro hlevel
      have hmoved₂ := hmoved₂ fun hend => hmoved₁.level_iff.mpr (hlevel hend)
      exact hmoved₁.cached hmoved₂ (fun _ hle hle' => ⟨hle, hle'⟩) cache
  · intro e s₁ hout
    obtain ⟨_, w₁⟩ := s₁
    obtain ⟨base₁, rfl, y₁, ⟨hfar, hmoved₁⟩, hy₁⟩ := hout
    refine ⟨_, ⟨fun _ => .inr hfar, fun _ => ?_⟩, y₁, hy₁, rfl⟩
    exact y.moved_self.cached hmoved₁
      (fun hranged _ _ => ⟨(h.range hy hranged).2, (h.range hy hranged).2⟩) cache

variable [Cancellation ω]

/-- To fetch a block leaves the cursor where it is. -/
theorem movesBearing_fetch (h : FollowsBearing ω bearing) (hy : bearing (base, w) y) (mode : Mode)
    (index : BlockIndex) :
    (fetch mode index : StreamM ω (Cached σ) Unit).MovesBearing (HasBearing bearing)
      (⟨base, cache, cursor⟩, w)
      (fun _ => (y.cached cache cursor).Led (y.origin + cursor))
      fun _ => (y.cached cache cursor).Led (y.origin + cursor) := by
  have hseek := (carries_layer cache cursor _).ends_of (h.seek hy (.fromStart index.start))
  apply StreamM.Ends.bind (hseek.mono (fun _ _ h => h) ?_)
  · intro place s₁ hout
    obtain ⟨_, w₁⟩ := s₁
    obtain ⟨base₁, rfl, y₁, ⟨hplace, hmax, hmoved⟩, hy₁⟩ := hout
    obtain rfl : place = index.start := hplace
    have hled := hmoved.led hmax
    have hfill := (carries_layer cache cursor _).ends_of
      (h.movesBearing_fillWithin mode blockSize blockSize hy₁)
    apply StreamM.Ends.bind (hfill.mono (fun _ _ h => h) ?_)
    · intro filled s₂ hout
      obtain ⟨_, w₂⟩ := s₂
      obtain ⟨base₂, rfl, y₂, hfilled, hy₂⟩ := hout
      have hled₂ := hled.trans hfilled
      rw [hled.mark_eq] at hled₂
      unfold Filled.outcome
      cases filled.failure with
      | some e => exact ⟨_, hled₂.cached (fun _ hblocks => hblocks) fun _ hle => hle, y₂, hy₂, rfl⟩
      | none =>
        refine ⟨_, hled₂.cached ?_ fun _ hle => hle, y₂, hy₂, rfl⟩
        intro hranged hblocks
        have hend := (h.range hy₂ hranged).2
        rw [hled₂.mark_eq, Nat.add_assoc] at hend
        exact hblocks.install hend
    · intro e s₂ hout
      obtain ⟨_, -, _, hfalse, -⟩ := hout
      exact hfalse.elim
  · intro e s₁ hout
    obtain ⟨_, w₁⟩ := s₁
    obtain ⟨base₁, rfl, y₁, ⟨-, hmoved⟩, hy₁⟩ := hout
    have hmoved := hmoved nofun
    refine ⟨y₁.cached cache cursor,
      ⟨hmoved.origin_eq, congrArg (· + cursor) hmoved.origin_eq, ?_⟩, y₁, hy₁, rfl⟩
    intro hranged
    exact (y.moved_self.cached hmoved (fun hranged _ _ =>
      ⟨(h.range hy hranged).2, (h.range hy hranged).2⟩) cache).ranged hranged hranged.2.1

theorem movesBearing_load (h : FollowsBearing ω bearing)
    (hopen : ∀ {s : Passthrough σ × ω} {x : Bearing}, bearing s x →
      (Passthrough.ensureOpen : StreamM ω (Passthrough σ) Unit) s = .ok () s)
    (hy : bearing (base, w) y) (mode : Mode) :
    (load mode : StreamM ω (Cached σ) Unit).MovesBearing (HasBearing bearing)
      (⟨base, cache, cursor⟩, w)
      (fun _ => (y.cached cache cursor).Led (y.origin + cursor))
      fun _ => (y.cached cache cursor).Led (y.origin + cursor) := by
  have hself : (y.cached cache cursor).Led (y.origin + cursor) (y.cached cache cursor) :=
    Bearing.led_self (y.cached cache cursor)
  unfold load
  refine StreamM.ends_bind_of_eq_ok ((carries_layer cache cursor _).eq_ok (hopen hy)) ?_
  refine StreamM.ends_state_bind ?_
  dsimp only
  split
  · exact StreamM.movesBearing_pure ⟨y, hy, rfl⟩ hself
  refine StreamM.ends_bind_of_eq_ok ((carries_layer cache cursor _).eq_ok (h.length hy)) ?_
  split
  · exact StreamM.movesBearing_pure ⟨y, hy, rfl⟩ hself
  have hgrown : ∀ index, (cache.missingBlock cursor).2.block? index = cache.block? index :=
    BlockCache.block?_missingBlock cache cursor
  generalize cache.missingBlock cursor = asked at hgrown
  obtain ⟨missing, grown⟩ := asked
  refine StreamM.ends_update_bind ?_
  have hled : (y.cached cache cursor).Led (y.origin + cursor) (y.cached grown cursor) :=
    y.led_self.cached (fun _ hblocks => hblocks.of_block?_eq hgrown) fun _ hle => hle
  cases missing with
  | none => exact StreamM.movesBearing_pure ⟨y, hy, rfl⟩ hled
  | some index =>
    have hfetch : (fetch mode index : StreamM ω (Cached σ) Unit).MovesBearing (HasBearing bearing)
        (⟨base, grown, cursor⟩, w) _ _ := movesBearing_fetch h hy mode index
    exact hfetch.mono (fun _ _ hled' => hled.trans hled') fun _ _ hled' => hled.trans hled'

/-- What is left when the block at the cursor has been seen to and some of it is served. -/
theorem led_served {x y : Bearing} {cache cache' : BlockCache} {cursor cursor' count : Nat}
    (h : (x.cached cache cursor).Led (x.origin + cursor) (y.cached cache' cursor'))
    (hend : cache'.EndsBy maxPosition y.origin → y.origin + cursor' ≤ maxPosition →
      y.origin + cursor' + count ≤ maxPosition) :
    (x.cached cache cursor).Led ((x.cached cache cursor).mark + count)
      (y.cached cache' (cursor' + count)) := by
  have hserved : (y.cached cache' cursor').Led (y.origin + cursor' + count)
      (y.cached cache' (cursor' + count)) := by
    rw [Nat.add_assoc] at hend ⊢
    exact y.led_self.cached (fun _ hblocks => hblocks) hend
  have hmark : y.origin + cursor' = x.origin + cursor := h.mark_eq
  rw [hmark] at hserved
  exact h.trans hserved

/-- The cursor of the layer goes over the byte that is served. -/
theorem movesBearing_readByte (h : FollowsBearing ω bearing)
    (hopen : ∀ {s : Passthrough σ × ω} {x : Bearing}, bearing s x →
      (Passthrough.ensureOpen : StreamM ω (Passthrough σ) Unit) s = .ok () s)
    (hy : bearing (base, w) y) :
    (ByteStream.readByte : StreamM ω (Cached σ) (Option UInt8)).MovesBearing (HasBearing bearing)
      (⟨base, cache, cursor⟩, w)
      (fun byte => (y.cached cache cursor).Led (y.origin + cursor + byte.toList.length))
      fun _ => (y.cached cache cursor).Led (y.origin + cursor) := by
  apply StreamM.MovesBearing.bind (movesBearing_load h hopen hy .blocking)
  intro _ x' s' hled hs'
  obtain ⟨⟨base', cache', cursor'⟩, w'⟩ := s'
  obtain ⟨y', hy', rfl⟩ : ∃ y, bearing (base', w') y ∧ x' = y.cached cache' cursor' := hs'
  have hserved := led_served hled fun hblocks hle => hblocks.byteAt_le hle
  apply StreamM.ends_of_eq_ok (serveByte_apply _ w')
  dsimp only
  cases hbyte : cache'.byteAt cursor' with
  | none =>
    rw [hbyte] at hserved
    exact ⟨_, hserved, y', hy', rfl⟩
  | some byte =>
    rw [hbyte] at hserved
    exact ⟨_, hserved, y', hy', rfl⟩

theorem movesBearing_placeless (h : FollowsBearing ω bearing) (hy : bearing (base, w) y)
    {request : Request}
    (hplaceless : request.isPlaceless = true) :
    (ByteStream.perform request : StreamM ω (Cached σ) request.Answer).MovesBearing
      (HasBearing bearing)
      (⟨base, cache, cursor⟩, w) (fun _ => (y.cached cache cursor).Led (y.origin + cursor))
      fun _ => (y.cached cache cursor).Led (y.origin + cursor) := by
  have hpassed : (onBase (ByteStream.perform request) : StreamM ω (Cached σ) _).MovesBearing
      (HasBearing bearing) (⟨base, cache, cursor⟩, w)
      (fun _ => (y.cached cache cursor).Led (y.origin + cursor))
      fun _ => (y.cached cache cursor).Led (y.origin + cursor) :=
    movesBearing_onBase (h.placeless hy request hplaceless)
      (fun _ _ hled => hled.cached (fun _ hblocks => hblocks) fun _ hle => hle)
      fun _ _ hled => hled.cached (fun _ hblocks => hblocks) fun _ hle => hle
  cases request with
  | flush mode => exact hpassed
  | timeout direction => exact hpassed
  | setTimeout direction limit => exact hpassed
  | _ => cases hplaceless

/-- **A cached layer** stands where its own cursor is. -/
theorem followsBearing (h : FollowsBearing ω bearing)
    (hopen : ∀ {s : Passthrough σ × ω} {x : Bearing}, bearing s x →
      (Passthrough.ensureOpen : StreamM ω (Passthrough σ) Unit) s = .ok () s) :
    FollowsBearing ω (HasBearing bearing) where
  range := by
    intro s x hs hranged
    obtain ⟨y, hy, rfl⟩ := hs
    exact ⟨Nat.le_add_right _ _, hranged.2.1⟩
  position := by
    intro s x hs
    obtain ⟨⟨base, cache, cursor⟩, w⟩ := s
    obtain ⟨y, hy, rfl⟩ : ∃ y, bearing (base, w) y ∧ x = y.cached cache cursor := hs
    apply StreamM.ends_bind_of_eq_ok ((carries_layer cache cursor _).eq_ok (hopen hy))
    exact ⟨rfl, rfl⟩
  length := by
    intro s x hs
    obtain ⟨⟨base, cache, cursor⟩, w⟩ := s
    obtain ⟨y, hy, rfl⟩ : ∃ y, bearing (base, w) y ∧ x = y.cached cache cursor := hs
    have hlength := h.length hy
    exact (carries_layer cache cursor _).eq_ok hlength
  setPosition := by
    intro s x hs target
    obtain ⟨⟨base, cache, cursor⟩, w⟩ := s
    obtain ⟨y, hy, rfl⟩ : ∃ y, bearing (base, w) y ∧ x = y.cached cache cursor := hs
    apply StreamM.ends_bind_of_eq_ok ((carries_layer cache cursor _).eq_ok (hopen hy))
    have hself := y.moved_self
    refine ⟨y.cached cache target, hself.cached hself (fun hranged _ _ => ?_) cache, y, hy, rfl⟩
    exact ⟨(h.range hy hranged).2, (h.range hy hranged).2⟩
  seek := by
    intro s x hs target
    obtain ⟨⟨base, cache, cursor⟩, w⟩ := s
    obtain ⟨y, hy, rfl⟩ : ∃ y, bearing (base, w) y ∧ x = y.cached cache cursor := hs
    exact movesBearing_seek h hy target
  read := by
    intro s x hs mode room
    obtain ⟨⟨base, cache, cursor⟩, w⟩ := s
    obtain ⟨y, hy, rfl⟩ : ∃ y, bearing (base, w) y ∧ x = y.cached cache cursor := hs
    apply StreamM.MovesBearing.bind (movesBearing_load h hopen hy mode)
    intro _ x' s' hled hs'
    obtain ⟨⟨base', cache', cursor'⟩, w'⟩ := s'
    obtain ⟨y', hy', rfl⟩ : ∃ y, bearing (base', w') y ∧ x' = y.cached cache' cursor' := hs'
    have hserved := led_served hled fun hblocks hle => hblocks.copyOut_le hle room
    exact ⟨_, hserved, y', hy', rfl⟩
  readByte := by
    intro s x hs
    obtain ⟨⟨base, cache, cursor⟩, w⟩ := s
    obtain ⟨y, hy, rfl⟩ : ∃ y, bearing (base, w) y ∧ x = y.cached cache cursor := hs
    exact movesBearing_readByte h hopen hy
  placeless := by
    intro s x hs request hplaceless
    obtain ⟨⟨base, cache, cursor⟩, w⟩ := s
    obtain ⟨y, hy, rfl⟩ : ∃ y, bearing (base, w) y ∧ x = y.cached cache cursor := hs
    exact movesBearing_placeless h hy hplaceless
  mutating := by
    intro s x hs hranged request hmutates _
    obtain ⟨⟨base, cache, cursor⟩, w⟩ := s
    obtain ⟨y, hy, rfl⟩ : ∃ y, bearing (base, w) y ∧ x = y.cached cache cursor := hs
    have hdeclined : (ByteStream.perform request : StreamM ω (Cached σ) request.Answer) =
        onBase (Passthrough.decline request) := perform_of_mutates hmutates
    rw [hdeclined]
    apply movesBearing_onBase (Passthrough.movesBearing_decline hy request)
    · intro _ _ hfalse
      exact hfalse.elim
    · intro _ y' heq
      rw [heq]
      exact ⟨rfl, hranged, Bearing.floor_le _ request⟩

end Cached

end LayeredStreams
