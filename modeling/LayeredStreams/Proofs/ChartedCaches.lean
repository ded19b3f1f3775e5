import LayeredStreams.Proofs.CacheOverView
import LayeredStreams.Proofs.CachedLoading
import LayeredStreams.Proofs.ChartedLayers

/-!
# Charts of cached layers

A cached layer gives the bytes of the stream below up to the end of the last block that starts
before its end, and never goes into the next block in one read. Which blocks are loaded does not
show, nor where the stream below is left by loading them.

* `Chart.bytes`, `Chart.cached` — the bytes that a cached layer keeps blocks of, and its chart.
* `FollowsChart.source` — a stream that answers as its chart says is a source of the bytes of the
  chart.
* `Cached.Lies` — an open cached layer, whose blocks are those of the chart below, lying where its
  cursor is.

Principal results: `Cached.ends_load_liesIn` (a load brings the block at the cursor),
`Cached.followsChart` (a cached layer answers as its chart says, over a stream that finds every
offset before its end) and `Cached.finds` (a layer that is never sent out of range finds every
offset, too).
-/

set_option autoImplicit false

namespace LayeredStreams

namespace Chart

/-- The bytes of a stream from its origin on. -/
def bytes (y : Chart) : Bytes := y.content.drop y.origin

/-- A place of the base, as a position of a stream that counts from the origin. -/
def cursorAt (y : Chart) (place : Nat) : Except StreamError Nat := behind y.origin place

/-- The chart of a layer that keeps blocks. A seek first takes the stream below to the cursor. -/
def cached (y : Chart) : Chart where
  origin := y.origin
  size := y.size
  content := y.content.take (y.origin + BlockIndex.reach y.size)
  position := y.cursorAt
  setPosition _ := .ok ()
  seek target place :=
    match y.cursorAt place >>= y.setPosition with
    | .error e => .error (e, place)
    | .ok _ =>
      match y.seek target place with
      | .ok there => .ok there
      | .error (e, _) => .error (e, place)
  read place room :=
    Bytes.window (y.content.take (y.origin + BlockIndex.reach y.size)) place
      (min room (blockSize - BlockIndex.offsetWithin (place - y.origin)))

variable {y : Chart} {cursor there : Nat} {target : SeekTarget} {e : StreamError}

theorem cursorAt_origin_add (y : Chart) (cursor : Nat) :
    y.cursorAt (y.origin + cursor) = .ok cursor := by
  unfold cursorAt behind
  rw [if_pos (Nat.le_add_right _ _), Nat.add_sub_cancel_left]

theorem seek_cached_of_far (hset : y.setPosition cursor = .error e) :
    y.cached.seek target (y.origin + cursor) = .error (e, y.origin + cursor) := by
  have hcursor : y.cursorAt (y.origin + cursor) >>= y.setPosition = .error e := by
    rw [cursorAt_origin_add]
    exact hset
  unfold cached
  dsimp only
  rw [hcursor]

theorem seek_cached_of_error {place' : Nat} (hset : y.setPosition cursor = .ok ())
    (hseek : y.seek target (y.origin + cursor) = .error (e, place')) :
    y.cached.seek target (y.origin + cursor) = .error (e, y.origin + cursor) := by
  have hcursor : y.cursorAt (y.origin + cursor) >>= y.setPosition = .ok () := by
    rw [cursorAt_origin_add]
    exact hset
  unfold cached
  dsimp only
  rw [hcursor]
  dsimp only
  rw [hseek]

theorem seek_cached_of_ok (hset : y.setPosition cursor = .ok ())
    (hseek : y.seek target (y.origin + cursor) = .ok there) :
    y.cached.seek target (y.origin + cursor) = .ok there := by
  have hcursor : y.cursorAt (y.origin + cursor) >>= y.setPosition = .ok () := by
    rw [cursorAt_origin_add]
    exact hset
  unfold cached
  dsimp only
  rw [hcursor]
  dsimp only
  rw [hseek]

theorem read_cached (y : Chart) (cursor room : Nat) :
    y.cached.read (y.origin + cursor) room =
      servedBytes y.bytes y.size cursor room := by
  have hdrop : List.take (BlockIndex.reach y.size) y.bytes =
      (y.content.take (y.origin + BlockIndex.reach y.size)).drop y.origin := by
    rw [List.drop_take, Nat.add_sub_cancel_left]
    rfl
  rw [servedBytes_eq_window, hdrop, Bytes.window_drop]
  show Bytes.window _ _ (min room (blockSize - BlockIndex.offsetWithin
    (y.origin + cursor - y.origin)))
    = _
  rw [Nat.add_sub_cancel_left]

theorem delivers_cached (y : Chart) (place room : Nat) :
    Delivers y.cached.content place room (y.cached.read place room) := by
  have hwithin := BlockIndex.offsetWithin_lt (place - y.origin)
  exact .window (fun hroom => by omega) (Nat.min_le_left _ _)

theorem Sound.size_le_maxPosition (h : y.Sound) : y.size ≤ maxPosition :=
  Nat.le_trans h.size_le (Nat.le_trans (Nat.sub_le _ _) h.fits)

/-- The chart of a cached layer is in order if that of the stream below is. -/
theorem Sound.cached (h : y.Sound) : y.cached.Sound where
  size_le := by
    have hsize := h.size_le
    have hreach := BlockIndex.le_reach y.size
    show y.size ≤ (y.content.take (y.origin + BlockIndex.reach y.size)).length - y.origin
    rw [List.length_take]
    omega
  fits := by
    show (y.content.take _).length ≤ maxPosition
    rw [List.length_take]
    exact Nat.le_trans (Nat.min_le_right _ _) h.fits
  position := behind_eq_ok
  granted := fun _ => rfl
  leads := by
    intro target place there hseek
    unfold Chart.cached at hseek
    dsimp only at hseek
    split at hseek
    · cases hseek
    split at hseek
    · rename_i hbelow
      cases hseek
      exact h.leads hbelow
    · cases hseek
  refused := by
    intro target place place' e _ hseek
    unfold Chart.cached at hseek
    dsimp only at hseek
    split at hseek
    · cases hseek
      rfl
    split at hseek
    · cases hseek
    · cases hseek
      rfl

end Chart

section Below

variable {ω σ : Type} [Cancellation ω] [ByteStream ω σ] {admits : Nat → Prop}
  {lies : σ → Chart → Nat → Prop}
  {below : σ} {y : Chart} {place : Nat}

theorem FollowsChart.source (h : FollowsChart ω admits lies) (y : Chart) (w : ω) :
    Source y.content (fun _ => False) (LiesIn lies y w) where
  read := by
    intro s place hliesIn mode room
    obtain ⟨below, w'⟩ := s
    obtain ⟨hy, rfl⟩ := hliesIn
    apply StreamM.Ends.mono (h.read hy mode room w')
    · intro bytes s' hout
      obtain ⟨_, ⟨rfl, rfl⟩, hliesIn⟩ := hout
      exact ⟨h.delivers hy room, hliesIn⟩
    · intro e s' hout
      obtain ⟨_, ⟨hcancelled, rfl⟩, hliesIn⟩ := hout
      rw [← hliesIn.2] at hcancelled
      exact ⟨Or.inr hcancelled, hliesIn⟩

theorem FollowsChart.ends_fetchBelow (h : FollowsChart ω admits lies) (hfinds : Finds lies)
    (hy : lies below y place) (mode : Mode) {offset : Nat} (w : ω)
    (hstart : (BlockIndex.containing offset).start < y.size) :
    (Cached.fetchBelow mode (.containing offset) : StreamM ω σ Bytes).Ends (below, w)
      (fun data s' => some data = BlockIndex.blockOf y.bytes y.size offset ∧
        ∃ q, LiesIn lies y w s' q)
      fun e s' => (mode.isCancelled w = true ∧ e = .refusal .cancelled) ∧
        ∃ q, LiesIn lies y w s' q := by
  have hfound := hfinds hy hstart
  apply StreamM.Ends.bind (StreamM.Ends.mono (h.seek hy _ w) (fun _ _ h => h) ?_)
  · intro there s₁ hout
    obtain ⟨q, ⟨hthere, rfl⟩, hliesIn⟩ := hout
    rw [hfound] at hthere
    obtain rfl := Except.ok.inj hthere
    apply StreamM.Ends.bind (((h.source y w).ends_fill mode blockSize hliesIn).mono
      (fun _ _ h => h) fun _ _ => False.elim)
    intro filled s₂ hout
    obtain ⟨hfilled, hliesIn'⟩ := hout
    unfold Filled.outcome
    cases hfailure : filled.failure with
    | some e =>
      rcases (hfilled.excuse e hfailure).2 with hfalse | hcancelled
      · exact hfalse.elim
      · rw [hliesIn'.2] at hcancelled
        exact ⟨hcancelled, _, hliesIn'⟩
    | none =>
      refine ⟨?_, _, hliesIn'⟩
      unfold BlockIndex.blockOf Chart.bytes
      rw [if_pos hstart, Bytes.window_drop, hfilled.complete hfailure]
  · intro e s₁ hout
    obtain ⟨q, hrefused, -⟩ := hout
    rw [hfound] at hrefused
    cases hrefused

theorem FollowsChart.ends_bring (h : FollowsChart ω admits lies) (hfinds : Finds lies)
    (hy : lies below y place) (mode : Mode) (offset : Nat) (w : ω) :
    (Cached.bring mode (.containing offset) : StreamM ω σ (Option Bytes)).Ends (below, w)
      (fun brought s' =>
        brought = BlockIndex.blockOf y.bytes y.size offset ∧
          ∃ q, LiesIn lies y w s' q)
      fun e s' => (mode.isCancelled w = true ∧ e = .refusal .cancelled) ∧
        ∃ q, LiesIn lies y w s' q := by
  apply StreamM.ends_bind_of_eq_ok (h.length hy w)
  split
  · rename_i hend
    refine ⟨?_, place, hy, rfl⟩
    unfold BlockIndex.blockOf
    rw [if_neg (Nat.not_lt.mpr hend)]
  rename_i hend
  have hstart : (BlockIndex.containing offset).start < y.size := Nat.lt_of_not_le hend
  have hword : (BlockIndex.containing offset).value < maxWord :=
    BlockIndex.value_lt_maxWord hstart (h.sound hy).size_le_maxPosition
  rw [BlockCache.placeOf_of_lt hword]
  apply StreamM.Ends.bind (h.ends_fetchBelow hfinds hy mode w hstart)
  intro data s' hout
  exact hout

end Below

theorem BlockCache.adds_taking {content : Bytes} {size offset : Nat} (cache : BlockCache)
    (hsize : size ≤ maxPosition) :
    Adds content size offset cache
      (cache.taking offset (BlockIndex.blockOf content size offset)) := by
  by_cases hstart : (BlockIndex.containing offset).start < size
  · have hblock : BlockIndex.blockOf content size offset = some _ := if_pos hstart
    have hword := BlockIndex.value_lt_maxWord hstart hsize
    rw [hblock]
    intro index
    show BlockCache.block? (BlockCache.install _ _ _ _) index = _
    rw [adds_install hword hblock index, block?_missingBlock]
  · have hblock : BlockIndex.blockOf content size offset = none := if_neg hstart
    rw [hblock]
    exact adds_self (.inr (Nat.le_of_not_lt hstart))

namespace Cached

variable {ω σ : Type} {admits : Nat → Prop} {lies : σ → Chart → Nat → Prop}

/-- An open layer with its cursor at a place, and with the blocks of the chart below, over a stream
that lies anywhere on that chart. -/
def Lies (admits : Nat → Prop) (lies : σ → Chart → Nat → Prop) (layer : Cached σ) (x : Chart)
    (place : Nat) : Prop :=
  ∃ ownership cache cursor below y place', layer = opened ownership cache cursor below ∧
    lies below y place' ∧ cache.Mirrors y.bytes y.size ∧
    place = y.origin + cursor ∧ admits place ∧ x = y.cached

variable {ownership : Ownership} {cache : BlockCache} {cursor place : Nat} {below : σ} {y : Chart}
  {w : ω}

theorem lies_opened (hy : lies below y place)
    (hmirrors : cache.Mirrors y.bytes y.size)
    (hadmits : admits (y.origin + cursor)) :
    Lies admits lies (opened ownership cache cursor below) y.cached (y.origin + cursor) :=
  ⟨ownership, cache, cursor, below, y, place, rfl, hy, hmirrors, rfl, hadmits, rfl⟩

variable [Cancellation ω] [ByteStream ω σ]

/-- **A load brings the block at the cursor** from wherever the stream below lies, unless it is
there or there is none. A load that is cancelled leaves the blocks as they are. -/
theorem ends_load_liesIn (h : FollowsChart ω admits lies) (hfinds : Finds lies)
    (hy : lies below y place) (hmirrors : cache.Mirrors y.bytes y.size)
    (mode : Mode) :
    (load mode : StreamM ω (Cached σ) Unit).Ends (opened ownership cache cursor below, w)
      (fun _ s' => ∃ cache' below', s' = (opened ownership cache' cursor below', w) ∧
        cache'.blockAt cursor = BlockIndex.blockOf y.bytes y.size cursor ∧
        cache'.Mirrors y.bytes y.size ∧ ∃ q, lies below' y q)
      fun e s' => (mode.isCancelled w = true ∧ e = .refusal .cancelled) ∧
        ∃ cache' below', s' = (opened ownership cache' cursor below', w) ∧
          cache'.Mirrors y.bytes y.size ∧ ∃ q, lies below' y q := by
  cases hloaded : cache.isLoaded (.containing cursor) with
  | true =>
    apply StreamM.ends_of_eq_ok (load_of_loaded hloaded mode below w)
    refine ⟨cache, below, rfl, ?_, hmirrors, place, hy⟩
    exact hmirrors.blockAt_of_adds (BlockCache.adds_self (.inl hloaded))
  | false =>
    apply (ends_load_of_not_loaded hloaded (h.ends_bring hfinds hy mode cursor w)).mono
    · intro _ s' hout
      obtain ⟨_, w'⟩ := s'
      obtain ⟨_, below', rfl, rfl, q, hy', rfl⟩ := hout
      have hadds : BlockCache.Adds y.bytes y.size cursor cache _ :=
        BlockCache.adds_taking cache (h.sound hy).size_le_maxPosition
      exact ⟨_, below', rfl, hmirrors.blockAt_of_adds hadds, hmirrors.adds hadds, q, hy'⟩
    · intro e s' hout
      obtain ⟨_, w'⟩ := s'
      obtain ⟨cache', below', rfl, hcache, hcancelled, q, hy', rfl⟩ := hout
      refine ⟨hcancelled, cache', below', rfl, ?_, q, hy'⟩
      rcases hcache with rfl | rfl
      · exact hmirrors
      · exact hmirrors.of_block?_eq (BlockCache.block?_missingBlock cache cursor)

theorem admits_behind (h : FollowsChart ω admits lies) (hy : lies below y place)
    (hmax : ∀ place, place ≤ maxPosition → admits place) (hadmits : admits (y.origin + cursor))
    (room : Nat) :
    admits (y.origin + (cursor + (y.cached.read (y.origin + cursor) room).length)) := by
  have hfits := (h.sound hy).cached.fits
  have hlength := (y.delivers_cached (y.origin + cursor) room).length_le_sub
  by_cases hend : (y.cached.read (y.origin + cursor) room).length = 0
  · rw [hend]
    exact hadmits
  · exact hmax _ (by omega)

theorem moves_read_liesIn (h : FollowsChart ω admits lies) (hfinds : Finds lies)
    (hmax : ∀ place, place ≤ maxPosition → admits place) (hy : lies below y place)
    (hmirrors : cache.Mirrors y.bytes y.size)
    (hadmits : admits (y.origin + cursor)) (mode : Mode) (room : Nat) :
    (ByteStream.read mode room : StreamM ω (Cached σ) Bytes).Moves
      (LiesIn (Lies admits lies) y.cached w) (opened ownership cache cursor below, w)
      (fun bytes q => bytes = y.cached.read (y.origin + cursor) room ∧
        q = y.origin + cursor + bytes.length)
      fun e q => (mode.isCancelled w = true ∧ e = .refusal .cancelled) ∧ q = y.origin + cursor := by
  apply StreamM.Ends.bind ((ends_load_liesIn h hfinds hy hmirrors mode).mono (fun _ _ h => h) ?_)
  · intro _ s' hout
    obtain ⟨cache', below', rfl, hblock, hmirrors', q, hy'⟩ := hout
    have hserved : cache'.copyOut cursor room = y.cached.read (y.origin + cursor) room :=
      (copyOut_of_blockAt hblock room).trans (Chart.read_cached y cursor room).symm
    refine ⟨_, ⟨hserved, rfl⟩, ?_, rfl⟩
    have hbehind := admits_behind h hy hmax hadmits room
    rw [← hserved] at hbehind
    show Lies admits lies (opened ownership cache' (cursor + (cache'.copyOut cursor room).length)
      below') y.cached (y.origin + cursor + (cache'.copyOut cursor room).length)
    rw [Nat.add_assoc]
    exact lies_opened hy' hmirrors' hbehind
  · intro e s' hout
    obtain ⟨hcancelled, cache', below', rfl, hmirrors', q, hy'⟩ := hout
    exact ⟨_, ⟨hcancelled, rfl⟩, lies_opened hy' hmirrors' hadmits, rfl⟩

theorem byteAt_eq_head? (hblock :
      cache.blockAt cursor = BlockIndex.blockOf y.bytes y.size cursor) :
    cache.byteAt cursor = (y.cached.read (y.origin + cursor) 1).head? := by
  have hwithin := BlockIndex.offsetWithin_lt cursor
  rw [byteAt_of_blockAt hblock, Chart.read_cached]
  unfold servedBytes
  split
  · rw [Nat.min_eq_left (by omega), Bytes.window_one, Option.head?_toList]
  · rfl

theorem moves_readByte_liesIn (h : FollowsChart ω admits lies) (hfinds : Finds lies)
    (hmax : ∀ place, place ≤ maxPosition → admits place) (hy : lies below y place)
    (hmirrors : cache.Mirrors y.bytes y.size)
    (hadmits : admits (y.origin + cursor)) :
    (ByteStream.readByte : StreamM ω (Cached σ) (Option UInt8)).Moves
      (LiesIn (Lies admits lies) y.cached w) (opened ownership cache cursor below, w)
      (fun byte q => byte = (y.cached.read (y.origin + cursor) 1).head? ∧
        q = y.origin + cursor + byte.toList.length) fun _ _ => False := by
  apply StreamM.Ends.bind ((ends_load_liesIn h hfinds hy hmirrors .blocking).mono
    (fun _ _ h => h) ?_)
  · intro _ s' hout
    obtain ⟨cache', below', rfl, hblock, hmirrors', q, hy'⟩ := hout
    have hbyte := byteAt_eq_head? hblock
    have hbehind := admits_behind h hy hmax hadmits 1
    have hlength : (cache'.byteAt cursor).toList.length =
        (y.cached.read (y.origin + cursor) 1).length := by
      rw [hbyte]
      exact Bytes.length_head? (y.delivers_cached _ 1).length_le
    have hcursor : (if (cache'.byteAt cursor).isSome then cursor + 1 else cursor) =
        cursor + (cache'.byteAt cursor).toList.length := by
      cases cache'.byteAt cursor with
      | none => rfl
      | some byte => rfl
    apply StreamM.ends_of_eq_ok (serveByte_apply _ w)
    refine ⟨_, ⟨hbyte, rfl⟩, ?_, rfl⟩
    show Lies admits lies (opened ownership cache'
      (if (cache'.byteAt cursor).isSome then cursor + 1 else cursor) below') y.cached
      (y.origin + cursor + (cache'.byteAt cursor).toList.length)
    rw [hcursor, Nat.add_assoc]
    rw [← hlength] at hbehind
    exact lies_opened hy' hmirrors' hbehind
  · intro e s' hout
    cases hout.1.1

omit [Cancellation ω] [ByteStream ω σ] in
/-- A request below that answers as the chart says leaves the layer where its cursor is. -/
theorem lies_of_held {place' : Nat} (hmirrors : cache.Mirrors y.bytes y.size)
    (hadmits : admits (y.origin + cursor)) {s : Cached σ × ω}
    (h : StreamM.Held (opened ownership cache cursor) (LiesIn lies y w · place') s) :
    LiesIn (Lies admits lies) y.cached w s (y.origin + cursor) := by
  obtain ⟨layer, w'⟩ := s
  obtain ⟨below', rfl, hy', hw⟩ := h
  exact ⟨lies_opened hy' hmirrors hadmits, hw⟩

theorem moves_seek_liesIn (h : FollowsChart ω admits lies) (hy : lies below y place)
    (hmirrors : cache.Mirrors y.bytes y.size)
    (hadmits : admits (y.origin + cursor)) (target : SeekTarget) :
    (ByteStream.seek target : StreamM ω (Cached σ) Nat).Moves
      (LiesIn (Lies admits lies) y.cached w) (opened ownership cache cursor below, w)
      (fun there q => y.cached.seek target (y.origin + cursor) = .ok there ∧ q = y.origin + there)
      fun e q => y.cached.seek target (y.origin + cursor) = .error (e, q) := by
  have hset := (@carries_onBase ω σ ownership cache cursor _ (.setPosition cursor) rfl).moves_of
    (h.setPosition hy cursor (fun _ => hadmits) w)
  show StreamM.Ends (Cached.seek target) _ _ _
  apply StreamM.ends_state_bind
  apply StreamM.Ends.bind (StreamM.Ends.mono hset (fun _ _ h => h) ?_)
  · intro _ s₁ hout
    obtain ⟨_, w₁⟩ := s₁
    obtain ⟨_, ⟨hgranted, rfl⟩, below₁, rfl, hy₁, rfl⟩ := hout
    have hseek := (@carries_onBase ω σ ownership cache cursor _ (.seek target) rfl).moves_of
      (h.seek hy₁ target w₁)
    apply StreamM.Ends.bind (StreamM.Ends.mono hseek (fun _ _ h => h) ?_)
    · intro there s₂ hout
      obtain ⟨_, w₂⟩ := s₂
      obtain ⟨_, ⟨hthere, rfl⟩, below₂, rfl, hy₂, rfl⟩ := hout
      have hlies : Lies admits lies (opened ownership cache there below₂) y.cached
          (y.origin + there) := lies_opened hy₂ hmirrors (h.admitted hy₂)
      exact ⟨_, ⟨Chart.seek_cached_of_ok hgranted hthere, rfl⟩, hlies, rfl⟩
    · intro e s₂ hout
      obtain ⟨_, hrefused, hheld⟩ := hout
      exact ⟨_, Chart.seek_cached_of_error hgranted hrefused, lies_of_held hmirrors hadmits hheld⟩
  · intro e s₁ hout
    obtain ⟨_, ⟨hrefused, -⟩, hheld⟩ := hout
    exact ⟨_, Chart.seek_cached_of_far hrefused, lies_of_held hmirrors hadmits hheld⟩

/-- **A cached layer** answers as its chart says, over a stream that finds every offset before its
end. -/
theorem followsChart (hmax : ∀ place, place ≤ maxPosition → admits place)
    (h : FollowsChart ω admits lies) (hfinds : Finds lies) :
    FollowsChart ω admits (Lies admits lies) := by
  constructor
  all_goals
    intro layer x place hlies
    obtain ⟨ownership, cache, cursor, below, y, place', rfl, hy, hmirrors, rfl, hadmits, rfl⟩ :=
      hlies
  case sound => exact (h.sound hy).cached
  case admitted => exact hadmits
  case delivers => exact fun room => y.delivers_cached (y.origin + cursor) room
  case position =>
    intro w
    show _ = (StreamM.settle (y.cursorAt (y.origin + cursor)) : StreamM ω (Cached σ) Nat) _
    rw [Chart.cursorAt_origin_add]
    rfl
  case length =>
    exact fun w => (@carries_onBase ω σ ownership cache cursor _ .length rfl).eq_ok (h.length hy w)
  case setPosition =>
    intro target htarget w
    exact ⟨_, ⟨rfl, rfl⟩, lies_opened hy hmirrors (htarget rfl), rfl⟩
  case seek => exact fun target w => moves_seek_liesIn h hy hmirrors hadmits target
  case read =>
    exact fun mode room w => moves_read_liesIn h hfinds hmax hy hmirrors hadmits mode room
  case readByte => exact fun w => moves_readByte_liesIn h hfinds hmax hy hmirrors hadmits
  case placeless =>
    intro request hplaceless w
    have hpassed : request.isQuiet = true →
        (onBase (ByteStream.perform request) : StreamM ω (Cached σ) _).Ends
          (opened ownership cache cursor below, w)
          (fun _ s' => Lies admits lies s'.1 y.cached (y.origin + cursor))
          fun _ s' => Lies admits lies s'.1 y.cached (y.origin + cursor) := fun hquiet =>
      (carries_onBase hquiet).ends_lies (h.placeless hy request hplaceless w)
        fun hy' => lies_opened hy' hmirrors hadmits
    cases request with
    | flush mode => exact hpassed rfl
    | timeout direction => exact hpassed rfl
    | setTimeout direction limit => exact hpassed rfl
    | _ => cases hplaceless
  case mutating =>
    intro request hmutates _ w
    have hdeclined : (ByteStream.perform request : StreamM ω (Cached σ) request.Answer) =
      onBase (Passthrough.decline request) := perform_of_mutates hmutates
    rw [hdeclined]
    have hkept : Charted (Lies admits lies) (opened ownership cache cursor below, w) :=
      ⟨_, _, lies_opened hy hmirrors hadmits⟩
    exact Passthrough.ends_declined_below (carries_layer cache cursor _) hkept

/-- A layer that is never sent out of range finds every offset before its end. -/
theorem finds [Nonempty ω] (hrange : ∀ place, admits place → place ≤ maxPosition)
    (h : FollowsChart ω admits lies) (hfinds : Finds lies) : Finds (Lies admits lies) := by
  intro layer x place offset hlies hlt
  obtain ⟨ownership, cache, cursor, below, y, place', rfl, hy, hmirrors, rfl, hadmits, rfl⟩ := hlies
  have hlt : offset < y.size := hlt
  have hgranted := (h.sound hy).granted (hrange _ hadmits)
  -- the stream below can be taken to the cursor, and finds the offset from there
  have hset : (ByteStream.setPosition cursor : StreamM ω σ Unit).Ends (below, Classical.ofNonempty)
      (fun _ s' => lies s'.1 y (y.origin + cursor)) fun _ _ => False := by
    apply StreamM.Ends.mono (h.setPosition hy cursor (fun _ => hadmits) _)
    · intro _ s' hout
      obtain ⟨_, ⟨-, rfl⟩, hliesIn⟩ := hout
      exact hliesIn.1
    · intro e s' hout
      obtain ⟨_, ⟨hrefused, -⟩, -⟩ := hout
      rw [hgranted] at hrefused
      cases hrefused
  obtain ⟨_, s', -, hy'⟩ := hset.exists_ok
  exact Chart.seek_cached_of_ok hgranted (hfinds hy' hlt)

end Cached

end LayeredStreams
