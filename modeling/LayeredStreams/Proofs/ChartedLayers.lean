import LayeredStreams.Proofs.Charts

/-!
# Charts of layers without blocks

Each layer that keeps no blocks turns the chart of the stream below into its own.

* `Chart.rebase`, `Chart.cut` — the charts of a rebased and of a truncated layer.
* `Passthrough.Lies`, `ReadOnly.Lies`, `Rebased.Lies`, `Truncated.Lies`, `Window.Lies` — open layers
  over a stream that lies on a chart. A truncated layer notes where that is.

Principal results: `followsChart` and `finds` of each layer: it answers as its chart says, and finds
every offset before its end, if the stream below does.
-/

set_option autoImplicit false

namespace LayeredStreams

section Layers

variable {ω σ : Type} {admits : Nat → Prop} {lies : σ → Chart → Nat → Prop}

/-! ## Layers that change nothing -/

namespace Passthrough

/-- An open layer over a stream that lies on a chart. -/
def Lies (lies : σ → Chart → Nat → Prop) (layer : Passthrough σ) (x : Chart) (place : Nat) : Prop :=
  ∃ ownership, Embedded (fun stream => ⟨.live stream, ownership⟩) lies layer x place

theorem lies_live {stream : σ} {x : Chart} {place : Nat} (h : lies stream x place)
    (ownership : Ownership) : Lies lies ⟨.live stream, ownership⟩ x place :=
  ⟨ownership, stream, rfl, h⟩

theorem ensureOpen_of_lies {layer : Passthrough σ} {x : Chart} {place : Nat}
    (h : Lies lies layer x place) (w : ω) :
    (ensureOpen : StreamM ω (Passthrough σ) Unit) (layer, w) = .ok () (layer, w) := by
  obtain ⟨ownership, stream, rfl, -⟩ := h
  rfl

/-- **A layer that changes nothing** has the chart of the stream below. -/
theorem followsChart [Cancellation ω] [ByteStream ω σ] (h : FollowsChart ω admits lies) :
    FollowsChart ω admits (Lies lies) := by
  apply FollowsChart.of_cover
  intro layer x place hlies
  obtain ⟨ownership, hembedded⟩ := hlies
  refine ⟨_, hembedded, h.along ?_, fun hembedded => ⟨ownership, hembedded⟩⟩
  intro request hdispose
  cases request with
  | dispose => exact absurd rfl hdispose
  | _ => exact carries_forward ownership _

theorem finds (h : Finds lies) : Finds (Lies lies) := by
  intro layer x place offset hlies hlt
  obtain ⟨ownership, stream, -, hstream⟩ := hlies
  exact h hstream hlt

/-- What a layer declines leaves everything over it as it is. -/
theorem ends_declined_below {τ α : Type} {f : Passthrough σ → τ} {request : Request}
    {act : StreamM ω τ α} (hcarries : StreamM.Carries f (decline request) act)
    {base : Passthrough σ} {w : ω} {keeps : τ × ω → Prop} (hkeeps : keeps (f base, w)) :
    act.Ends (f base, w) (fun _ => keeps) fun _ => keeps := by
  apply hcarries.ends_at
  apply (ends_decline request (base, w)).mono
  · intro _ _ hfalse
    exact hfalse.elim
  · intro _ s' heq
    subst heq
    exact hkeeps

end Passthrough

end Layers

section Parts

variable {ω σ α : Type} {admits : Nat → Prop} {lies : Passthrough σ → Chart → Nat → Prop}

namespace ReadOnly

/-- A read-only layer over a part that lies on a chart. -/
def Lies (lies : Passthrough σ → Chart → Nat → Prop) (layer : ReadOnly σ) (x : Chart)
    (place : Nat) : Prop :=
  lies layer.base x place

/-- **A read-only layer** has the chart of the stream below. -/
theorem followsChart [Cancellation ω] [ByteStream ω σ] (h : FollowsChart ω admits lies) :
    FollowsChart ω admits (Lies lies) := by
  constructor
  all_goals
    intro layer x place hlies
    obtain ⟨base⟩ := layer
    have hbase : lies base x place := hlies
  case sound => exact h.sound hbase
  case admitted => exact h.admitted hbase
  case delivers => exact h.delivers hbase
  case position => exact fun w => (carries_onBase _).eq_settle (h.position hbase w)
  case length => exact fun w => (carries_onBase _).eq_ok (h.length hbase w)
  case setPosition =>
    exact fun target hadmits w =>
      (h.setPosition hbase target hadmits w).liesIn (carries_onBase _) fun hlies => hlies
  case seek =>
    exact fun target w => (h.seek hbase target w).liesIn (carries_onBase _) fun hlies => hlies
  case read =>
    exact fun mode room w =>
      (h.read hbase mode room w).liesIn (carries_onBase _) fun hlies => hlies
  case readByte =>
    exact fun w => (h.readByte hbase w).liesIn (carries_onBase _) fun hlies => hlies
  case placeless =>
    intro request hplaceless w
    have hpassed := (carries_onBase _).ends_lies (h.placeless hbase request hplaceless w)
      (show ∀ {base : Passthrough σ}, lies base x place → Lies lies ⟨base⟩ x place from
        fun hlies => hlies)
    cases request with
    | flush mode => exact hpassed
    | timeout direction => exact hpassed
    | setTimeout direction limit => exact hpassed
    | _ => cases hplaceless
  case mutating =>
    intro request hmutates _ w
    have hdeclined : (ByteStream.perform request : StreamM ω (ReadOnly σ) request.Answer) =
      onBase (Passthrough.decline request) := perform_of_mutates hmutates
    rw [hdeclined]
    exact Passthrough.ends_declined_below (carries_onBase _) ⟨x, place, hbase⟩

theorem finds (h : Finds lies) : Finds (Lies lies) := fun _ _ _ _ hlies hlt => h hlies hlt

end ReadOnly

/-! ## Rebased layers -/

namespace Chart

/-- A position counted from `start`, as a position of the stream below. -/
def ahead (start position : Nat) : Except StreamError Nat :=
  if position + start ≤ maxWord then .ok (position + start)
  else .error (.refusal (.invalidSeek (position + start : Nat)))

/-- A position of the stream below, counted from `start`. -/
def behind (start there : Nat) : Except StreamError Nat :=
  if start ≤ there then .ok (there - start)
  else .error (.refusal (.invalidSeek ((there : Int) - start)))

/-- Whether a place of the stream below is not before `start`. -/
def notBefore (start : Nat) (there : Int) : Except StreamError Unit :=
  if there < start then .error (.refusal (.invalidSeek (there - start))) else .ok ()

/-- The seek target of the stream below that one counted from `start` stands for. -/
def below (y : Chart) (start place : Nat) (target : SeekTarget) : Except StreamError SeekTarget :=
  match target with
  | .fromStart offset => (ahead start offset).map .fromStart
  | .fromCurrent _ => do
    notBefore start (target.destination (← y.position place) 0)
    return target
  | .fromEnd _ => do
    notBefore start (target.destination 0 y.size)
    return target

/-- What a seek of the stream below leads to, counted from `start`. -/
def seekBehind (y : Chart) (start place : Nat) (target : SeekTarget) :
    Except (StreamError × Nat) Nat :=
  match y.seek target place with
  | .error failure => .error failure
  | .ok there =>
    match behind start there with
    | .ok position => .ok position
    | .error e => .error (e, y.origin + there)

/-- The chart of a layer that counts positions from `start`. -/
def rebase (y : Chart) (start : Nat) : Chart where
  origin := y.origin + start
  size := y.size - start
  content := y.content
  position place := do behind start (← y.position place)
  setPosition target := do y.setPosition (← ahead start target)
  seek target place :=
    match y.below start place target with
    | .error e => .error (e, place)
    | .ok target' => y.seekBehind start place target'
  read := y.read

variable {y : Chart} {start place there : Nat} {target target' : SeekTarget} {e : StreamError}

theorem behind_eq_ok {position : Nat} (h : behind start there = .ok position) :
    start + position = there := by
  unfold behind at h
  split at h
  · cases h
    omega
  · cases h

theorem behind_eq_error (h : behind start there = .error e) : there < start := by
  unfold behind at h
  split at h
  · cases h
  · omega

theorem seek_rebase_of_error (h : y.below start place target = .error e) :
    (y.rebase start).seek target place = .error (e, place) := by
  show (match y.below start place target with
    | .error e => Except.error (e, place)
    | .ok target' => y.seekBehind start place target') = _
  rw [h]

theorem seek_rebase_of_ok (h : y.below start place target = .ok target') :
    (y.rebase start).seek target place = y.seekBehind start place target' := by
  show (match y.below start place target with
    | .error e => Except.error (e, place)
    | .ok target' => y.seekBehind start place target') = _
  rw [h]

theorem seekBehind_of_ok {position : Nat} (hseek : y.seek target place = .ok there)
    (hposition : behind start there = .ok position) :
    y.seekBehind start place target = .ok position := by
  unfold seekBehind
  rw [hseek]
  dsimp only
  rw [hposition]

theorem seekBehind_of_before (hseek : y.seek target place = .ok there)
    (hbefore : behind start there = .error e) :
    y.seekBehind start place target = .error (e, y.origin + there) := by
  unfold seekBehind
  rw [hseek]
  dsimp only
  rw [hbefore]

theorem seekBehind_of_error {failure : StreamError × Nat}
    (hseek : y.seek target place = .error failure) :
    y.seekBehind start place target = .error failure := by
  unfold seekBehind
  rw [hseek]

/-- A seek that is granted was granted below, and led to no place before `start`. -/
theorem seekBehind_eq_ok (h : y.seekBehind start place target = .ok there) :
    y.seek target place = .ok (start + there) := by
  unfold seekBehind at h
  split at h
  · cases h
  · rename_i there' hseek
    rw [hseek]
    split at h
    · rename_i position hposition
      cases h
      rw [behind_eq_ok hposition]
    · cases h

/-- A seek that is refused was refused below, or led to a place before `start`. -/
theorem seekBehind_eq_error {place' : Nat}
    (h : y.seekBehind start place target = .error (e, place')) :
    y.seek target place = .error (e, place') ∨
      ∃ there, y.seek target place = .ok there ∧ there < start := by
  unfold seekBehind at h
  split at h
  · rename_i failure hseek
    cases h
    exact Or.inl hseek
  · rename_i there' hseek
    refine Or.inr ⟨there', hseek, ?_⟩
    split at h
    · cases h
    · rename_i hposition
      exact behind_eq_error hposition

theorem notBefore_eq_ok {there : Int} (h : notBefore start there = .ok ()) :
    (start : Int) ≤ there := by
  unfold notBefore at h
  split at h
  · cases h
  · omega

theorem below_fromStart_eq_ok {offset : Nat}
    (h : y.below start place (.fromStart offset) = .ok target') :
    target' = .fromStart (offset + start) := by
  have h : (ahead start offset).map SeekTarget.fromStart = .ok target' := h
  unfold ahead at h
  split at h
  · cases h
    rfl
  · cases h

theorem bind_notBefore_eq_ok {there : Int}
    (h : (notBefore start there >>= fun _ => pure target) = .ok target') :
    target' = target ∧ (start : Int) ≤ there := by
  cases hstart : notBefore start there with
  | error e =>
    rw [hstart] at h
    cases h
  | ok _ =>
    rw [hstart] at h
    cases h
    exact ⟨rfl, notBefore_eq_ok hstart⟩

theorem below_fromCurrent_eq_ok {offset : Int}
    (h : y.below start place (.fromCurrent offset) = .ok target') :
    target' = .fromCurrent offset ∧
      ∃ here, y.position place = .ok here ∧ (start : Int) ≤ here + offset := by
  have h : (y.position place >>= fun here => notBefore start ((here : Int) + offset) >>= fun _ =>
    pure (SeekTarget.fromCurrent offset)) = .ok target' := h
  cases hposition : y.position place with
  | error e =>
    rw [hposition] at h
    cases h
  | ok here =>
    rw [hposition] at h
    obtain ⟨hsame, hge⟩ := bind_notBefore_eq_ok h
    exact ⟨hsame, here, rfl, hge⟩

/-- A target stands for one that is told from the same. One that is not told from the end leads to
no place before `start`. -/
theorem Sound.below_leads (h : y.Sound) (hbelow : y.below start place target = .ok target') :
    Request.isFromEnd (.seek target') = Request.isFromEnd (.seek target) ∧
      ∀ there, y.Leads place there target' →
        (∀ position, there = start + position → (y.rebase start).Leads place position target) ∧
          (Request.isFromEnd (.seek target) = false → start ≤ there) := by
  cases target with
  | fromStart offset =>
    obtain rfl := below_fromStart_eq_ok hbelow
    refine ⟨rfl, ?_⟩
    intro there hleads
    have hleads : there = offset + start := hleads
    refine ⟨?_, fun _ => by omega⟩
    intro position heq
    show position = offset
    omega
  | fromCurrent offset =>
    obtain ⟨rfl, here, hposition, hge⟩ := below_fromCurrent_eq_ok hbelow
    have hplace := h.position hposition
    refine ⟨rfl, ?_⟩
    intro there hleads
    have hleads : ((y.origin + there : Nat) : Int) = place + offset := hleads
    refine ⟨?_, fun _ => by omega⟩
    intro position heq
    show ((y.origin + start + position : Nat) : Int) = place + offset
    omega
  | fromEnd offset =>
    obtain ⟨rfl, -⟩ := bind_notBefore_eq_ok hbelow
    exact ⟨rfl, fun _ _ => ⟨fun _ _ => trivial, nofun⟩⟩

/-- The chart of a rebased layer is in order if that of the stream below is. -/
theorem Sound.rebase (h : y.Sound) (start : Nat) : (y.rebase start).Sound where
  size_le := by
    have hsize := h.size_le
    show y.size - start ≤ y.content.length - (y.origin + start)
    omega
  fits := h.fits
  position := by
    intro place there hposition
    have hposition : (y.position place >>= behind start) = .ok there := hposition
    cases hbelow : y.position place with
    | error e =>
      rw [hbelow] at hposition
      cases hposition
    | ok here =>
      have hplace := h.position hbelow
      rw [hbelow] at hposition
      have hsum := behind_eq_ok hposition
      show y.origin + start + there = place
      omega
  granted := by
    intro target hle
    have hle : y.origin + start + target ≤ maxPosition := hle
    have hword : target + start ≤ maxWord := le_maxWord (by omega)
    show (ahead start target >>= y.setPosition) = .ok ()
    unfold ahead
    rw [if_pos hword]
    exact h.granted (by omega)
  leads := by
    intro target place there hseek
    cases hbelow : y.below start place target with
    | error e =>
      rw [seek_rebase_of_error hbelow] at hseek
      cases hseek
    | ok target' =>
      rw [seek_rebase_of_ok hbelow] at hseek
      exact ((h.below_leads hbelow).2 _ (h.leads (seekBehind_eq_ok hseek))).1 there rfl
  refused := by
    intro target place place' e hend hseek
    cases hbelow : y.below start place target with
    | error e' =>
      rw [seek_rebase_of_error hbelow] at hseek
      cases hseek
      rfl
    | ok target' =>
      rw [seek_rebase_of_ok hbelow] at hseek
      obtain ⟨hsame, hleads⟩ := h.below_leads hbelow
      rcases seekBehind_eq_error hseek with hrefused | ⟨there, hgranted, hlt⟩
      · exact h.refused (hsame ▸ hend) hrefused
      · have hge := (hleads there (h.leads hgranted)).2 hend
        omega

end Chart

namespace Rebased

/-- A rebased layer over a part that lies on a chart. -/
def Lies (lies : Passthrough σ → Chart → Nat → Prop) (layer : Rebased σ) (x : Chart)
    (place : Nat) : Prop :=
  ∃ y, lies layer.base y place ∧ x = y.rebase layer.baseOffset

variable {base : Passthrough σ} {start place : Nat} {w : ω} {y : Chart}

theorem toBase_eq (position : Nat) :
    (toBase position : StreamM ω (Rebased σ) Nat) (⟨base, start⟩, w) =
      (StreamM.settle (Chart.ahead start position) : StreamM ω (Rebased σ) Nat)
        (⟨base, start⟩, w) := by
  unfold toBase Chart.ahead
  rw [StreamM.bind_apply, StreamM.state_apply]
  dsimp only
  split
  · rfl
  · rfl

theorem fromBase_eq (there : Nat) :
    (fromBase there : StreamM ω (Rebased σ) Nat) (⟨base, start⟩, w) =
      (StreamM.settle (Chart.behind start there) : StreamM ω (Rebased σ) Nat)
        (⟨base, start⟩, w) := by
  unfold fromBase Chart.behind
  rw [StreamM.bind_apply, StreamM.state_apply]
  dsimp only
  split
  · rfl
  · rfl

theorem ensureFromOrigin_eq (there : Int) :
    (ensureFromOrigin there : StreamM ω (Rebased σ) Unit) (⟨base, start⟩, w) =
      (StreamM.settle (Chart.notBefore start there) : StreamM ω (Rebased σ) Unit)
        (⟨base, start⟩, w) := by
  unfold ensureFromOrigin Chart.notBefore
  rw [StreamM.bind_apply, StreamM.state_apply]
  dsimp only
  split
  · rfl
  · rfl

variable [Cancellation ω] [ByteStream ω σ]

/-- What a seek stands for below is told by the chart. -/
theorem targetBelow_eq (h : FollowsChart ω admits lies) (hy : lies base y place)
    (target : SeekTarget) :
    (targetBelow target : StreamM ω (Rebased σ) SeekTarget) (⟨base, start⟩, w) =
      (StreamM.settle (y.below start place target) : StreamM ω (Rebased σ) SeekTarget)
        (⟨base, start⟩, w) := by
  have hstart : ∀ there : Int,
      (ensureFromOrigin there >>= fun _ => pure target : StreamM ω (Rebased σ) SeekTarget)
          (⟨base, start⟩, w) =
        (StreamM.settle (Chart.notBefore start there >>= fun _ => pure target) :
          StreamM ω (Rebased σ) SeekTarget) (⟨base, start⟩, w) :=
    fun there => StreamM.bind_eq_settle (ensureFromOrigin_eq there) fun _ => rfl
  cases target with
  | fromStart offset =>
    show _ = (StreamM.settle (Chart.ahead start offset >>= fun there =>
      pure (SeekTarget.fromStart there)) : StreamM ω (Rebased σ) SeekTarget) _
    exact StreamM.bind_eq_settle (toBase_eq offset) fun _ => rfl
  | fromCurrent offset =>
    have hposition := (carries_base start _).eq_settle (h.position hy w)
    exact StreamM.bind_eq_settle hposition fun there => hstart (there + offset)
  | fromEnd offset =>
    have hlength := (carries_base start _).eq_ok (h.length hy w)
    show (onBase ByteStream.length >>= fun size => ensureFromOrigin ((size : Int) + offset) >>=
      fun _ => pure (SeekTarget.fromEnd offset) : StreamM ω (Rebased σ) SeekTarget) _ = _
    rw [StreamM.bind_apply, hlength]
    exact hstart (y.size + offset)

theorem moves_setPosition_liesIn (h : FollowsChart ω admits lies) (hy : lies base y place)
    (target : Nat)
    (hadmits : (y.rebase start).setPosition target = .ok () →
      admits (y.origin + start + target)) :
    (ByteStream.setPosition target : StreamM ω (Rebased σ) Unit).Moves
      (LiesIn (Lies lies) (y.rebase start) w) (⟨base, start⟩, w)
      (fun _ q => (y.rebase start).setPosition target = .ok () ∧ q = y.origin + start + target)
      fun e q => (y.rebase start).setPosition target = .error e ∧ q = place := by
  have hchart : (y.rebase start).setPosition target =
      Chart.ahead start target >>= y.setPosition := rfl
  unfold StreamM.Moves StreamM.Ends
  rw [show (ByteStream.setPosition target : StreamM ω (Rebased σ) Unit) (⟨base, start⟩, w) = _ from
    StreamM.bind_of_eq_settle (toBase_eq target) _]
  by_cases hword : target + start ≤ maxWord
  · have hahead : Chart.ahead start target = .ok (target + start) := if_pos hword
    rw [hchart, hahead] at hadmits ⊢
    have hsum : y.origin + (target + start) = y.origin + start + target := by omega
    have hset := h.setPosition hy (target + start) (hsum ▸ hadmits) w
    rw [hsum] at hset
    exact hset.liesIn (carries_base start _) fun hlies => ⟨y, hlies, rfl⟩
  · have hahead : Chart.ahead start target =
        .error (.refusal (.invalidSeek (target + start : Nat))) := if_neg hword
    rw [hchart, hahead]
    exact ⟨place, ⟨rfl, rfl⟩, ⟨y, hy, rfl⟩, rfl⟩

/-- A seek is made below with the target that it stands for, and counted from the origin. -/
theorem moves_seek_liesIn (h : FollowsChart ω admits lies) (hy : lies base y place)
    (target : SeekTarget) :
    (ByteStream.seek target : StreamM ω (Rebased σ) Nat).Moves
      (LiesIn (Lies lies) (y.rebase start) w) (⟨base, start⟩, w)
      (fun there q => (y.rebase start).seek target place = .ok there ∧
        q = y.origin + start + there)
      fun e q => (y.rebase start).seek target place = .error (e, q) := by
  unfold StreamM.Moves StreamM.Ends
  rw [show (ByteStream.seek target : StreamM ω (Rebased σ) Nat) (⟨base, start⟩, w) = _ from
    StreamM.bind_of_eq_settle (targetBelow_eq h hy target) _]
  cases hbelow : y.below start place target with
  | error e => exact ⟨place, Chart.seek_rebase_of_error hbelow, ⟨y, hy, rfl⟩, rfl⟩
  | ok target' =>
    rw [Chart.seek_rebase_of_ok hbelow]
    have hseek := (carries_base start _).moves_of (h.seek hy target' w)
    show StreamM.Ends (onBase (ByteStream.seek target') >>= fun there => fromBase there) _ _ _
    apply StreamM.Ends.bind (StreamM.Ends.mono hseek (fun _ _ h => h) ?_)
    · intro there s' hout
      obtain ⟨_, w'⟩ := s'
      obtain ⟨q, ⟨hthere, rfl⟩, base', rfl, hbase', rfl⟩ := hout
      have hliesIn : LiesIn (Lies lies) (y.rebase start) w' (⟨base', start⟩, w')
          (y.origin + there) :=
        ⟨⟨y, hbase', rfl⟩, rfl⟩
      unfold StreamM.Ends
      rw [fromBase_eq]
      cases hposition : Chart.behind start there with
      | ok position =>
        have hsum := Chart.behind_eq_ok hposition
        exact ⟨_, ⟨Chart.seekBehind_of_ok hthere hposition, by omega⟩, hliesIn⟩
      | error e => exact ⟨_, Chart.seekBehind_of_before hthere hposition, hliesIn⟩
    · intro e s' hout
      obtain ⟨_, w'⟩ := s'
      obtain ⟨q, hrefused, base', rfl, hbase', rfl⟩ := hout
      exact ⟨q, Chart.seekBehind_of_error hrefused, ⟨y, hbase', rfl⟩, rfl⟩

/-- **A rebased layer** adds to the origin of the chart what it counts from. -/
theorem followsChart (h : FollowsChart ω admits lies) : FollowsChart ω admits (Lies lies) := by
  constructor
  all_goals
    intro layer x place hlies
    obtain ⟨base, start⟩ := layer
    obtain ⟨y, hy, rfl⟩ : ∃ y, lies base y place ∧ x = y.rebase start := hlies
  case sound => exact (h.sound hy).rebase start
  case admitted => exact h.admitted hy
  case delivers =>
    intro room
    show Delivers y.content place room (y.read place room)
    exact h.delivers hy room
  case position =>
    intro w
    exact StreamM.bind_eq_settle ((carries_base start _).eq_settle (h.position hy w)) fromBase_eq
  case length =>
    intro w
    have hlength := (carries_base start _).eq_ok (h.length hy w)
    show (onBase ByteStream.length >>= fun size => StreamM.state >>= fun layer =>
      pure (size - layer.baseOffset) : StreamM ω (Rebased σ) Nat) _ = _
    rw [StreamM.bind_apply, hlength]
    rfl
  case setPosition =>
    exact fun target hadmits w => moves_setPosition_liesIn h hy target hadmits
  case seek => exact fun target w => moves_seek_liesIn h hy target
  case read =>
    exact fun mode room w => (h.read hy mode room w).liesIn (carries_base start _)
      fun hlies => ⟨y, hlies, rfl⟩
  case readByte =>
    exact fun w => (h.readByte hy w).liesIn (carries_base start _) fun hlies => ⟨y, hlies, rfl⟩
  case placeless =>
    intro request hplaceless w
    have hpassed := (carries_base start _).ends_lies (h.placeless hy request hplaceless w)
      (show ∀ {base : Passthrough σ}, lies base y place →
        Lies lies ⟨base, start⟩ (y.rebase start) place from fun hlies => ⟨y, hlies, rfl⟩)
    cases request with
    | flush mode => exact hpassed
    | timeout direction => exact hpassed
    | setTimeout direction limit => exact hpassed
    | _ => cases hplaceless
  case mutating =>
    intro request hmutates hfits w
    have hpassed : ∀ request : Request, request.mutates = true → request.FitsAt place →
        (onBase (ByteStream.perform request) : StreamM ω (Rebased σ) _).Ends (⟨base, start⟩, w)
          (fun _ => Charted (Lies lies)) fun _ => Charted (Lies lies) :=
      fun request hmutates hfits => (carries_base start _).ends_charted
        (h.mutating hy request hmutates hfits w) fun hlies => ⟨_, _, hlies, rfl⟩
    cases request with
    | setLength size =>
      unfold StreamM.Ends
      rw [show (ByteStream.perform (.setLength size) : StreamM ω (Rebased σ) Unit)
        (⟨base, start⟩, w) = _ from StreamM.bind_of_eq_settle (toBase_eq size) _]
      cases Chart.ahead start size with
      | error e => exact ⟨y.rebase start, place, y, hy, rfl⟩
      | ok size' => exact hpassed (.setLength size') rfl trivial
    | write mode data => exact hpassed (.write mode data) rfl hfits
    | writeByte byte => exact hpassed (.writeByte byte) rfl hfits
    | _ => cases hmutates

/-- What is before the end of the layer is before the end of the stream below. -/
theorem finds (h : FollowsChart ω admits lies) (hfinds : Finds lies) : Finds (Lies lies) := by
  intro layer x place offset hlies hlt
  obtain ⟨y, hy, rfl⟩ := hlies
  have hlt : offset < y.size - layer.baseOffset := hlt
  have hsize := (h.sound hy).size_le
  have hfits := (h.sound hy).fits
  have hword : offset + layer.baseOffset ≤ maxWord := le_maxWord (by omega)
  have hbelow : y.below layer.baseOffset place (.fromStart offset) =
      .ok (.fromStart (offset + layer.baseOffset)) := by
    show (Chart.ahead layer.baseOffset offset).map SeekTarget.fromStart = _
    unfold Chart.ahead
    rw [if_pos hword]
    rfl
  have hbehind : Chart.behind layer.baseOffset (offset + layer.baseOffset) = .ok offset := by
    unfold Chart.behind
    rw [if_pos (Nat.le_add_left _ _), Nat.add_sub_cancel]
  rw [Chart.seek_rebase_of_ok hbelow]
  exact Chart.seekBehind_of_ok (hfinds hy (by omega)) hbehind

end Rebased

/-! ## Truncated layers -/

namespace Chart

/-- The seek target of the stream below that a target of a layer that ends early stands for. One
told from the end is told from the start below. -/
def cutTarget (y : Chart) (start maxLength : Nat) (target : SeekTarget) :
    Except StreamError SeekTarget :=
  match target with
  | .fromEnd _ =>
    match target.resolve 0 (min maxLength (y.size - start)) with
    | .error cause => .error (.refusal cause)
    | .ok there => .ok (.fromStart (saturatingAdd start there))
  | _ => .ok target

/-- The chart of a layer that ends `maxLength` places behind the position `start`. -/
def cut (y : Chart) (start maxLength : Nat) : Chart where
  origin := y.origin
  size := min maxLength (y.size - start)
  content := y.content.take (y.origin + saturatingAdd start maxLength)
  position := y.position
  setPosition := y.setPosition
  seek target place :=
    match y.cutTarget start maxLength target with
    | .error e => .error (e, place)
    | .ok target' => y.seek target' place
  read place room :=
    y.read place (min room (saturatingAdd start maxLength - (place - y.origin)))

variable {y : Chart} {start maxLength place : Nat} {target target' : SeekTarget} {e : StreamError}

theorem seek_cut_of_error (h : y.cutTarget start maxLength target = .error e) :
    (y.cut start maxLength).seek target place = .error (e, place) := by
  show (match y.cutTarget start maxLength target with
    | .error e => Except.error (e, place)
    | .ok target' => y.seek target' place) = _
  rw [h]

theorem seek_cut_of_ok (h : y.cutTarget start maxLength target = .ok target') :
    (y.cut start maxLength).seek target place = y.seek target' place := by
  show (match y.cutTarget start maxLength target with
    | .error e => Except.error (e, place)
    | .ok target' => y.seek target' place) = _
  rw [h]

/-- No target stands for one that is told from the end, and others than those stand for themselves.
-/
theorem cutTarget_eq_ok (h : y.cutTarget start maxLength target = .ok target') :
    Request.isFromEnd (.seek target') = false ∧
      (Request.isFromEnd (.seek target) = false → target' = target) := by
  cases target with
  | fromStart offset =>
    cases h
    exact ⟨rfl, fun _ => rfl⟩
  | fromCurrent offset =>
    cases h
    exact ⟨rfl, fun _ => rfl⟩
  | fromEnd offset =>
    unfold cutTarget at h
    dsimp only at h
    split at h
    · cases h
    · cases h
      exact ⟨rfl, nofun⟩

/-- The chart of a truncated layer is in order if that of the stream below is. -/
theorem Sound.cut (h : y.Sound) (start maxLength : Nat) : (y.cut start maxLength).Sound where
  size_le := by
    have hsize := h.size_le
    have hfits := le_maxWord h.fits
    show min maxLength (y.size - start) ≤
      (y.content.take (y.origin + saturatingAdd start maxLength)).length - y.origin
    rw [List.length_take]
    unfold saturatingAdd
    omega
  fits := by
    show (y.content.take _).length ≤ maxPosition
    rw [List.length_take]
    exact Nat.le_trans (Nat.min_le_right _ _) h.fits
  position := h.position
  granted := h.granted
  leads := by
    intro target place there hseek
    cases htarget : y.cutTarget start maxLength target with
    | error e =>
      rw [seek_cut_of_error htarget] at hseek
      cases hseek
    | ok target' =>
      rw [seek_cut_of_ok htarget] at hseek
      have hleads := h.leads hseek
      have hsame := (cutTarget_eq_ok htarget).2
      cases target with
      | fromStart offset =>
        rw [hsame rfl] at hleads
        exact hleads
      | fromCurrent offset =>
        rw [hsame rfl] at hleads
        exact hleads
      | fromEnd offset => exact trivial
  refused := by
    intro target place place' e _ hseek
    cases htarget : y.cutTarget start maxLength target with
    | error e' =>
      rw [seek_cut_of_error htarget] at hseek
      cases hseek
      rfl
    | ok target' =>
      rw [seek_cut_of_ok htarget] at hseek
      exact h.refused (cutTarget_eq_ok htarget).1 hseek

end Chart

namespace Truncated

/-- A truncated layer over a part that lies on a chart, where the layer takes it to be. -/
def Lies (lies : Passthrough σ → Chart → Nat → Prop) (layer : Truncated σ) (x : Chart)
    (place : Nat) : Prop :=
  ∃ y, lies layer.base y place ∧ y.origin + layer.cursor = place ∧
    x = y.cut layer.origin layer.maxLength

variable {base : Passthrough σ} {start maxLength cursor place : Nat} {w : ω} {y : Chart}

theorem lies_mk (hy : lies base y place) (hsync : y.origin + cursor = place) :
    Lies lies ⟨base, start, maxLength, cursor⟩ (y.cut start maxLength) place :=
  ⟨y, hy, hsync, rfl⟩

/-- What remains for a layer that stands where it takes itself to be. -/
theorem remaining_eq (hsync : y.origin + cursor = place) :
    (⟨base, start, maxLength, cursor⟩ : Truncated σ).remaining =
      saturatingAdd start maxLength - (place - y.origin) := by
  show saturatingAdd start maxLength - cursor = _
  omega

variable [Cancellation ω] [ByteStream ω σ]

theorem visibleLength_of_lies (h : FollowsChart ω admits lies) (hy : lies base y place) :
    (visibleLength : StreamM ω (Truncated σ) Nat) (⟨base, start, maxLength, cursor⟩, w) =
      .ok (min maxLength (y.size - start)) (⟨base, start, maxLength, cursor⟩, w) := by
  have hlength := (carries_base start maxLength cursor _).eq_ok (h.length hy w)
  unfold visibleLength
  rw [StreamM.bind_apply, hlength]
  rfl

/-- What a seek stands for below is told by the chart. -/
theorem targetBelow_eq (h : FollowsChart ω admits lies) (hy : lies base y place)
    (target : SeekTarget) :
    (targetBelow target : StreamM ω (Truncated σ) SeekTarget)
        (⟨base, start, maxLength, cursor⟩, w) =
      (StreamM.settle (y.cutTarget start maxLength target) : StreamM ω (Truncated σ) SeekTarget)
        (⟨base, start, maxLength, cursor⟩, w) := by
  cases target with
  | fromStart offset => rfl
  | fromCurrent offset => rfl
  | fromEnd offset =>
    show (visibleLength >>= fun visible =>
      StreamM.ofExcept ((SeekTarget.fromEnd offset).resolve 0 visible) >>= fun place =>
        StreamM.state >>= fun layer =>
          pure (SeekTarget.fromStart (saturatingAdd layer.origin place)) :
            StreamM ω (Truncated σ) SeekTarget) _ = _
    rw [StreamM.bind_apply, visibleLength_of_lies h hy]
    unfold Chart.cutTarget
    dsimp only
    cases (SeekTarget.fromEnd offset).resolve 0 (min maxLength (y.size - start)) with
    | error cause => rfl
    | ok there => rfl

theorem moves_setPosition_liesIn (h : FollowsChart ω admits lies) (hy : lies base y place)
    (hsync : y.origin + cursor = place) (target : Nat)
    (hadmits : y.setPosition target = .ok () → admits (y.origin + target)) :
    (ByteStream.setPosition target : StreamM ω (Truncated σ) Unit).Moves
      (LiesIn (Lies lies) (y.cut start maxLength) w) (⟨base, start, maxLength, cursor⟩, w)
      (fun _ q => y.setPosition target = .ok () ∧ q = y.origin + target)
      fun e q => y.setPosition target = .error e ∧ q = place := by
  have hset := (carries_base start maxLength cursor _).moves_of
    (h.setPosition hy target hadmits w)
  apply StreamM.Ends.bind (StreamM.Ends.mono hset (fun _ _ h => h) ?_)
  · intro _ s' hout
    obtain ⟨_, w'⟩ := s'
    obtain ⟨q, ⟨hgranted, rfl⟩, base', rfl, hbase', rfl⟩ := hout
    exact ⟨_, ⟨hgranted, rfl⟩, lies_mk hbase' rfl, rfl⟩
  · intro e s' hout
    obtain ⟨_, w'⟩ := s'
    obtain ⟨q, ⟨hrefused, rfl⟩, base', rfl, hbase', rfl⟩ := hout
    exact ⟨q, ⟨hrefused, rfl⟩, lies_mk hbase' hsync, rfl⟩

/-- A seek that is refused leaves the stream below where it was, since none is told from the end
there. -/
theorem moves_seek_liesIn (h : FollowsChart ω admits lies) (hy : lies base y place)
    (hsync : y.origin + cursor = place) (target : SeekTarget) :
    (ByteStream.seek target : StreamM ω (Truncated σ) Nat).Moves
      (LiesIn (Lies lies) (y.cut start maxLength) w) (⟨base, start, maxLength, cursor⟩, w)
      (fun there q => (y.cut start maxLength).seek target place = .ok there ∧
        q = y.origin + there)
      fun e q => (y.cut start maxLength).seek target place = .error (e, q) := by
  unfold StreamM.Moves StreamM.Ends
  rw [show (ByteStream.seek target : StreamM ω (Truncated σ) Nat)
    (⟨base, start, maxLength, cursor⟩, w) = _ from
      StreamM.bind_of_eq_settle (targetBelow_eq h hy target) _]
  cases htarget : y.cutTarget start maxLength target with
  | error e => exact ⟨place, Chart.seek_cut_of_error htarget, lies_mk hy hsync, rfl⟩
  | ok target' =>
    rw [Chart.seek_cut_of_ok htarget]
    have hseek := (carries_base start maxLength cursor _).moves_of (h.seek hy target' w)
    show StreamM.Ends (onBase (ByteStream.seek target') >>= fun there =>
      moveTo there >>= fun _ => pure there) _ _ _
    apply StreamM.Ends.bind (StreamM.Ends.mono hseek (fun _ _ h => h) ?_)
    · intro there s' hout
      obtain ⟨_, w'⟩ := s'
      obtain ⟨q, ⟨hthere, rfl⟩, base', rfl, hbase', rfl⟩ := hout
      exact ⟨_, ⟨hthere, rfl⟩, lies_mk hbase' rfl, rfl⟩
    · intro e s' hout
      obtain ⟨_, w'⟩ := s'
      obtain ⟨q, hrefused, base', rfl, hbase', rfl⟩ := hout
      obtain rfl := (h.sound hy).refused (Chart.cutTarget_eq_ok htarget).1 hrefused
      exact ⟨q, hrefused, lies_mk hbase' hsync, rfl⟩

theorem moves_read_liesIn (h : FollowsChart ω admits lies) (hy : lies base y place)
    (hsync : y.origin + cursor = place) (mode : Mode) (room : Nat) :
    (ByteStream.read mode room : StreamM ω (Truncated σ) Bytes).Moves
      (LiesIn (Lies lies) (y.cut start maxLength) w) (⟨base, start, maxLength, cursor⟩, w)
      (fun bytes q => bytes = (y.cut start maxLength).read place room ∧
        q = place + bytes.length)
      fun e q => (mode.isCancelled w = true ∧ e = .refusal .cancelled) ∧ q = place := by
  show StreamM.Moves _ (Truncated.read mode room) _ _ _
  unfold Truncated.read
  apply StreamM.ends_state_bind
  rw [remaining_eq hsync]
  have hread := (carries_base start maxLength cursor _).moves_of (h.read hy mode
    (min room (saturatingAdd start maxLength - (place - y.origin))) w)
  apply StreamM.Ends.bind (StreamM.Ends.mono hread (fun _ _ h => h) ?_)
  · intro bytes s' hout
    obtain ⟨_, w'⟩ := s'
    obtain ⟨q, ⟨hbytes, rfl⟩, base', rfl, hbase', rfl⟩ := hout
    have hsync' : y.origin + (cursor + bytes.length) = place + bytes.length := by omega
    exact ⟨_, ⟨hbytes, rfl⟩, lies_mk hbase' hsync', rfl⟩
  · intro e s' hout
    obtain ⟨_, w'⟩ := s'
    obtain ⟨q, ⟨hexcuse, rfl⟩, base', rfl, hbase', rfl⟩ := hout
    exact ⟨q, ⟨hexcuse, rfl⟩, lies_mk hbase' hsync, rfl⟩

/-- At the boundary no byte is asked for below, and a read asks for none. -/
theorem moves_readByte_liesIn (h : FollowsChart ω admits lies)
    (hopen : (Passthrough.ensureOpen : StreamM ω (Passthrough σ) Unit) (base, w) = .ok () (base, w))
    (hy : lies base y place) (hsync : y.origin + cursor = place) :
    (ByteStream.readByte : StreamM ω (Truncated σ) (Option UInt8)).Moves
      (LiesIn (Lies lies) (y.cut start maxLength) w) (⟨base, start, maxLength, cursor⟩, w)
      (fun byte q => byte = ((y.cut start maxLength).read place 1).head? ∧
        q = place + byte.toList.length)
      fun _ _ => False := by
  have hchart : (y.cut start maxLength).read place 1 =
      y.read place (min 1 (saturatingAdd start maxLength - cursor)) := by
    show y.read place (min 1 (saturatingAdd start maxLength - (place - y.origin))) = _
    rw [← hsync, Nat.add_sub_cancel_left]
  rw [hchart]
  apply StreamM.ends_bind_of_eq_ok ((carries_base start maxLength cursor _).eq_ok hopen)
  apply StreamM.ends_state_bind
  split
  · rename_i hend
    have hend : saturatingAdd start maxLength ≤ cursor := hend
    have hnone : y.read place 0 = [] :=
      List.length_eq_zero_iff.mp (Nat.le_zero.mp (h.delivers hy 0).length_le)
    rw [Nat.sub_eq_zero_of_le hend, Nat.min_zero, hnone]
    exact ⟨place, ⟨rfl, rfl⟩, lies_mk hy hsync, rfl⟩
  rename_i hend
  have hend : ¬ saturatingAdd start maxLength ≤ cursor := hend
  rw [Nat.min_eq_left (by omega)]
  have hread := (carries_base start maxLength cursor _).moves_of (h.readByte hy w)
  apply StreamM.Ends.bind (StreamM.Ends.mono hread (fun _ _ h => h) ?_)
  · intro byte s' hout
    obtain ⟨_, w'⟩ := s'
    obtain ⟨q, ⟨hbyte, rfl⟩, base', rfl, hbase', rfl⟩ := hout
    cases byte with
    | none => exact ⟨_, ⟨hbyte, rfl⟩, lies_mk hbase' hsync, rfl⟩
    | some byte =>
      have hsync' : y.origin + (cursor + 1) = place + 1 := by omega
      exact ⟨_, ⟨hbyte, rfl⟩, lies_mk hbase' hsync', rfl⟩
  · intro e s' hout
    obtain ⟨q, hfalse, -⟩ := hout
    exact hfalse.elim

/-- **A truncated layer** ends the chart early. -/
theorem followsChart (h : FollowsChart ω admits lies)
    (hopen : ∀ {base : Passthrough σ} {y : Chart} {place : Nat}, lies base y place → ∀ w : ω,
      (Passthrough.ensureOpen : StreamM ω (Passthrough σ) Unit) (base, w) = .ok () (base, w)) :
    FollowsChart ω admits (Lies lies) := by
  constructor
  all_goals
    intro layer x place hlies
    obtain ⟨base, start, maxLength, cursor⟩ := layer
    obtain ⟨y, hy, hsync, rfl⟩ : ∃ y, lies base y place ∧ y.origin + cursor = place ∧
      x = y.cut start maxLength := hlies
  case sound => exact (h.sound hy).cut start maxLength
  case admitted => exact h.admitted hy
  case delivers =>
    intro room
    have hroom : saturatingAdd start maxLength - (place - y.origin) =
        y.origin + saturatingAdd start maxLength - place := by omega
    show Delivers (y.content.take _) place room (y.read place (min room _))
    rw [hroom]
    exact (h.delivers hy _).take
  case position =>
    exact fun w => (carries_base start maxLength cursor _).eq_settle (h.position hy w)
  case length => exact fun w => visibleLength_of_lies h hy
  case setPosition =>
    exact fun target hadmits w => moves_setPosition_liesIn h hy hsync target hadmits
  case seek => exact fun target w => moves_seek_liesIn h hy hsync target
  case read => exact fun mode room w => moves_read_liesIn h hy hsync mode room
  case readByte => exact fun w => moves_readByte_liesIn h (hopen hy w) hy hsync
  case placeless =>
    intro request hplaceless w
    have hpassed := (carries_base start maxLength cursor _).ends_lies
      (h.placeless hy request hplaceless w)
      (show ∀ {base : Passthrough σ}, lies base y place →
        Lies lies ⟨base, start, maxLength, cursor⟩ (y.cut start maxLength) place from
          fun hlies => lies_mk hlies hsync)
    cases request with
    | flush mode =>
      have hdeclined : (ByteStream.perform (.flush mode) : StreamM ω (Truncated σ) Unit) =
        onBase (Passthrough.decline (.flush mode)) := perform_of_declined rfl
      rw [hdeclined]
      exact Passthrough.ends_declined_below (carries_base start maxLength cursor _)
        (lies_mk hy hsync)
    | timeout direction => exact hpassed
    | setTimeout direction limit => exact hpassed
    | _ => cases hplaceless
  case mutating =>
    intro request hmutates _ w
    have hdeclines : declines request = true := by
      unfold declines
      rw [hmutates, Bool.true_or]
    have hdeclined : (ByteStream.perform request : StreamM ω (Truncated σ) request.Answer) =
      onBase (Passthrough.decline request) := perform_of_declined hdeclines
    rw [hdeclined]
    exact Passthrough.ends_declined_below (carries_base start maxLength cursor _)
      ⟨_, place, lies_mk hy hsync⟩

omit [ByteStream ω σ] in
/-- What is before the end of the layer is before the end of the stream below. -/
theorem finds (hfinds : Finds lies) : Finds (Lies lies) := by
  intro layer x place offset hlies hlt
  obtain ⟨y, hy, -, rfl⟩ := hlies
  have hlt : offset < min layer.maxLength (y.size - layer.origin) := hlt
  have hsame : y.cutTarget layer.origin layer.maxLength (.fromStart offset) =
      .ok (.fromStart offset) := rfl
  rw [Chart.seek_cut_of_ok hsame]
  exact hfinds hy (by omega)

end Truncated

end Parts

/-! ## Windows -/

namespace Window

variable {ω σ : Type} {admits : Nat → Prop} {lies : σ → Chart → Nat → Prop}

/-- The chart of a window is that of what it consists of. -/
def Lies (lies : σ → Chart → Nat → Prop) : Window σ → Chart → Nat → Prop
  | .unwrapped stream => lies stream
  | .rebased layer => Rebased.Lies (Passthrough.Lies lies) layer
  | .truncated layer => Truncated.Lies (Passthrough.Lies lies) layer
  | .rebasedTruncated layer =>
    Truncated.Lies (Passthrough.Lies (Rebased.Lies (Passthrough.Lies lies))) layer

variable [Cancellation ω] [ByteStream ω σ]

/-- **A window** has the chart of what it consists of. -/
theorem followsChart (h : FollowsChart ω admits lies) : FollowsChart ω admits (Lies lies) := by
  have hlayer := Passthrough.followsChart h
  have hrebased := Rebased.followsChart hlayer
  have htruncated := Truncated.followsChart hlayer Passthrough.ensureOpen_of_lies
  have hboth := Truncated.followsChart (Passthrough.followsChart hrebased)
    Passthrough.ensureOpen_of_lies
  apply FollowsChart.of_cover
  intro window x place hlies
  cases window with
  | unwrapped stream =>
    refine ⟨Embedded unwrapped lies, ⟨stream, rfl, hlies⟩, h.along fun _ _ _ _ => rfl, ?_⟩
    intro _ x place hembedded
    obtain ⟨part, rfl, hpart⟩ := hembedded
    exact hpart
  | rebased layer =>
    refine ⟨Embedded rebased _, ⟨layer, rfl, hlies⟩, hrebased.along fun _ _ _ _ => rfl, ?_⟩
    intro _ x place hembedded
    obtain ⟨part, rfl, hpart⟩ := hembedded
    exact hpart
  | truncated layer =>
    refine ⟨Embedded truncated _, ⟨layer, rfl, hlies⟩, htruncated.along fun _ _ _ _ => rfl, ?_⟩
    intro _ x place hembedded
    obtain ⟨part, rfl, hpart⟩ := hembedded
    exact hpart
  | rebasedTruncated layer =>
    refine ⟨Embedded rebasedTruncated _, ⟨layer, rfl, hlies⟩, hboth.along fun _ _ _ _ => rfl, ?_⟩
    intro _ x place hembedded
    obtain ⟨part, rfl, hpart⟩ := hembedded
    exact hpart

theorem finds (h : FollowsChart ω admits lies) (hfinds : Finds lies) : Finds (Lies lies) := by
  have hrebased : Finds (Rebased.Lies (Passthrough.Lies lies)) :=
    Rebased.finds (Passthrough.followsChart h) (Passthrough.finds hfinds)
  intro window x place offset hlies hlt
  cases window with
  | unwrapped stream => exact hfinds hlies hlt
  | rebased layer => exact hrebased hlies hlt
  | truncated layer => exact Truncated.finds (Passthrough.finds hfinds) hlies hlt
  | rebasedTruncated layer => exact Truncated.finds (Passthrough.finds hrebased) hlies hlt

end Window

end LayeredStreams
