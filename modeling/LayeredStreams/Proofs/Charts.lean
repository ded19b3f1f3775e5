import LayeredStreams.Proofs.StackBearings

/-!
# Charts

What an open stream answers to a request that changes nothing is told by the place of its base at
which it lies, and by a chart of that stream. What else is in the stream, such as the blocks of a
cached layer and the cursors below it, does not show.

* `Chart` — what a stream gives at each place of its base, and what comes of moving it.
* `Chart.Sound` — a chart that is in order.
* `FollowsChart ω admits lies` — a stream that answers as its chart says, as long as it is sent to
  places that are admitted. `lies stream x place` says that it lies at `place` of the chart `x`.
* `Finds lies` — a stream that finds every offset before its end from wherever it lies.

Principal results: `FollowsChart.along` and `FollowsChart.of_cover` (streams inside streams),
`Zeros.followsChart` and `DeviceStream.followsChart` (zeros and memory answer as a chart of their
bytes says).
-/

set_option autoImplicit false

namespace LayeredStreams

/-- What an open stream answers at each place of its base. -/
structure Chart where
  /-- The place of the base that the stream counts as zero. -/
  origin : Nat
  /-- The length that the stream reports. -/
  size : Nat
  /-- The bytes of the base, as far as the stream gives them. -/
  content : Bytes
  /-- The position that is told at a place. -/
  position : Nat → Except StreamError Nat
  /-- Whether the stream lets itself be moved to a position. -/
  setPosition : Nat → Except StreamError Unit
  /-- The position that a seek leads to; a seek that is refused says at which place it leaves the
  stream. -/
  seek : SeekTarget → Nat → Except (StreamError × Nat) Nat
  /-- What a read at a place gives, if there is room for so many bytes. -/
  read : Nat → Nat → Bytes

namespace Chart

/-- A seek that is granted at a place leads where it says. -/
def Leads (x : Chart) (place there : Nat) : SeekTarget → Prop
  | .fromStart offset => there = offset
  | .fromCurrent offset => ((x.origin + there : Nat) : Int) = place + offset
  | .fromEnd _ => True

/-- A chart in order. -/
structure Sound (x : Chart) : Prop where
  size_le : x.size ≤ x.content.length - x.origin
  fits : x.content.length ≤ maxPosition
  position : ∀ {place there : Nat}, x.position place = .ok there → x.origin + there = place
  granted : ∀ {target : Nat}, x.origin + target ≤ maxPosition → x.setPosition target = .ok ()
  leads : ∀ {target : SeekTarget} {place there : Nat}, x.seek target place = .ok there →
    x.Leads place there target
  /-- Only a seek from the end can be refused after the stream was moved. -/
  refused : ∀ {target : SeekTarget} {place place' : Nat} {e : StreamError},
    Request.isFromEnd (.seek target) = false → x.seek target place = .error (e, place') →
      place' = place

/-- The chart of a stream below all layers. It says with which refusal it meets a position that is
too great. -/
def ofBase (content : Bytes) (refusal : Int → Refusal) : Chart where
  origin := 0
  size := content.length
  content := content
  position place := .ok place
  setPosition target :=
    if target ≤ maxPosition then .ok () else .error (.refusal (refusal target))
  seek target place :=
    match target.resolve place content.length with
    | .ok there => .ok there
    | .error cause => .error (.refusal cause, place)
  read place room := content.window place room

section OfBase

variable {content : Bytes} {refusal : Int → Refusal} {target : SeekTarget} {place : Nat}

theorem seek_ofBase_of_ok {there : Nat} (h : target.resolve place content.length = .ok there) :
    (ofBase content refusal).seek target place = .ok there := by
  show (match target.resolve place content.length with
    | .ok there => Except.ok there
    | .error cause => .error (StreamError.refusal cause, place)) = _
  rw [h]

theorem seek_ofBase_of_error {cause : Refusal}
    (h : target.resolve place content.length = .error cause) :
    (ofBase content refusal).seek target place = .error (.refusal cause, place) := by
  show (match target.resolve place content.length with
    | .ok there => Except.ok there
    | .error cause => .error (StreamError.refusal cause, place)) = _
  rw [h]

theorem sound_ofBase (hfits : content.length ≤ maxPosition) : (ofBase content refusal).Sound where
  size_le := Nat.le_refl _
  fits := hfits
  position := by
    intro place there h
    obtain rfl := Except.ok.inj h
    exact Nat.zero_add _
  granted := by
    intro target hle
    exact if_pos (Nat.zero_add target ▸ hle)
  leads := by
    intro target place there h
    cases hplace : target.resolve place content.length with
    | error cause =>
      rw [seek_ofBase_of_error hplace] at h
      cases h
    | ok there' =>
      rw [seek_ofBase_of_ok hplace] at h
      obtain rfl := Except.ok.inj h
      obtain ⟨hleads, -⟩ := SeekTarget.resolve_eq_ok_iff.mp hplace
      cases target with
      | fromStart offset =>
        have hleads : (offset : Int) = there' := hleads
        show there' = offset
        omega
      | fromCurrent offset =>
        have hleads : (place : Int) + offset = there' := hleads
        show ((0 + there' : Nat) : Int) = place + offset
        omega
      | fromEnd offset => exact trivial
  refused := by
    intro target place place' e _ h
    cases hplace : target.resolve place content.length with
    | error cause =>
      rw [seek_ofBase_of_error hplace] at h
      cases h
      rfl
    | ok there =>
      rw [seek_ofBase_of_ok hplace] at h
      cases h

end OfBase

end Chart

/-- A change of the content that takes it no further than to the greatest position. -/
def Request.FitsAt (place : Nat) : Request → Prop
  | .write _ data => place + data.length ≤ maxPosition
  | .writeByte _ => place + 1 ≤ maxPosition
  | _ => True

/-- A stream that lies at a place of a chart, in given surroundings. -/
def LiesIn {ω σ : Type} (lies : σ → Chart → Nat → Prop) (x : Chart) (w : ω) (s : σ × ω)
    (place : Nat) : Prop :=
  lies s.1 x place ∧ s.2 = w

/-- A stream that lies somewhere on some chart. -/
def Charted {ω σ : Type} (lies : σ → Chart → Nat → Prop) (s : σ × ω) : Prop :=
  ∃ x place, lies s.1 x place

/-- A stream that answers as its chart says. -/
structure FollowsChart (ω : Type) {σ : Type} [Cancellation ω] [ByteStream ω σ] (admits : Nat → Prop)
    (lies : σ → Chart → Nat → Prop) : Prop where
  sound : ∀ {stream : σ} {x : Chart} {place : Nat}, lies stream x place → x.Sound
  admitted : ∀ {stream : σ} {x : Chart} {place : Nat}, lies stream x place → admits place
  delivers : ∀ {stream : σ} {x : Chart} {place : Nat}, lies stream x place → ∀ room : Nat,
    Delivers x.content place room (x.read place room)
  position : ∀ {stream : σ} {x : Chart} {place : Nat}, lies stream x place → ∀ w : ω,
    (ByteStream.position : StreamM ω σ Nat) (stream, w) =
      (StreamM.settle (x.position place) : StreamM ω σ Nat) (stream, w)
  length : ∀ {stream : σ} {x : Chart} {place : Nat}, lies stream x place → ∀ w : ω,
    (ByteStream.length : StreamM ω σ Nat) (stream, w) = .ok x.size (stream, w)
  setPosition : ∀ {stream : σ} {x : Chart} {place : Nat}, lies stream x place →
    ∀ target : Nat, (x.setPosition target = .ok () → admits (x.origin + target)) → ∀ w : ω,
      (ByteStream.setPosition target : StreamM ω σ Unit).Moves (LiesIn lies x w) (stream, w)
        (fun _ q => x.setPosition target = .ok () ∧ q = x.origin + target)
        fun e q => x.setPosition target = .error e ∧ q = place
  seek : ∀ {stream : σ} {x : Chart} {place : Nat}, lies stream x place →
    ∀ (target : SeekTarget) (w : ω),
      (ByteStream.seek target : StreamM ω σ Nat).Moves (LiesIn lies x w) (stream, w)
        (fun there q => x.seek target place = .ok there ∧ q = x.origin + there)
        fun e q => x.seek target place = .error (e, q)
  read : ∀ {stream : σ} {x : Chart} {place : Nat}, lies stream x place →
    ∀ (mode : Mode) (room : Nat) (w : ω),
      (ByteStream.read mode room : StreamM ω σ Bytes).Moves (LiesIn lies x w) (stream, w)
        (fun bytes q => bytes = x.read place room ∧ q = place + bytes.length)
        fun e q => (mode.isCancelled w = true ∧ e = .refusal .cancelled) ∧ q = place
  readByte : ∀ {stream : σ} {x : Chart} {place : Nat}, lies stream x place → ∀ w : ω,
    (ByteStream.readByte : StreamM ω σ (Option UInt8)).Moves (LiesIn lies x w) (stream, w)
      (fun byte q => byte = (x.read place 1).head? ∧ q = place + byte.toList.length)
      fun _ _ => False
  placeless : ∀ {stream : σ} {x : Chart} {place : Nat}, lies stream x place →
    ∀ request : Request, request.isPlaceless = true → ∀ w : ω,
      (ByteStream.perform request : StreamM ω σ request.Answer).Ends (stream, w)
        (fun _ s' => lies s'.1 x place) fun _ s' => lies s'.1 x place
  mutating : ∀ {stream : σ} {x : Chart} {place : Nat}, lies stream x place →
    ∀ request : Request, request.mutates = true → request.FitsAt place → ∀ w : ω,
      (ByteStream.perform request : StreamM ω σ request.Answer).Ends (stream, w)
        (fun _ => Charted lies) fun _ => Charted lies

/-- A stream that finds every offset before its end. -/
def Finds {σ : Type} (lies : σ → Chart → Nat → Prop) : Prop :=
  ∀ ⦃stream : σ⦄ ⦃x : Chart⦄ ⦃place offset : Nat⦄, lies stream x place → offset < x.size →
    x.seek (.fromStart offset) place = .ok offset

/-! ## Streams inside streams -/

namespace StreamM

variable {ω σ τ α β : Type} {act : StreamM ω σ α} {s : σ × ω} {outcome : Except StreamError α}

theorem bind_of_eq_settle (h : act s = (settle outcome : StreamM ω σ α) s)
    (next : α → StreamM ω σ β) :
    (act >>= next) s = (settle outcome >>= next : StreamM ω σ β) s := by
  rw [bind_apply, bind_apply, h]

/-- A sequence of computations of which the outcomes are known, and that change nothing. -/
theorem bind_eq_settle (h : act s = (settle outcome : StreamM ω σ α) s) {next : α → StreamM ω σ β}
    {told : α → Except StreamError β}
    (hnext : ∀ value, next value s = (settle (told value) : StreamM ω σ β) s) :
    (act >>= next) s = (settle (outcome >>= told) : StreamM ω σ β) s := by
  rw [bind_of_eq_settle h]
  cases outcome with
  | ok value => exact hnext value
  | error e => rfl

theorem Carries.eq_settle {f : σ → τ} {act' : StreamM ω τ α} (hcarries : Carries f act act')
    {part : σ} {w : ω} (h : act (part, w) = (settle outcome : StreamM ω σ α) (part, w)) :
    act' (f part, w) = (settle outcome : StreamM ω τ α) (f part, w) := by
  rw [hcarries, h]
  cases outcome with
  | ok value => rfl
  | error e => rfl

end StreamM

section Inside

variable {ω σ τ α : Type} {admits : Nat → Prop}

theorem StreamM.Moves.of_stands {stands stands' : σ × ω → Nat → Prop} {act : StreamM ω σ α}
    {s : σ × ω} {good : α → Nat → Prop} {bad : StreamError → Nat → Prop}
    (h : act.Moves stands s good bad) (himp : ∀ s q, stands s q → stands' s q) :
    act.Moves stands' s good bad := by
  apply StreamM.Ends.mono h
  · intro value s' hout
    obtain ⟨q, hgood, hstands⟩ := hout
    exact ⟨q, hgood, himp s' q hstands⟩
  · intro e s' hout
    obtain ⟨q, hbad, hstands⟩ := hout
    exact ⟨q, hbad, himp s' q hstands⟩

theorem StreamM.Moves.liesIn {lies : σ → Chart → Nat → Prop} {lies' : τ → Chart → Nat → Prop}
    {f : σ → τ} {x x' : Chart} {act : StreamM ω σ α} {act' : StreamM ω τ α} {part : σ} {w w' : ω}
    {good : α → Nat → Prop} {bad : StreamError → Nat → Prop}
    (h : act.Moves (LiesIn lies x w) (part, w') good bad) (hcarries : Carries f act act')
    (himp : ∀ {part : σ} {place : Nat}, lies part x place → lies' (f part) x' place) :
    act'.Moves (LiesIn lies' x' w) (f part, w') good bad := by
  apply (hcarries.moves_of h).of_stands
  intro s q hheld
  obtain ⟨part', heq, hlies, hw⟩ := hheld
  exact ⟨heq ▸ himp hlies, hw⟩

theorem StreamM.Moves.of_lies {lies lies' : σ → Chart → Nat → Prop} {x : Chart} {w : ω}
    {act : StreamM ω σ α} {s : σ × ω} {good : α → Nat → Prop} {bad : StreamError → Nat → Prop}
    (h : act.Moves (LiesIn lies x w) s good bad)
    (himp : ∀ {stream : σ} {place : Nat}, lies stream x place → lies' stream x place) :
    act.Moves (LiesIn lies' x w) s good bad :=
  h.of_stands fun _ _ hliesIn => ⟨himp hliesIn.1, hliesIn.2⟩

/-- What leaves a part at a place leaves the layer over it at that place. -/
theorem StreamM.Carries.ends_lies {lies : σ → Chart → Nat → Prop} {lies' : τ → Chart → Nat → Prop}
    {f : σ → τ} {x x' : Chart} {place place' : Nat} {act : StreamM ω σ α} {act' : StreamM ω τ α}
    {part : σ} {w : ω} (hcarries : Carries f act act')
    (h : act.Ends (part, w) (fun _ s' => lies s'.1 x place) fun _ s' => lies s'.1 x place)
    (himp : ∀ {part : σ}, lies part x place → lies' (f part) x' place') :
    act'.Ends (f part, w) (fun _ s' => lies' s'.1 x' place') fun _ s' => lies' s'.1 x' place' := by
  apply hcarries.ends_at
  exact h.mono (fun _ _ hlies => himp hlies) fun _ _ hlies => himp hlies

theorem StreamM.Carries.ends_charted {lies : σ → Chart → Nat → Prop}
    {lies' : τ → Chart → Nat → Prop} {f : σ → τ} {act : StreamM ω σ α} {act' : StreamM ω τ α}
    {part : σ} {w : ω} (hcarries : Carries f act act')
    (h : act.Ends (part, w) (fun _ => Charted lies) fun _ => Charted lies)
    (himp : ∀ {part : σ} {x : Chart} {place : Nat}, lies part x place →
      ∃ x', lies' (f part) x' place) :
    act'.Ends (f part, w) (fun _ => Charted lies') fun _ => Charted lies' := by
  have hturned : ∀ s : σ × ω, Charted lies s → Charted lies' (f s.1, s.2) := by
    intro s hs
    obtain ⟨x, place, hlies⟩ := hs
    obtain ⟨x', hlies'⟩ := himp hlies
    exact ⟨x', place, hlies'⟩
  apply hcarries.ends_at
  exact h.mono (fun _ => hturned) fun _ => hturned

/-- A stream that is embedded, lying where it lies. -/
def Embedded (f : σ → τ) (lies : σ → Chart → Nat → Prop) (stream : τ) (x : Chart) (place : Nat) :
    Prop :=
  ∃ part, stream = f part ∧ lies part x place

variable [Cancellation ω] [ByteStream ω σ]

/-- A stream that is embedded with its answers answers as its chart says. -/
theorem FollowsChart.along [ByteStream ω τ] {lies : σ → Chart → Nat → Prop}
    (h : FollowsChart ω admits lies) {f : σ → τ}
    (hcarries : ∀ request : Request, request ≠ .dispose → StreamM.Carries f
      (ByteStream.perform request : StreamM ω σ request.Answer) (ByteStream.perform request)) :
    FollowsChart ω admits (Embedded f lies) := by
  constructor
  case sound =>
    intro stream x place hlies
    obtain ⟨part, -, hpart⟩ := hlies
    exact h.sound hpart
  case admitted =>
    intro stream x place hlies
    obtain ⟨part, -, hpart⟩ := hlies
    exact h.admitted hpart
  case delivers =>
    intro stream x place hlies
    obtain ⟨part, -, hpart⟩ := hlies
    exact h.delivers hpart
  all_goals
    intro stream x place hlies
    obtain ⟨part, rfl, hpart⟩ := hlies
  case position => exact fun w => (hcarries .position nofun).eq_settle (h.position hpart w)
  case length => exact fun w => (hcarries .length nofun).eq_ok (h.length hpart w)
  case setPosition =>
    exact fun target hadmits w => (h.setPosition hpart target hadmits w).liesIn
      (hcarries (.setPosition target) nofun) fun hlies => ⟨_, rfl, hlies⟩
  case seek =>
    exact fun target w => (h.seek hpart target w).liesIn (hcarries (.seek target) nofun)
      fun hlies => ⟨_, rfl, hlies⟩
  case read =>
    exact fun mode room w => (h.read hpart mode room w).liesIn (hcarries (.read mode room) nofun)
      fun hlies => ⟨_, rfl, hlies⟩
  case readByte =>
    exact fun w => (h.readByte hpart w).liesIn (hcarries .readByte nofun)
      fun hlies => ⟨_, rfl, hlies⟩
  case placeless =>
    intro request hplaceless w
    have hcarried := hcarries request (by rintro rfl; cases hplaceless)
    exact hcarried.ends_lies (h.placeless hpart request hplaceless w) fun hlies => ⟨_, rfl, hlies⟩
  case mutating =>
    intro request hmutates hfits w
    have hcarried := hcarries request (by rintro rfl; cases hmutates)
    exact hcarried.ends_charted (h.mutating hpart request hmutates hfits w)
      fun hlies => ⟨_, _, rfl, hlies⟩

/-- A stream answers as its chart says if that is so of parts that cover its states. -/
theorem FollowsChart.of_cover {lies : σ → Chart → Nat → Prop}
    (hcover : ∀ {stream : σ} {x : Chart} {place : Nat}, lies stream x place →
      ∃ part : σ → Chart → Nat → Prop, part stream x place ∧ FollowsChart ω admits part ∧
        ∀ {stream : σ} {x : Chart} {place : Nat}, part stream x place → lies stream x place) :
    FollowsChart ω admits lies := by
  constructor
  all_goals
    intro stream x place hlies
    obtain ⟨part, hpart, h, himp⟩ := hcover hlies
  case sound => exact h.sound hpart
  case admitted => exact h.admitted hpart
  case delivers => exact h.delivers hpart
  case position => exact h.position hpart
  case length => exact h.length hpart
  case setPosition =>
    exact fun target hadmits w => (h.setPosition hpart target hadmits w).of_lies himp
  case seek => exact fun target w => (h.seek hpart target w).of_lies himp
  case read => exact fun mode room w => (h.read hpart mode room w).of_lies himp
  case readByte => exact fun w => (h.readByte hpart w).of_lies himp
  case placeless =>
    exact fun request hplaceless w => (h.placeless hpart request hplaceless w).mono
      (fun _ _ hlies => himp hlies) fun _ _ hlies => himp hlies
  case mutating =>
    intro request hmutates hfits w
    have hturned : ∀ s : σ × ω, Charted part s → Charted lies s := by
      intro s hs
      obtain ⟨x', place', hlies⟩ := hs
      exact ⟨x', place', himp hlies⟩
    exact (h.mutating hpart request hmutates hfits w).mono (fun _ => hturned) fun _ => hturned

end Inside

/-! ## Bases -/

section Bases

variable {ω : Type} [Cancellation ω] {admits : Nat → Prop}

/-- What is let go ahead moves a stream, and what is cancelled leaves it where it lies. -/
theorem Mode.moves_checkToken_liesIn {σ α : Type} {lies : σ → Chart → Nat → Prop} {x : Chart}
    {place : Nat}
    {w : ω} {s : σ × ω} (mode : Mode) {act : StreamM ω σ α} {good : α → Nat → Prop}
    (hself : LiesIn lies x w s place)
    (hact : act.Moves (LiesIn lies x w) s good fun _ _ => False) :
    (mode.checkToken >>= fun _ => act).Moves (LiesIn lies x w) s good
      fun e q => (mode.isCancelled w = true ∧ e = .refusal .cancelled) ∧ q = place := by
  apply Mode.ends_checkToken_bind
  · intro hcancelled
    rw [hself.2] at hcancelled
    exact ⟨place, ⟨⟨hcancelled, rfl⟩, rfl⟩, hself⟩
  · intro _
    exact hact.mono (fun _ _ h => h) fun _ _ hfalse => hfalse.elim

omit [Cancellation ω] in
theorem StreamM.Moves.head? {σ : Type} {stands : σ × ω → Nat → Prop} {s : σ × ω} {content : Bytes}
    {place : Nat} {act : StreamM ω σ Bytes} {bad : StreamError → Nat → Prop}
    (h : act.Moves stands s
      (fun bytes q => bytes = content.window place 1 ∧ q = place + bytes.length) bad) :
    (act >>= fun bytes => pure bytes.head?).Moves stands s
      (fun byte q => byte = (content.window place 1).head? ∧ q = place + byte.toList.length)
      bad := by
  apply StreamM.Moves.bind h
  intro bytes q s' hout hstands
  obtain ⟨rfl, rfl⟩ := hout
  refine StreamM.moves_pure hstands ⟨rfl, ?_⟩
  rw [Bytes.length_head? (by rw [Bytes.length_window]; exact Nat.min_le_left _ _)]

namespace Zeros

/-- An open stream of zeros, whose length is a position. -/
def Lies (admits : Nat → Prop) (zeros : Zeros) (x : Chart) (place : Nat) : Prop :=
  ∃ size, zeros = ⟨place, size, false⟩ ∧ size ≤ maxPosition ∧ admits place ∧
    x = .ofBase (Bytes.zeros size) (.argumentOutOfRange "position")

omit [Cancellation ω] in
theorem finds : Finds (Lies admits) := by
  intro zeros x place offset h hlt
  obtain ⟨size, -, hsize, -, rfl⟩ := h
  apply Chart.seek_ofBase_of_ok
  have hlt : offset < (Bytes.zeros size).length := hlt
  rw [length_zeros] at hlt
  rw [SeekTarget.resolve_fromStart, if_pos (by omega)]

variable {size place : Nat} {w : ω}

omit [Cancellation ω] in
theorem moves_take_liesIn (hmax : ∀ place, place ≤ maxPosition → admits place)
    (hsize : size ≤ maxPosition) (hplace : admits place) (room : Nat)
    {bad : StreamError → Nat → Prop} :
    (take room : StreamM ω Zeros Bytes).Moves
      (LiesIn (Lies admits) (.ofBase (Bytes.zeros size) (.argumentOutOfRange "position")) w)
      (⟨place, size, false⟩, w)
      (fun bytes q => bytes = Bytes.window (Bytes.zeros size) place room ∧
        q = place + bytes.length) bad := by
  refine StreamM.ends_of_eq_ok (take_of_open rfl room w) ⟨_, ⟨?_, rfl⟩, ⟨size, ?_, hsize, ?_, rfl⟩,
    rfl⟩
  · rw [window_zeros]
  · rw [length_zeros]
  · rw [length_zeros]
    dsimp only
    by_cases hend : min room (size - place) = 0
    · rw [hend]
      exact hplace
    · exact hmax _ (by omega)

theorem ends_mutating (hmax : ∀ place, place ≤ maxPosition → admits place)
    (hsize : size ≤ maxPosition) (hplace : admits place) {request : Request}
    (hmutates : request.mutates = true) :
    (ByteStream.perform request : StreamM ω Zeros request.Answer).Ends (⟨place, size, false⟩, w)
      (fun _ => Charted (Lies admits)) fun _ => Charted (Lies admits) := by
  have hself : Charted (Lies admits) ((⟨place, size, false⟩ : Zeros), w) :=
    ⟨_, place, size, rfl, hsize, hplace, rfl⟩
  have hcover : ∀ count : Nat, (cover count : StreamM ω Zeros Unit).Ends (⟨place, size, false⟩, w)
      (fun _ => Charted (Lies admits)) fun _ => Charted (Lies admits) := by
    intro count
    unfold StreamM.Ends
    rw [cover_of_open rfl]
    split
    · rename_i hreach
      split at hreach
      · rename_i hle
        cases hreach
        exact ⟨_, place + count, max size (place + count), rfl, Nat.max_le.mpr ⟨hsize, hle⟩,
          hmax _ hle, rfl⟩
      · cases hreach
    · rename_i hreach
      split at hreach
      · cases hreach
      · cases hreach
        exact hself
  cases request with
  | setLength target =>
    apply StreamM.ends_bind_of_eq_ok (opened_of_open rfl w)
    split
    · rename_i htarget
      exact ⟨_, min place target, target, rfl, htarget,
        hmax _ (Nat.le_trans (Nat.min_le_right _ _) htarget), rfl⟩
    · exact hself
  | write mode data =>
    apply Mode.ends_checkToken_bind
    · intro _
      exact hself
    · intro _
      exact hcover data.length
  | writeByte byte => exact hcover 1
  | _ => cases hmutates

theorem moves_setPosition_liesIn (hmax : ∀ place, place ≤ maxPosition → admits place)
    (hsize : size ≤ maxPosition) (hplace : admits place) (target : Nat) :
    (ByteStream.setPosition target : StreamM ω Zeros Unit).Moves
      (LiesIn (Lies admits) (.ofBase (Bytes.zeros size) (.argumentOutOfRange "position")) w)
      (⟨place, size, false⟩, w)
      (fun _ q => (Chart.ofBase (Bytes.zeros size) (.argumentOutOfRange "position")).setPosition
        target = .ok () ∧ q = 0 + target)
      fun e q => (Chart.ofBase (Bytes.zeros size) (.argumentOutOfRange "position")).setPosition
        target = .error e ∧ q = place := by
  apply StreamM.ends_bind_of_eq_ok (opened_of_open rfl w)
  split
  · rename_i hle
    exact ⟨_, ⟨if_pos hle, rfl⟩, ⟨size, by rw [Nat.zero_add], hsize, hmax _ (by omega), rfl⟩, rfl⟩
  · rename_i hfar
    exact ⟨place, ⟨if_neg hfar, rfl⟩, ⟨size, rfl, hsize, hplace, rfl⟩, rfl⟩

theorem moves_seek_liesIn (hmax : ∀ place, place ≤ maxPosition → admits place)
    (hsize : size ≤ maxPosition) (hplace : admits place) (target : SeekTarget) :
    (ByteStream.seek target : StreamM ω Zeros Nat).Moves
      (LiesIn (Lies admits) (.ofBase (Bytes.zeros size) (.argumentOutOfRange "position")) w)
      (⟨place, size, false⟩, w)
      (fun there q => (Chart.ofBase (Bytes.zeros size) (.argumentOutOfRange "position")).seek
        target place = .ok there ∧ q = 0 + there)
      fun e q => (Chart.ofBase (Bytes.zeros size) (.argumentOutOfRange "position")).seek
        target place = .error (e, q) := by
  have hlength : (Bytes.zeros size).length = size := length_zeros size
  apply StreamM.ends_bind_of_eq_ok (opened_of_open rfl w)
  dsimp only
  cases hthere : target.resolve place size with
  | ok there =>
    have hle := (SeekTarget.resolve_eq_ok_iff.mp hthere).2
    rw [← hlength] at hthere
    exact ⟨_, ⟨Chart.seek_ofBase_of_ok hthere, rfl⟩,
      ⟨size, by rw [Nat.zero_add], hsize, hmax _ (by omega), rfl⟩, rfl⟩
  | error cause =>
    rw [← hlength] at hthere
    exact ⟨place, Chart.seek_ofBase_of_error hthere, ⟨size, rfl, hsize, hplace, rfl⟩, rfl⟩

/-- **A stream of zeros answers as the chart of its zeros says.** -/
theorem followsChart (hmax : ∀ place, place ≤ maxPosition → admits place) :
    FollowsChart ω admits (Lies admits : Zeros → Chart → Nat → Prop) := by
  constructor
  all_goals
    intro zeros x place h
    obtain ⟨size, rfl, hsize, hplace, rfl⟩ := h
  case sound =>
    apply Chart.sound_ofBase
    rw [length_zeros]
    exact hsize
  case admitted => exact hplace
  case delivers => exact fun room => .window (fun hroom => hroom) (Nat.le_refl _)
  case position => exact fun w => rfl
  case length =>
    intro w
    show EStateM.Result.ok size _ = .ok (Bytes.zeros size).length _
    rw [length_zeros]
  case setPosition => exact fun target _ w => moves_setPosition_liesIn hmax hsize hplace target
  case seek => exact fun target w => moves_seek_liesIn hmax hsize hplace target
  case read =>
    exact fun mode room w => mode.moves_checkToken_liesIn ⟨⟨size, rfl, hsize, hplace, rfl⟩, rfl⟩
      (moves_take_liesIn hmax hsize hplace room)
  case readByte => exact fun w => (moves_take_liesIn hmax hsize hplace 1).head?
  case placeless =>
    intro request hplaceless w
    have hself : Lies admits ⟨place, size, false⟩
        (.ofBase (Bytes.zeros size) (.argumentOutOfRange "position")) place :=
      ⟨size, rfl, hsize, hplace, rfl⟩
    cases request with
    | flush mode =>
      apply Mode.ends_checkToken_bind
      · intro _
        exact hself
      · intro _
        exact hself
    | timeout direction => exact hself
    | setTimeout direction limit => exact hself
    | _ => cases hplaceless
  case mutating => exact fun request hmutates _ w => ends_mutating hmax hsize hplace hmutates

end Zeros

namespace DeviceStream

/-- An open stream over memory that holds no more bytes than there are positions. -/
def Lies (admits : Nat → Prop) (stream : DeviceStream MemoryDevice) (x : Chart) (place : Nat) :
    Prop :=
  ∃ memory access, stream = ofDevice memory access ∧ memory.Words ∧
    memory.content.length ≤ maxPosition ∧ admits memory.cursor ∧ place = memory.cursor ∧
    x = .ofBase memory.content .invalidSeek

omit [Cancellation ω] in
theorem finds : Finds (Lies admits) := by
  intro stream x place offset h hlt
  obtain ⟨memory, access, -, -, hlength, -, rfl, rfl⟩ := h
  apply Chart.seek_ofBase_of_ok
  have hlt : offset < memory.content.length := hlt
  rw [SeekTarget.resolve_fromStart, if_pos (by omega)]

variable {memory : MemoryDevice} {access : Access} {w : ω}

omit [Cancellation ω] in
theorem lies_ofDevice (hwords : memory.Words) (hlength : memory.content.length ≤ maxPosition)
    (hcursor : admits memory.cursor) :
    Lies admits (ofDevice memory access) (.ofBase memory.content .invalidSeek) memory.cursor :=
  ⟨memory, access, rfl, hwords, hlength, hcursor, rfl, rfl⟩

omit [Cancellation ω] in
theorem lies_moveTo (hmax : ∀ place, place ≤ maxPosition → admits place) (hwords : memory.Words)
    (hlength : memory.content.length ≤ maxPosition) {place : Nat} (hplace : place ≤ maxPosition) :
    Lies admits (ofDevice (memory.moveTo place) access) (.ofBase memory.content .invalidSeek)
      place :=
  ⟨memory.moveTo place, access, rfl, ⟨le_maxWord hplace, hwords.length_le⟩, hlength,
    hmax place hplace, rfl, rfl⟩

omit [Cancellation ω] in
theorem moves_read_liesIn (hmax : ∀ place, place ≤ maxPosition → admits place)
    (hwords : memory.Words) (hlength : memory.content.length ≤ maxPosition)
    (hcursor : admits memory.cursor) (room : Nat) {bad : StreamError → Nat → Prop} :
    (read room : StreamM ω (DeviceStream MemoryDevice) Bytes).Moves
      (LiesIn (Lies admits) (.ofBase memory.content .invalidSeek) w) (ofDevice memory access, w)
      (fun bytes q => bytes = memory.content.window memory.cursor room ∧
        q = memory.cursor + bytes.length) bad := by
  have hread : (read room : StreamM ω (DeviceStream MemoryDevice) Bytes)
      (ofDevice memory access, w) = .ok (memory.content.window memory.cursor room)
        (ofDevice (memory.moveTo
          (memory.cursor + (memory.content.window memory.cursor room).length)) access, w) :=
    onDevice_of_eq_ok rfl access
  refine StreamM.ends_of_eq_ok hread ⟨_, ⟨rfl, rfl⟩, ?_, rfl⟩
  have hwindow := Bytes.length_window memory.content memory.cursor room
  by_cases hend : (memory.content.window memory.cursor room).length = 0
  · rw [hend]
    exact lies_ofDevice hwords hlength hcursor
  · exact lies_moveTo hmax hwords hlength (by omega)

omit [Cancellation ω] in
/-- What is written reaches no further than the bytes do, or it is refused. -/
theorem ends_write_charted (hmax : ∀ place, place ≤ maxPosition → admits place)
    (hwords : memory.Words) (hlength : memory.content.length ≤ maxPosition)
    (hcursor : admits memory.cursor) {data : Bytes}
    (hfits : memory.cursor + data.length ≤ maxPosition) :
    (write data : StreamM ω (DeviceStream MemoryDevice) Unit).Ends (ofDevice memory access, w)
      (fun _ => Charted (Lies admits)) fun _ => Charted (Lies admits) := by
  apply StreamM.ends_bind_of_eq_ok (onDevice_of_eq_ok rfl access)
  apply StreamM.ends_bind_of_eq_ok rfl
  dsimp only
  split
  · exact ⟨_, _, lies_ofDevice hwords hlength hcursor⟩
  · have hput : (memory.put data).content.length ≤ maxPosition := by
      show (memory.content.splice memory.cursor data).length ≤ maxPosition
      rw [Bytes.length_splice]
      exact Nat.max_le.mpr ⟨hlength, hfits⟩
    have hwords' : (memory.put data).Words := ⟨le_maxWord hfits, le_maxWord hput⟩
    exact StreamM.ends_of_eq_ok
      (onDevice_of_eq_ok (MemoryDevice.writePatiently_eq memory data w) access)
      ⟨_, _, lies_ofDevice hwords' hput (hmax _ hfits)⟩

omit [Cancellation ω] in
theorem ends_setLength_charted (hwords : memory.Words)
    (hlength : memory.content.length ≤ maxPosition) (hcursor : admits memory.cursor) (size : Nat) :
    (setLength size : StreamM ω (DeviceStream MemoryDevice) Unit).Ends (ofDevice memory access, w)
      (fun _ => Charted (Lies admits)) fun _ => Charted (Lies admits) := by
  have hself : Charted (Lies admits) (ofDevice memory access, w) :=
    ⟨_, _, lies_ofDevice hwords hlength hcursor⟩
  apply StreamM.ends_bind_of_eq_ok (onDevice_of_eq_ok rfl access)
  apply StreamM.ends_bind_of_eq_ok rfl
  dsimp only
  split
  · exact hself
  split
  · exact hself
  · rename_i hsize
    have hresized : (memory.content.resize size).length ≤ maxPosition := by
      rw [Bytes.length_resize]
      exact Nat.le_of_not_lt hsize
    have hwords' : MemoryDevice.Words { memory with content := memory.content.resize size } :=
      ⟨hwords.cursor_le, le_maxWord hresized⟩
    exact StreamM.ends_of_eq_ok (onDevice_of_eq_ok rfl access)
      ⟨_, _, lies_ofDevice hwords' hresized hcursor⟩

theorem moves_seek_liesIn (hmax : ∀ place, place ≤ maxPosition → admits place)
    (hwords : memory.Words) (hlength : memory.content.length ≤ maxPosition)
    (hcursor : admits memory.cursor) (target : SeekTarget) :
    (ByteStream.seek target : StreamM ω (DeviceStream MemoryDevice) Nat).Moves
      (LiesIn (Lies admits) (.ofBase memory.content .invalidSeek) w) (ofDevice memory access, w)
      (fun there q => (Chart.ofBase memory.content .invalidSeek).seek target memory.cursor =
        .ok there ∧ q = 0 + there)
      fun e q => (Chart.ofBase memory.content .invalidSeek).seek target memory.cursor =
        .error (e, q) := by
  apply (ends_seek hwords target).mono
  · intro there s' hout
    obtain ⟨hthere, rfl⟩ := hout
    exact ⟨there, ⟨Chart.seek_ofBase_of_ok hthere, (Nat.zero_add there).symm⟩,
      lies_moveTo hmax hwords hlength (SeekTarget.resolve_eq_ok_iff.mp hthere).2, rfl⟩
  · intro e s' hout
    obtain ⟨cause, hcause, rfl, rfl⟩ := hout
    exact ⟨memory.cursor, Chart.seek_ofBase_of_error hcause,
      lies_ofDevice hwords hlength hcursor, rfl⟩

/-- A position is set by a seek from the start. -/
theorem moves_setPosition_liesIn (hmax : ∀ place, place ≤ maxPosition → admits place)
    (hwords : memory.Words) (hlength : memory.content.length ≤ maxPosition)
    (hcursor : admits memory.cursor) (target : Nat) :
    (ByteStream.setPosition target : StreamM ω (DeviceStream MemoryDevice) Unit).Moves
      (LiesIn (Lies admits) (.ofBase memory.content .invalidSeek) w) (ofDevice memory access, w)
      (fun _ q => (Chart.ofBase memory.content .invalidSeek).setPosition target = .ok () ∧
        q = 0 + target)
      fun e q => (Chart.ofBase memory.content .invalidSeek).setPosition target = .error e ∧
        q = memory.cursor := by
  apply StreamM.Ends.bind ((ends_seek hwords (.fromStart target)).mono (fun _ _ h => h) ?_)
  · intro there s' hout
    obtain ⟨hthere, rfl⟩ := hout
    obtain ⟨hleads, hle⟩ := SeekTarget.resolve_eq_ok_iff.mp hthere
    obtain rfl : target = there := Int.ofNat_inj.mp hleads
    exact ⟨target, ⟨if_pos hle, (Nat.zero_add target).symm⟩,
      lies_moveTo hmax hwords hlength hle, rfl⟩
  · intro e s' hout
    obtain ⟨cause, hcause, rfl, rfl⟩ := hout
    obtain ⟨rfl, hfar⟩ := SeekTarget.resolve_eq_error_iff.mp hcause
    have hfar : (target : Int) < 0 ∨ (maxPosition : Int) < target := hfar
    exact ⟨memory.cursor, ⟨if_neg (by omega), rfl⟩, lies_ofDevice hwords hlength hcursor, rfl⟩

/-- **A stream over memory answers as the chart of its bytes says.** -/
theorem followsChart (hmax : ∀ place, place ≤ maxPosition → admits place) :
    FollowsChart ω admits (Lies admits : DeviceStream MemoryDevice → Chart → Nat → Prop) := by
  constructor
  all_goals
    intro stream x place h
    obtain ⟨memory, access, rfl, hwords, hlength, hcursor, rfl, rfl⟩ := h
  case sound => exact Chart.sound_ofBase hlength
  case admitted => exact hcursor
  case delivers => exact fun room => .window (fun hroom => hroom) (Nat.le_refl _)
  case position => exact fun w => onDevice_of_eq_ok (operate_here hwords) access
  case length => exact fun w => onDevice_of_eq_ok (measure_apply hwords) access
  case setPosition =>
    exact fun target _ w => moves_setPosition_liesIn hmax hwords hlength hcursor target
  case seek => exact fun target w => moves_seek_liesIn hmax hwords hlength hcursor target
  case read =>
    exact fun mode room w => mode.moves_checkToken_liesIn
      ⟨lies_ofDevice hwords hlength hcursor, rfl⟩
      (moves_read_liesIn hmax hwords hlength hcursor room)
  case readByte => exact fun w => (moves_read_liesIn hmax hwords hlength hcursor 1).head?
  case placeless =>
    intro request hplaceless w
    have hself : Lies admits (ofDevice memory access) (.ofBase memory.content .invalidSeek)
        memory.cursor := lies_ofDevice hwords hlength hcursor
    cases request with
    | flush mode =>
      apply Mode.ends_checkToken_bind
      · intro _
        exact hself
      · intro _
        exact StreamM.ends_of_eq_ok (onDevice_of_eq_ok rfl access) hself
    | timeout direction => exact hself
    | setTimeout direction limit => exact hself
    | _ => cases hplaceless
  case mutating =>
    intro request hmutates hfits w
    cases request with
    | setLength size => exact ends_setLength_charted hwords hlength hcursor size
    | write mode data =>
      apply Mode.ends_checkToken_bind
      · intro _
        exact ⟨_, _, lies_ofDevice hwords hlength hcursor⟩
      · intro _
        exact ends_write_charted hmax hwords hlength hcursor hfits
    | writeByte byte => exact ends_write_charted hmax hwords hlength hcursor hfits
    | _ => cases hmutates

end DeviceStream

end Bases

/-- An open stream of zeros or over memory, lying on its chart. -/
def ResizedBase.Lies (admits : Nat → Prop) : (base : ResizedBase) → base.Over → Chart → Nat → Prop
  | .zeros => Zeros.Lies admits
  | .memory => DeviceStream.Lies admits

theorem ResizedBase.followsChart {ω : Type} [Cancellation ω] {admits : Nat → Prop}
    (hmax : ∀ place, place ≤ maxPosition → admits place) (base : ResizedBase) :
    FollowsChart ω admits (base.Lies admits) := by
  cases base with
  | zeros => exact Zeros.followsChart hmax
  | memory => exact DeviceStream.followsChart hmax

theorem ResizedBase.finds {admits : Nat → Prop} (base : ResizedBase) :
    Finds (base.Lies admits) := by
  cases base with
  | zeros => exact Zeros.finds
  | memory => exact DeviceStream.finds

end LayeredStreams
