import LayeredStreams.Proofs.FailedRequests
import LayeredStreams.Proofs.SideBySide

/-!
# Cursors that a cached layer hides

A cached layer moves the stream below to where it needs it before it reads there. Where that stream
stood before does not matter, unless the stream below keeps a cursor to itself as well.

* `Settles drifted agreed` — streams that drifted apart agree once they are moved to a place, and
  requests that do not read find them the same before. Streams that agree are not told apart.

Principal results: `Cached.agrees` (a cached layer hides that the stream below drifted),
`Stack.agrees` (with one cached layer, no later request tells stacks apart that show the same) and
`Stack.alike_position` (nor does a question where the stack stands, with any number of them).
-/

set_option autoImplicit false

namespace LayeredStreams

/-- Whether a request asks for no content and leaves the cursor where it is. -/
def Request.keepsPlace : Request → Bool
  | .length | .flush _ | .timeout _ | .setTimeout _ _ | .dispose => true
  | _ => false

/-- Streams that drifted agree once they are moved to a place, and stay as far apart as they are
under requests that keep the place. No request tells streams apart that agree. -/
structure Settles (ω : Type) {σ : Type} [ByteStream ω σ] (drifted agreed : σ → σ → Prop) :
    Prop where
  drifted_self : ∀ stream, drifted stream stream
  drifted_of_agreed : ∀ {stream stream'}, agreed stream stream' → drifted stream stream'
  looks : ∀ {stream stream'}, drifted stream stream' →
    ∀ w : ω, ByteStream.LooksAlike stream stream' w
  setPosition : ∀ target : Nat, StreamM.Alike drifted agreed drifted
    (ByteStream.setPosition target : StreamM ω σ Unit) (ByteStream.setPosition target)
  seek : ∀ offset : Nat, StreamM.Alike drifted agreed drifted
    (ByteStream.seek (.fromStart offset) : StreamM ω σ Nat) (ByteStream.seek (.fromStart offset))
  still : ∀ request : Request, request.keepsPlace = true → StreamM.Alike drifted drifted drifted
    (ByteStream.perform request : StreamM ω σ request.Answer) (ByteStream.perform request)
  agrees : ByteStream.Agrees ω agreed

/-! ## Transfers -/

section Transfers

variable {ω σ : Type} [Cancellation ω] [ByteStream ω σ] {alike bad : σ → σ → Prop}

/-- Streams that agree fill a buffer alike. The induction is on the reads that are left. -/
theorem alike_fillWithin (h : ByteStream.Agrees ω alike) (mode : Mode) :
    ∀ reads room : Nat, StreamM.Alike alike alike bad
      (fillWithin mode reads room : StreamM ω σ Filled) (fillWithin mode reads room)
  | 0, _ => StreamM.alike_pure (fun _ _ h => h) _
  | reads + 1, room => by
    unfold fillWithin
    split
    · exact StreamM.alike_pure (fun _ _ h => h) _
    have hread : StreamM.Alike alike alike alike (readAdmitted mode room : StreamM ω σ Bytes)
        (readAdmitted mode room) :=
      (StreamM.alike_admission mode (fun _ _ h => h) fun _ _ h => h).bind fun _ =>
        h.perform (.read mode room)
    refine hread.attempt.bind fun outcome => ?_
    split
    · exact StreamM.alike_pure (fun _ _ h => h) _
    · exact StreamM.alike_pure (fun _ _ h => h) _
    · exact (alike_fillWithin h mode reads _).bind fun _ => StreamM.alike_pure (fun _ _ h => h) _

end Transfers

/-! ## The base -/

namespace Fickle

theorem alike_undergo (request : Request) :
    StreamM.Alike Drifted Drifted Drifted (undergo request) (undergo request) := by
  intro base base' fate hdrifted
  unfold undergo
  dsimp only
  cases fate.turns 0 with
  | fail e => exact ⟨rfl, rfl, hdrifted⟩
  | grant bound => exact ⟨rfl, rfl, hdrifted⟩

/-- What a call answers on streams that drifted is what it answers once it was entered. -/
theorem alike_perform {request : Request} {good : Fickle → Fickle → Prop}
    (hdecline : StreamM.Alike Drifted good Drifted (decline request) (decline request))
    (hact : ∀ bound, StreamM.Alike Drifted good Drifted (act bound request) (act bound request)) :
    StreamM.Alike Drifted good Drifted
      (ByteStream.perform request : StreamM Fate Fickle request.Answer)
      (ByteStream.perform request) := by
  show StreamM.Alike _ _ _ (Fickle.perform request) (Fickle.perform request)
  unfold Fickle.perform
  refine (StreamM.alike_admission request.mode (fun _ _ h => h) fun _ _ h => h).bind fun _ => ?_
  refine StreamM.alike_state_bind fun base base' hdrifted => ?_
  have hdisposed : base.disposed = base'.disposed := by
    rw [← show { base with cursor := base'.cursor } = base' from hdrifted]
  rw [hdisposed]
  split
  · exact hdecline
  · exact (alike_undergo request).bind hact

theorem alike_moveTo (place : Nat) :
    StreamM.Alike Drifted (fun base base' => base = base') Drifted
      (StreamM.update fun base => { base with cursor := place } : StreamM Fate Fickle Unit)
      (StreamM.update fun base => { base with cursor := place }) :=
  StreamM.alike_update fun base base' h => by
    rw [← show { base with cursor := base'.cursor } = base' from h]

theorem settles : Settles Fate Drifted fun base base' => base = base' where
  drifted_self _ := rfl
  drifted_of_agreed h := by
    rw [h]
    rfl
  agrees := ByteStream.agrees_self
  looks := by
    rintro ⟨content, cursor, disposed⟩ ⟨content', cursor', disposed'⟩ h w
    cases h
    exact ⟨rfl, fun _ => rfl⟩
  setPosition target := by
    refine alike_perform (StreamM.alike_refuse (fun _ _ h => h) _) fun _ => ?_
    exact alike_moveTo target
  seek offset := by
    refine alike_perform (StreamM.alike_refuse (fun _ _ h => h) _) fun _ => ?_
    refine StreamM.alike_state_bind fun base base' _ => ?_
    rw [SeekTarget.resolve_fromStart, SeekTarget.resolve_fromStart]
    refine (StreamM.alike_ofExcept (fun _ _ h => h) (fun _ _ h => h) _).bind fun place => ?_
    refine (alike_moveTo place).bind fun _ => ?_
    exact StreamM.alike_pure (fun _ _ h => h) _
  still request hkeeps := by
    have hrefuse : ∀ {α : Type} (cause : Refusal), StreamM.Alike Drifted Drifted Drifted
        (StreamM.refuse cause : StreamM Fate Fickle α) (StreamM.refuse cause) :=
      fun cause => StreamM.alike_refuse (fun _ _ h => h) cause
    cases request with
    | length =>
      refine alike_perform (hrefuse _) fun _ => ?_
      refine StreamM.alike_state_bind fun base base' h => ?_
      have hcontent : base.content = base'.content := by
        rw [← show { base with cursor := base'.cursor } = base' from h]
      rw [hcontent]
      exact StreamM.alike_pure (fun _ _ h => h) _
    | flush mode => exact alike_perform (hrefuse _) fun _ => StreamM.alike_pure (fun _ _ h => h) _
    | timeout direction => exact alike_perform (hrefuse _) fun _ => hrefuse _
    | setTimeout direction limit => exact alike_perform (hrefuse _) fun _ => hrefuse _
    | dispose =>
      have hdispose : StreamM.Alike Drifted Drifted Drifted
          (StreamM.update fun base => { base with disposed := true } : StreamM Fate Fickle Unit)
          (StreamM.update fun base => { base with disposed := true }) :=
        StreamM.alike_update fun base base' h => by
          rw [← show { base with cursor := base'.cursor } = base' from h]
          rfl
      exact alike_perform (StreamM.alike_pure (fun _ _ h => h) _) fun _ => hdispose
    | _ => cases hkeeps

end Fickle

/-! ## Layers -/

section Layers

variable {ω σ α : Type}

namespace Passthrough

theorem alike_forward {act act' : StreamM ω σ α} {pre good bad : σ → σ → Prop}
    (h : StreamM.Alike pre good bad act act') :
    StreamM.Alike (Beside pre) (Beside good) (Beside bad) (forward act) (forward act') := by
  rintro ⟨slot, ownership⟩ ⟨slot', ownership'⟩ w ⟨rfl, hslot⟩
  cases hslot with
  | disposed => exact ⟨rfl, rfl, rfl, .disposed⟩
  | live hpre =>
    rw [forward_of_live, forward_of_live]
    rcases h.cases hpre w with ⟨_, _, _, _, heq, heq', h⟩ | ⟨_, _, _, _, heq, heq', h⟩
    · rw [heq, heq']
      exact ⟨rfl, rfl, rfl, .live h⟩
    · rw [heq, heq']
      exact ⟨rfl, rfl, rfl, .live h⟩

theorem alike_ensureOpen (beside : σ → σ → Prop) :
    StreamM.Alike (Beside beside) (Beside beside) (Beside beside)
      (ensureOpen : StreamM ω (Passthrough σ) Unit) ensureOpen :=
  alike_forward (StreamM.alike_pure (fun _ _ h => h) ())

theorem isDisposed_eq_of_beside {beside : σ → σ → Prop} {layer layer' : Passthrough σ}
    (h : Beside beside layer layer') : layer.isDisposed = layer'.isDisposed := by
  obtain ⟨slot, ownership⟩ := layer
  obtain ⟨slot', ownership'⟩ := layer'
  obtain ⟨-, hslot⟩ := h
  cases hslot with
  | live => rfl
  | disposed => rfl

variable [ByteStream ω σ] {alike drifted agreed : σ → σ → Prop}

/-- To let go of streams that are disposed alike. -/
theorem alike_release
    (h : StreamM.Alike alike alike alike (ByteStream.dispose : StreamM ω σ Unit)
      ByteStream.dispose) :
    StreamM.Alike (Beside alike) (Beside alike) (Beside alike)
      (release : StreamM ω (Passthrough σ) Unit) release := by
  rintro ⟨slot, ownership⟩ ⟨slot', ownership'⟩ w ⟨rfl, hslot⟩
  cases hslot with
  | disposed => exact ⟨rfl, rfl, rfl, .disposed⟩
  | live hpre =>
    cases ownership with
    | borrows => exact ⟨rfl, rfl, rfl, .disposed⟩
    | owns =>
      unfold release Ownership.isOwner
      dsimp only
      rw [if_pos rfl, if_pos rfl]
      rcases h.cases hpre w with ⟨_, _, _, _, heq, heq', -⟩ | ⟨_, _, _, _, heq, heq', -⟩
      · rw [heq, heq']
        exact ⟨rfl, rfl, rfl, .disposed⟩
      · rw [heq, heq']
        exact ⟨rfl, rfl, rfl, .disposed⟩

/-- A request that is answered alike below is answered alike by a layer that changes nothing. -/
theorem alike_perform {request : Request}
    (h : StreamM.Alike alike alike alike (ByteStream.perform request : StreamM ω σ request.Answer)
      (ByteStream.perform request)) :
    StreamM.Alike (Beside alike) (Beside alike) (Beside alike)
      (ByteStream.perform request : StreamM ω (Passthrough σ) request.Answer)
      (ByteStream.perform request) := by
  cases request with
  | dispose => exact alike_release h
  | _ => exact alike_forward h

theorem looksAlike_of_beside
    (h : ∀ {stream stream'}, alike stream stream' →
      ∀ w : ω, ByteStream.LooksAlike stream stream' w)
    {layer layer' : Passthrough σ} (hbeside : Beside alike layer layer') (w : ω) :
    ByteStream.LooksAlike layer layer' w := by
  refine ⟨isDisposed_eq_of_beside hbeside, fun capability => ?_⟩
  obtain ⟨slot, ownership⟩ := layer
  obtain ⟨slot', ownership'⟩ := layer'
  obtain ⟨-, hslot⟩ := hbeside
  cases hslot with
  | live halike => exact (h halike w).2 capability
  | disposed => rfl

theorem agrees (h : ByteStream.Agrees ω alike) : ByteStream.Agrees ω (Beside alike) where
  looks hbeside w := looksAlike_of_beside h.looks hbeside w
  perform request := alike_perform (h.perform request)

theorem settles (h : Settles ω drifted agreed) : Settles ω (Beside drifted) (Beside agreed) where
  drifted_self := beside_self h.drifted_self
  drifted_of_agreed hagreed := hagreed.mono h.drifted_of_agreed
  looks hbeside w := looksAlike_of_beside h.looks hbeside w
  setPosition target := alike_forward (h.setPosition target)
  seek offset := alike_forward (h.seek offset)
  still request hkeeps := alike_perform (h.still request hkeeps)
  agrees := agrees h.agrees

end Passthrough

end Layers

/-! ## Layers over a part -/

section Parts

variable {ω σ α : Type} {alike drifted agreed : Passthrough σ → Passthrough σ → Prop}

namespace Passthrough

variable [ByteStream ω σ]

/-- Layers that look alike decline alike. -/
theorem alike_decline
    (hlooks : ∀ {layer layer'}, alike layer layer' → ∀ w : ω, ByteStream.LooksAlike layer layer' w)
    (request : Request) :
    StreamM.Alike alike alike alike (decline request : StreamM ω (Passthrough σ) α)
      (decline request) := by
  intro layer layer' w halike
  have hdisposed : layer.isDisposed = layer'.isDisposed := (hlooks halike w).1
  unfold decline
  rw [StreamM.bind_apply, StreamM.bind_apply, StreamM.state_apply, StreamM.state_apply]
  dsimp only
  rw [hdisposed]
  cases layer'.isDisposed with
  | true => exact ⟨rfl, rfl, halike⟩
  | false => exact ⟨rfl, rfl, halike⟩

/-- A request that is answered alike is answered or declined alike. -/
theorem alike_performUnless
    (hlooks : ∀ {layer layer'}, alike layer layer' → ∀ w : ω, ByteStream.LooksAlike layer layer' w)
    {request : Request}
    (h : StreamM.Alike alike alike alike
      (ByteStream.perform request : StreamM ω (Passthrough σ) request.Answer)
      (ByteStream.perform request)) (declined : Bool) :
    StreamM.Alike alike alike alike
      (performUnless declined request : StreamM ω (Passthrough σ) request.Answer)
      (performUnless declined request) := by
  unfold performUnless
  split
  · exact alike_decline hlooks request
  · exact h

end Passthrough

namespace Rebased

theorem alike_onBase {act act' : StreamM ω (Passthrough σ) α}
    {pre good bad : Passthrough σ → Passthrough σ → Prop}
    (h : StreamM.Alike pre good bad act act') :
    StreamM.Alike (Beside pre) (Beside good) (Beside bad) (onBase act) (onBase act') :=
  h.within (fun layer layer' : Rebased σ => { layer with base := layer'.base } = layer')
    (fun _ _ => rfl) fun base base' layer layer' hrest => by rw [← hrest]

theorem alike_toBase (position : Nat) :
    StreamM.Alike (Beside alike) (Beside alike) (Beside alike)
      (toBase position : StreamM ω (Rebased σ) Nat) (toBase position) := by
  refine StreamM.alike_state_bind fun layer layer' h => ?_
  rw [show layer.baseOffset = layer'.baseOffset by rw [← h.1]]
  dsimp only
  split
  · exact StreamM.alike_pure (fun _ _ h => h) _
  · exact StreamM.alike_refuse (fun _ _ h => h) _

theorem alike_fromBase (place : Nat) :
    StreamM.Alike (Beside alike) (Beside alike) (Beside alike)
      (fromBase place : StreamM ω (Rebased σ) Nat) (fromBase place) := by
  refine StreamM.alike_state_bind fun layer layer' h => ?_
  rw [show layer.baseOffset = layer'.baseOffset by rw [← h.1]]
  dsimp only
  split
  · exact StreamM.alike_pure (fun _ _ h => h) _
  · exact StreamM.alike_refuse (fun _ _ h => h) _

theorem alike_ensureFromOrigin (place : Int) :
    StreamM.Alike (Beside alike) (Beside alike) (Beside alike)
      (ensureFromOrigin place : StreamM ω (Rebased σ) Unit) (ensureFromOrigin place) := by
  refine StreamM.alike_state_bind fun layer layer' h => ?_
  rw [show layer.baseOffset = layer'.baseOffset by rw [← h.1]]
  dsimp only
  split
  · exact StreamM.alike_refuse (fun _ _ h => h) _
  · exact StreamM.alike_pure (fun _ _ h => h) _

variable [ByteStream ω σ]

theorem looksAlike_of_beside
    (h : ∀ {base base'}, alike base base' → ∀ w : ω, ByteStream.LooksAlike base base' w)
    {layer layer' : Rebased σ} (hbeside : Beside alike layer layer') (w : ω) :
    ByteStream.LooksAlike layer layer' w :=
  h hbeside.2 w

theorem alike_length
    (h : StreamM.Alike alike alike alike (ByteStream.length : StreamM ω (Passthrough σ) Nat)
      ByteStream.length) :
    StreamM.Alike (Beside alike) (Beside alike) (Beside alike)
      (ByteStream.length : StreamM ω (Rebased σ) Nat) ByteStream.length := by
  refine (alike_onBase h).bind fun size => ?_
  refine StreamM.alike_state_bind fun layer layer' h => ?_
  rw [show layer.baseOffset = layer'.baseOffset by rw [← h.1]]
  exact StreamM.alike_pure (fun _ _ h => h) _

theorem alike_position
    (h : StreamM.Alike alike alike alike (ByteStream.position : StreamM ω (Passthrough σ) Nat)
      ByteStream.position) :
    StreamM.Alike (Beside alike) (Beside alike) (Beside alike)
      (ByteStream.position : StreamM ω (Rebased σ) Nat) ByteStream.position :=
  (alike_onBase h).bind fun place => alike_fromBase place

theorem alike_targetBelow (h : ByteStream.Agrees ω alike) (target : SeekTarget) :
    StreamM.Alike (Beside alike) (Beside alike) (Beside alike)
      (targetBelow target : StreamM ω (Rebased σ) SeekTarget) (targetBelow target) := by
  have hpure : ∀ target : SeekTarget, StreamM.Alike (Beside alike) (Beside alike) (Beside alike)
      (pure target : StreamM ω (Rebased σ) SeekTarget) (pure target) :=
    fun target => StreamM.alike_pure (fun _ _ h => h) target
  cases target with
  | fromStart offset => exact (alike_toBase offset).bind fun place => hpure (.fromStart place)
  | fromCurrent offset =>
    refine (alike_onBase (h.perform .position)).bind fun place => ?_
    exact (alike_ensureFromOrigin _).bind fun _ => hpure (.fromCurrent offset)
  | fromEnd offset =>
    refine (alike_onBase (h.perform .length)).bind fun size => ?_
    exact (alike_ensureFromOrigin _).bind fun _ => hpure (.fromEnd offset)

theorem agrees (h : ByteStream.Agrees ω alike) : ByteStream.Agrees ω (Beside alike) where
  looks hbeside w := looksAlike_of_beside h.looks hbeside w
  perform request := by
    cases request with
    | position => exact alike_position (h.perform .position)
    | setPosition target =>
      exact (alike_toBase target).bind fun place => alike_onBase (h.perform (.setPosition place))
    | length => exact alike_length (h.perform .length)
    | setLength size =>
      exact (alike_toBase size).bind fun place => alike_onBase (h.perform (.setLength place))
    | seek target =>
      refine (alike_targetBelow h target).bind fun below => ?_
      exact (alike_onBase (h.perform (.seek below))).bind fun place => alike_fromBase place
    | _ => exact alike_onBase (h.perform _)

theorem settles (h : Settles ω drifted agreed) : Settles ω (Beside drifted) (Beside agreed) where
  drifted_self layer := ⟨rfl, h.drifted_self layer.base⟩
  drifted_of_agreed hagreed := ⟨hagreed.1, h.drifted_of_agreed hagreed.2⟩
  looks hbeside w := looksAlike_of_beside h.looks hbeside w
  agrees := agrees h.agrees
  setPosition target :=
    (alike_toBase target).bind fun place => alike_onBase (h.setPosition place)
  seek offset := by
    have hseek : (ByteStream.seek (.fromStart offset) : StreamM ω (Rebased σ) Nat) =
        toBase offset >>= fun place =>
          onBase (ByteStream.seek (.fromStart place)) >>= fun there => fromBase there := by
      show ((toBase offset >>= fun place => pure (SeekTarget.fromStart place)) >>= _) = _
      rw [bind_assoc]
      rfl
    have hbad : ∀ layer layer' : Rebased σ, Beside agreed layer layer' →
        Beside drifted layer layer' := fun _ _ hagreed => ⟨hagreed.1, h.drifted_of_agreed hagreed.2⟩
    rw [hseek]
    refine (alike_toBase offset).bind fun place => ?_
    refine (alike_onBase (h.seek place)).bind fun there => ?_
    exact (alike_fromBase there).mono (fun _ _ h => h) hbad
  still request hkeeps := by
    cases request with
    | length => exact alike_length (h.still .length rfl)
    | flush mode => exact alike_onBase (h.still (.flush mode) rfl)
    | timeout direction => exact alike_onBase (h.still (.timeout direction) rfl)
    | setTimeout direction limit => exact alike_onBase (h.still (.setTimeout direction limit) rfl)
    | dispose => exact alike_onBase (h.still .dispose rfl)
    | _ => cases hkeeps

end Rebased

namespace ReadOnly

theorem alike_onBase {act act' : StreamM ω (Passthrough σ) α}
    {pre good bad : Passthrough σ → Passthrough σ → Prop}
    (h : StreamM.Alike pre good bad act act') :
    StreamM.Alike (Beside pre) (Beside good) (Beside bad) (onBase act) (onBase act') := by
  have hpart : StreamM.Alike (fun layer layer' : ReadOnly σ => True ∧ pre layer.base layer'.base)
      (fun layer layer' => True ∧ good layer.base layer'.base)
      (fun layer layer' => True ∧ bad layer.base layer'.base) (onBase act) (onBase act') :=
    h.within (fun _ _ => True) (fun _ _ => rfl) fun _ _ _ _ _ => trivial
  exact (hpart.of_pre fun _ _ h => ⟨trivial, h⟩).mono (fun _ _ h => h.2) fun _ _ h => h.2

variable [ByteStream ω σ]

theorem looksAlike_of_beside
    (h : ∀ {base base'}, alike base base' → ∀ w : ω, ByteStream.LooksAlike base base' w)
    {layer layer' : ReadOnly σ} (hbeside : Beside alike layer layer') (w : ω) :
    ByteStream.LooksAlike layer layer' w := by
  obtain ⟨hdisposed, hcan⟩ := h hbeside w
  refine ⟨hdisposed, fun capability => ?_⟩
  exact congrArg (capability != .writing && ·) (hcan capability)

theorem agrees (h : ByteStream.Agrees ω alike) : ByteStream.Agrees ω (Beside alike) where
  looks hbeside w := looksAlike_of_beside h.looks hbeside w
  perform request := alike_onBase
    (Passthrough.alike_performUnless h.looks (h.perform request) request.mutates)

theorem alike_position
    (h : StreamM.Alike alike alike alike (ByteStream.position : StreamM ω (Passthrough σ) Nat)
      ByteStream.position) :
    StreamM.Alike (Beside alike) (Beside alike) (Beside alike)
      (ByteStream.position : StreamM ω (ReadOnly σ) Nat) ByteStream.position :=
  alike_onBase h

theorem settles (h : Settles ω drifted agreed) : Settles ω (Beside drifted) (Beside agreed) where
  drifted_self layer := h.drifted_self layer.base
  drifted_of_agreed := h.drifted_of_agreed
  looks hbeside w := looksAlike_of_beside h.looks hbeside w
  agrees := agrees h.agrees
  setPosition target := alike_onBase (h.setPosition target)
  seek offset := alike_onBase (h.seek offset)
  still request hkeeps := alike_onBase
    (Passthrough.alike_performUnless h.looks (h.still request hkeeps) request.mutates)

end ReadOnly

namespace Truncated

/-- What is done on the part leaves what the layer notes, except perhaps the cursor. -/
theorem alike_onBase {act act' : StreamM ω (Passthrough σ) α}
    {pre good bad : Passthrough σ → Passthrough σ → Prop}
    (h : StreamM.Alike pre good bad act act') :
    StreamM.Alike (Beside pre) (Beside good) (Beside bad) (onBase act) (onBase act') :=
  h.within (fun layer layer' : Truncated σ => { layer with base := layer'.base } = layer')
    (fun _ _ => rfl) fun base base' layer layer' hrest => by rw [← hrest]

theorem alike_onBase_of_drifted {act act' : StreamM ω (Passthrough σ) α}
    {pre good bad : Passthrough σ → Passthrough σ → Prop}
    (h : StreamM.Alike pre good bad act act') :
    StreamM.Alike (Drifted pre) (Drifted good) (Drifted bad) (onBase act) (onBase act') :=
  h.within
    (fun layer layer' : Truncated σ =>
      { layer with base := layer'.base, cursor := layer'.cursor } = layer')
    (fun _ _ => rfl) fun base base' layer layer' hrest => by rw [← hrest]

theorem alike_moveTo (place : Nat) :
    StreamM.Alike (Beside alike) (Beside alike) (Beside alike)
      (moveTo place : StreamM ω (Truncated σ) Unit) (moveTo place) :=
  StreamM.alike_update fun layer layer' h => by
    refine ⟨?_, h.2⟩
    rw [← h.1]

theorem alike_advance (count : Nat) :
    StreamM.Alike (Beside alike) (Beside alike) (Beside alike)
      (advance count : StreamM ω (Truncated σ) Unit) (advance count) :=
  StreamM.alike_update fun layer layer' h => by
    refine ⟨?_, h.2⟩
    rw [← h.1]

/-- Layers of one stretch have drifted no further than their parts once their cursors are the
same. -/
theorem alike_moveTo_of_drifted {bad : Truncated σ → Truncated σ → Prop} (place : Nat) :
    StreamM.Alike (Drifted alike) (Beside alike) bad
      (moveTo place : StreamM ω (Truncated σ) Unit) (moveTo place) :=
  StreamM.alike_update fun layer layer' h => by
    refine ⟨?_, h.2⟩
    rw [← h.1]

variable [ByteStream ω σ]

theorem looksAlike_of_drifted
    (h : ∀ {base base'}, alike base base' → ∀ w : ω, ByteStream.LooksAlike base base' w)
    {layer layer' : Truncated σ} (hdrifted : Drifted alike layer layer') (w : ω) :
    ByteStream.LooksAlike layer layer' w := by
  obtain ⟨hdisposed, hcan⟩ := h hdrifted.2 w
  refine ⟨hdisposed, fun capability => ?_⟩
  exact congrArg (capability != .writing && ·) (hcan capability)

/-- Layers of one stretch that get the same length from below are as long as each other. -/
theorem alike_visibleLength_of {alike : Truncated σ → Truncated σ → Prop}
    (hstretch : ∀ {layer layer'}, alike layer layer' →
      layer.maxLength = layer'.maxLength ∧ layer.origin = layer'.origin)
    (h : StreamM.Alike alike alike alike (onBase ByteStream.length : StreamM ω (Truncated σ) Nat)
      (onBase ByteStream.length)) :
    StreamM.Alike alike alike alike (visibleLength : StreamM ω (Truncated σ) Nat)
      visibleLength := by
  refine h.bind fun size => ?_
  refine StreamM.alike_state_bind fun layer layer' hlayers => ?_
  rw [(hstretch hlayers).1, (hstretch hlayers).2]
  exact StreamM.alike_pure (fun _ _ h => h) _

theorem stretch_of_drifted {layer layer' : Truncated σ} (h : Drifted alike layer layer') :
    layer.maxLength = layer'.maxLength ∧ layer.origin = layer'.origin := by
  rw [← h.1]
  exact ⟨rfl, rfl⟩

theorem alike_visibleLength
    (h : StreamM.Alike alike alike alike (ByteStream.length : StreamM ω (Passthrough σ) Nat)
      ByteStream.length) :
    StreamM.Alike (Beside alike) (Beside alike) (Beside alike)
      (visibleLength : StreamM ω (Truncated σ) Nat) visibleLength :=
  alike_visibleLength_of (fun h => stretch_of_drifted (drifted_of_beside h)) (alike_onBase h)

theorem alike_targetBelow (h : ByteStream.Agrees ω alike) (target : SeekTarget) :
    StreamM.Alike (Beside alike) (Beside alike) (Beside alike)
      (targetBelow target : StreamM ω (Truncated σ) SeekTarget) (targetBelow target) := by
  cases target with
  | fromStart offset => exact StreamM.alike_pure (fun _ _ h => h) _
  | fromCurrent offset => exact StreamM.alike_pure (fun _ _ h => h) _
  | fromEnd offset =>
    refine (alike_visibleLength (h.perform .length)).bind fun visible => ?_
    refine (StreamM.alike_ofExcept (fun _ _ h => h) (fun _ _ h => h) _).bind fun place => ?_
    refine StreamM.alike_state_bind fun layer layer' hlayers => ?_
    rw [show layer.origin = layer'.origin by rw [← hlayers.1]]
    exact StreamM.alike_pure (fun _ _ h => h) _

theorem alike_read (h : ByteStream.Agrees ω alike) (mode : Mode) (room : Nat) :
    StreamM.Alike (Beside alike) (Beside alike) (Beside alike)
      (Truncated.read mode room : StreamM ω (Truncated σ) Bytes) (Truncated.read mode room) := by
  refine StreamM.alike_state_bind fun layer layer' hlayers => ?_
  rw [show layer.remaining = layer'.remaining by rw [← hlayers.1]; rfl]
  refine (alike_onBase (h.perform (.read mode (min room layer'.remaining)))).bind fun bytes => ?_
  exact (alike_advance bytes.length).bind fun _ => StreamM.alike_pure (fun _ _ h => h) bytes

theorem alike_readByte (h : ByteStream.Agrees ω alike)
    (hopen : StreamM.Alike alike alike alike
      (Passthrough.ensureOpen : StreamM ω (Passthrough σ) Unit) Passthrough.ensureOpen) :
    StreamM.Alike (Beside alike) (Beside alike) (Beside alike)
      (Truncated.readByte : StreamM ω (Truncated σ) (Option UInt8)) Truncated.readByte := by
  refine (alike_onBase hopen).bind fun _ => ?_
  refine StreamM.alike_state_bind fun layer layer' hlayers => ?_
  rw [show layer.boundary = layer'.boundary by rw [← hlayers.1]; rfl,
    show layer.cursor = layer'.cursor by rw [← hlayers.1]]
  dsimp only
  split
  · exact StreamM.alike_pure (fun _ _ h => h) _
  refine (alike_onBase (h.perform .readByte)).bind fun byte => ?_
  split
  · exact (alike_advance 1).bind fun _ => StreamM.alike_pure (fun _ _ h => h) byte
  · exact StreamM.alike_pure (fun _ _ h => h) byte

theorem agrees (h : ByteStream.Agrees ω alike)
    (hopen : StreamM.Alike alike alike alike
      (Passthrough.ensureOpen : StreamM ω (Passthrough σ) Unit) Passthrough.ensureOpen) :
    ByteStream.Agrees ω (Beside alike) where
  looks hbeside w := looksAlike_of_drifted h.looks (drifted_of_beside hbeside) w
  perform request := by
    cases request with
    | setPosition target =>
      exact (alike_onBase (h.perform (.setPosition target))).bind fun _ => alike_moveTo target
    | length => exact alike_visibleLength (h.perform .length)
    | seek target =>
      refine (alike_targetBelow h target).bind fun below => ?_
      refine (alike_onBase (h.perform (.seek below))).bind fun place => ?_
      exact (alike_moveTo place).bind fun _ => StreamM.alike_pure (fun _ _ h => h) place
    | read mode room => exact alike_read h mode room
    | readByte => exact alike_readByte h hopen
    | _ =>
      exact alike_onBase (Passthrough.alike_performUnless h.looks (h.perform _) (declines _))

theorem alike_position
    (h : StreamM.Alike alike alike alike (ByteStream.position : StreamM ω (Passthrough σ) Nat)
      ByteStream.position) :
    StreamM.Alike (Beside alike) (Beside alike) (Beside alike)
      (ByteStream.position : StreamM ω (Truncated σ) Nat) ByteStream.position :=
  alike_onBase h

theorem settles (h : Settles ω drifted agreed)
    (hopen : StreamM.Alike agreed agreed agreed
      (Passthrough.ensureOpen : StreamM ω (Passthrough σ) Unit) Passthrough.ensureOpen) :
    Settles ω (Drifted drifted) (Beside agreed) where
  drifted_self layer := ⟨rfl, h.drifted_self layer.base⟩
  drifted_of_agreed hagreed :=
    drifted_of_beside ⟨hagreed.1, h.drifted_of_agreed hagreed.2⟩
  agrees := agrees h.agrees hopen
  looks hdrifted w := looksAlike_of_drifted h.looks hdrifted w
  setPosition target :=
    (alike_onBase_of_drifted (h.setPosition target)).bind fun _ => alike_moveTo_of_drifted target
  seek offset := by
    have hseek : (ByteStream.seek (.fromStart offset) : StreamM ω (Truncated σ) Nat) =
        onBase (ByteStream.seek (.fromStart offset)) >>= fun place =>
          moveTo place >>= fun _ => pure place := rfl
    rw [hseek]
    refine (alike_onBase_of_drifted (h.seek offset)).bind fun place => ?_
    refine (alike_moveTo_of_drifted place).bind fun _ => ?_
    exact StreamM.alike_pure (fun _ _ h => h) place
  still request hkeeps := by
    have hpassed : ∀ request : Request, request.keepsPlace = true →
        StreamM.Alike (Drifted drifted) (Drifted drifted) (Drifted drifted)
          (onBase (Passthrough.performUnless (declines request) request) :
            StreamM ω (Truncated σ) request.Answer)
          (onBase (Passthrough.performUnless (declines request) request)) :=
      fun request hkeeps => alike_onBase_of_drifted
        (Passthrough.alike_performUnless h.looks (h.still request hkeeps) (declines request))
    cases request with
    | length =>
      exact alike_visibleLength_of stretch_of_drifted
        (alike_onBase_of_drifted (h.still .length rfl))
    | flush mode => exact hpassed (.flush mode) rfl
    | timeout direction => exact hpassed (.timeout direction) rfl
    | setTimeout direction limit => exact hpassed (.setTimeout direction limit) rfl
    | dispose => exact hpassed .dispose rfl
    | _ => cases hkeeps

end Truncated

end Parts

/-! ## Cached layers -/

namespace BlockCache

variable {cache cache' : BlockCache}

theorem isLoaded_eq (h : ∀ index, cache.block? index = cache'.block? index) (index : BlockIndex) :
    cache.isLoaded index = cache'.isLoaded index :=
  congrArg Option.isSome (h index)

theorem fst_missingBlock_eq (h : ∀ index, cache.block? index = cache'.block? index) (offset : Nat) :
    (cache.missingBlock offset).1 = (cache'.missingBlock offset).1 := by
  unfold missingBlock
  dsimp only
  rw [isLoaded_eq h]
  split
  · rfl
  · rfl

theorem block?_install_eq (h : ∀ index, cache.block? index = cache'.block? index)
    (place : BlockIndex) (data : Bytes) (filled : Nat) (index : BlockIndex) :
    (cache.install place data filled).block? index =
      (cache'.install place data filled).block? index := by
  by_cases hword : place.value < maxWord
  · rw [block?_install _ _ _ _ _ hword, block?_install _ _ _ _ _ hword, h, h]
  · rw [install_of_not_lt hword, install_of_not_lt hword]
    exact h index

end BlockCache

namespace Cached

section Parts

variable {ω σ α : Type} {beside : Passthrough σ → Passthrough σ → Prop}

theorem alike_onBase {act act' : StreamM ω (Passthrough σ) α}
    {pre good bad : Passthrough σ → Passthrough σ → Prop}
    (h : StreamM.Alike pre good bad act act') :
    StreamM.Alike (Beside pre) (Beside good) (Beside bad) (onBase act) (onBase act') :=
  h.within
    (fun layer layer' : Cached σ => layer.cursor = layer'.cursor ∧
      ∀ index, layer.cache.block? index = layer'.cache.block? index)
    (fun _ _ => rfl) fun _ _ _ _ hrest => hrest

theorem alike_moveTo (place : Nat) :
    StreamM.Alike (Beside beside) (Beside beside) (Beside beside)
      (moveTo place : StreamM ω (Cached σ) Unit) (moveTo place) :=
  StreamM.alike_update fun _ _ h => ⟨⟨rfl, h.1.2⟩, h.2⟩

theorem alike_updateCache {f f' : BlockCache → BlockCache}
    (h : ∀ layer layer' : Cached σ, Beside beside layer layer' →
      ∀ index, (f layer.cache).block? index = (f' layer'.cache).block? index) :
    StreamM.Alike (Beside beside) (Beside beside) (Beside beside)
      (updateCache f : StreamM ω (Cached σ) Unit) (updateCache f') :=
  StreamM.alike_update fun layer layer' hlayers =>
    ⟨⟨hlayers.1.1, h layer layer' hlayers⟩, hlayers.2⟩

theorem alike_serve (room : Nat) :
    StreamM.Alike (Beside beside) (Beside beside) (Beside beside)
      (serve room : StreamM ω (Cached σ) Bytes) (serve room) := by
  refine StreamM.alike_state_bind fun layer layer' h => ?_
  have hcopy : layer.cache.copyOut layer.cursor room = layer'.cache.copyOut layer'.cursor room := by
    unfold BlockCache.copyOut BlockCache.blockAt
    rw [h.1.1, h.1.2]
  dsimp only
  rw [hcopy, h.1.1]
  exact (alike_moveTo _).bind fun _ => StreamM.alike_pure (fun _ _ h => h) _

theorem alike_serveByte :
    StreamM.Alike (Beside beside) (Beside beside) (Beside beside)
      (serveByte : StreamM ω (Cached σ) (Option UInt8)) serveByte := by
  refine StreamM.alike_state_bind fun layer layer' h => ?_
  have hbyte : layer.cache.byteAt layer.cursor = layer'.cache.byteAt layer'.cursor := by
    unfold BlockCache.byteAt BlockCache.blockAt
    rw [h.1.1, h.1.2]
  dsimp only
  rw [hbyte, h.1.1]
  split
  · exact (alike_moveTo _).bind fun _ => StreamM.alike_pure (fun _ _ h => h) _
  · exact StreamM.alike_pure (fun _ _ h => h) _

end Parts

variable {ω σ : Type} [ByteStream ω σ] {drifted agreed : σ → σ → Prop}

/-- Where the streams below agree, they have drifted no further. -/
theorem beside_of_agreed (h : Settles ω drifted agreed) (layer layer' : Cached σ)
    (hagreed : Beside (Passthrough.Beside agreed) layer layer') :
    Beside (Passthrough.Beside drifted) layer layer' :=
  ⟨hagreed.1, hagreed.2.mono h.drifted_of_agreed⟩

/-- To seek takes the streams below to the cursor, and from there to the same place. -/
theorem alike_seek (h : Settles ω drifted agreed) (target : SeekTarget) :
    StreamM.Alike (Beside (Passthrough.Beside drifted)) (Beside (Passthrough.Beside drifted))
      (Beside (Passthrough.Beside drifted)) (Cached.seek target : StreamM ω (Cached σ) Nat)
      (Cached.seek target) := by
  refine StreamM.alike_state_bind fun layer layer' hlayers => ?_
  rw [hlayers.1.1]
  refine (alike_onBase ((Passthrough.settles h).setPosition layer'.cursor)).bind fun _ => ?_
  refine StreamM.Alike.bind ((alike_onBase ((Passthrough.agrees h.agrees).perform
    (.seek target))).mono (fun _ _ h => h) (beside_of_agreed h)) fun place => ?_
  refine StreamM.Alike.bind ((alike_moveTo place).mono (beside_of_agreed h) (beside_of_agreed h))
    fun _ => ?_
  exact StreamM.alike_pure (fun _ _ h => h) place

/-- The blocks are given up whatever comes of disposing the streams below. -/
theorem alike_release (h : Settles ω drifted agreed) :
    StreamM.Alike (Beside (Passthrough.Beside drifted)) (Beside (Passthrough.Beside drifted))
      (Beside (Passthrough.Beside drifted)) (release : StreamM ω (Cached σ) Unit) release := by
  refine (alike_onBase ((Passthrough.settles h).still .dispose rfl)).attempt.bind fun outcome => ?_
  refine (alike_updateCache fun _ _ _ _ => rfl).bind fun _ => ?_
  exact StreamM.alike_settle (fun _ _ h => h) (fun _ _ h => h) outcome

variable [Cancellation ω]

theorem looksAlike_of_beside (h : Settles ω drifted agreed) {layer layer' : Cached σ}
    (hbeside : Beside (Passthrough.Beside drifted) layer layer') (w : ω) :
    ByteStream.LooksAlike layer layer' w := by
  obtain ⟨hdisposed, hcan⟩ := (Passthrough.settles h).looks hbeside.2 w
  refine ⟨hdisposed, fun capability => ?_⟩
  exact congrArg (capability != .writing && ·) (hcan capability)

/-- To fetch a block takes the streams below to the same place, and is the same from there. -/
theorem alike_fetch (h : Settles ω drifted agreed) (mode : Mode) (index : BlockIndex) :
    StreamM.Alike (Beside (Passthrough.Beside drifted)) (Beside (Passthrough.Beside drifted))
      (Beside (Passthrough.Beside drifted)) (fetch mode index : StreamM ω (Cached σ) Unit)
      (fetch mode index) := by
  refine (alike_onBase ((Passthrough.settles h).seek index.start)).bind fun _ => ?_
  refine StreamM.Alike.bind (alike_onBase (alike_fillWithin (Passthrough.agrees h.agrees) mode
    blockSize blockSize)) fun filled => ?_
  refine (StreamM.alike_settle (fun _ _ h => h) (beside_of_agreed h) filled.outcome).bind
    fun data => ?_
  refine (alike_updateCache fun layer layer' hlayers => ?_).mono (beside_of_agreed h)
    (beside_of_agreed h)
  exact BlockCache.block?_install_eq hlayers.1.2 index data data.length

theorem alike_load (h : Settles ω drifted agreed) (mode : Mode) :
    StreamM.Alike (Beside (Passthrough.Beside drifted)) (Beside (Passthrough.Beside drifted))
      (Beside (Passthrough.Beside drifted)) (load mode : StreamM ω (Cached σ) Unit)
      (load mode) := by
  have hdone : StreamM.Alike (Beside (Passthrough.Beside drifted))
      (Beside (Passthrough.Beside drifted)) (Beside (Passthrough.Beside drifted))
      (pure () : StreamM ω (Cached σ) Unit) (pure ()) := StreamM.alike_pure (fun _ _ h => h) ()
  refine (alike_onBase (Passthrough.alike_ensureOpen drifted)).bind fun _ => ?_
  refine StreamM.alike_state_bind fun layer layer' hlayers => ?_
  obtain ⟨⟨hcursor, hblocks⟩, -⟩ := hlayers
  dsimp only
  rw [hcursor, BlockCache.isLoaded_eq hblocks]
  split
  · exact hdone
  refine (alike_onBase ((Passthrough.settles h).still .length rfl)).bind fun size => ?_
  split
  · exact hdone
  have hgrown : ∀ index, (layer.cache.missingBlock layer'.cursor).2.block? index =
      (layer'.cache.missingBlock layer'.cursor).2.block? index := by
    intro index
    rw [BlockCache.block?_missingBlock, BlockCache.block?_missingBlock, hblocks]
  rw [BlockCache.fst_missingBlock_eq hblocks]
  refine (alike_updateCache fun _ _ _ => hgrown).bind fun _ => ?_
  cases (layer'.cache.missingBlock layer'.cursor).1 with
  | none => exact hdone
  | some index => exact alike_fetch h mode index

theorem alike_position :
    StreamM.Alike (Beside (Passthrough.Beside drifted)) (Beside (Passthrough.Beside drifted))
      (Beside (Passthrough.Beside drifted)) (ByteStream.position : StreamM ω (Cached σ) Nat)
      ByteStream.position := by
  refine (alike_onBase (Passthrough.alike_ensureOpen drifted)).bind fun _ => ?_
  refine StreamM.alike_state_bind fun layer layer' hlayers => ?_
  rw [hlayers.1.1]
  exact StreamM.alike_pure (fun _ _ h => h) _

/-- **A cached layer hides that the stream below drifted.** -/
theorem agrees (h : Settles ω drifted agreed) :
    ByteStream.Agrees ω (Beside (Passthrough.Beside drifted)) where
  looks := looksAlike_of_beside h
  perform request := by
    have hbelow := Passthrough.settles h
    have hpassed : ∀ request : Request, request.keepsPlace = true →
        StreamM.Alike (Beside (Passthrough.Beside drifted)) (Beside (Passthrough.Beside drifted))
          (Beside (Passthrough.Beside drifted))
          (onBase (Passthrough.performUnless request.mutates request) :
            StreamM ω (Cached σ) request.Answer)
          (onBase (Passthrough.performUnless request.mutates request)) :=
      fun request hkeeps => alike_onBase
        (Passthrough.alike_performUnless hbelow.looks (hbelow.still request hkeeps) request.mutates)
    have hdeclined : ∀ request : Request, request.mutates = true →
        StreamM.Alike (Beside (Passthrough.Beside drifted)) (Beside (Passthrough.Beside drifted))
          (Beside (Passthrough.Beside drifted))
          (Cached.perform request : StreamM ω (Cached σ) request.Answer)
          (Cached.perform request) := fun request hmutates => by
      rw [perform_of_mutates hmutates]
      exact alike_onBase (Passthrough.alike_decline hbelow.looks request)
    cases request with
    | position => exact alike_position
    | setPosition target =>
      exact (alike_onBase (Passthrough.alike_ensureOpen drifted)).bind fun _ => alike_moveTo target
    | length => exact hpassed .length rfl
    | setLength size => exact hdeclined (.setLength size) rfl
    | seek target => exact alike_seek h target
    | read mode room => exact (alike_load h mode).bind fun _ => alike_serve room
    | readByte => exact (alike_load h .blocking).bind fun _ => alike_serveByte
    | write mode data => exact hdeclined (.write mode data) rfl
    | writeByte byte => exact hdeclined (.writeByte byte) rfl
    | flush mode => exact hpassed (.flush mode) rfl
    | timeout direction => exact hpassed (.timeout direction) rfl
    | setTimeout direction limit => exact hpassed (.setTimeout direction limit) rfl
    | dispose => exact alike_release h

end Cached

/-! ## Stacks -/

namespace LayerKind

variable {ω σ : Type} [Cancellation ω] [ByteStream ω σ] {drifted shown : σ → σ → Prop}

/-- A layer that is not cached keeps of a drifted stream what the stream keeps. -/
theorem settles (h : Settles ω drifted shown) :
    ∀ {kind : LayerKind}, kind ≠ .window → kind ≠ .cached →
      Settles ω (kind.Drifted drifted) (kind.Shown drifted shown)
  | passthrough, _, _ => Passthrough.settles h
  | rebased, _, _ => Rebased.settles (Passthrough.settles h)
  | truncated, _, _ =>
    Truncated.settles (Passthrough.settles h) (Passthrough.alike_ensureOpen shown)
  | readOnly, _, _ => ReadOnly.settles (Passthrough.settles h)
  | cached, _, hcached => absurd rfl hcached
  | window, hwindow, _ => absurd rfl hwindow

/-- A layer that is not cached tells nothing apart that the stream below does not. -/
theorem agrees (h : ByteStream.Agrees ω shown) :
    ∀ {kind : LayerKind}, kind ≠ .window → kind ≠ .cached →
      ByteStream.Agrees ω (kind.Shown drifted shown)
  | passthrough, _, _ => Passthrough.agrees h
  | rebased, _, _ => Rebased.agrees (Passthrough.agrees h)
  | truncated, _, _ => Truncated.agrees (Passthrough.agrees h) (Passthrough.alike_ensureOpen shown)
  | readOnly, _, _ => ReadOnly.agrees (Passthrough.agrees h)
  | cached, _, hcached => absurd rfl hcached
  | window, hwindow, _ => absurd rfl hwindow

/-- Layers that show the same stand at the same place. -/
theorem alike_position
    (h : StreamM.Alike shown shown shown (ByteStream.position : StreamM ω σ Nat)
      ByteStream.position) :
    ∀ {kind : LayerKind}, kind ≠ .window →
      StreamM.Alike (kind.Shown drifted shown) (kind.Shown drifted shown) (kind.Shown drifted shown)
        (ByteStream.position : StreamM ω (kind.Over σ) Nat) ByteStream.position
  | passthrough, _ => Passthrough.alike_perform h
  | rebased, _ => Rebased.alike_position (Passthrough.alike_perform h)
  | truncated, _ => Truncated.alike_position (Passthrough.alike_perform h)
  | readOnly, _ => ReadOnly.alike_position (Passthrough.alike_perform h)
  | cached, _ => Cached.alike_position
  | window, hwindow => absurd rfl hwindow

end LayerKind

namespace Stack

theorem settles : ∀ {kinds : List LayerKind}, .window ∉ kinds → .cached ∉ kinds →
    Settles Fate (Drifted kinds) (Shown kinds)
  | [], _, _ => Fickle.settles
  | kind :: kinds, hwindow, hcached => by
    have hbelow := settles (fun hmem => hwindow (List.mem_cons_of_mem _ hmem))
      fun hmem => hcached (List.mem_cons_of_mem _ hmem)
    exact LayerKind.settles hbelow (fun heq => hwindow (heq ▸ List.mem_cons_self))
      fun heq => hcached (heq ▸ List.mem_cons_self)

/-- **With at most one cached layer, no request tells stacks apart that show the same.** -/
theorem agrees : ∀ {kinds : List LayerKind}, .window ∉ kinds → kinds.count .cached ≤ 1 →
    ByteStream.Agrees Fate (Shown kinds)
  | [], _, _ => ByteStream.agrees_self
  | kind :: kinds, hwindow, hcount => by
    have hbelow : LayerKind.window ∉ kinds := fun hmem => hwindow (List.mem_cons_of_mem _ hmem)
    by_cases hkind : kind = .cached
    · subst hkind
      have hnone : LayerKind.cached ∉ kinds := by
        rw [List.count_cons_self] at hcount
        exact List.count_eq_zero.mp (by omega)
      exact Cached.agrees (settles hbelow hnone)
    · rw [List.count_cons_of_ne hkind] at hcount
      exact LayerKind.agrees (agrees hbelow hcount)
        (fun heq => hwindow (heq ▸ List.mem_cons_self)) hkind

/-- Stacks that show the same stand at the same place. -/
theorem alike_position : ∀ {kinds : List LayerKind}, .window ∉ kinds →
    StreamM.Alike (Shown kinds) (Shown kinds) (Shown kinds)
      (ByteStream.position : StreamM Fate (Stack kinds Fickle) Nat) ByteStream.position
  | [], _ => StreamM.alike_self _
  | _ :: _, hwindow =>
    LayerKind.alike_position (alike_position fun hmem => hwindow (List.mem_cons_of_mem _ hmem))
      fun heq => hwindow (heq ▸ List.mem_cons_self)

end Stack

end LayeredStreams
