import LayeredStreams.Proofs.Preserved

/-!
# Failures that surface

No layer answers a failure of the stream below with anything else than the failure, and none goes on
after it. What a failure is, is told by the surroundings: they are calm as long as none came, and
struck by an error once it came.

* `StreamM.Surfaces calm struck act` — from calm surroundings `act` either leaves them calm, or ends
  with the error that they were struck by.
* `Accounts calm struck failure w` — a failure that is named, or none, accounts for the
  surroundings.
* `ByteStream.Candid calm struck σ` — every request of a stream surfaces.

Principal results: `ends_fill_accounts` (a fill ends at the first failure and names it),
`LayerKind.candid` and `Stack.candid` (a stack over a candid base is candid).
-/

set_option autoImplicit false

namespace LayeredStreams

namespace StreamM

variable {ω σ τ α β : Type} {calm : ω → Prop} {struck : StreamError → ω → Prop}

/-- From calm surroundings a computation either leaves them calm, or ends with the error that they
were struck by. It may also end with an error of its own, in calm surroundings. -/
def Surfaces (calm : ω → Prop) (struck : StreamError → ω → Prop) (act : StreamM ω σ α) : Prop :=
  ∀ s, calm s.2 → act.Ends s (fun _ s' => calm s'.2) fun e s' => calm s'.2 ∨ struck e s'.2

variable {act : StreamM ω σ α}

theorem surfaces_pure (value : α) : Surfaces calm struck (pure value : StreamM ω σ α) :=
  fun _ hcalm => hcalm

theorem surfaces_refuse (cause : Refusal) : Surfaces calm struck (refuse cause : StreamM ω σ α) :=
  fun _ hcalm => Or.inl hcalm

theorem surfaces_ofExcept (outcome : Except Refusal α) :
    Surfaces calm struck (ofExcept outcome : StreamM ω σ α) := by
  cases outcome with
  | ok value => exact surfaces_pure value
  | error cause => exact surfaces_refuse cause

theorem surfaces_update (f : σ → σ) : Surfaces calm struck (update f : StreamM ω σ Unit) :=
  fun _ hcalm => hcalm

theorem Surfaces.bind {next : α → StreamM ω σ β} (h : Surfaces calm struck act)
    (hnext : ∀ value, Surfaces calm struck (next value)) : Surfaces calm struck (act >>= next) :=
  fun s hcalm => (h s hcalm).bind fun value s' hcalm' => hnext value s' hcalm'

theorem surfaces_state_bind {next : σ → StreamM ω σ α}
    (hnext : ∀ stream, Surfaces calm struck (next stream)) :
    Surfaces calm struck (state >>= next) :=
  fun s hcalm => ends_state_bind (hnext s.1 s hcalm)

theorem Surfaces.within {get : σ → τ} {put : τ → σ → σ} {act : StreamM ω τ α}
    (h : Surfaces calm struck act) : Surfaces calm struck (StreamM.within get put act) := by
  intro s hcalm
  refine (h (get s.1, s.2) hcalm).within.mono ?_ ?_
  · rintro _ s' ⟨_, hcalm', -⟩
    exact hcalm'
  · rintro e s' ⟨_, hout, -⟩
    exact hout

/-- A computation whose outcome is taken up again after a change of the state surfaces all the same.
-/
theorem Surfaces.settle_after (h : Surfaces calm struck act) (f : σ → σ) :
    Surfaces calm struck (do
      let outcome ← attempt act
      update f
      settle outcome) := by
  intro s hcalm
  refine (h s hcalm).attempt.mono (fun _ _ hout => hout) (fun _ _ hout => hout.elim) |>.bind ?_
  rintro (e | value) s' hout
  · exact hout
  · exact hout

theorem surfaces_admission [Cancellation ω] (mode : Mode) :
    Surfaces calm struck (mode.checkToken : StreamM ω σ Unit) := by
  intro s hcalm
  refine (mode.ends_checkToken s).mono ?_ ?_
  · rintro _ _ rfl
    exact hcalm
  · rintro _ _ ⟨rfl, -⟩
    exact Or.inl hcalm

end StreamM

/-- Where no failure is named the surroundings are calm; where one is, they may have been struck by
it. -/
def Accounts {ω : Type} (calm : ω → Prop) (struck : StreamError → ω → Prop)
    (failure : Option StreamError) (w : ω) : Prop :=
  match failure with
  | none => calm w
  | some e => calm w ∨ struck e w

section

variable {ω σ : Type} {calm : ω → Prop} {struck : StreamError → ω → Prop}

/-- Every request of a stream surfaces. -/
def ByteStream.Candid (calm : ω → Prop) (struck : StreamError → ω → Prop) (σ : Type)
    [ByteStream ω σ] : Prop :=
  ∀ request : Request, StreamM.Surfaces calm struck
    (ByteStream.perform request : StreamM ω σ request.Answer)

variable [Cancellation ω] [ByteStream ω σ]

/-- A fill ends at the first read that fails. The induction is on the reads that are left. -/
theorem ends_fillWithin_accounts {mode : Mode}
    (h : ∀ room : Nat,
      StreamM.Surfaces calm struck (ByteStream.read mode room : StreamM ω σ Bytes)) :
    ∀ (reads room : Nat) (s : σ × ω), calm s.2 →
      (fillWithin mode reads room : StreamM ω σ Filled).Ends s
        (fun filled s' => Accounts calm struck filled.failure s'.2) fun _ _ => False
  | 0, _, _, hcalm => hcalm
  | reads + 1, room, s, hcalm => by
    unfold fillWithin
    split
    · exact hcalm
    have hread : StreamM.Surfaces calm struck (readAdmitted mode room : StreamM ω σ Bytes) :=
      (StreamM.surfaces_admission mode).bind fun _ => h room
    refine (hread s hcalm).attempt.bind fun outcome s' hout => ?_
    split
    · exact hout
    · exact hout
    · rename_i bytes _
      refine (ends_fillWithin_accounts h reads (room - bytes.length) s' hout).bind ?_
      exact fun filled s'' haccounts => haccounts

/-- **A fill that meets a failure names it**, and makes no further call. -/
theorem ends_fill_accounts {mode : Mode}
    (h : ∀ room : Nat,
      StreamM.Surfaces calm struck (ByteStream.read mode room : StreamM ω σ Bytes))
    (room : Nat) (s : σ × ω) (hcalm : calm s.2) :
    (fill mode room : StreamM ω σ Filled).Ends s
      (fun filled s' => Accounts calm struck filled.failure s'.2) fun _ _ => False :=
  ends_fillWithin_accounts h room room s hcalm

omit [Cancellation ω] in
/-- The induction is on the reads that are left. -/
theorem surfaces_readToEndWithin
    (h : StreamM.Surfaces calm struck (ByteStream.read .blocking chunkSize : StreamM ω σ Bytes)) :
    ∀ reads : Nat, StreamM.Surfaces calm struck (readToEndWithin reads : StreamM ω σ Bytes)
  | 0 => StreamM.surfaces_pure _
  | reads + 1 => by
    unfold readToEndWithin
    refine h.bind fun bytes => ?_
    split
    · exact StreamM.surfaces_pure _
    · exact (surfaces_readToEndWithin h reads).bind fun _ => StreamM.surfaces_pure _

omit [Cancellation ω] in
/-- The reads from one stream and the writes to the other surface in a copy. The induction is on the
reads that are left. -/
theorem surfaces_copyWithin {τ : Type} [ByteStream ω τ] {mode : Mode}
    (hread : StreamM.Surfaces calm struck
      (ByteStream.read mode copyBufferSize : StreamM ω σ Bytes))
    (hwrite : ∀ data : Bytes, StreamM.Surfaces calm struck
      (ByteStream.write mode data : StreamM ω τ Unit)) :
    ∀ reads : Nat, StreamM.Surfaces calm struck (copyWithin mode reads : StreamM ω (σ × τ) Nat)
  | 0 => StreamM.surfaces_pure _
  | reads + 1 => by
    unfold copyWithin
    refine StreamM.Surfaces.bind hread.within fun bytes => ?_
    split
    · exact StreamM.surfaces_pure _
    refine StreamM.Surfaces.bind (hwrite _).within fun _ => ?_
    exact (surfaces_copyWithin hread hwrite reads).bind fun _ => StreamM.surfaces_pure _

omit [Cancellation ω] [ByteStream ω σ] in
/-- The outcome of a fill is the failure that it names. -/
theorem ends_settle_outcome {filled : Filled} {s : σ × ω}
    (h : Accounts calm struck filled.failure s.2) :
    (StreamM.settle filled.outcome : StreamM ω σ Bytes).Ends s (fun _ s' => calm s'.2)
      fun e s' => calm s'.2 ∨ struck e s'.2 := by
  obtain ⟨bytes, failure⟩ := filled
  cases failure with
  | none => exact h
  | some e => exact h

end

/-! ## Layers -/

section Layers

variable {ω σ α : Type} {calm : ω → Prop} {struck : StreamError → ω → Prop}

namespace Passthrough

theorem surfaces_forward {act : StreamM ω σ α} (h : StreamM.Surfaces calm struck act) :
    StreamM.Surfaces calm struck (forward act) := by
  rintro ⟨⟨slot, ownership⟩, w⟩ hcalm
  cases slot with
  | disposed => exact Or.inl hcalm
  | live stream =>
    refine ((carries_forward ownership act).ends_of (h (stream, w) hcalm)).mono ?_ ?_
    · rintro _ s' ⟨_, -, hcalm'⟩
      exact hcalm'
    · rintro e s' ⟨_, -, hout⟩
      exact hout

theorem surfaces_ensureOpen :
    StreamM.Surfaces calm struck (ensureOpen : StreamM ω (Passthrough σ) Unit) :=
  surfaces_forward (StreamM.surfaces_pure ())

theorem surfaces_decline (request : Request) :
    StreamM.Surfaces calm struck
      (decline request : StreamM ω (Passthrough σ) request.Answer) := by
  refine StreamM.surfaces_state_bind fun layer => ?_
  split
  · exact StreamM.surfaces_refuse _
  · exact StreamM.surfaces_refuse _

variable [ByteStream ω σ]

/-- A failure to dispose the stream below is the answer. -/
theorem surfaces_release (h : ByteStream.Candid calm struck σ) :
    StreamM.Surfaces calm struck (release : StreamM ω (Passthrough σ) Unit) := by
  rintro ⟨⟨slot, ownership⟩, w⟩ hcalm
  cases slot with
  | disposed => exact hcalm
  | live stream =>
    cases ownership with
    | borrows => exact hcalm
    | owns =>
      have hout := h .dispose (stream, w) hcalm
      unfold StreamM.Ends release
      simp only [Ownership.isOwner, if_true]
      cases heq : (ByteStream.dispose : StreamM ω σ Unit) (stream, w) with
      | ok value s' => exact hout.of_eq_ok heq
      | error e s' => exact hout.of_eq_error heq

theorem candid (h : ByteStream.Candid calm struck σ) :
    ByteStream.Candid calm struck (Passthrough σ) := by
  intro request
  cases request with
  | dispose => exact surfaces_release h
  | _ => exact surfaces_forward (h _)

theorem surfaces_performUnless (h : ByteStream.Candid calm struck σ) (declined : Bool)
    (request : Request) :
    StreamM.Surfaces calm struck
      (performUnless declined request : StreamM ω (Passthrough σ) request.Answer) := by
  unfold performUnless
  split
  · exact surfaces_decline request
  · exact candid h request

end Passthrough

namespace Rebased

theorem surfaces_toBase (position : Nat) :
    StreamM.Surfaces calm struck (toBase position : StreamM ω (Rebased σ) Nat) := by
  refine StreamM.surfaces_state_bind fun layer => ?_
  dsimp only
  split
  · exact StreamM.surfaces_pure _
  · exact StreamM.surfaces_refuse _

theorem surfaces_fromBase (place : Nat) :
    StreamM.Surfaces calm struck (fromBase place : StreamM ω (Rebased σ) Nat) := by
  refine StreamM.surfaces_state_bind fun layer => ?_
  dsimp only
  split
  · exact StreamM.surfaces_pure _
  · exact StreamM.surfaces_refuse _

theorem surfaces_ensureFromOrigin (place : Int) :
    StreamM.Surfaces calm struck (ensureFromOrigin place : StreamM ω (Rebased σ) Unit) := by
  refine StreamM.surfaces_state_bind fun layer => ?_
  dsimp only
  split
  · exact StreamM.surfaces_refuse _
  · exact StreamM.surfaces_pure _

variable [ByteStream ω σ] (h : ByteStream.Candid calm struck σ)
include h

/-- A request to the layer below surfaces in the layer. -/
theorem surfaces_below (request : Request) :
    StreamM.Surfaces calm struck
      (onBase (ByteStream.perform request) : StreamM ω (Rebased σ) request.Answer) :=
  (Passthrough.candid h request).within

theorem surfaces_targetBelow (target : SeekTarget) :
    StreamM.Surfaces calm struck (targetBelow target : StreamM ω (Rebased σ) SeekTarget) := by
  cases target with
  | fromStart offset => exact (surfaces_toBase offset).bind fun _ => StreamM.surfaces_pure _
  | fromCurrent offset =>
    refine (surfaces_below h .position).bind fun place => ?_
    exact (surfaces_ensureFromOrigin _).bind fun _ => StreamM.surfaces_pure _
  | fromEnd offset =>
    refine (surfaces_below h .length).bind fun size => ?_
    exact (surfaces_ensureFromOrigin _).bind fun _ => StreamM.surfaces_pure _

theorem candid : ByteStream.Candid calm struck (Rebased σ) := by
  intro request
  cases request with
  | position => exact (surfaces_below h .position).bind surfaces_fromBase
  | setPosition target =>
    exact (surfaces_toBase target).bind fun place => surfaces_below h (.setPosition place)
  | length =>
    refine (surfaces_below h .length).bind fun size => ?_
    exact StreamM.surfaces_state_bind fun layer => StreamM.surfaces_pure _
  | setLength size =>
    exact (surfaces_toBase size).bind fun place => surfaces_below h (.setLength place)
  | seek target =>
    refine (surfaces_targetBelow h target).bind fun below => ?_
    exact (surfaces_below h (.seek below)).bind surfaces_fromBase
  | _ => exact surfaces_below h _

end Rebased

namespace Truncated

theorem surfaces_onBase {act : StreamM ω (Passthrough σ) α} (h : StreamM.Surfaces calm struck act) :
    StreamM.Surfaces calm struck (onBase act) := h.within

variable [ByteStream ω σ] (h : ByteStream.Candid calm struck σ)
include h

/-- A request to the layer below surfaces in the layer. -/
theorem surfaces_below (request : Request) :
    StreamM.Surfaces calm struck
      (onBase (ByteStream.perform request) : StreamM ω (Truncated σ) request.Answer) :=
  (Passthrough.candid h request).within

theorem surfaces_visibleLength :
    StreamM.Surfaces calm struck (visibleLength : StreamM ω (Truncated σ) Nat) := by
  refine (surfaces_below h .length).bind fun size => ?_
  exact StreamM.surfaces_state_bind fun layer => StreamM.surfaces_pure _

theorem surfaces_targetBelow (target : SeekTarget) :
    StreamM.Surfaces calm struck (targetBelow target : StreamM ω (Truncated σ) SeekTarget) := by
  cases target with
  | fromStart offset => exact StreamM.surfaces_pure _
  | fromCurrent offset => exact StreamM.surfaces_pure _
  | fromEnd offset =>
    refine (surfaces_visibleLength h).bind fun visible => ?_
    refine (StreamM.surfaces_ofExcept _).bind fun place => ?_
    exact StreamM.surfaces_state_bind fun layer => StreamM.surfaces_pure _

theorem surfaces_read (mode : Mode) (room : Nat) :
    StreamM.Surfaces calm struck (read mode room : StreamM ω (Truncated σ) Bytes) := by
  refine StreamM.surfaces_state_bind fun layer => ?_
  refine (surfaces_below h (.read mode _)).bind fun bytes => ?_
  exact (StreamM.surfaces_update _).bind fun _ => StreamM.surfaces_pure _

theorem surfaces_readByte :
    StreamM.Surfaces calm struck (readByte : StreamM ω (Truncated σ) (Option UInt8)) := by
  refine (surfaces_onBase Passthrough.surfaces_ensureOpen).bind fun _ => ?_
  refine StreamM.surfaces_state_bind fun layer => ?_
  split
  · exact StreamM.surfaces_pure _
  refine (surfaces_below h .readByte).bind fun byte => ?_
  split
  · exact (StreamM.surfaces_update _).bind fun _ => StreamM.surfaces_pure _
  · exact StreamM.surfaces_pure _

theorem candid : ByteStream.Candid calm struck (Truncated σ) := by
  intro request
  cases request with
  | setPosition target =>
    exact (surfaces_below h (.setPosition target)).bind fun _ => StreamM.surfaces_update _
  | length => exact surfaces_visibleLength h
  | seek target =>
    refine (surfaces_targetBelow h target).bind fun below => ?_
    refine (surfaces_below h (.seek below)).bind fun place => ?_
    exact (StreamM.surfaces_update _).bind fun _ => StreamM.surfaces_pure _
  | read mode room => exact surfaces_read h mode room
  | readByte => exact surfaces_readByte h
  | _ => exact surfaces_onBase (Passthrough.surfaces_performUnless h _ _)

end Truncated

theorem ReadOnly.candid [ByteStream ω σ] (h : ByteStream.Candid calm struck σ) :
    ByteStream.Candid calm struck (ReadOnly σ) := by
  intro request
  show StreamM.Surfaces calm struck (ReadOnly.onBase _)
  exact (Passthrough.surfaces_performUnless h request.mutates request).within

namespace Cached

theorem surfaces_onBase {act : StreamM ω (Passthrough σ) α} (h : StreamM.Surfaces calm struck act) :
    StreamM.Surfaces calm struck (onBase act) := h.within

theorem surfaces_serve (room : Nat) :
    StreamM.Surfaces calm struck (serve room : StreamM ω (Cached σ) Bytes) := by
  refine StreamM.surfaces_state_bind fun layer => ?_
  exact (StreamM.surfaces_update _).bind fun _ => StreamM.surfaces_pure _

theorem surfaces_serveByte :
    StreamM.Surfaces calm struck (serveByte : StreamM ω (Cached σ) (Option UInt8)) := by
  refine StreamM.surfaces_state_bind fun layer => ?_
  dsimp only
  split
  · exact (StreamM.surfaces_update _).bind fun _ => StreamM.surfaces_pure _
  · exact StreamM.surfaces_pure _

variable [Cancellation ω] [ByteStream ω σ] (h : ByteStream.Candid calm struck σ)
include h

omit [Cancellation ω] in
/-- A request to the layer below surfaces in the layer. -/
theorem surfaces_below (request : Request) :
    StreamM.Surfaces calm struck
      (onBase (ByteStream.perform request) : StreamM ω (Cached σ) request.Answer) :=
  (Passthrough.candid h request).within

omit [Cancellation ω] in
theorem surfaces_seek (target : SeekTarget) :
    StreamM.Surfaces calm struck (seek target : StreamM ω (Cached σ) Nat) := by
  refine StreamM.surfaces_state_bind fun layer => ?_
  refine (surfaces_below h (.setPosition _)).bind fun _ => ?_
  refine (surfaces_below h (.seek target)).bind fun place => ?_
  exact (StreamM.surfaces_update _).bind fun _ => StreamM.surfaces_pure _

/-- A block whose fill failed is not kept, and the failure is the answer. -/
theorem surfaces_fetch (mode : Mode) (index : BlockIndex) :
    StreamM.Surfaces calm struck (fetch mode index : StreamM ω (Cached σ) Unit) := by
  have hreads : ∀ room : Nat, StreamM.Surfaces calm struck
      (ByteStream.read mode room : StreamM ω (Passthrough σ) Bytes) :=
    fun room => Passthrough.candid h (.read mode room)
  have hfilled : ∀ s : Cached σ × ω, calm s.2 →
      (onBase (fill mode blockSize) : StreamM ω (Cached σ) Filled).Ends s
        (fun filled s' => Accounts calm struck filled.failure s'.2) fun _ _ => False :=
    fun s hcalm => (ends_fill_accounts hreads blockSize (s.1.base, s.2) hcalm).within_part
      fun _ _ => rfl
  refine (surfaces_below h (.seek _)).bind fun _ s hcalm => ?_
  refine ((hfilled s hcalm).mono (fun _ _ hout => hout) fun _ _ hout => hout.elim).bind ?_
  intro filled s' haccounts
  refine (ends_settle_outcome haccounts).bind fun data s'' hcalm' => ?_
  exact StreamM.surfaces_update _ s'' hcalm'

theorem surfaces_load (mode : Mode) :
    StreamM.Surfaces calm struck (load mode : StreamM ω (Cached σ) Unit) := by
  refine (surfaces_onBase Passthrough.surfaces_ensureOpen).bind fun _ => ?_
  refine StreamM.surfaces_state_bind fun layer => ?_
  dsimp only
  split
  · exact StreamM.surfaces_pure _
  refine (surfaces_below h .length).bind fun size => ?_
  split
  · exact StreamM.surfaces_pure _
  refine (StreamM.surfaces_update _).bind fun _ => ?_
  split
  · exact StreamM.surfaces_pure _
  · exact surfaces_fetch h mode _

theorem candid : ByteStream.Candid calm struck (Cached σ) := by
  intro request
  cases request with
  | dispose => exact (surfaces_below h .dispose).settle_after _
  | position =>
    refine (surfaces_onBase Passthrough.surfaces_ensureOpen).bind fun _ => ?_
    exact StreamM.surfaces_state_bind fun layer => StreamM.surfaces_pure _
  | setPosition target =>
    exact (surfaces_onBase Passthrough.surfaces_ensureOpen).bind fun _ => StreamM.surfaces_update _
  | seek target => exact surfaces_seek h target
  | read mode room => exact (surfaces_load h mode).bind fun _ => surfaces_serve room
  | readByte => exact (surfaces_load h .blocking).bind fun _ => surfaces_serveByte
  | _ => exact surfaces_onBase (Passthrough.surfaces_performUnless h _ _)

end Cached

theorem Window.candid [ByteStream ω σ] (h : ByteStream.Candid calm struck σ) :
    ByteStream.Candid calm struck (Window σ) := by
  intro request
  show StreamM.Surfaces calm struck (Window.perform request)
  refine StreamM.surfaces_state_bind fun window => ?_
  cases window with
  | unwrapped stream => exact (h request).within
  | rebased layer => exact (Rebased.candid h request).within
  | truncated layer => exact (Truncated.candid h request).within
  | rebasedTruncated layer => exact (Truncated.candid (Rebased.candid h) request).within

variable [Cancellation ω] [ByteStream ω σ]

/-- **A layer over a candid stream is candid.** -/
theorem LayerKind.candid (h : ByteStream.Candid calm struck σ) (kind : LayerKind) :
    ByteStream.Candid calm struck (kind.Over σ) := by
  cases kind with
  | passthrough => exact Passthrough.candid h
  | rebased => exact Rebased.candid h
  | truncated => exact Truncated.candid h
  | readOnly => exact ReadOnly.candid h
  | cached => exact Cached.candid h
  | window => exact Window.candid h

/-- **A stack over a candid base is candid.** The recursion is on the layers. -/
theorem Stack.candid (h : ByteStream.Candid calm struck σ) :
    ∀ kinds : List LayerKind, ByteStream.Candid calm struck (Stack kinds σ)
  | [] => h
  | kind :: kinds => kind.candid (Stack.candid h kinds)

end Layers

end LayeredStreams
