import LayeredStreams.Device.Memory
import LayeredStreams.Proofs.Stack
import LayeredStreams.Surroundings
import LayeredStreams.Zeros

/-!
# Disposed streams

A stream that was disposed offers nothing, stays as it is, and refuses every request. Most requests
are refused as disposed; a few are looked at before, and refused for what is wrong with them.

* `Refuses early` — what every stream does once it is disposed, where `early` says which requests
  are refused for another cause.
* `Zeros.early`, `DeviceStream.early`, `Rebased.early`, `LayerKind.early`, `Stack.early` — these
  requests and causes, for each stream.
* `BaseKind` — the streams that stand below all layers.

Principal results: `LayerKind.refuses` (a layer of any kind over a stream that refuses once it is
disposed does so as well) and `Stack.refuses_after_dispose` (once a stack was disposed it refuses
everything, as disposed exactly where no early cause is found).
-/

set_option autoImplicit false

namespace LayeredStreams

/-- What a disposed stream does. A request that is not refused as disposed is refused for the cause
that `early` gives, or because its token was cancelled. -/
structure Silent {ω σ : Type} [Cancellation ω] [ByteStream ω σ]
    (early : σ → Request → Option Refusal) (s : σ × ω) : Prop where
  cannot : ∀ capability, ByteStream.can capability s.1 s.2 = false
  refuse : ∀ request : Request, request ≠ .dispose → ∃ e,
    (ByteStream.perform request : StreamM ω σ request.Answer) s = .error e s ∧
    (request.mode.isCancelled s.2 = false → e = .refusal ((early s.1 request).getD .disposed))

/-- A stream that is silent once it was disposed. -/
structure Refuses (ω : Type) {σ : Type} [Cancellation ω] [ByteStream ω σ]
    (early : σ → Request → Option Refusal) : Prop where
  dispose : ∀ s : σ × ω, (ByteStream.dispose : StreamM ω σ Unit).Ends s
    (fun _ s' => ByteStream.isDisposed s'.1 s'.2 = true)
    fun _ s' => ByteStream.isDisposed s'.1 s'.2 = true
  silent : ∀ s : σ × ω, ByteStream.isDisposed s.1 s.2 = true → Silent early s
  early_ne : ∀ stream request, early stream request ≠ some .disposed

/-! ## Streams below all layers -/

section Bases

variable {ω : Type} [Cancellation ω]

/-- A transfer that is refused as disposed is refused as cancelled, if its token was. -/
theorem checkToken_bind_refuse {σ α : Type} (mode : Mode) {act : StreamM ω σ α} {s : σ × ω}
    (h : act s = .error (.refusal .disposed) s) :
    ∃ e, (bind mode.checkToken fun _ => act) s = .error e s ∧
      (mode.isCancelled s.2 = false → e = .refusal .disposed) := by
  rw [StreamM.bind_apply, Mode.checkToken_apply]
  cases hcancelled : mode.isCancelled s.2 with
  | false => exact ⟨_, h, fun _ => rfl⟩
  | true => exact ⟨_, rfl, nofun⟩

/-- A stream of zeros looks at its time limits before it looks at disposal. -/
def Zeros.early (_zeros : Zeros) (request : Request) : Option Refusal :=
  match request with
  | .timeout _ | .setTimeout _ _ => some (.notSupported request.name)
  | _ => none

theorem Zeros.refuses : Refuses ω Zeros.early where
  dispose _ := rfl
  silent s h := by
    obtain ⟨⟨cursor, size, disposed⟩, w⟩ := s
    obtain rfl : disposed = true := h
    refine ⟨fun _ => rfl, fun request hne => ?_⟩
    cases request with
    | read mode room => exact checkToken_bind_refuse mode rfl
    | write mode data => exact checkToken_bind_refuse mode rfl
    | flush mode => exact checkToken_bind_refuse mode rfl
    | dispose => exact absurd rfl hne
    | _ => exact ⟨_, rfl, fun _ => rfl⟩
  early_ne zeros request := by
    unfold early
    split <;> nofun

variable {δ : Type} [Device ω δ]

/-- A stream over a device looks at its time limits, and at a place that is told from the start,
before it looks at disposal. -/
def DeviceStream.early (_stream : DeviceStream δ) (request : Request) : Option Refusal :=
  match request with
  | .timeout _ | .setTimeout _ _ => some (.notSupported request.name)
  | .setPosition target | .seek (.fromStart target) =>
    if maxPosition < target then some (.invalidSeek target) else none
  | _ => none

omit [Cancellation ω] in
theorem DeviceStream.seek_of_disposed {stream : DeviceStream δ} (h : stream.device = .disposed)
    (target : SeekTarget) (w : ω) :
    DeviceStream.seek target (stream, w) =
      .error (.refusal ((stream.early (.seek target)).getD .disposed)) (stream, w) := by
  obtain ⟨device, access⟩ := stream
  obtain rfl : device = .disposed := h
  cases target with
  | fromStart target =>
    unfold DeviceStream.seek DeviceStream.locate DeviceStream.early
    rw [StreamM.bind_apply]
    dsimp only
    rw [SeekTarget.resolve_fromStart]
    by_cases hle : target ≤ maxPosition
    · rw [if_pos hle, if_neg (Nat.not_lt.mpr hle)]
      rfl
    · rw [if_neg hle, if_pos (Nat.lt_of_not_le hle)]
      rfl
  | fromCurrent offset => rfl
  | fromEnd offset => rfl

theorem DeviceStream.refuses : Refuses ω (DeviceStream.early (δ := δ)) where
  dispose _ := rfl
  silent s h := by
    obtain ⟨⟨device, access⟩, w⟩ := s
    cases device with
    | live device => cases h
    | disposed =>
      refine ⟨fun _ => rfl, fun request hne => ?_⟩
      cases request with
      | read mode room => exact checkToken_bind_refuse mode rfl
      | write mode data => exact checkToken_bind_refuse mode rfl
      | flush mode => exact checkToken_bind_refuse mode rfl
      | dispose => exact absurd rfl hne
      | setPosition target =>
        refine ⟨_, ?_, fun _ => rfl⟩
        show (DeviceStream.seek (.fromStart target) >>= fun _ => pure ()) _ = _
        rw [StreamM.bind_apply, DeviceStream.seek_of_disposed rfl]
        rfl
      | seek target => exact ⟨_, DeviceStream.seek_of_disposed rfl target w, fun _ => rfl⟩
      | _ => exact ⟨_, rfl, fun _ => rfl⟩
  early_ne stream request := by
    unfold early
    split
    · nofun
    · nofun
    · split <;> nofun
    · split <;> nofun
    · nofun

end Bases

/-! ## Layers -/

section Layers

variable {ω σ τ : Type} [ByteStream ω σ]

theorem Passthrough.ends_dispose (s : Passthrough σ × ω) :
    (ByteStream.dispose : StreamM ω (Passthrough σ) Unit).Ends s
      (fun _ s' => s'.1.isDisposed = true) fun _ s' => s'.1.isDisposed = true := by
  have hreleased := isDisposed_release s.1 s.2
  show StreamM.Ends release s _ _
  unfold StreamM.Ends
  cases h : release s with
  | ok value s' => rw [h] at hreleased; exact hreleased
  | error e s' => rw [h] at hreleased; exact hreleased

/-- A layer that disposes the layer it is built over is disposed with it. -/
theorem ends_dispose_within (get : τ → Passthrough σ) (put : Passthrough σ → τ → τ)
    (get_put : ∀ base t, get (put base t) = base) (s : τ × ω) :
    (StreamM.within get put (ByteStream.dispose : StreamM ω (Passthrough σ) Unit)).Ends s
      (fun _ s' => (get s'.1).isDisposed = true) fun _ s' => (get s'.1).isDisposed = true :=
  (Passthrough.ends_dispose (get s.1, s.2)).within_part get_put

variable [Cancellation ω]

theorem Passthrough.refuses : Refuses ω fun (_ : Passthrough σ) _ => none where
  dispose := ends_dispose
  silent s h := by
    obtain ⟨⟨slot, ownership⟩, w⟩ := s
    cases slot with
    | live stream => cases h
    | disposed =>
      refine ⟨fun _ => rfl, fun request hne => ?_⟩
      cases request with
      | dispose => exact absurd rfl hne
      | _ => exact ⟨_, rfl, fun _ => rfl⟩
  early_ne _ _ := nofun

/-- A rebased layer adds its origin to a place before it looks at disposal. -/
def Rebased.early (layer : Rebased σ) (request : Request) : Option Refusal :=
  match request with
  | .setPosition target | .setLength target | .seek (.fromStart target) =>
    if maxWord < target + layer.baseOffset then
      some (.invalidSeek ((target + layer.baseOffset : Nat) : Int))
    else none
  | _ => none

omit [Cancellation ω] [ByteStream ω σ] in
/-- What is refused behind the sum is refused as disposed, unless the sum is no word. -/
theorem Rebased.toBase_bind_refuse {α : Type} {s : Rebased σ × ω}
    {next : Nat → StreamM ω (Rebased σ) α}
    (hnext : ∀ place, next place s = .error (.refusal .disposed) s) (target : Nat) :
    (toBase target >>= next) s =
      .error (.refusal ((s.1.early (.setPosition target)).getD .disposed)) s := by
  unfold early
  by_cases hle : target + s.1.baseOffset ≤ maxWord
  · rw [StreamM.bind_apply, toBase_eq_ok s.1 target s.2 hle]
    dsimp only
    rw [if_neg (Nat.not_lt.mpr hle)]
    exact hnext _
  · rw [StreamM.bind_apply, toBase, StreamM.bind_apply, StreamM.state_apply]
    dsimp only
    rw [if_neg hle, if_pos (Nat.lt_of_not_le hle)]
    rfl

theorem Rebased.refuses : Refuses ω (Rebased.early (σ := σ)) where
  dispose s := ends_dispose_within Rebased.base (fun base layer => { layer with base := base })
    (fun _ _ => rfl) s
  silent s h := by
    obtain ⟨⟨⟨slot, ownership⟩, origin⟩, w⟩ := s
    cases slot with
    | live stream => cases h
    | disposed =>
      refine ⟨fun _ => rfl, fun request hne => ?_⟩
      cases request with
      | dispose => exact absurd rfl hne
      | setPosition target =>
        refine ⟨_, ?_, fun _ => rfl⟩
        show (toBase target >>= fun place => onBase (ByteStream.setPosition place)) _ = _
        refine toBase_bind_refuse ?_ target
        intro place; rfl
      | setLength size =>
        refine ⟨_, ?_, fun _ => rfl⟩
        show (toBase size >>= fun place => onBase (ByteStream.setLength place)) _ = _
        refine toBase_bind_refuse ?_ size
        intro place; rfl
      | seek target =>
        cases target with
        | fromStart target =>
          refine ⟨_, ?_, fun _ => rfl⟩
          show ((toBase target >>= fun place => pure (.fromStart place)) >>= fun below =>
            onBase (ByteStream.seek below) >>= fromBase) _ = _
          rw [bind_assoc]
          refine toBase_bind_refuse ?_ target
          intro place; rfl
        | fromCurrent offset => exact ⟨_, rfl, fun _ => rfl⟩
        | fromEnd offset => exact ⟨_, rfl, fun _ => rfl⟩
      | _ => exact ⟨_, rfl, fun _ => rfl⟩
  early_ne layer request := by
    unfold early
    split
    · split <;> nofun
    · split <;> nofun
    · split <;> nofun
    · nofun

theorem Truncated.refuses : Refuses ω fun (_ : Truncated σ) _ => none where
  dispose s := ends_dispose_within Truncated.base (fun base layer => { layer with base := base })
    (fun _ _ => rfl) s
  silent s h := by
    obtain ⟨⟨⟨slot, ownership⟩, origin, maxLength, cursor⟩, w⟩ := s
    cases slot with
    | live stream => cases h
    | disposed =>
      refine ⟨fun _ => Bool.and_false _, fun request hne => ?_⟩
      cases request with
      | dispose => exact absurd rfl hne
      | seek target => cases target <;> exact ⟨_, rfl, fun _ => rfl⟩
      | _ => exact ⟨_, rfl, fun _ => rfl⟩
  early_ne _ _ := nofun

theorem ReadOnly.refuses : Refuses ω fun (_ : ReadOnly σ) _ => none where
  dispose s := ends_dispose_within ReadOnly.base (fun base layer => { layer with base := base })
    (fun _ _ => rfl) s
  silent s h := by
    obtain ⟨⟨⟨slot, ownership⟩⟩, w⟩ := s
    cases slot with
    | live stream => cases h
    | disposed =>
      refine ⟨fun _ => Bool.and_false _, fun request hne => ?_⟩
      cases request with
      | dispose => exact absurd rfl hne
      | _ => exact ⟨_, rfl, fun _ => rfl⟩
  early_ne _ _ := nofun

theorem Cached.refuses : Refuses ω fun (_ : Cached σ) _ => none where
  dispose s := by
    show StreamM.Ends Cached.release s _ _
    unfold Cached.release
    have hbase := ends_dispose_within Cached.base
      (fun base (layer : Cached σ) => { layer with base := base }) (fun _ _ => rfl) s
    refine (hbase.attempt.mono (fun _ _ h => h) fun _ _ h => h.elim).bind ?_
    rintro (e | _) s' hdisposed
    · exact StreamM.ends_update_bind hdisposed
    · exact StreamM.ends_update_bind hdisposed
  silent s h := by
    obtain ⟨⟨⟨slot, ownership⟩, cache, cursor⟩, w⟩ := s
    cases slot with
    | live stream => cases h
    | disposed =>
      refine ⟨fun _ => Bool.and_false _, fun request hne => ?_⟩
      cases request with
      | dispose => exact absurd rfl hne
      | _ => exact ⟨_, rfl, fun _ => rfl⟩
  early_ne _ _ := nofun

/-- A stream that is embedded with all it can do and answers is silent as it is alone. -/
theorem Silent.carried [ByteStream ω τ] {f : σ → τ} {early : σ → Request → Option Refusal}
    {early' : τ → Request → Option Refusal} {part : σ} {w : ω} (h : Silent early (part, w))
    (hcan : ∀ capability, ByteStream.can capability (f part) w = ByteStream.can capability part w)
    (hcarries : ∀ request : Request, StreamM.Carries f
      (ByteStream.perform request : StreamM ω σ request.Answer) (ByteStream.perform request))
    (hearly : early' (f part) = early part) : Silent early' (f part, w) where
  cannot capability := by
    rw [hcan]
    exact h.cannot capability
  refuse request hne := by
    obtain ⟨e, heq, hcause⟩ := h.refuse request hne
    refine ⟨e, ?_, ?_⟩
    · rw [hcarries, heq]
    · rw [hearly]
      exact hcause

theorem Refuses.ends_dispose_carried [ByteStream ω τ] {early : σ → Request → Option Refusal}
    (h : Refuses ω early) (f : σ → τ)
    (hdisposed : ∀ (part : σ) (w : ω),
      ByteStream.isDisposed (f part) w = ByteStream.isDisposed part w)
    (hcarries : StreamM.Carries f (ByteStream.dispose : StreamM ω σ Unit) ByteStream.dispose)
    (part : σ) (w : ω) :
    (ByteStream.dispose : StreamM ω τ Unit).Ends (f part, w)
      (fun _ s' => ByteStream.isDisposed s'.1 s'.2 = true)
      fun _ s' => ByteStream.isDisposed s'.1 s'.2 = true := by
  have hheld : StreamM.Held f (fun _ => True) (f part, w) := ⟨part, rfl, trivial⟩
  refine (hcarries.ends hheld fun t _ => h.dispose t).mono ?_ ?_
  · intro _ s' hout
    obtain ⟨part', heq, hpart'⟩ := hout
    rw [heq, hdisposed]
    exact hpart'
  · intro e s' hout
    obtain ⟨part', heq, hpart'⟩ := hout
    rw [heq, hdisposed]
    exact hpart'

/-- A window refuses as the layer that it is, or as the stream that it is. -/
def Window.early (early : σ → Request → Option Refusal) (window : Window σ) (request : Request) :
    Option Refusal :=
  match window with
  | .unwrapped stream => early stream request
  | .rebased layer => layer.early request
  | .truncated _ | .rebasedTruncated _ => none

theorem Window.refuses {early : σ → Request → Option Refusal} (h : Refuses ω early) :
    Refuses ω (Window.early early) where
  dispose s := by
    obtain ⟨window, w⟩ := s
    cases window with
    | unwrapped stream =>
      exact h.ends_dispose_carried Window.unwrapped (fun _ _ => rfl) (fun _ _ => rfl) stream w
    | rebased layer =>
      exact Rebased.refuses.ends_dispose_carried Window.rebased (fun _ _ => rfl) (fun _ _ => rfl)
        layer w
    | truncated layer =>
      exact Truncated.refuses.ends_dispose_carried Window.truncated (fun _ _ => rfl)
        (fun _ _ => rfl) layer w
    | rebasedTruncated layer =>
      exact Truncated.refuses.ends_dispose_carried Window.rebasedTruncated (fun _ _ => rfl)
        (fun _ _ => rfl) layer w
  silent s hdisposed := by
    obtain ⟨window, w⟩ := s
    cases window with
    | unwrapped stream =>
      exact (h.silent (stream, w) hdisposed).carried (fun _ => rfl) (fun _ _ _ => rfl) rfl
    | rebased layer =>
      exact (Rebased.refuses.silent (layer, w) hdisposed).carried (fun _ => rfl) (fun _ _ _ => rfl)
        rfl
    | truncated layer =>
      exact (Truncated.refuses.silent (layer, w) hdisposed).carried (fun _ => rfl)
        (fun _ _ _ => rfl) rfl
    | rebasedTruncated layer =>
      exact (Truncated.refuses.silent (layer, w) hdisposed).carried (fun _ => rfl)
        (fun _ _ _ => rfl) rfl
  early_ne window request := by
    cases window with
    | unwrapped stream => exact h.early_ne stream request
    | rebased layer => exact (Rebased.refuses (ω := ω)).early_ne layer request
    | truncated layer => nofun
    | rebasedTruncated layer => nofun

/-- The requests that a disposed layer refuses for another cause, where `early` is what the stream
below refuses so. -/
def LayerKind.early (early : σ → Request → Option Refusal) :
    (kind : LayerKind) → kind.Over σ → Request → Option Refusal
  | .rebased => Rebased.early
  | .window => Window.early early
  | .passthrough | .truncated | .readOnly | .cached => fun _ _ => none

theorem LayerKind.refuses {early : σ → Request → Option Refusal} (h : Refuses ω early)
    (kind : LayerKind) : Refuses ω (kind.early early) := by
  cases kind with
  | passthrough => exact Passthrough.refuses
  | rebased => exact Rebased.refuses
  | truncated => exact Truncated.refuses
  | readOnly => exact ReadOnly.refuses
  | cached => exact Cached.refuses
  | window => exact Window.refuses h

end Layers

/-! ## Stacks -/

/-- The streams that stand below all layers. -/
inductive BaseKind
  | zeros
  | device
  deriving DecidableEq, Repr

namespace BaseKind

/-- A stream of a kind; one over a device has a device with state `δ`. -/
def Over (δ : Type) : BaseKind → Type
  | zeros => Zeros
  | device => DeviceStream δ

instance byteStream {ω δ : Type} [Cancellation ω] [Device ω δ] :
    (kind : BaseKind) → ByteStream ω (kind.Over δ)
  | zeros => inferInstanceAs (ByteStream ω Zeros)
  | device => inferInstanceAs (ByteStream ω (DeviceStream δ))

/-- The requests that a disposed stream of a kind refuses for another cause. -/
def early {δ : Type} : (kind : BaseKind) → kind.Over δ → Request → Option Refusal
  | zeros => Zeros.early
  | device => DeviceStream.early

theorem refuses {ω δ : Type} [Cancellation ω] [Device ω δ] (kind : BaseKind) :
    Refuses ω (kind.early (δ := δ)) := by
  cases kind with
  | zeros => exact Zeros.refuses
  | device => exact DeviceStream.refuses

end BaseKind

namespace Stack

variable {ω β : Type} [Cancellation ω] [ByteStream ω β]

/-- The requests that a disposed stack refuses for another cause. -/
def early (base : β → Request → Option Refusal) :
    (kinds : List LayerKind) → Stack kinds β → Request → Option Refusal
  | [] => base
  | kind :: kinds => kind.early (early base kinds)

theorem refuses {base : β → Request → Option Refusal} (h : Refuses ω base) :
    ∀ kinds : List LayerKind, Refuses ω (early base kinds)
  | [] => h
  | kind :: kinds => kind.refuses (refuses h kinds)

end Stack

/-- A stream to which a dispose was made, among other requests, is disposed. The induction is on the
requests: what comes before the dispose does not matter, and nothing after it brings the stream
back. -/
theorem Refuses.isDisposed_after {ω σ : Type} [Cancellation ω] [ByteStream ω σ]
    {early : σ → Request → Option Refusal} (h : Refuses ω early) {requests : List Request}
    (hdispose : .dispose ∈ requests) (s : σ × ω) :
    ByteStream.isDisposed (ByteStream.after requests s).1 (ByteStream.after requests s).2 =
      true := by
  induction requests generalizing s with
  | nil => cases hdispose
  | cons request requests ih =>
    rw [ByteStream.after_cons]
    by_cases hmem : .dispose ∈ requests
    · exact ih hmem _
    -- the dispose is the first request, and whatever follows is refused
    obtain rfl : .dispose = request := by
      rcases List.mem_cons.mp hdispose with heq | hmem'
      · exact heq
      · exact absurd hmem' hmem
    have hkeeps : ∀ request ∈ requests, ∀ t : σ × ω, ByteStream.isDisposed t.1 t.2 = true →
        (ByteStream.perform request : StreamM ω σ request.Answer).Ends t
          (fun _ t' => ByteStream.isDisposed t'.1 t'.2 = true)
          fun _ t' => ByteStream.isDisposed t'.1 t'.2 = true := by
      intro request hrequest t ht
      obtain ⟨e, heq, -⟩ := (h.silent t ht).refuse request fun heq => hmem (heq ▸ hrequest)
      exact StreamM.ends_of_eq_error heq ht
    exact ByteStream.after_induction hkeeps (h.dispose s).final

/-- **Once a stack was disposed it offers nothing and refuses everything.** A request whose token
was not cancelled is refused as disposed exactly if no layer finds another cause before. -/
theorem Stack.refuses_after_dispose {ω δ : Type} [Cancellation ω] [Device ω δ] (base : BaseKind)
    (kinds : List LayerKind) (s₀ : Stack kinds (base.Over δ) × ω) {requests : List Request}
    (hdispose : .dispose ∈ requests) {s : Stack kinds (base.Over δ) × ω}
    (hs : s = ByteStream.after requests s₀) :
    (∀ capability, ByteStream.can capability s.1 s.2 = false) ∧
      ∀ request : Request, request ≠ .dispose → request.mode.isCancelled s.2 = false →
        (ByteStream.perform request : StreamM ω (Stack kinds (base.Over δ)) request.Answer) s =
            .error (.refusal ((Stack.early base.early kinds s.1 request).getD .disposed)) s ∧
        ((ByteStream.perform request : StreamM ω (Stack kinds (base.Over δ)) request.Answer) s =
            .error (.refusal .disposed) s ↔ Stack.early base.early kinds s.1 request = none) := by
  subst hs
  have hrefuses := Stack.refuses (base.refuses (ω := ω) (δ := δ)) kinds
  have hsilent := hrefuses.silent _ (hrefuses.isDisposed_after hdispose s₀)
  refine ⟨hsilent.cannot, fun request hne htoken => ?_⟩
  obtain ⟨e, heq, hcause⟩ := hsilent.refuse request hne
  rw [heq, hcause htoken]
  refine ⟨rfl, ?_⟩
  have hearly := hrefuses.early_ne (ByteStream.after requests s₀).1 request
  cases hcause' : Stack.early base.early kinds (ByteStream.after requests s₀).1 request with
  | none => exact ⟨fun _ => rfl, fun _ => rfl⟩
  | some cause =>
    rw [hcause'] at hearly
    refine ⟨fun h => ?_, nofun⟩
    cases h
    exact absurd rfl hearly

/-- A rebased layer whose origin is the second place of four zeros. -/
def rebasedZeros : Stack [.rebased] (BaseKind.zeros.Over MemoryDevice) × Surroundings :=
  (⟨.ofStream (⟨1, 4, false⟩ : Zeros) .owns, 1⟩, .initial)

/-- Disposed, it refuses a read as disposed, and the greatest word as the place behind it. -/
theorem rebasedZeros_refuses :
    ∃ s, s = ByteStream.after [.readByte, .dispose] rebasedZeros ∧
      (ByteStream.perform .readByte :
          StreamM Surroundings (Stack [.rebased] (BaseKind.zeros.Over MemoryDevice)) _) s =
        .error (.refusal .disposed) s ∧
      (ByteStream.perform (.setPosition maxWord) :
          StreamM Surroundings (Stack [.rebased] (BaseKind.zeros.Over MemoryDevice)) _) s =
        .error (.refusal (.invalidSeek (maxWord + 1))) s := by
  have hmem : Request.dispose ∈ [Request.readByte, .dispose] := by decide
  obtain ⟨-, hrefuse⟩ := Stack.refuses_after_dispose .zeros [.rebased] rebasedZeros hmem rfl
  have hread := (hrefuse .readByte nofun rfl).1
  have hmove := (hrefuse (.setPosition maxWord) nofun rfl).1
  exact ⟨_, rfl, hread, hmove⟩

end LayeredStreams
