import LayeredStreams.Channel
import LayeredStreams.Proofs.Preserved
import LayeredStreams.Surroundings
import LayeredStreams.Zeros

/-!
# Layers that let no change through

One read-only, truncated or cached layer in a stack is a barrier: whatever is asked of the outermost
stream, the base receives no request that would change its content.

* `Lending`, `Lent` — surroundings in which a stream stands together with a journal of the requests
  that it received, and the stream that is lent out from there. What becomes of it is seen there
  also after the layers over it have let go of it.
* `Errand` — whatever can be done with a stream: requests, whole transfers, and the interface of
  a channel. A copy goes to a stream that stands `Apart`.
* `LayerKind.Barred`, `Stack.Barred` — the stacks with a barrier in them, at any depth.
* `Lending.Spared` — since some earlier state no request would have changed the content, and it did
  not change before a dispose.

Principal results: `Stack.shut` (what would change the content is refused, and nothing is touched),
`Stack.preservesOn_barred` (anything else sends nothing to the base that would change it) and
`Stack.barred_run` (over every run of errands).
-/

set_option autoImplicit false

namespace LayeredStreams

/-! ## A stream that is lent out -/

/-- Surroundings in which a stream stands. -/
structure Lending (β ω : Type) where
  stream : β
  /-- The requests that the stream received, the latest first. -/
  calls : List Request
  surroundings : ω

instance Lending.cancellation {β ω : Type} [Cancellation ω] : Cancellation (Lending β ω) where
  isCancelled name lending := Cancellation.isCancelled name lending.surroundings

/-- The stream that stands in the surroundings, as layers hold it. -/
structure Lent (β : Type) where

/-- Another stream, which stands apart from the one in the surroundings. -/
structure Apart (τ : Type) where
  stream : τ

namespace Lent

variable {β ω : Type} [ByteStream ω β]

/-- Enter a request in the journal, and answer it. -/
def perform (request : Request) : StreamM (Lending β ω) (Lent β) request.Answer := fun s =>
  match (ByteStream.perform request : StreamM ω β _) (s.2.stream, s.2.surroundings) with
  | .ok answer (stream, w) => .ok answer (s.1, ⟨stream, request :: s.2.calls, w⟩)
  | .error e (stream, w) => .error e (s.1, ⟨stream, request :: s.2.calls, w⟩)

instance : ByteStream (Lending β ω) (Lent β) where
  can capability _ lending := ByteStream.can capability lending.stream lending.surroundings
  isDisposed _ lending := ByteStream.isDisposed lending.stream lending.surroundings
  perform := Lent.perform

theorem final_perform (request : Request) (s : Lent β × Lending β ω) :
    (StreamM.final (ByteStream.perform request) s).2.calls = request :: s.2.calls ∧
      (StreamM.final (ByteStream.perform request) s).2.stream =
        ((ByteStream.perform request : StreamM ω β request.Answer).final
          (s.2.stream, s.2.surroundings)).1 := by
  show (StreamM.final (Lent.perform request) s).2.calls = _ ∧
    (StreamM.final (Lent.perform request) s).2.stream = _
  unfold StreamM.final Lent.perform
  cases (ByteStream.perform request : StreamM ω β _) (s.2.stream, s.2.surroundings) with
  | ok answer s' => exact ⟨rfl, rfl⟩
  | error e s' => exact ⟨rfl, rfl⟩

end Lent

namespace Apart

variable {β ω τ : Type} [ByteStream ω τ]

/-- The answer of the stream that stands apart. -/
def perform (request : Request) : StreamM (Lending β ω) (Apart τ) request.Answer := fun s =>
  match (ByteStream.perform request : StreamM ω τ _) (s.1.stream, s.2.surroundings) with
  | .ok answer (stream, w) => .ok answer (⟨stream⟩, { s.2 with surroundings := w })
  | .error e (stream, w) => .error e (⟨stream⟩, { s.2 with surroundings := w })

instance : ByteStream (Lending β ω) (Apart τ) where
  can capability apart lending := ByteStream.can capability apart.stream lending.surroundings
  isDisposed apart lending := ByteStream.isDisposed apart.stream lending.surroundings
  perform := Apart.perform

end Apart

/-- Quiet requests leave what a stream shows as its content. -/
def ByteStream.Discreet (ω : Type) {β γ : Type} [ByteStream ω β] (content : β → γ) : Prop :=
  ∀ request : Request, request.isQuiet = true → ∀ s : β × ω,
    content ((ByteStream.perform request : StreamM ω β request.Answer).final s).1 = content s.1

namespace Lending

variable {β γ ω τ : Type}

/-- Since `start` the stream received no request that would change its content, and the content is
as it was then unless the stream received a dispose. -/
def Spared (content : β → γ) (start lending : Lending β ω) : Prop :=
  ∃ calls, lending.calls = calls ++ start.calls ∧ (∀ call ∈ calls, call.mutates = false) ∧
    (.dispose ∉ calls → content lending.stream = content start.stream)

theorem spared_self (content : β → γ) (start : Lending β ω) : Spared content start start :=
  ⟨[], rfl, nofun, fun _ => rfl⟩

variable {content : β → γ} {start : Lending β ω}

/-- One more request that changes nothing spares the content. -/
theorem preservesOn_lent [ByteStream ω β] (hcontent : ByteStream.Discreet ω content) :
    ByteStream.PreservesOn (Lending β ω) (fun request => request.mutates = false)
      (Amid (fun _ : Lent β => True) (Spared content start)) := by
  intro request hmutates s hs
  obtain ⟨calls, hcalls, hquiet, hsame⟩ := hs.2
  have hfinal := Lent.final_perform request s
  have hcalls' : request :: s.2.calls = (request :: calls) ++ start.calls := by
    rw [hcalls, List.cons_append]
  refine StreamM.ends_of_final ⟨trivial, request :: calls, hfinal.1.trans hcalls', ?_, ?_⟩
  · intro call hmem
    rcases List.mem_cons.mp hmem with rfl | hmem
    · exact hmutates
    · exact hquiet call hmem
  · intro hdispose
    have hne : request ≠ .dispose := fun heq => hdispose (heq ▸ List.mem_cons_self)
    have hrequest : request.isQuiet = true := by simp [Request.isQuiet, hmutates, hne]
    rw [hfinal.2, hcontent request hrequest]
    exact hsame fun hmem => hdispose (List.mem_cons_of_mem _ hmem)

/-- The stream that stands apart does not touch the one that is lent out. -/
theorem preservesOn_apart [ByteStream ω τ] :
    ByteStream.PreservesOn (Lending β ω) (fun _ => True)
      (Amid (fun _ : Apart τ => True) (Spared content start)) := by
  intro request _ s hs
  show StreamM.Ends (Apart.perform request) s _ _
  unfold StreamM.Ends Apart.perform
  cases (ByteStream.perform request : StreamM ω τ _) (s.1.stream, s.2.surroundings) with
  | ok answer s' => exact hs
  | error e s' => exact hs

end Lending

/-! ## Errands -/

/-- What can be done with the first of two streams; a copy goes to the second. -/
inductive Errand
  | ask (request : Request)
  /-- Read on until a buffer is full or the content is at its end. -/
  | fill (mode : Mode) (room : Nat)
  /-- Fill a buffer; a short fill is a failure. -/
  | fillExactly (mode : Mode) (room : Nat)
  | readRange (size offset count : Nat)
  | writeRange (data : Bytes) (offset count : Nat)
  | readToEnd
  /-- Write everything from the cursor on to the second stream. -/
  | copy (mode : Mode)
  | channelRead (suspended : Bool) (room : Nat)
  | channelWrite (suspended : Bool) (data : Bytes)
  | channelFlush (suspended : Bool)
  | channelSeek (target : SeekTarget)
  deriving DecidableEq, Repr

namespace Errand

/-- The type of the result of an errand. -/
@[reducible] def Answer : Errand → Type
  | ask request => request.Answer
  | fill _ _ => Filled
  | fillExactly _ _ => Filled
  | readRange _ _ _ => Bytes
  | writeRange _ _ _ => Unit
  | readToEnd => Bytes
  | copy _ => Nat
  | channelRead _ _ => Bytes
  | channelWrite _ _ => Nat
  | channelFlush _ => Unit
  | channelSeek _ => Nat

/-- Whether an errand would change the content of the first stream. -/
def mutates : Errand → Bool
  | ask request => request.mutates
  | writeRange _ _ _ | channelWrite _ _ => true
  | _ => false

variable {ω σ τ : Type} [Cancellation ω] [ByteStream ω σ] [ByteStream ω τ]

/-- Do an errand. -/
def perform : (errand : Errand) → StreamM ω (σ × τ) errand.Answer
  | ask request => onSource (ByteStream.perform request)
  | fill mode room => onSource (LayeredStreams.fill mode room)
  | fillExactly mode room => onSource (LayeredStreams.fillExactly mode room)
  | readRange size offset count => onSource (LayeredStreams.readRange size offset count)
  | writeRange data offset count => onSource (LayeredStreams.writeRange data offset count)
  | readToEnd => onSource LayeredStreams.readToEnd
  | copy mode => LayeredStreams.copy mode
  | channelRead suspended room => onSource (Channel.read suspended room)
  | channelWrite suspended data => onSource (Channel.write suspended data)
  | channelFlush suspended => onSource (Channel.flush suspended)
  | channelSeek target => onSource (Channel.seek target)

/-- The two streams after errands, one after the other, whatever comes of each. -/
def after (errands : List Errand) (s : (σ × τ) × ω) : (σ × τ) × ω :=
  errands.foldl (fun s errand => errand.perform.final s) s

variable {sound : σ → Prop} {kept : ω → Prop}

omit [Cancellation ω] [ByteStream ω σ] [ByteStream ω τ] in
theorem keeps_onSource {α : Type} {act : StreamM ω σ α} (h : StreamM.Keeps (Amid sound kept) act) :
    StreamM.Keeps (Amid (fun pair : σ × τ => sound pair.1) kept) (onSource act) := by
  have hsource : StreamM.Keeps (fun s : (σ × τ) × ω => Amid sound kept (s.1.1, s.2))
      (onSource act) := h.within fun _ _ => rfl
  exact hsource

omit [Cancellation ω] [ByteStream ω σ] [ByteStream ω τ] in
theorem keeps_onDestination {α : Type} {act : StreamM ω τ α}
    (h : StreamM.Keeps (Amid (fun _ => True) kept) act) :
    StreamM.Keeps (Amid (fun pair : σ × τ => sound pair.1) kept) (onDestination act) := by
  have hboth : StreamM.Keeps
      (fun s : (σ × τ) × ω => sound s.1.1 ∧ Amid (fun _ => True) kept (s.1.2, s.2))
      (onDestination act) :=
    h.within_keeping (fun pair : σ × τ => sound pair.1) (fun _ _ => rfl) fun _ _ hsound => hsound
  intro s hs
  have hends := hboth s ⟨hs.1, trivial, hs.2⟩
  exact hends.mono (fun _ _ h => ⟨h.1, h.2.2⟩) fun _ _ h => ⟨h.1, h.2.2⟩

/-- What requests to the two streams keep of the first stream and of the surroundings, errands
keep. -/
theorem keeps (hsource : ByteStream.PreservesOn ω (fun _ => True) (Amid sound kept))
    (hdestination : ByteStream.PreservesOn ω (fun _ => True) (Amid (fun _ : τ => True) kept))
    (errand : Errand) :
    StreamM.Keeps (Amid (fun pair : σ × τ => sound pair.1) kept) errand.perform := by
  have hask : ∀ request : Request, StreamM.Keeps (Amid sound kept)
      (ByteStream.perform request : StreamM ω σ request.Answer) :=
    fun request => hsource request trivial
  have hfill : ∀ mode room, StreamM.Keeps (Amid sound kept)
      (LayeredStreams.fill mode room : StreamM ω σ Filled) :=
    fun mode room => keeps_fillWithin (fun room => hask (.read mode room)) room room
  cases errand with
  | ask request => exact keeps_onSource (hask request)
  | fill mode room => exact keeps_onSource (hfill mode room)
  | fillExactly mode room =>
    exact keeps_onSource ((hfill mode room).bind fun _ => StreamM.keeps_pure _)
  | readRange size offset count =>
    exact keeps_onSource ((StreamM.keeps_ofExcept _).bind fun _ => hask (.read .blocking count))
  | writeRange data offset count =>
    exact keeps_onSource ((StreamM.keeps_ofExcept _).bind fun _ => hask (.write .blocking _))
  | readToEnd =>
    have hread := hask (.read .blocking chunkSize)
    exact keeps_onSource (keeps_readToEndWithin hread readLimit)
  | copy mode =>
    have hread := hask (.read mode copyBufferSize)
    refine keeps_copyWithin (keeps_onSource hread) (fun data => ?_) readLimit
    exact keeps_onDestination (hdestination (.write mode data) trivial)
  | channelRead suspended room => exact keeps_onSource (hask (.read (Channel.mode suspended) room))
  | channelWrite suspended data =>
    have hwrite := hask (.write (Channel.mode suspended) data)
    exact keeps_onSource (hwrite.bind fun _ => StreamM.keeps_pure _)
  | channelFlush suspended => exact keeps_onSource (hask (.flush (Channel.mode suspended)))
  | channelSeek target => exact keeps_onSource (hask (.seek target))

end Errand

/-! ## Stacks with a barrier -/

namespace StreamM

variable {ω σ τ α : Type}

/-- A part of the state that declines and stays as it is leaves the whole as it is. -/
theorem within_of_eq_error {get : σ → τ} {put : τ → σ → σ} {act : StreamM ω τ α} {s : σ × ω}
    {e : StreamError} (h : act (get s.1, s.2) = .error e (get s.1, s.2))
    (hput : put (get s.1) s.1 = s.1) : within get put act s = .error e s := by
  unfold within
  rw [h]
  dsimp only
  rw [hput]

end StreamM

/-- Wherever it is barred a stream says that it cannot write, and refuses whatever would change the
content; nothing is touched. -/
def ByteStream.Shut (ω : Type) {σ : Type} [ByteStream ω σ] (barred : σ → Prop) : Prop :=
  ∀ s : σ × ω, barred s.1 → ByteStream.can .writing s.1 s.2 = false ∧
    ∀ request : Request, request.mutates = true →
      ∃ e, (ByteStream.perform request : StreamM ω σ request.Answer) s = .error e s

section Layers

variable {ω σ τ : Type} {barred : σ → Prop} {kept : ω → Prop}

theorem ByteStream.Shut.carried [ByteStream ω σ] [ByteStream ω τ] (h : ByteStream.Shut ω barred)
    (f : σ → τ)
    (hcan : ∀ capability part (w : ω),
      ByteStream.can capability (f part) w = ByteStream.can capability part w)
    (hcarries : ∀ request : Request, StreamM.Carries f
      (ByteStream.perform request : StreamM ω σ request.Answer) (ByteStream.perform request))
    {part : σ} (hpart : barred part) (w : ω) :
    ByteStream.can .writing (f part) w = false ∧
      ∀ request : Request, request.mutates = true →
        ∃ e, (ByteStream.perform request : StreamM ω τ request.Answer) (f part, w) =
          .error e (f part, w) := by
  obtain ⟨hcannot, hrefuse⟩ := h (part, w) hpart
  refine ⟨(hcan _ _ _).trans hcannot, fun request hmutates => ?_⟩
  obtain ⟨e, heq⟩ := hrefuse request hmutates
  refine ⟨e, ?_⟩
  rw [hcarries request, heq]

namespace Passthrough

theorem exists_decline (request : Request) (s : Passthrough σ × ω) :
    ∃ e, (decline request : StreamM ω (Passthrough σ) request.Answer) s = .error e s := by
  obtain ⟨⟨slot, ownership⟩, w⟩ := s
  cases slot with
  | disposed => exact ⟨_, rfl⟩
  | live stream => exact ⟨_, rfl⟩

variable [ByteStream ω σ]

/-- A layer over a barred stream is shut as the stream, and a disposed one refuses everything. -/
theorem shut (h : ByteStream.Shut ω barred) : ByteStream.Shut ω (Passthrough.Sound barred) := by
  intro s hs
  obtain ⟨⟨slot, ownership⟩, w⟩ := s
  cases slot with
  | disposed =>
    refine ⟨rfl, fun request hmutates => ?_⟩
    cases request with
    | dispose => cases hmutates
    | _ => exact ⟨_, rfl⟩
  | live stream =>
    obtain ⟨hcannot, hrefuse⟩ := h (stream, w) (hs stream rfl)
    refine ⟨hcannot, fun request hmutates => ?_⟩
    obtain ⟨e, heq⟩ := hrefuse request hmutates
    refine ⟨e, ?_⟩
    cases request with
    | dispose => cases hmutates
    | _ =>
      refine (forward_of_live stream ownership _ w).trans ?_
      rw [heq]

end Passthrough

namespace Rebased

variable {barred : Passthrough σ → Prop} [ByteStream ω σ]

theorem shut (h : ByteStream.Shut ω barred) :
    ByteStream.Shut ω fun layer : Rebased σ => barred layer.base := by
  intro s hs
  obtain ⟨hcannot, hrefuse⟩ := h (s.1.base, s.2) hs
  refine ⟨hcannot, fun request hmutates => ?_⟩
  cases request with
  | setLength size =>
    show ∃ e, (toBase size >>= fun place => onBase (ByteStream.setLength place)) s = .error e s
    by_cases hword : size + s.1.baseOffset ≤ maxWord
    · obtain ⟨e, heq⟩ := hrefuse (.setLength (size + s.1.baseOffset)) rfl
      refine ⟨e, ?_⟩
      rw [StreamM.bind_apply, toBase_eq_ok s.1 size s.2 hword]
      exact StreamM.within_of_eq_error heq rfl
    · refine ⟨.refusal (.invalidSeek (size + s.1.baseOffset : Nat)), ?_⟩
      rw [StreamM.bind_apply, toBase, StreamM.bind_apply, StreamM.state_apply]
      dsimp only
      rw [if_neg hword]
      rfl
  | write mode data =>
    obtain ⟨e, heq⟩ := hrefuse (.write mode data) rfl
    refine ⟨e, ?_⟩
    show onBase (ByteStream.perform (.write mode data)) s = .error e s
    exact StreamM.within_of_eq_error heq rfl
  | writeByte byte =>
    obtain ⟨e, heq⟩ := hrefuse (.writeByte byte) rfl
    refine ⟨e, ?_⟩
    show onBase (ByteStream.perform (.writeByte byte)) s = .error e s
    exact StreamM.within_of_eq_error heq rfl
  | _ => cases hmutates

end Rebased

variable [ByteStream ω σ]

theorem Truncated.shut : ByteStream.Shut ω fun _ : Truncated σ => True := by
  intro s _
  refine ⟨rfl, fun request hmutates => ?_⟩
  have hdeclines : Truncated.declines request = true := by simp [Truncated.declines, hmutates]
  obtain ⟨e, heq⟩ := Passthrough.exists_decline request (s.1.base, s.2)
  refine ⟨e, ?_⟩
  refine (congrFun (Truncated.perform_of_declined hdeclines) s).trans ?_
  exact StreamM.within_of_eq_error heq rfl

theorem ReadOnly.shut : ByteStream.Shut ω fun _ : ReadOnly σ => True := by
  intro s _
  refine ⟨rfl, fun request hmutates => ?_⟩
  obtain ⟨e, heq⟩ := Passthrough.exists_decline request (s.1.base, s.2)
  refine ⟨e, ?_⟩
  refine (congrFun (ReadOnly.perform_of_mutates hmutates) s).trans ?_
  exact StreamM.within_of_eq_error heq rfl

theorem Cached.shut [Cancellation ω] : ByteStream.Shut ω fun _ : Cached σ => True := by
  intro s _
  refine ⟨rfl, fun request hmutates => ?_⟩
  obtain ⟨e, heq⟩ := Passthrough.exists_decline request (s.1.base, s.2)
  refine ⟨e, ?_⟩
  refine (congrFun (Cached.perform_of_mutates hmutates) s).trans ?_
  exact StreamM.within_of_eq_error heq rfl

namespace Window

/-- Windows with a boundary, and those over a barred stream. -/
def Barred (barred : σ → Prop) : Window σ → Prop
  | unwrapped stream => barred stream
  | rebased layer => Passthrough.Sound barred layer.base
  | truncated _ | rebasedTruncated _ => True

theorem shut (h : ByteStream.Shut ω barred) : ByteStream.Shut ω (Window.Barred barred) := by
  intro s hs
  obtain ⟨window, w⟩ := s
  cases window with
  | unwrapped stream => exact h.carried unwrapped (fun _ _ _ => rfl) (fun _ _ _ => rfl) hs w
  | rebased layer =>
    have hlayer := Rebased.shut (Passthrough.shut h)
    exact hlayer.carried rebased (fun _ _ _ => rfl) (fun _ _ _ => rfl) hs w
  | truncated layer =>
    exact Truncated.shut.carried truncated (fun _ _ _ => rfl) (fun _ _ _ => rfl) trivial w
  | rebasedTruncated layer =>
    exact Truncated.shut.carried rebasedTruncated (fun _ _ _ => rfl) (fun _ _ _ => rfl) trivial w

end Window

namespace LayerKind

/-- The layers that are a barrier, and those over a barred stream. -/
def Barred (barred : σ → Prop) : (kind : LayerKind) → kind.Over σ → Prop
  | passthrough => Passthrough.Sound barred
  | rebased => fun layer : Rebased σ => Passthrough.Sound barred layer.base
  | truncated | readOnly | cached => fun _ => True
  | window => Window.Barred barred

/-- Whether every layer of a kind is a barrier. -/
def isBarrier : LayerKind → Bool
  | truncated | readOnly | cached => true
  | passthrough | rebased | window => false

theorem barred_of_isBarrier {kind : LayerKind} (h : kind.isBarrier = true) (layer : kind.Over σ) :
    kind.Barred barred layer := by
  cases kind with
  | truncated => trivial
  | readOnly => trivial
  | cached => trivial
  | _ => cases h

variable [Cancellation ω]

theorem shut (h : ByteStream.Shut ω barred) (kind : LayerKind) :
    ByteStream.Shut ω (kind.Barred barred) := by
  cases kind with
  | passthrough => exact Passthrough.shut h
  | rebased => exact Rebased.shut (Passthrough.shut h)
  | truncated => exact Truncated.shut
  | readOnly => exact ReadOnly.shut
  | cached => exact Cached.shut
  | window => exact Window.shut h

theorem barred_of_sound {kind : LayerKind} {layer : kind.Over σ} (h : kind.Sound barred layer) :
    kind.Barred barred layer := by
  cases kind with
  | passthrough => exact h
  | rebased => exact h
  | truncated => trivial
  | readOnly => trivial
  | cached => trivial
  | window =>
    cases layer with
    | unwrapped stream => exact h
    | rebased layer => exact h
    | truncated layer => trivial
    | rebasedTruncated layer => trivial

/-- What would change nothing passes through a barrier as what would change nothing. -/
theorem preservesOn_of_isBarrier
    (h : ByteStream.PreservesOn ω (fun request => request.mutates = false)
      (Amid (fun _ : σ => True) kept))
    {kind : LayerKind} (hbarrier : kind.isBarrier = true) :
    ByteStream.PreservesOn ω (fun request => request.mutates = false)
      (Amid (kind.Barred barred) kept) := by
  intro request hrequest s hs
  have hclosed := Request.closed_not_mutates
  have hkept := kind.preservesOn_kept hclosed h request hrequest s ⟨trivial, hs.2⟩
  have hbarred : ∀ layer, kind.Barred barred layer := barred_of_isBarrier hbarrier
  exact hkept.mono (fun _ s' hs' => ⟨hbarred s'.1, hs'.2⟩) fun _ s' hs' => ⟨hbarred s'.1, hs'.2⟩

end LayerKind

section Changeless

variable
  (hall : ByteStream.PreservesOn ω (fun request => request.mutates = false)
    (Amid (fun _ : σ => True) kept))
  (hbarred : ByteStream.PreservesOn ω (fun request => request.mutates = false) (Amid barred kept))
include hall hbarred

theorem Window.preservesOn_barred :
    ByteStream.PreservesOn ω (fun request => request.mutates = false)
      (Amid (Window.Barred barred) kept) := by
  intro request hrequest s hs
  have hclosed := Request.closed_not_mutates
  have hlayer := Passthrough.preservesOn_sound hall
  obtain ⟨window, w⟩ := s
  cases window with
  | unwrapped stream =>
    have hkeeps := hbarred request hrequest (stream, w) hs
    exact StreamM.Carries.ends_keeps unwrapped (fun _ _ => rfl) (fun _ h => h) hkeeps
  | rebased layer =>
    have hrebased := Rebased.preservesOn hclosed (Passthrough.preservesOn_sound hbarred)
    have hkeeps := hrebased request hrequest (layer, w) hs
    exact StreamM.Carries.ends_keeps rebased (fun _ _ => rfl) (fun _ h => h) hkeeps
  | truncated layer =>
    have hkeeps := Truncated.preservesOn hclosed hlayer request hrequest (layer, w)
      ⟨fun _ _ => trivial, hs.2⟩
    exact StreamM.Carries.ends_keeps truncated (fun _ _ => rfl) (fun _ h => ⟨trivial, h.2⟩) hkeeps
  | rebasedTruncated layer =>
    have hrebased : ByteStream.PreservesOn ω (fun request => request.mutates = false)
        (Amid (fun inner : Rebased σ => Passthrough.Sound (fun _ => True) inner.base) kept) :=
      Rebased.preservesOn hclosed hlayer
    have hboth := Passthrough.preservesOn_sound hrebased
    have hkeeps := Truncated.preservesOn hclosed hboth request hrequest (layer, w)
      ⟨fun _ _ _ _ => trivial, hs.2⟩
    exact StreamM.Carries.ends_keeps rebasedTruncated (fun _ _ => rfl) (fun _ h => ⟨trivial, h.2⟩)
      hkeeps

/-- What would change nothing passes through a layer as what would change nothing, whether there is
a barrier below or the layer is one. -/
theorem LayerKind.preservesOn_barred [Cancellation ω] (kind : LayerKind) :
    ByteStream.PreservesOn ω (fun request => request.mutates = false)
      (Amid (kind.Barred barred) kept) := by
  cases kind with
  | passthrough =>
    exact LayerKind.preservesOn_sound Request.closed_not_mutates hbarred .passthrough
  | rebased => exact LayerKind.preservesOn_sound Request.closed_not_mutates hbarred .rebased
  | truncated => exact LayerKind.preservesOn_of_isBarrier hall rfl
  | readOnly => exact LayerKind.preservesOn_of_isBarrier hall rfl
  | cached => exact LayerKind.preservesOn_of_isBarrier hall rfl
  | window => exact Window.preservesOn_barred hall hbarred

end Changeless

end Layers

namespace Stack

variable {ω β : Type}

/-- The stacks with a barrier in them. Below a layer that was disposed there is nothing that could
be changed. -/
def Barred : (kinds : List LayerKind) → Stack kinds β → Prop
  | [] => fun _ => False
  | kind :: kinds => kind.Barred (Barred kinds)

/-- A read-only, truncated or cached layer is a barrier wherever it is. The induction is on the
layers over it. -/
theorem barred_of_mem {kinds : List LayerKind} {kind : LayerKind} (hmem : kind ∈ kinds)
    (hbarrier : kind.isBarrier = true) (stack : Stack kinds β) : Barred kinds stack := by
  induction kinds with
  | nil => cases hmem
  | cons first kinds ih =>
    rcases List.mem_cons.mp hmem with heq | hmem
    · rw [heq] at hbarrier
      exact LayerKind.barred_of_isBarrier hbarrier stack
    · have hbelow : ∀ below : Stack kinds β, Barred kinds below := fun below => ih hmem below
      exact LayerKind.barred_of_sound (LayerKind.sound_of_forall hbelow first stack)

variable [Cancellation ω] [ByteStream ω β]

/-- **A stack with a barrier in it refuses whatever would change the content**, and says that it
cannot write. The recursion is on the layers. -/
theorem shut : ∀ kinds : List LayerKind, ByteStream.Shut ω (Barred kinds : Stack kinds β → Prop)
  | [] => fun _ h => h.elim
  | kind :: kinds => kind.shut (shut kinds)

variable {kept : ω → Prop}

/-- Anything else reaches the base as what would change nothing. The recursion is on the layers down
to the barrier. -/
theorem preservesOn_barred
    (h : ByteStream.PreservesOn ω (fun request => request.mutates = false)
      (Amid (fun _ : β => True) kept)) :
    ∀ kinds : List LayerKind, ByteStream.PreservesOn ω (fun request => request.mutates = false)
      (Amid (Barred kinds : Stack kinds β → Prop) kept)
  | [] => fun _ _ _ hs => hs.1.elim
  | kind :: kinds =>
    kind.preservesOn_barred (preservesOn_kept Request.closed_not_mutates h kinds)
      (preservesOn_barred h kinds)

/-- So nothing that is asked of a barred stack reaches the base as what would change it. -/
theorem preservesOn_all_barred
    (h : ByteStream.PreservesOn ω (fun request => request.mutates = false)
      (Amid (fun _ : β => True) kept)) (kinds : List LayerKind) :
    ByteStream.PreservesOn ω (fun _ => True) (Amid (Barred kinds : Stack kinds β → Prop) kept) := by
  intro request _ s hs
  cases hmutates : request.mutates with
  | false => exact preservesOn_barred h kinds request hmutates s hs
  | true =>
    obtain ⟨e, heq⟩ := (shut kinds s hs.1).2 request hmutates
    exact StreamM.ends_of_eq_error heq hs

end Stack

/-- An errand that would change the content of a barred stream is refused, and nothing is touched.
-/
theorem Errand.refuses_of_shut {ω σ τ : Type} [Cancellation ω] [ByteStream ω σ] [ByteStream ω τ]
    {barred : σ → Prop} (h : ByteStream.Shut ω barred) {s : (σ × τ) × ω} (hs : barred s.1.1)
    {errand : Errand} (hmutates : errand.mutates = true) :
    ∃ e, errand.perform s = .error e s := by
  obtain ⟨-, hrefuse⟩ := h (s.1.1, s.2) hs
  have hsource : ∀ {α : Type} {act : StreamM ω σ α},
      (∃ e, act (s.1.1, s.2) = .error e (s.1.1, s.2)) →
      ∃ e, (onSource act : StreamM ω (σ × τ) α) s = .error e s := by
    intro α act hact
    obtain ⟨e, heq⟩ := hact
    exact ⟨e, StreamM.within_of_eq_error heq rfl⟩
  cases errand with
  | ask request => exact hsource (hrefuse request hmutates)
  | writeRange data offset count =>
    refine hsource ?_
    unfold LayeredStreams.writeRange
    cases checkRange data.length offset count with
    | error cause => exact ⟨.refusal cause, rfl⟩
    | ok value => exact hrefuse (.write .blocking _) rfl
  | channelWrite suspended data =>
    obtain ⟨e, heq⟩ := hrefuse (.write (Channel.mode suspended) data) rfl
    refine hsource ⟨e, ?_⟩
    unfold Channel.write ByteStream.write
    rw [StreamM.bind_apply, heq]
  | _ => cases hmutates

/-- Quiet requests leave the number of zeros. -/
theorem Zeros.discreet_size {ω : Type} [Cancellation ω] : ByteStream.Discreet ω Zeros.size := by
  intro request hquiet s
  let keeps : Zeros × ω → Prop := fun t => t.1.size = s.1.size
  have hopened : StreamM.Keeps keeps (opened : StreamM ω Zeros Zeros) := by
    refine StreamM.keeps_state_bind fun zeros => ?_
    split
    · exact StreamM.keeps_refuse _
    · exact StreamM.keeps_pure _
  have hmove : ∀ f : Zeros → Nat, StreamM.Keeps keeps
      (StreamM.update fun zeros => { zeros with cursor := f zeros } : StreamM ω Zeros Unit) :=
    fun f => StreamM.keeps_update fun _ _ h => h
  have htake : ∀ room, StreamM.Keeps keeps (take room : StreamM ω Zeros Bytes) := by
    intro room
    exact hopened.bind fun zeros => (hmove _).bind fun _ => StreamM.keeps_pure _
  suffices hkeeps : StreamM.Keeps keeps
      (ByteStream.perform request : StreamM ω Zeros request.Answer) from (hkeeps s rfl).final
  cases request with
  | position => exact hopened.bind fun _ => StreamM.keeps_pure _
  | setPosition target =>
    refine hopened.bind fun _ => ?_
    split
    · exact hmove fun _ => target
    · exact StreamM.keeps_refuse _
  | length => exact hopened.bind fun _ => StreamM.keeps_pure _
  | seek target =>
    refine hopened.bind fun zeros => (StreamM.keeps_ofExcept _).bind fun place => ?_
    exact (hmove fun _ => place).bind fun _ => StreamM.keeps_pure _
  | read mode room => exact (keeps_admission mode).bind fun _ => htake room
  | readByte => exact (htake 1).bind fun _ => StreamM.keeps_pure _
  | flush mode =>
    exact (keeps_admission mode).bind fun _ => hopened.bind fun _ => StreamM.keeps_pure _
  | timeout direction => exact StreamM.keeps_refuse _
  | setTimeout direction limit => exact StreamM.keeps_refuse _
  | _ => cases hquiet

namespace Stack

/-- **A barrier anywhere in a stack holds over every run.** Whatever is done with the outermost
stream, in whatever states its layers are: the base receives no request that would change its
content, which stays as it is until the base receives a dispose; the outermost stream says that it
cannot write; and whatever would change the content is refused there, with nothing touched. -/
theorem barred_run {ω β γ τ : Type} [Cancellation ω] [ByteStream ω β] [ByteStream ω τ]
    {content : β → γ} (hcontent : ByteStream.Discreet ω content) {kinds : List LayerKind}
    {s s' : (Stack kinds (Lent β) × Apart τ) × Lending β ω} (hbarred : Barred kinds s.1.1)
    {errands : List Errand} (hs' : s' = Errand.after errands s) :
    Lending.Spared content s.2 s'.2 ∧
      ByteStream.can .writing s'.1.1 s'.2 = false ∧
      ∀ errand : Errand, errand.mutates = true → ∃ e, errand.perform s' = .error e s' := by
  have hsource : ByteStream.PreservesOn (Lending β ω) (fun _ => True)
      (Amid (Barred kinds : Stack kinds (Lent β) → Prop) (Lending.Spared content s.2)) :=
    preservesOn_all_barred (Lending.preservesOn_lent hcontent) kinds
  have hkeeps : ∀ errand : Errand, StreamM.Keeps
      (Amid (fun pair : Stack kinds (Lent β) × Apart τ => Barred kinds pair.1)
        (Lending.Spared content s.2)) errand.perform :=
    Errand.keeps hsource Lending.preservesOn_apart
  have hrun : Amid (fun pair : Stack kinds (Lent β) × Apart τ => Barred kinds pair.1)
      (Lending.Spared content s.2) s' := by
    rw [hs']
    exact List.foldlRecOn errands _ ⟨hbarred, Lending.spared_self content s.2⟩
      fun t ht errand _ => (hkeeps errand t ht).final
  have hshut : ByteStream.Shut (Lending β ω) (Barred kinds : Stack kinds (Lent β) → Prop) :=
    shut kinds
  refine ⟨hrun.2, (hshut (s'.1.1, s'.2) hrun.1).1, fun errand hmutates => ?_⟩
  exact Errand.refuses_of_shut hshut hrun.1 hmutates

/-- A layer that changes nothing over a window with a boundary, on three of five zeros. -/
def barredZeros : (Stack [.passthrough, .window] (Lent Zeros) × Apart Zeros) ×
    Lending Zeros Surroundings :=
  ((Passthrough.ofStream (Window.rebasedTruncated
      ⟨.ofStream (⟨.ofStream ⟨⟩ .owns, 1⟩ : Rebased (Lent Zeros)) .owns, 0, 3, 0⟩) .owns,
    ⟨.ofSize 3⟩), ⟨.ofSize 5, [], .initial⟩)

/-- Writes of all kinds, a copy and a dispose leave the five zeros as they are, and a write of
nothing is refused after all of them. -/
theorem barred_run_zeros :
    ∃ s', s' = Errand.after
        [.ask (.write .blocking [7]), .ask (.setLength 2), .copy .blocking, .writeRange [7, 8] 1 1,
          .channelWrite true [], .ask .dispose, .ask (.writeByte 7)] barredZeros ∧
      Lending.Spared Zeros.size barredZeros.2 s'.2 ∧
      ∃ e, (Errand.ask (.write .blocking [])).perform s' = .error e s' := by
  have hbarred : Barred [.passthrough, .window] barredZeros.1.1 := by
    intro stream hlive
    cases hlive
    trivial
  obtain ⟨hspared, -, hrefuse⟩ := barred_run Zeros.discreet_size hbarred rfl
  exact ⟨_, rfl, hspared, hrefuse (.ask (.write .blocking [])) rfl⟩

end Stack

end LayeredStreams
