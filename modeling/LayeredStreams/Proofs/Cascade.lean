import LayeredStreams.Probe
import LayeredStreams.Proofs.Disposal
import LayeredStreams.Proofs.Preserved

/-!
# How disposal goes down a stack

A layer that is disposed lets go of the stream below, and disposes it first if it owns it. Whether
the base of a stack is disposed is told by all flags together.

* `Journal`, `Watched` — surroundings with a journal of the requests that a stream received, and the
  stream that enters them there.
* `Ownership.disposal` — what comes of the dispose of a layer, told by what is below it.
* `LayerKind.Closed` — the layers that hold no stream any more.
* `Stack.base?`, `Stack.Holds`, `Stack.Open` — the base of a stack, and the stacks of layers that
  are all open, with their flags.

Principal results: `LayerKind.outcome_dispose` (a dispose goes one layer down or stops),
`Stack.outcome_dispose` (it reaches the base exactly if every layer owns what is below) and
`Stack.dispose_cascades` (whatever was asked of a stack, the base is disposed once or not at all).
-/

set_option autoImplicit false

namespace LayeredStreams

/-! ## Watched streams -/

/-- Surroundings with a journal of the requests that a stream received. -/
structure Journal (ω : Type) where
  /-- The requests, the latest first. -/
  calls : List Request
  surroundings : ω

instance Journal.cancellation {ω : Type} [Cancellation ω] : Cancellation (Journal ω) where
  isCancelled name journal := Cancellation.isCancelled name journal.surroundings

/-- A stream whose requests are entered in the journal. -/
structure Watched (β : Type) where
  stream : β

namespace Watched

variable {ω β : Type} [ByteStream ω β]

/-- Enter a request in the journal, and answer it. -/
def perform (request : Request) : StreamM (Journal ω) (Watched β) request.Answer := fun s =>
  match (ByteStream.perform request : StreamM ω β _) (s.1.stream, s.2.surroundings) with
  | .ok answer (stream, w) => .ok answer (⟨stream⟩, ⟨request :: s.2.calls, w⟩)
  | .error e (stream, w) => .error e (⟨stream⟩, ⟨request :: s.2.calls, w⟩)

instance : ByteStream (Journal ω) (Watched β) where
  can capability watched journal :=
    ByteStream.can capability watched.stream journal.surroundings
  isDisposed watched journal := ByteStream.isDisposed watched.stream journal.surroundings
  perform := Watched.perform

theorem calls_final (request : Request) (s : Watched β × Journal ω) :
    (StreamM.final (ByteStream.perform request) s).2.calls = request :: s.2.calls := by
  show (StreamM.final (Watched.perform request) s).2.calls = _
  unfold StreamM.final Watched.perform
  cases (ByteStream.perform request : StreamM ω β _) (s.1.stream, s.2.surroundings) with
  | ok answer s' => rfl
  | error e s' => rfl

theorem final_surroundings (request : Request) (s : Watched β × Journal ω) :
    (StreamM.final (ByteStream.perform request) s).2.surroundings =
      ((ByteStream.perform request : StreamM ω β request.Answer).final
        (s.1.stream, s.2.surroundings)).2 := by
  show (StreamM.final (Watched.perform request) s).2.surroundings = _
  unfold StreamM.final Watched.perform
  cases (ByteStream.perform request : StreamM ω β _) (s.1.stream, s.2.surroundings) with
  | ok answer s' => rfl
  | error e s' => rfl

theorem result_perform (request : Request) (s : Watched β × Journal ω) :
    (ByteStream.perform request : StreamM (Journal ω) (Watched β) request.Answer).result s =
      (ByteStream.perform request : StreamM ω β request.Answer).result
        (s.1.stream, s.2.surroundings) := by
  show (Watched.perform request).result s = _
  unfold StreamM.result Watched.perform
  cases (ByteStream.perform request : StreamM ω β _) (s.1.stream, s.2.surroundings) with
  | ok answer s' => rfl
  | error e s' => rfl

/-- The journal holds so many disposes. -/
def Counts (count : Nat) (s : Watched β × Journal ω) : Prop := s.2.calls.count .dispose = count

theorem preserves_counts (count : Nat) :
    ByteStream.Preserves (Journal ω) (Counts count : Watched β × Journal ω → Prop) := by
  intro request hne s hs
  refine StreamM.ends_of_final ?_
  unfold Counts
  rw [calls_final, List.count_cons_of_ne hne]
  exact hs

end Watched

/-! ## Layers -/

section Layers

variable {ω σ α : Type} {ownership : Ownership} {keeps : σ × ω → Prop}

/-- What comes of the dispose of a layer over a stream: that of the dispose of the stream, if it is
owned. -/
def Ownership.disposal [ByteStream ω σ] (ownership : Ownership) (s : σ × ω) :
    Except StreamError Unit × ω :=
  if ownership.isOwner then (ByteStream.dispose : StreamM ω σ Unit).outcome s else (.ok (), s.2)

namespace Passthrough

variable [ByteStream ω σ]

theorem outcome_release (below : σ) (w : ω) :
    release.outcome ((⟨.live below, ownership⟩ : Passthrough σ), w) =
      ownership.disposal (below, w) := by
  cases ownership with
  | borrows => rfl
  | owns =>
    unfold StreamM.outcome StreamM.result StreamM.final release
    unfold Ownership.disposal StreamM.outcome StreamM.result StreamM.final
    simp only [Ownership.isOwner, if_true]
    cases (ByteStream.dispose : StreamM ω σ Unit) (below, w) with
    | ok value s' => rfl
    | error e s' => rfl

theorem outcome_dispose {s : Passthrough σ × ω} (h : Holds ownership keeps s) :
    ∃ below, s.1.slot.get? = some below ∧ keeps (below, s.2) ∧
      (ByteStream.dispose : StreamM ω (Passthrough σ) Unit).outcome s =
        ownership.disposal (below, s.2) := by
  obtain ⟨layer, w⟩ := s
  obtain ⟨below, rfl, hbelow⟩ := h
  exact ⟨below, rfl, hbelow, outcome_release below w⟩

end Passthrough

section

variable [ByteStream ω σ]

theorem Rebased.outcome_dispose (s : Rebased σ × ω) :
    (ByteStream.dispose : StreamM ω (Rebased σ) Unit).outcome s =
      (ByteStream.dispose : StreamM ω (Passthrough σ) Unit).outcome (s.1.base, s.2) :=
  StreamM.outcome_within Rebased.base (fun base layer => { layer with base := base }) _ s

theorem Truncated.outcome_dispose (s : Truncated σ × ω) :
    (ByteStream.dispose : StreamM ω (Truncated σ) Unit).outcome s =
      (ByteStream.dispose : StreamM ω (Passthrough σ) Unit).outcome (s.1.base, s.2) :=
  StreamM.outcome_within Truncated.base (fun base layer => { layer with base := base }) _ s

theorem ReadOnly.outcome_dispose (s : ReadOnly σ × ω) :
    (ByteStream.dispose : StreamM ω (ReadOnly σ) Unit).outcome s =
      (ByteStream.dispose : StreamM ω (Passthrough σ) Unit).outcome (s.1.base, s.2) :=
  StreamM.outcome_within ReadOnly.base (fun base layer => { layer with base := base }) _ s

end

namespace Cached

variable [Cancellation ω] [ByteStream ω σ]

/-- A cached layer is disposed as the layer that it is built over, and gives up its blocks. -/
theorem dispose_apply (s : Cached σ × ω) :
    (ByteStream.dispose : StreamM ω (Cached σ) Unit) s =
      match onBase ByteStream.dispose s with
      | .ok _ s' => .ok () ({ s'.1 with cache := .empty }, s'.2)
      | .error e s' => .error e ({ s'.1 with cache := .empty }, s'.2) := by
  show release s = _
  unfold release
  rw [StreamM.bind_apply]
  unfold StreamM.attempt
  cases (onBase ByteStream.dispose : StreamM ω (Cached σ) Unit) s with
  | ok value s' => rfl
  | error e s' => rfl

theorem outcome_dispose (s : Cached σ × ω) :
    (ByteStream.dispose : StreamM ω (Cached σ) Unit).outcome s =
      (ByteStream.dispose : StreamM ω (Passthrough σ) Unit).outcome (s.1.base, s.2) := by
  rw [← StreamM.outcome_within Cached.base fun base layer => { layer with base := base }]
  show _ = (onBase ByteStream.dispose).outcome s
  unfold StreamM.outcome StreamM.result StreamM.final
  rw [dispose_apply]
  cases (onBase ByteStream.dispose : StreamM ω (Cached σ) Unit) s with
  | ok value s' => rfl
  | error e s' => rfl

theorem cache_final_dispose (s : Cached σ × ω) :
    ((ByteStream.dispose : StreamM ω (Cached σ) Unit).final s).1.cache = .empty := by
  unfold StreamM.final
  rw [dispose_apply]
  cases (onBase ByteStream.dispose : StreamM ω (Cached σ) Unit) s with
  | ok value s' => rfl
  | error e s' => rfl

end Cached

namespace LayerKind

/-- A layer that was disposed. A window may be the stream itself, and is none of these. -/
def Closed : (kind : LayerKind) → kind.Over σ → Prop
  | passthrough, layer => Passthrough.isDisposed layer = true
  | rebased, layer => (Rebased.base layer).isDisposed = true
  | truncated, layer => (Truncated.base layer).isDisposed = true
  | readOnly, layer => (ReadOnly.base layer).isDisposed = true
  | cached, layer => (Cached.base layer).isDisposed = true ∧ Cached.cache layer = .empty
  | window, _ => False

variable [Cancellation ω] [ByteStream ω σ]

/-- A dispose goes down to the stream that is owned, and no further than a layer that borrows. -/
theorem outcome_dispose (kind : LayerKind) {s : kind.Over σ × ω}
    (h : kind.Holds ownership keeps s) :
    ∃ below, kind.below? s.1 = some below ∧ keeps (below, s.2) ∧
      (ByteStream.dispose : StreamM ω (kind.Over σ) Unit).outcome s =
        ownership.disposal (below, s.2) := by
  cases kind with
  | passthrough => exact Passthrough.outcome_dispose h
  | rebased =>
    obtain ⟨below, hbelow, hkeeps, houtcome⟩ := Passthrough.outcome_dispose h
    exact ⟨below, hbelow, hkeeps, (Rebased.outcome_dispose s).trans houtcome⟩
  | truncated =>
    obtain ⟨below, hbelow, hkeeps, houtcome⟩ := Passthrough.outcome_dispose h
    exact ⟨below, hbelow, hkeeps, (Truncated.outcome_dispose s).trans houtcome⟩
  | readOnly =>
    obtain ⟨below, hbelow, hkeeps, houtcome⟩ := Passthrough.outcome_dispose h
    exact ⟨below, hbelow, hkeeps, (ReadOnly.outcome_dispose s).trans houtcome⟩
  | cached =>
    obtain ⟨below, hbelow, hkeeps, houtcome⟩ := Passthrough.outcome_dispose h
    exact ⟨below, hbelow, hkeeps, (Cached.outcome_dispose s).trans houtcome⟩
  | window => exact h.elim

theorem closed_dispose {kind : LayerKind} (hne : kind ≠ .window) (s : kind.Over σ × ω) :
    kind.Closed ((ByteStream.dispose : StreamM ω (kind.Over σ) Unit).final s).1 := by
  cases kind with
  | passthrough => exact (Passthrough.refuses.dispose s).final
  | rebased => exact (Rebased.refuses.dispose s).final
  | truncated => exact (Truncated.refuses.dispose s).final
  | readOnly => exact (ReadOnly.refuses.dispose s).final
  | cached => exact ⟨(Cached.refuses.dispose s).final, Cached.cache_final_dispose s⟩
  | window => exact absurd rfl hne

/-- A dispose of a layer that was disposed is granted, and does nothing. -/
theorem dispose_of_closed {kind : LayerKind} {s : kind.Over σ × ω} (h : kind.Closed s.1) :
    (ByteStream.dispose : StreamM ω (kind.Over σ) Unit) s = .ok () s := by
  cases kind with
  | passthrough =>
    obtain ⟨⟨slot, ownership⟩, w⟩ := s
    cases slot with
    | live stream => cases h
    | disposed => rfl
  | rebased =>
    obtain ⟨⟨⟨slot, ownership⟩, origin⟩, w⟩ := s
    cases slot with
    | live stream => cases h
    | disposed => rfl
  | truncated =>
    obtain ⟨⟨⟨slot, ownership⟩, origin, maxLength, cursor⟩, w⟩ := s
    cases slot with
    | live stream => cases h
    | disposed => rfl
  | readOnly =>
    obtain ⟨⟨⟨slot, ownership⟩⟩, w⟩ := s
    cases slot with
    | live stream => cases h
    | disposed => rfl
  | cached =>
    obtain ⟨⟨⟨slot, ownership⟩, cache, cursor⟩, w⟩ := s
    obtain ⟨hdisposed, rfl⟩ := h
    cases slot with
    | live stream => cases hdisposed
    | disposed => rfl
  | window => exact h.elim

theorem silent_of_closed {kind : LayerKind} {s : kind.Over σ × ω} (h : kind.Closed s.1) :
    ∃ early, Silent (ω := ω) early s := by
  cases kind with
  | passthrough => exact ⟨_, Passthrough.refuses.silent s h⟩
  | rebased => exact ⟨_, Rebased.refuses.silent s h⟩
  | truncated => exact ⟨_, Truncated.refuses.silent s h⟩
  | readOnly => exact ⟨_, ReadOnly.refuses.silent s h⟩
  | cached => exact ⟨_, Cached.refuses.silent s h.1⟩
  | window => exact h.elim

/-- No request to a layer that was disposed changes anything. -/
theorem final_of_closed {kind : LayerKind} {s : kind.Over σ × ω} (h : kind.Closed s.1)
    (request : Request) :
    (ByteStream.perform request : StreamM ω (kind.Over σ) request.Answer).final s = s := by
  by_cases hdispose : request = .dispose
  · subst hdispose
    exact StreamM.final_of_eq_ok (dispose_of_closed h)
  · obtain ⟨early, hsilent⟩ := silent_of_closed h
    obtain ⟨e, heq, -⟩ := hsilent.refuse request hdispose
    exact StreamM.final_of_eq_error heq

omit [Cancellation ω] [ByteStream ω σ] in
theorem below?_of_closed {kind : LayerKind} {layer : kind.Over σ} (h : kind.Closed layer) :
    kind.below? layer = none := by
  cases kind with
  | passthrough => exact Slot.get?_of_isDisposed h
  | rebased => exact Slot.get?_of_isDisposed h
  | truncated => exact Slot.get?_of_isDisposed h
  | readOnly => exact Slot.get?_of_isDisposed h
  | cached => exact Slot.get?_of_isDisposed h.1
  | window => exact h.elim

end LayerKind

end Layers

/-! ## Stacks -/

namespace Stack

variable {ω β : Type}

/-- The base of a stack, unless a layer over it was disposed. -/
def base? : (kinds : List LayerKind) → Stack kinds β → Option β
  | [], base => some base
  | kind :: kinds, layer => (kind.below? layer).bind (base? kinds)

/-- A stack of open layers with their flags over a base of which `keeps` holds, the outermost
first. -/
def Holds (keeps : β × ω → Prop) :
    (kinds : List LayerKind) → List Ownership → Stack kinds β × ω → Prop
  | [], [], s => keeps s
  | kind :: kinds, ownership :: flags, s => kind.Holds ownership (Holds keeps kinds flags) s
  | _, _, _ => False

/-- A stack of layers that are all open, with their flags, the outermost first. -/
def Open (flags : List Ownership) (kinds : List LayerKind) (s : Stack kinds β × ω) : Prop :=
  Holds (fun _ => True) kinds flags s

/-- Whether every layer owns what is below. -/
def allOwn (flags : List Ownership) : Bool := flags.all Ownership.isOwner

variable {keeps keeps' : β × ω → Prop}

theorem Holds.mono : ∀ {kinds : List LayerKind} {flags : List Ownership} {s : Stack kinds β × ω},
    Holds keeps kinds flags s → (∀ base, keeps (base, s.2) → keeps' (base, s.2)) →
    Holds keeps' kinds flags s
  | [], [], s, h, hkeeps => hkeeps s.1 h
  | kind :: _, _ :: _, _, h, hkeeps =>
    LayerKind.Holds.mono kind h fun _ hbelow => Holds.mono hbelow hkeeps
  | [], _ :: _, _, h, _ => h.elim
  | _ :: _, [], _, h, _ => h.elim

variable [Cancellation ω] [ByteStream ω β]

theorem preserves (h : ByteStream.Preserves ω keeps) : ∀ kinds flags,
    ByteStream.Preserves ω (Holds keeps kinds flags)
  | [], [] => h
  | kind :: kinds, _ :: flags => kind.preserves (preserves h kinds flags)
  | [], _ :: _ => fun _ _ _ hs => hs.elim
  | _ :: _, [] => fun _ _ _ hs => hs.elim

/-- A dispose of a stack is one of its base if every layer owns what is below, and otherwise none.
-/
theorem outcome_dispose : ∀ {kinds : List LayerKind} {flags : List Ownership}
    {s : Stack kinds β × ω}, Holds keeps kinds flags s →
    ∃ base, base? kinds s.1 = some base ∧ keeps (base, s.2) ∧
      (ByteStream.dispose : StreamM ω (Stack kinds β) Unit).outcome s =
        if allOwn flags then (ByteStream.dispose : StreamM ω β Unit).outcome (base, s.2)
        else (.ok (), s.2)
  | [], [], s, h => ⟨s.1, rfl, h, rfl⟩
  | kind :: kinds, ownership :: flags, s, h => by
    obtain ⟨below, hbelow, hholds, houter⟩ := LayerKind.outcome_dispose kind h
    obtain ⟨base, hbase, hkeeps, hinner⟩ := outcome_dispose hholds
    refine ⟨base, ?_, hkeeps, ?_⟩
    · show (kind.below? s.1).bind (base? kinds) = some base
      rw [hbelow]
      exact hbase
    · cases ownership with
      | borrows => exact houter
      | owns => exact houter.trans hinner
  | [], _ :: _, _, h => h.elim
  | _ :: _, [], _, h => h.elim

omit [Cancellation ω] [ByteStream ω β] in
theorem Holds.ne_window {kind : LayerKind} {kinds : List LayerKind} {flags : List Ownership}
    {s : Stack (kind :: kinds) β × ω} (h : Holds keeps (kind :: kinds) flags s) :
    kind ≠ .window := by
  cases flags with
  | nil => exact h.elim
  | cons ownership flags =>
    intro hwindow
    subst hwindow
    exact h.elim

/-- The induction is on the requests, none of which is a dispose. -/
theorem Holds.after {kinds : List LayerKind} {flags : List Ownership} {s : Stack kinds β × ω}
    (h : Holds keeps kinds flags s) (hpreserves : ByteStream.Preserves ω keeps)
    {requests : List Request} (hmem : .dispose ∉ requests) :
    Holds keeps kinds flags (ByteStream.after requests s) := by
  refine ByteStream.after_induction ?_ h
  intro request hrequest s hs
  have hne : request ≠ .dispose := fun heq => hmem (heq ▸ hrequest)
  exact preserves hpreserves kinds flags request hne s hs

/-! ## Runs -/

section Runs

variable {kind : LayerKind} {kinds : List LayerKind} {flags : List Ownership}
  {requests : List Request}

theorem after_of_closed {s : Stack (kind :: kinds) β × ω} (h : kind.Closed s.1)
    (requests : List Request) : ByteStream.after requests s = s := by
  induction requests with
  | nil => rfl
  | cons request requests ih =>
    have hfinal := LayerKind.final_of_closed h request
    rw [ByteStream.after_cons]
    exact (congrArg (ByteStream.after requests) hfinal).trans ih

/-- Only what comes before the first dispose, and the dispose itself, leave a trace. -/
theorem exists_after_eq (hne : kind ≠ .window) (s : Stack (kind :: kinds) β × ω)
    (hmem : .dispose ∈ requests) :
    ∃ before, .dispose ∉ before ∧ ByteStream.after requests s =
      (ByteStream.dispose : StreamM ω (Stack (kind :: kinds) β) Unit).final
        (ByteStream.after before s) := by
  obtain ⟨before, rest, heq, hbefore⟩ := List.eq_append_cons_of_mem hmem
  refine ⟨before, hbefore, ?_⟩
  rw [heq, ByteStream.after_append, ByteStream.after_cons]
  exact after_of_closed (LayerKind.closed_dispose hne _) rest

end Runs

section Counts

variable {kinds : List LayerKind} {flags : List Ownership} {count : Nat}
  {s : Stack kinds (Watched β) × Journal ω}

/-- A dispose of a stack enters one dispose in the journal of the base, or none. -/
theorem count_final_dispose (h : Holds (Watched.Counts count) kinds flags s) :
    (StreamM.final ByteStream.dispose s).2.calls.count .dispose =
      count + if allOwn flags then 1 else 0 := by
  obtain ⟨base, -, hcount, houtcome⟩ := outcome_dispose h
  show ((StreamM.outcome ByteStream.dispose s).2).calls.count .dispose = _
  rw [houtcome]
  split
  · show (StreamM.final ByteStream.dispose (base, s.2)).2.calls.count .dispose = _
    rw [ByteStream.dispose, Watched.calls_final, List.count_cons_self]
    exact congrArg (· + 1) hcount
  · exact hcount

theorem count_of_holds (h : Holds (Watched.Counts count) kinds flags s) :
    s.2.calls.count .dispose = count := by
  obtain ⟨_, -, hcount, -⟩ := outcome_dispose h
  exact hcount

theorem result_dispose (h : Holds (Watched.Counts count) kinds flags s) :
    ∃ base, base? kinds s.1 = some base ∧ StreamM.result ByteStream.dispose s =
      if allOwn flags then
        (ByteStream.dispose : StreamM ω β Unit).result (base.stream, s.2.surroundings)
      else .ok () := by
  obtain ⟨base, hbase, -, houtcome⟩ := outcome_dispose h
  refine ⟨base, hbase, ?_⟩
  show (StreamM.outcome ByteStream.dispose s).1 = _
  rw [houtcome]
  split
  · exact Watched.result_perform .dispose (base, s.2)
  · rfl

end Counts

end Stack

/-- **Disposal goes down a stack exactly as its flags say.** The base of a stack of open layers
receives a dispose if the stack does and every layer owns what is below, and never a second one. The
first dispose of the stack then ends as that of the base does. From then on a dispose is granted,
the stack holds no stream any more, and nothing that is asked of it changes anything or is entered
in the journal. The base may be a stack itself, so that the journal is that of the stream right
below a layer. -/
theorem Stack.dispose_cascades {ω β : Type} [Cancellation ω] [ByteStream ω β] {kind : LayerKind}
    {kinds : List LayerKind} {flags : List Ownership}
    {s₀ : Stack (kind :: kinds) (Watched β) × Journal ω}
    (hopen : Stack.Open flags (kind :: kinds) s₀) {requests : List Request}
    {s : Stack (kind :: kinds) (Watched β) × Journal ω} (hs : s = ByteStream.after requests s₀) :
    s.2.calls.count .dispose = s₀.2.calls.count .dispose +
        (if .dispose ∈ requests ∧ Stack.allOwn flags = true then 1 else 0) ∧
      (.dispose ∉ requests → ∃ base, Stack.base? (kind :: kinds) s.1 = some base ∧
        StreamM.result ByteStream.dispose s =
          if Stack.allOwn flags then
            (ByteStream.dispose : StreamM ω β Unit).result (base.stream, s.2.surroundings)
          else .ok ()) ∧
      (.dispose ∈ requests → kind.below? s.1 = none ∧
        StreamM.result ByteStream.dispose s = .ok () ∧
        ∀ request : Request, StreamM.final (ByteStream.perform request) s = s) := by
  subst hs
  have hcounts :
      Stack.Holds (Watched.Counts (s₀.2.calls.count .dispose)) (kind :: kinds) flags s₀ :=
    hopen.mono fun _ _ => rfl
  have hafter : ∀ before : List Request, .dispose ∉ before → Stack.Holds
      (Watched.Counts (s₀.2.calls.count .dispose)) (kind :: kinds) flags
      (ByteStream.after before s₀) :=
    fun before hbefore => hcounts.after (Watched.preserves_counts _) hbefore
  by_cases hmem : .dispose ∈ requests
  · obtain ⟨before, hbefore, heq⟩ := Stack.exists_after_eq hopen.ne_window s₀ hmem
    have hcount := Stack.count_final_dispose (hafter before hbefore)
    have hclosed := LayerKind.closed_dispose hopen.ne_window (ByteStream.after before s₀)
    refine ⟨?_, fun hnot => absurd hmem hnot, fun _ => ?_⟩
    · rw [heq]
      simpa only [hmem, true_and] using hcount
    · rw [heq]
      refine ⟨LayerKind.below?_of_closed hclosed, ?_, LayerKind.final_of_closed hclosed⟩
      exact StreamM.result_of_eq_ok (LayerKind.dispose_of_closed hclosed)
  · refine ⟨?_, fun _ => Stack.result_dispose (hafter requests hmem), fun h => absurd h hmem⟩
    rw [Stack.count_of_holds (hafter requests hmem), if_neg fun h => hmem h.1]
    rfl

/-- A probe that fails to be disposed. -/
def failingProbe : Probe where
  scripted := .ofContent [1, 2, 3] none ⟨[("dispose", [.fail (.refusal .overflow)])]⟩ 0
  claimedLength := none
  offers _ := true
  limits _ := none
  disposed := false

/-- A cached layer over a rebased one over that probe, both owned. -/
def ownedProbe : Stack [.cached, .rebased] (Watched Probe) × Journal Surroundings :=
  let rebased : Rebased (Watched Probe) := ⟨.ofStream ⟨failingProbe⟩ .owns, 0⟩
  (⟨.ofStream rebased .owns, .empty, 0⟩, ⟨[], .initial⟩)

/-- The failure of the probe comes out of the first dispose, and the probe receives no other. -/
theorem ownedProbe_dispose :
    StreamM.result ByteStream.dispose (ByteStream.after [.length] ownedProbe) =
        .error (.refusal .overflow) ∧
      StreamM.result ByteStream.dispose (ByteStream.after [.length, .dispose] ownedProbe) = .ok () ∧
      (ByteStream.after [.length, .dispose, .dispose] ownedProbe).2.calls.count .dispose = 1 := by
  have hopen : Stack.Open [.owns, .owns] [.cached, .rebased] ownedProbe :=
    ⟨_, rfl, _, rfl, trivial⟩
  refine ⟨?_, ?_, ?_⟩
  · have hs : ByteStream.after [.length] ownedProbe = ByteStream.after [.length] ownedProbe := rfl
    obtain ⟨base, hbase, hresult⟩ := (Stack.dispose_cascades hopen hs).2.1 (by decide)
    rw [hresult]
    cases hbase
    rfl
  · exact ((Stack.dispose_cascades hopen rfl).2.2 (by decide)).2.1
  · exact (Stack.dispose_cascades hopen rfl).1

end LayeredStreams
