import LayeredStreams.Proofs.CachedLoading
import LayeredStreams.Proofs.FickleBase
import LayeredStreams.Proofs.Preserved

/-!
# Requests that fail with the base

A request to a stack makes one call of the base after the other. As soon as one of them is made to
fail, the request ends with its error, and nothing shows of the calls before: the cursors that the
caller sees stay, and so do the blocks of the outermost cached layer.

* `Withstands drifted shown` — a stream that is left `shown` by a request that fails with the base,
  and `drifted` by any other that explores it.
* `LayerKind.Drifted`, `Stack.Drifted` — the same layers, with cursors at other places and perhaps
  with more blocks.
* `LayerKind.Shown`, `Stack.Shown` — the same layers, cursors and blocks down to the outermost
  cached layer, over layers that drifted.

Principal results: `LayerKind.withstands` (a layer over a stream that withstands does so as well)
and `Stack.withstands`.
-/

set_option autoImplicit false

namespace LayeredStreams

/-- A stream that is left `shown` when a call of the base is made to fail, and `drifted` when it is
explored; where it only asks where it stands, it stays as it is. -/
structure Withstands {σ : Type} [ByteStream Fate σ] (drifted shown : σ → σ → Prop) : Prop where
  shown_self : ∀ stream, shown stream stream
  drifted_of_shown : ∀ {stream stream'}, shown stream stream' → drifted stream stream'
  drifted_trans : ∀ {first second third}, drifted first second → drifted second third →
    drifted first third
  query : ∀ {request : Request}, request.isQuery = true → ∀ start stream,
    StreamM.Endures start (· = stream) (· = stream) (· = stream)
      (ByteStream.perform request : StreamM Fate σ request.Answer)
  explore : ∀ {request : Request}, request.explores = true → ∀ start stream,
    StreamM.Endures start (· = stream) (drifted · stream) (shown · stream)
      (ByteStream.perform request : StreamM Fate σ request.Answer)

theorem Fickle.withstands : Withstands Fickle.Drifted (fun base base' => base = base') where
  shown_self _ := rfl
  drifted_of_shown := by
    rintro base _ rfl
    rfl
  drifted_trans := by
    intro first second third hfirst hsecond
    unfold Fickle.Drifted at hfirst hsecond ⊢
    rw [← hsecond, ← hfirst]
  query hquery _ _ := Fickle.endures_query hquery
  explore hexplores _ _ := Fickle.endures_explore hexplores

namespace Withstands

variable {σ : Type} [ByteStream Fate σ] {drifted shown : σ → σ → Prop}
  (h : Withstands drifted shown)
include h

theorem drifted_self (stream : σ) : drifted stream stream :=
  h.drifted_of_shown (h.shown_self stream)

/-- **A request that makes a call that is made to fail ends with its error**, the call is the last
one, and the stream is left `shown`. -/
theorem of_failure {request : Request} (hexplores : request.explores = true) (s : σ × Fate)
    {calls : List FickleCall}
    (hcalls : ((ByteStream.perform request).final s).2.calls = calls ++ s.2.calls)
    {call : FickleCall} (hmem : call ∈ calls) {e : StreamError} (hfailure : call.failure = some e) :
    (ByteStream.perform request).result s = .error e ∧
      Fate.Struck e s.2 ((ByteStream.perform request).final s).2 ∧
      shown ((ByteStream.perform request).final s).1 s.1 := by
  have hends := h.explore hexplores s.2 s.1 s s.2.calm_self rfl
  unfold StreamM.Ends at hends
  cases heq : (ByteStream.perform request : StreamM Fate σ request.Answer) s with
  | ok value s' =>
    rw [heq] at hends
    rw [StreamM.final_of_eq_ok heq] at hcalls
    have hnone := hends.1.failure_eq_none hcalls hmem
    rw [hfailure] at hnone
    cases hnone
  | error e' s' =>
    rw [heq] at hends
    rw [StreamM.final_of_eq_error heq] at hcalls ⊢
    rw [StreamM.result_of_eq_error heq]
    rcases hends with hcalm | hstruck
    · have hnone := hcalm.1.failure_eq_none hcalls hmem
      rw [hfailure] at hnone
      cases hnone
    · have he := hstruck.1.failure_eq hcalls hmem hfailure
      subst he
      exact ⟨rfl, hstruck.1, hstruck.2⟩

/-- What has drifted is explored on. -/
theorem explore_drifted {request : Request} (hexplores : request.explores = true) (start : Fate)
    (stream : σ) :
    StreamM.Endures start (drifted · stream) (drifted · stream) (drifted · stream)
      (ByteStream.perform request : StreamM Fate σ request.Answer) := by
  intro s hcalm hs
  have hmoved : StreamM.Endures start (· = s.1) (drifted · stream) (drifted · stream)
      (ByteStream.perform request : StreamM Fate σ request.Answer) :=
    (h.explore hexplores start s.1).mono (fun _ hdrifted => h.drifted_trans hdrifted hs)
      fun _ hshown => h.drifted_trans (h.drifted_of_shown hshown) hs
  exact hmoved s hcalm rfl

/-- A fill ends as soon as a call is made to fail, and says so. The induction is on the reads that
are left. -/
theorem ends_fillWithin (mode : Mode) (start : Fate) (stream : σ) :
    ∀ (reads room : Nat) (s : σ × Fate), start.Calm s.2 → drifted s.1 stream →
      (fillWithin mode reads room : StreamM Fate σ Filled).Ends s
        (fun filled s' => drifted s'.1 stream ∧
          (start.Calm s'.2 ∨ ∃ e, filled.failure = some e ∧ Fate.Struck e start s'.2))
        fun _ _ => False
  | 0, _, s, hcalm, hs => ⟨hs, Or.inl hcalm⟩
  | reads + 1, room, s, hcalm, hs => by
    have hread : StreamM.Endures start (drifted · stream) (drifted · stream) (drifted · stream)
        (readAdmitted mode room : StreamM Fate σ Bytes) :=
      (StreamM.endures_of_final mode.final_admission).bind (fun _ h => h) fun _ =>
        h.explore_drifted (show (Request.read mode room).explores = true from rfl) start stream
    unfold fillWithin
    split
    · exact ⟨hs, Or.inl hcalm⟩
    refine ((hread s hcalm hs).attempt.mono (fun _ _ h => h) fun _ _ h => h.elim).bind ?_
    intro outcome s' hout
    split
    · rcases hout with hout | hout
      · exact ⟨hout.2, Or.inl hout.1⟩
      · exact ⟨hout.2, Or.inr ⟨_, rfl, hout.1⟩⟩
    · exact ⟨hout.2, Or.inl hout.1⟩
    · refine (ends_fillWithin mode start stream reads _ s' hout.1 hout.2).bind ?_
      exact fun filled s'' hfilled => hfilled

/-- To read a block moves the stream, and ends as soon as a call is made to fail. -/
theorem endures_fetchBelow (mode : Mode) (index : BlockIndex) (start : Fate) (stream : σ) :
    StreamM.Endures start (drifted · stream) (drifted · stream) (drifted · stream)
      (Cached.fetchBelow mode index : StreamM Fate σ Bytes) := by
  have hseek := h.explore_drifted
    (show (Request.seek (.fromStart index.start)).explores = true from rfl) start stream
  refine hseek.bind (fun _ h => h) fun _ s hcalm hs => ?_
  refine ((h.ends_fillWithin mode start stream _ _ s hcalm hs).mono (fun _ _ h => h)
    fun _ _ h => h.elim).bind ?_
  intro filled s' hout
  unfold Filled.outcome
  cases hfailure : filled.failure with
  | none =>
    rcases hout.2 with hcalm' | ⟨e, he, -⟩
    · exact ⟨hcalm', hout.1⟩
    · rw [hfailure] at he
      cases he
  | some e =>
    rcases hout.2 with hcalm' | ⟨e', he, hstruck⟩
    · exact Or.inl ⟨hcalm', hout.1⟩
    · rw [hfailure] at he
      cases he
      exact Or.inr ⟨hstruck, hout.1⟩

theorem endures_bring (mode : Mode) (index : BlockIndex) (start : Fate) (stream : σ) :
    StreamM.Endures start (· = stream) (drifted · stream) (drifted · stream)
      (Cached.bring mode index : StreamM Fate σ (Option Bytes)) := by
  have hself : ∀ stream', stream' = stream → drifted stream' stream := by
    rintro stream' rfl
    exact h.drifted_self stream'
  have hlength := (h.query (show Request.length.isQuery = true from rfl) start stream).mono
    (fun _ h => h) hself
  refine hlength.bind hself fun size => ?_
  split
  · exact StreamM.endures_pure hself _
  unfold BlockCache.placeOf
  split
  · exact StreamM.endures_pure hself _
  · refine StreamM.Endures.bind ((h.endures_fetchBelow mode index start stream).of_pre hself)
      (fun _ h => h) fun data => ?_
    exact StreamM.endures_pure (fun _ h => h) _

end Withstands

/-! ## Layers -/

/-- Two slots that both hold values of which `beside` holds, or both none. -/
inductive Slot.Beside {α : Type} (beside : α → α → Prop) : Slot α → Slot α → Prop
  | live {value value' : α} (h : beside value value') : Beside beside (.live value) (.live value')
  | disposed : Beside beside .disposed .disposed

section Layers

variable {σ α : Type} {drifted shown : σ → σ → Prop} {start : Fate}

namespace Passthrough

/-- Two layers of one ownership, both open over streams of which `beside` holds or both disposed. -/
def Beside (beside : σ → σ → Prop) (layer layer' : Passthrough σ) : Prop :=
  layer.ownership = layer'.ownership ∧ Slot.Beside beside layer.slot layer'.slot

theorem eq_of_beside {layer layer' : Passthrough σ}
    (h : Beside (fun stream stream' => stream = stream') layer layer') : layer = layer' := by
  obtain ⟨slot, ownership⟩ := layer
  obtain ⟨slot', ownership'⟩ := layer'
  obtain ⟨rfl, hslot⟩ := h
  cases hslot with
  | live heq => rw [heq]
  | disposed => rfl

theorem beside_self {beside : σ → σ → Prop} (h : ∀ stream, beside stream stream)
    (layer : Passthrough σ) : Beside beside layer layer := by
  obtain ⟨slot, ownership⟩ := layer
  cases slot with
  | live stream => exact ⟨rfl, .live (h stream)⟩
  | disposed => exact ⟨rfl, .disposed⟩

theorem Beside.mono {beside beside' : σ → σ → Prop} {layer layer' : Passthrough σ}
    (h : Beside beside layer layer')
    (himp : ∀ {stream stream'}, beside stream stream' → beside' stream stream') :
    Beside beside' layer layer' := by
  obtain ⟨slot, ownership⟩ := layer
  obtain ⟨slot', ownership'⟩ := layer'
  obtain ⟨rfl, hslot⟩ := h
  cases hslot with
  | live h => exact ⟨rfl, .live (himp h)⟩
  | disposed => exact ⟨rfl, .disposed⟩

theorem Beside.trans {beside : σ → σ → Prop} {first second third : Passthrough σ}
    (h : Beside beside first second) (h' : Beside beside second third)
    (trans : ∀ {first second third}, beside first second → beside second third →
      beside first third) : Beside beside first third := by
  obtain ⟨slot, ownership⟩ := first
  obtain ⟨slot', ownership'⟩ := second
  obtain ⟨slot'', ownership''⟩ := third
  obtain ⟨rfl, hslot⟩ := h
  obtain ⟨rfl, hslot'⟩ := h'
  cases hslot with
  | live h =>
    cases hslot' with
    | live h' => exact ⟨rfl, .live (trans h h')⟩
  | disposed => exact ⟨rfl, hslot'⟩

theorem endures_forward {act : StreamM Fate σ α} {mid shown : σ → σ → Prop}
    (h : ∀ stream, StreamM.Endures start (· = stream) (mid · stream) (shown · stream) act)
    (layer : Passthrough σ) :
    StreamM.Endures start (· = layer) (Beside mid · layer) (Beside shown · layer)
      (forward act) := by
  intro s hcalm hs
  obtain ⟨⟨slot, ownership⟩, fate⟩ := s
  subst hs
  cases slot with
  | disposed => exact Or.inl ⟨hcalm, rfl, .disposed⟩
  | live stream =>
    have hact := h stream (stream, fate) hcalm rfl
    unfold StreamM.Ends at hact ⊢
    rw [forward_of_live]
    cases heq : act (stream, fate) with
    | ok value s' =>
      rw [heq] at hact
      exact ⟨hact.1, rfl, .live hact.2⟩
    | error e s' =>
      rw [heq] at hact
      rcases hact with hact | hact
      · exact Or.inl ⟨hact.1, rfl, .live hact.2⟩
      · exact Or.inr ⟨hact.1, rfl, .live hact.2⟩

theorem endures_ensureOpen {pre shown : Passthrough σ → Prop} :
    StreamM.Endures start pre pre shown (ensureOpen : StreamM Fate (Passthrough σ) Unit) :=
  StreamM.endures_of_final ensureOpen_eq

variable [ByteStream Fate σ]

theorem withstands (h : Withstands drifted shown) :
    Withstands (Beside drifted) (Beside shown) where
  shown_self := beside_self h.shown_self
  drifted_of_shown hshown := hshown.mono h.drifted_of_shown
  drifted_trans hfirst hsecond := hfirst.trans hsecond h.drifted_trans
  query {request} hquery start layer := by
    have hforward := endures_forward (fun stream => h.query hquery start stream) layer
    have hquiet : (ByteStream.perform request : StreamM Fate (Passthrough σ) request.Answer) =
        forward (ByteStream.perform request) := by
      cases request with
      | dispose => cases hquery
      | _ => rfl
    rw [hquiet]
    exact hforward.mono (fun _ => eq_of_beside) fun _ => eq_of_beside
  explore {request} hexplores start layer := by
    have hforward := endures_forward (fun stream => h.explore hexplores start stream) layer
    have hquiet : (ByteStream.perform request : StreamM Fate (Passthrough σ) request.Answer) =
        forward (ByteStream.perform request) := by
      cases request with
      | dispose => cases hexplores
      | _ => rfl
    rw [hquiet]
    exact hforward

end Passthrough

end Layers

/-! ## Layers over a part -/

section Parts

variable {σ α : Type} {drifted shown : Passthrough σ → Passthrough σ → Prop} {start : Fate}

namespace Rebased

/-- Two layers of one origin, over parts of which `beside` holds. -/
def Beside (beside : Passthrough σ → Passthrough σ → Prop) (layer layer' : Rebased σ) : Prop :=
  { layer with base := layer'.base } = layer' ∧ beside layer.base layer'.base

theorem eq_of_beside {layer layer' : Rebased σ}
    (h : { layer with base := layer'.base } = layer' ∧ layer.base = layer'.base) :
    layer = layer' := by
  obtain ⟨hrest, hbase⟩ := h
  rw [← hrest, ← hbase]

theorem endures_onBase {act : StreamM Fate (Passthrough σ) α} {layer : Rebased σ}
    {mid shown : Passthrough σ → Prop}
    (h : StreamM.Endures start (· = layer.base) mid shown act) :
    StreamM.Endures start (· = layer)
      (fun layer' => { layer' with base := layer.base } = layer ∧ mid layer'.base)
      (fun layer' => { layer' with base := layer.base } = layer ∧ shown layer'.base) (onBase act) :=
  h.within_of (fun layer' : Rebased σ => { layer' with base := layer.base } = layer) rfl
    (fun _ _ => rfl) fun _ _ h => h

variable {pre mid shown' : Rebased σ → Prop}

theorem endures_toBase (hmid : ∀ layer, pre layer → mid layer) (position : Nat) :
    StreamM.Endures start pre mid shown' (toBase position : StreamM Fate (Rebased σ) Nat) := by
  refine StreamM.endures_state_bind fun layer hlayer => ?_
  dsimp only
  split
  · exact StreamM.endures_pure (fun _ heq => heq ▸ hmid layer hlayer) _
  · exact StreamM.endures_refuse (fun _ heq => heq ▸ hmid layer hlayer) _

theorem endures_fromBase (hmid : ∀ layer, pre layer → mid layer) (place : Nat) :
    StreamM.Endures start pre mid shown' (fromBase place : StreamM Fate (Rebased σ) Nat) := by
  refine StreamM.endures_state_bind fun layer hlayer => ?_
  dsimp only
  split
  · exact StreamM.endures_pure (fun _ heq => heq ▸ hmid layer hlayer) _
  · exact StreamM.endures_refuse (fun _ heq => heq ▸ hmid layer hlayer) _

theorem endures_ensureFromOrigin (hmid : ∀ layer, pre layer → mid layer) (place : Int) :
    StreamM.Endures start pre mid shown'
      (ensureFromOrigin place : StreamM Fate (Rebased σ) Unit) := by
  refine StreamM.endures_state_bind fun layer hlayer => ?_
  dsimp only
  split
  · exact StreamM.endures_refuse (fun _ heq => heq ▸ hmid layer hlayer) _
  · exact StreamM.endures_pure (fun _ heq => heq ▸ hmid layer hlayer) _

variable [ByteStream Fate σ]

theorem endures_query (h : Withstands drifted shown) {request : Request}
    (hquery : request.isQuery = true) (layer : Rebased σ) :
    StreamM.Endures start (· = layer) (· = layer) (· = layer)
      (onBase (ByteStream.perform request) : StreamM Fate (Rebased σ) request.Answer) :=
  (endures_onBase (h.query hquery start layer.base)).mono (fun _ => eq_of_beside)
    fun _ => eq_of_beside

theorem endures_targetBelow (h : Withstands drifted shown) (target : SeekTarget)
    (layer : Rebased σ) :
    StreamM.Endures start (· = layer) (· = layer) (· = layer)
      (targetBelow target : StreamM Fate (Rebased σ) SeekTarget) := by
  have hsame : ∀ layer' : Rebased σ, layer' = layer → layer' = layer := fun _ h => h
  cases target with
  | fromStart offset =>
    exact (endures_toBase hsame offset).bind hsame fun _ => StreamM.endures_pure hsame _
  | fromCurrent offset =>
    refine (endures_query h (show Request.position.isQuery = true from rfl) layer).bind hsame
      fun place => ?_
    exact (endures_ensureFromOrigin hsame _).bind hsame fun _ => StreamM.endures_pure hsame _
  | fromEnd offset =>
    refine (endures_query h (show Request.length.isQuery = true from rfl) layer).bind hsame
      fun size => ?_
    exact (endures_ensureFromOrigin hsame _).bind hsame fun _ => StreamM.endures_pure hsame _

theorem endures_perform_query (h : Withstands drifted shown) {request : Request}
    (hquery : request.isQuery = true) (layer : Rebased σ) :
    StreamM.Endures start (· = layer) (· = layer) (· = layer)
      (ByteStream.perform request : StreamM Fate (Rebased σ) request.Answer) := by
  have hsame : ∀ layer' : Rebased σ, layer' = layer → layer' = layer := fun _ h => h
  cases request with
  | position =>
    exact (endures_query h hquery layer).bind hsame fun place => endures_fromBase hsame place
  | length =>
    refine (endures_query h hquery layer).bind hsame fun size => ?_
    exact StreamM.endures_state_bind fun _ heq =>
      StreamM.endures_pure (fun _ heq' => heq'.trans heq) _
  | _ => cases hquery

theorem withstands (h : Withstands drifted shown) :
    Withstands (Beside drifted) (Beside shown) where
  shown_self layer := ⟨rfl, h.shown_self layer.base⟩
  drifted_of_shown hshown := ⟨hshown.1, h.drifted_of_shown hshown.2⟩
  drifted_trans := by
    rintro first second third ⟨hfirst, hdrifted⟩ ⟨hsecond, hdrifted'⟩
    refine ⟨?_, h.drifted_trans hdrifted hdrifted'⟩
    rw [← hsecond, ← hfirst]
  query hquery _ layer := endures_perform_query h hquery layer
  explore {request} hexplores start layer := by
    have hself : ∀ layer' : Rebased σ, layer' = layer → Beside drifted layer' layer := by
      rintro layer' rfl
      exact ⟨rfl, h.drifted_self layer'.base⟩
    have hshown : ∀ layer' : Rebased σ, layer' = layer → Beside shown layer' layer := by
      rintro layer' rfl
      exact ⟨rfl, h.shown_self layer'.base⟩
    have honBase : ∀ {request : Request}, request.explores = true →
        StreamM.Endures start (· = layer) (Beside drifted · layer) (Beside shown · layer)
          (onBase (ByteStream.perform request) : StreamM Fate (Rebased σ) request.Answer) :=
      fun hexplores => endures_onBase (h.explore hexplores start layer.base)
    cases request with
    | position => exact (endures_perform_query h rfl layer).mono hself hshown
    | length => exact (endures_perform_query h rfl layer).mono hself hshown
    | setPosition target =>
      refine (endures_toBase (fun _ h => h) target).bind hself fun place => ?_
      exact honBase (show (Request.setPosition place).explores = true from rfl)
    | seek target =>
      refine ((endures_targetBelow h target layer).mono (fun _ h => h) hshown).bind hself
        fun below => ?_
      refine (honBase (show (Request.seek below).explores = true from rfl)).bind (fun _ h => h)
        fun place => ?_
      exact endures_fromBase (fun _ h => h) place
    | read mode room => exact honBase hexplores
    | readByte => exact honBase hexplores
    | _ => cases hexplores

end Rebased

namespace ReadOnly

/-- Two layers over parts of which `beside` holds. -/
def Beside (beside : Passthrough σ → Passthrough σ → Prop) (layer layer' : ReadOnly σ) : Prop :=
  beside layer.base layer'.base

theorem endures_onBase {act : StreamM Fate (Passthrough σ) α} {layer : ReadOnly σ}
    {mid shown : Passthrough σ → Prop}
    (h : StreamM.Endures start (· = layer.base) mid shown act) :
    StreamM.Endures start (· = layer) (fun layer' => mid layer'.base)
      (fun layer' => shown layer'.base) (onBase act) :=
  (h.within_of (fun _ : ReadOnly σ => True) trivial (fun _ _ => rfl) fun _ _ h => h).mono
    (fun _ h => h.2) fun _ h => h.2

theorem withstands [ByteStream Fate σ] (h : Withstands drifted shown) :
    Withstands (Beside drifted) (Beside shown) where
  shown_self layer := h.shown_self layer.base
  drifted_of_shown hshown := h.drifted_of_shown hshown
  drifted_trans hfirst hsecond := h.drifted_trans hfirst hsecond
  query {request} hquery start layer := by
    have hmutates := Request.mutates_of_explores (Request.explores_of_isQuery hquery)
    have heq : ∀ layer' : ReadOnly σ, layer'.base = layer.base → layer' = layer := by
      rintro ⟨base⟩ rfl
      rfl
    show StreamM.Endures _ _ _ _ (onBase (Passthrough.performUnless request.mutates request))
    rw [hmutates]
    exact (endures_onBase (h.query hquery start layer.base)).mono heq heq
  explore {request} hexplores start layer := by
    show StreamM.Endures _ _ _ _ (onBase (Passthrough.performUnless request.mutates request))
    rw [Request.mutates_of_explores hexplores]
    exact endures_onBase (h.explore hexplores start layer.base)

end ReadOnly

namespace Truncated

/-- Two layers of the same stretch and cursor, over parts of which `beside` holds. -/
def Beside (beside : Passthrough σ → Passthrough σ → Prop) (layer layer' : Truncated σ) : Prop :=
  { layer with base := layer'.base } = layer' ∧ beside layer.base layer'.base

/-- Two layers of the same stretch, over parts that drifted. -/
def Drifted (drifted : Passthrough σ → Passthrough σ → Prop) (layer layer' : Truncated σ) : Prop :=
  { layer with base := layer'.base, cursor := layer'.cursor } = layer' ∧
    drifted layer.base layer'.base

theorem drifted_of_beside {layer layer' : Truncated σ} (h : Beside drifted layer layer') :
    Drifted drifted layer layer' := by
  obtain ⟨hrest, hdrifted⟩ := h
  refine ⟨?_, hdrifted⟩
  rw [← hrest]

theorem eq_of_beside {layer layer' : Truncated σ}
    (h : { layer with base := layer'.base } = layer' ∧ layer.base = layer'.base) :
    layer = layer' := by
  obtain ⟨hrest, hbase⟩ := h
  rw [← hrest, ← hbase]

theorem endures_onBase {act : StreamM Fate (Passthrough σ) α} {layer : Truncated σ}
    {mid shown : Passthrough σ → Prop}
    (h : StreamM.Endures start (· = layer.base) mid shown act) :
    StreamM.Endures start (· = layer)
      (fun layer' => { layer' with base := layer.base } = layer ∧ mid layer'.base)
      (fun layer' => { layer' with base := layer.base } = layer ∧ shown layer'.base) (onBase act) :=
  h.within_of (fun layer' : Truncated σ => { layer' with base := layer.base } = layer) rfl
    (fun _ _ => rfl) fun _ _ h => h

variable {shown' : Truncated σ → Prop} {layer : Truncated σ}

theorem endures_moveTo (place : Nat) :
    StreamM.Endures start (Drifted drifted · layer) (Drifted drifted · layer) shown'
      (moveTo place : StreamM Fate (Truncated σ) Unit) :=
  StreamM.endures_update fun _ h => h

theorem endures_advance (count : Nat) :
    StreamM.Endures start (Drifted drifted · layer) (Drifted drifted · layer) shown'
      (advance count : StreamM Fate (Truncated σ) Unit) :=
  StreamM.endures_update fun _ h => h

variable [ByteStream Fate σ]

theorem endures_visibleLength (h : Withstands drifted shown) (layer : Truncated σ) :
    StreamM.Endures start (· = layer) (· = layer) (· = layer)
      (visibleLength : StreamM Fate (Truncated σ) Nat) := by
  have hlength := endures_onBase
    (h.query (show Request.length.isQuery = true from rfl) start layer.base)
  refine (hlength.mono (fun _ => eq_of_beside) fun _ => eq_of_beside).bind (fun _ h => h)
    fun size => ?_
  exact StreamM.endures_state_bind fun _ heq =>
    StreamM.endures_pure (fun _ heq' => heq'.trans heq) _

theorem endures_targetBelow (h : Withstands drifted shown) (target : SeekTarget)
    (layer : Truncated σ) :
    StreamM.Endures start (· = layer) (· = layer) (· = layer)
      (targetBelow target : StreamM Fate (Truncated σ) SeekTarget) := by
  have hsame : ∀ layer' : Truncated σ, layer' = layer → layer' = layer := fun _ h => h
  cases target with
  | fromStart offset => exact StreamM.endures_pure hsame _
  | fromCurrent offset => exact StreamM.endures_pure hsame _
  | fromEnd offset =>
    refine (endures_visibleLength h layer).bind hsame fun visible => ?_
    refine (StreamM.endures_ofExcept hsame _).bind hsame fun place => ?_
    exact StreamM.endures_state_bind fun _ heq =>
      StreamM.endures_pure (fun _ heq' => heq'.trans heq) _

theorem endures_perform_query (h : Withstands drifted shown) {request : Request}
    (hquery : request.isQuery = true) (layer : Truncated σ) :
    StreamM.Endures start (· = layer) (· = layer) (· = layer)
      (ByteStream.perform request : StreamM Fate (Truncated σ) request.Answer) := by
  cases request with
  | position =>
    exact (endures_onBase (h.query hquery start layer.base)).mono (fun _ => eq_of_beside)
      fun _ => eq_of_beside
  | length => exact endures_visibleLength h layer
  | _ => cases hquery

/-- What is explored below leaves the layer shown where it fails with the base. -/
theorem endures_explore_onBase (h : Withstands drifted shown) {request : Request}
    (hexplores : request.explores = true) (layer : Truncated σ) :
    StreamM.Endures start (· = layer) (Drifted drifted · layer) (Beside shown · layer)
      (onBase (ByteStream.perform request) : StreamM Fate (Truncated σ) request.Answer) :=
  (endures_onBase (h.explore hexplores start layer.base)).mono (fun _ => drifted_of_beside)
    fun _ h => h

theorem drifted_of_eq (h : Withstands drifted shown) (layer layer' : Truncated σ)
    (heq : layer = layer') : Drifted drifted layer layer' := by
  subst heq
  exact ⟨rfl, h.drifted_self layer.base⟩

theorem shown_of_eq (h : Withstands drifted shown) (layer layer' : Truncated σ)
    (heq : layer = layer') : Beside shown layer layer' := by
  subst heq
  exact ⟨rfl, h.shown_self layer.base⟩

theorem endures_read (h : Withstands drifted shown) (mode : Mode) (room : Nat)
    (layer : Truncated σ) :
    StreamM.Endures start (· = layer) (Drifted drifted · layer) (Beside shown · layer)
      (Truncated.read mode room : StreamM Fate (Truncated σ) Bytes) := by
  refine StreamM.endures_state_bind fun layer' heq => ?_
  subst heq
  have hread : (Request.read mode (min room layer'.remaining)).explores = true := rfl
  refine (endures_explore_onBase h hread layer').bind (fun _ h => h) fun bytes => ?_
  exact (endures_advance bytes.length).bind (fun _ h => h) fun _ =>
    StreamM.endures_pure (fun _ h => h) _

theorem endures_readByte (h : Withstands drifted shown) (layer : Truncated σ) :
    StreamM.Endures start (· = layer) (Drifted drifted · layer) (Beside shown · layer)
      (Truncated.readByte : StreamM Fate (Truncated σ) (Option UInt8)) := by
  have hensure : StreamM.Endures start (· = layer.base) (· = layer.base) (· = layer.base)
      (Passthrough.ensureOpen : StreamM Fate (Passthrough σ) Unit) :=
    Passthrough.endures_ensureOpen
  have hopen := (endures_onBase hensure).mono (fun _ => eq_of_beside)
    fun layer' heq => shown_of_eq h layer' layer (eq_of_beside heq)
  refine hopen.bind (fun layer' => drifted_of_eq h layer' layer) fun _ => ?_
  refine StreamM.endures_state_bind fun layer' heq => ?_
  subst heq
  dsimp only
  split
  · exact StreamM.endures_pure (fun layer => drifted_of_eq h layer layer') _
  have hread : Request.readByte.explores = true := rfl
  refine (endures_explore_onBase h hread layer').bind (fun _ h => h) fun byte => ?_
  split
  · exact (endures_advance 1).bind (fun _ h => h) fun _ => StreamM.endures_pure (fun _ h => h) _
  · exact StreamM.endures_pure (fun _ h => h) _

theorem withstands (h : Withstands drifted shown) :
    Withstands (Drifted drifted) (Beside shown) where
  shown_self layer := shown_of_eq h layer layer rfl
  drifted_of_shown hshown := drifted_of_beside ⟨hshown.1, h.drifted_of_shown hshown.2⟩
  drifted_trans := by
    rintro first second third ⟨hfirst, hdrifted⟩ ⟨hsecond, hdrifted'⟩
    refine ⟨?_, h.drifted_trans hdrifted hdrifted'⟩
    rw [← hsecond, ← hfirst]
  query hquery _ layer := endures_perform_query h hquery layer
  explore {request} hexplores start layer := by
    have hself := fun layer' => drifted_of_eq h layer' layer
    have hshown := fun layer' => shown_of_eq h layer' layer
    cases request with
    | position => exact (endures_perform_query h rfl layer).mono hself hshown
    | length => exact (endures_perform_query h rfl layer).mono hself hshown
    | setPosition target =>
      exact (endures_explore_onBase h hexplores layer).bind (fun _ h => h) fun _ =>
        endures_moveTo target
    | seek target =>
      refine ((endures_targetBelow h target layer).mono (fun _ h => h) hshown).bind hself
        fun below => ?_
      have hseek : (Request.seek below).explores = true := rfl
      refine (endures_explore_onBase h hseek layer).bind (fun _ h => h) fun place => ?_
      exact (endures_moveTo place).bind (fun _ h => h) fun _ =>
        StreamM.endures_pure (fun _ h => h) _
    | read mode room => exact endures_read h mode room layer
    | readByte => exact endures_readByte h layer
    | _ => cases hexplores

end Truncated

end Parts

/-! ## Cached layers -/

namespace BlockCache

variable {cache : BlockCache} {index : BlockIndex} {bytes : Bytes}

theorem block?_install_of_some (h : cache.block? index = some bytes) (other : BlockIndex)
    (data : Bytes) (filled : Nat) :
    (cache.install other data filled).block? index = some bytes := by
  by_cases hword : other.value < maxWord
  · rw [block?_install _ _ _ _ _ hword]
    split
    · rename_i heq
      subst heq
      rw [h, Option.getD_some]
    · exact h
  · rw [install_of_not_lt hword]
    exact h

/-- To take a block in keeps the blocks that are there. -/
theorem block?_taking_of_some (h : cache.block? index = some bytes) (offset : Nat)
    (brought : Option Bytes) : (cache.taking offset brought).block? index = some bytes := by
  cases brought with
  | none => exact h
  | some data =>
    refine block?_install_of_some ?_ _ data data.length
    rw [block?_missingBlock]
    exact h

end BlockCache

namespace Cached

variable {σ : Type} {start : Fate}

section Parts

variable {drifted : Passthrough σ → Passthrough σ → Prop}

/-- A layer that kept the blocks of another, and perhaps has more, over a part that drifted. -/
def Drifted (drifted : Passthrough σ → Passthrough σ → Prop) (layer layer' : Cached σ) : Prop :=
  (∀ index data, layer'.cache.block? index = some data → layer.cache.block? index = some data) ∧
    drifted layer.base layer'.base

/-- Two layers of the same cursor and blocks, over parts of which `beside` holds. -/
def Beside (beside : Passthrough σ → Passthrough σ → Prop) (layer layer' : Cached σ) : Prop :=
  (layer.cursor = layer'.cursor ∧ ∀ index, layer.cache.block? index = layer'.cache.block? index) ∧
    beside layer.base layer'.base

theorem drifted_of_beside {layer layer' : Cached σ} (h : Beside drifted layer layer') :
    Drifted drifted layer layer' :=
  ⟨fun index _ hdata => (h.1.2 index).trans hdata, h.2⟩

theorem beside_self (h : ∀ base, drifted base base) (layer : Cached σ) :
    Beside drifted layer layer :=
  ⟨⟨rfl, fun _ => rfl⟩, h layer.base⟩

theorem endures_onBase {α : Type} {act : StreamM Fate (Passthrough σ) α}
    {pre mid shown : Passthrough σ → Prop} (layer : Cached σ)
    (h : StreamM.Endures start pre mid shown act) :
    StreamM.Endures start
      (fun layer' => { layer' with base := layer.base } = layer ∧ pre layer'.base)
      (fun layer' => { layer' with base := layer.base } = layer ∧ mid layer'.base)
      (fun layer' => { layer' with base := layer.base } = layer ∧ shown layer'.base) (onBase act) :=
  h.within (fun layer' : Cached σ => { layer' with base := layer.base } = layer)
    (fun _ _ => rfl) fun _ _ h => h

theorem eq_of_base {layer layer' : Cached σ}
    (h : { layer with base := layer'.base } = layer' ∧ layer.base = layer'.base) :
    layer = layer' := by
  obtain ⟨hrest, hbase⟩ := h
  rw [← hrest, ← hbase]

theorem beside_of_base {layer layer' : Cached σ}
    (h : { layer with base := layer'.base } = layer' ∧ drifted layer.base layer'.base) :
    Beside drifted layer layer' := by
  obtain ⟨hrest, hbase⟩ := h
  refine ⟨?_, hbase⟩
  rw [← hrest]
  exact ⟨rfl, fun _ => rfl⟩

/-- What leaves the part as it is leaves the layer as it is. -/
theorem endures_onBase_self {α : Type} {act : StreamM Fate (Passthrough σ) α} (layer : Cached σ)
    (h : StreamM.Endures start (· = layer.base) (· = layer.base) (· = layer.base) act) :
    StreamM.Endures start (· = layer) (· = layer) (· = layer) (onBase act) := by
  have hpart : StreamM.Endures start (· = layer)
      (fun layer' => { layer' with base := layer.base } = layer ∧ layer'.base = layer.base)
      (fun layer' => { layer' with base := layer.base } = layer ∧ layer'.base = layer.base)
      (onBase act) :=
    h.within_of (fun layer' : Cached σ => { layer' with base := layer.base } = layer) rfl
      (fun _ _ => rfl) fun _ _ hrest => by exact hrest
  exact hpart.mono (fun _ => eq_of_base) fun _ => eq_of_base

theorem endures_ensureOpen (layer : Cached σ) :
    StreamM.Endures start (· = layer) (· = layer) (· = layer)
      (onBase Passthrough.ensureOpen : StreamM Fate (Cached σ) Unit) :=
  endures_onBase_self layer Passthrough.endures_ensureOpen

theorem endures_moveTo {shown' : Cached σ → Prop} (layer : Cached σ) (place : Nat) :
    StreamM.Endures start (Drifted drifted · layer) (Drifted drifted · layer) shown'
      (moveTo place : StreamM Fate (Cached σ) Unit) :=
  StreamM.endures_update fun _ h => h

theorem endures_serve {shown' : Cached σ → Prop} (layer : Cached σ) (room : Nat) :
    StreamM.Endures start (Drifted drifted · layer) (Drifted drifted · layer) shown'
      (serve room : StreamM Fate (Cached σ) Bytes) := by
  refine StreamM.endures_state_bind fun layer' hlayer => ?_
  refine StreamM.Endures.of_pre ?_ fun _ heq => heq ▸ hlayer
  exact (endures_moveTo layer _).bind (fun _ h => h) fun _ => StreamM.endures_pure (fun _ h => h) _

theorem endures_serveByte {shown' : Cached σ → Prop} (layer : Cached σ) :
    StreamM.Endures start (Drifted drifted · layer) (Drifted drifted · layer) shown'
      (serveByte : StreamM Fate (Cached σ) (Option UInt8)) := by
  refine StreamM.endures_state_bind fun layer' hlayer => ?_
  refine StreamM.Endures.of_pre ?_ fun _ heq => heq ▸ hlayer
  dsimp only
  split
  · exact (endures_moveTo layer _).bind (fun _ h => h) fun _ =>
      StreamM.endures_pure (fun _ h => h) _
  · exact StreamM.endures_pure (fun _ h => h) _

end Parts

variable [ByteStream Fate σ] {drifted shown : σ → σ → Prop}

/-- A load that fails with the base leaves the blocks and the cursor as they were. -/
theorem endures_load (h : Withstands drifted shown) (mode : Mode) (layer : Cached σ) :
    StreamM.Endures start (· = layer) (Drifted (Passthrough.Beside drifted) · layer)
      (Beside (Passthrough.Beside drifted) · layer) (load mode : StreamM Fate (Cached σ) Unit) := by
  intro s hcalm hs
  obtain ⟨⟨⟨slot, ownership⟩, cache, cursor⟩, fate⟩ := s
  subst hs
  have hself := beside_self (Passthrough.beside_self h.drifted_self)
    ⟨⟨slot, ownership⟩, cache, cursor⟩
  cases slot with
  | disposed => exact Or.inl ⟨hcalm, drifted_of_beside hself⟩
  | live stream =>
    cases hloaded : cache.isLoaded (.containing cursor) with
    | true =>
      refine StreamM.ends_of_eq_ok (load_of_loaded hloaded mode stream fate) ?_
      exact ⟨hcalm, drifted_of_beside hself⟩
    | false =>
      have hbring := h.endures_bring mode (.containing cursor) start stream (stream, fate) hcalm rfl
      refine StreamM.Ends.mono (ends_load_of_not_loaded hloaded hbring) ?_ ?_
      · rintro _ ⟨layer', fate'⟩ ⟨brought, below', rfl, hcalm', hdrifted⟩
        exact ⟨hcalm', fun index data hdata => BlockCache.block?_taking_of_some hdata cursor
          brought,
          rfl, .live hdrifted⟩
      · rintro e ⟨layer', fate'⟩ ⟨cache', below', rfl, hcache, hout⟩
        have hblocks : ∀ index, cache'.block? index = cache.block? index := by
          rcases hcache with rfl | rfl
          · exact fun _ => rfl
          · exact BlockCache.block?_missingBlock cache cursor
        have hshown : drifted below' stream → Beside (Passthrough.Beside drifted)
            (opened ownership cache' cursor below') ⟨⟨.live stream, ownership⟩, cache, cursor⟩ :=
          fun hdrifted => ⟨⟨rfl, hblocks⟩, rfl, .live hdrifted⟩
        rcases hout with hout | hout
        · exact Or.inl ⟨hout.1, drifted_of_beside (hshown hout.2)⟩
        · exact Or.inr ⟨hout.1, hshown hout.2⟩

theorem endures_query (h : Withstands drifted shown) {request : Request}
    (hquery : request.isQuery = true) (layer : Cached σ) :
    StreamM.Endures start (· = layer) (· = layer) (· = layer)
      (ByteStream.perform request : StreamM Fate (Cached σ) request.Answer) := by
  cases request with
  | position =>
    refine (endures_ensureOpen layer).bind (fun _ h => h) fun _ => ?_
    exact StreamM.endures_state_bind fun _ heq =>
      StreamM.endures_pure (fun _ heq' => heq'.trans heq) _
  | length =>
    exact endures_onBase_self layer ((Passthrough.withstands h).query hquery start layer.base)
  | _ => cases hquery

/-- A seek takes the stream below to the cursor, and from there to its target. -/
theorem endures_seek (h : Withstands drifted shown) (target : SeekTarget) (layer : Cached σ) :
    StreamM.Endures start (· = layer) (Drifted (Passthrough.Beside drifted) · layer)
      (Beside (Passthrough.Beside drifted) · layer)
      (Cached.seek target : StreamM Fate (Cached σ) Nat) := by
  refine StreamM.endures_state_bind fun layer' heq => ?_
  subst heq
  have hbelow := Passthrough.withstands h
  have hplace := endures_onBase layer' (hbelow.explore_drifted
    (show (Request.setPosition layer'.cursor).explores = true from rfl) start layer'.base)
  have hmove := endures_onBase layer' (hbelow.explore_drifted
    (show (Request.seek target).explores = true from rfl) start layer'.base)
  have hstart : ∀ layer : Cached σ, layer = layer' →
      { layer with base := layer'.base } = layer' ∧
        Passthrough.Beside drifted layer.base layer'.base := by
    rintro layer rfl
    exact ⟨rfl, hbelow.drifted_self layer.base⟩
  refine StreamM.Endures.bind
    ((hplace.mono (fun _ h => h) fun _ => beside_of_base).of_pre hstart)
    (fun _ hmid => drifted_of_beside (beside_of_base hmid)) fun _ => ?_
  refine (hmove.mono (fun _ hmid => drifted_of_beside (beside_of_base hmid))
    fun _ => beside_of_base).bind (fun _ h => h) fun place => ?_
  exact (endures_moveTo layer' place).bind (fun _ h => h) fun _ =>
    StreamM.endures_pure (fun _ h => h) _

/-- A cached layer hides where the stream below stands from the caller. -/
theorem withstands (h : Withstands drifted shown) :
    Withstands (Drifted (Passthrough.Beside drifted)) (Beside (Passthrough.Beside drifted)) where
  shown_self := beside_self (Passthrough.beside_self h.drifted_self)
  drifted_of_shown := drifted_of_beside
  drifted_trans := by
    rintro first second third ⟨hfirst, hdrifted⟩ ⟨hsecond, hdrifted'⟩
    refine ⟨fun index data hdata => hfirst index data (hsecond index data hdata), ?_⟩
    exact hdrifted.trans hdrifted' h.drifted_trans
  query hquery _ layer := endures_query h hquery layer
  explore {request} hexplores start layer := by
    have hshown : ∀ layer' : Cached σ, layer' = layer →
        Beside (Passthrough.Beside drifted) layer' layer := by
      rintro layer' rfl
      exact beside_self (Passthrough.beside_self h.drifted_self) layer'
    have hself := fun layer' heq => drifted_of_beside (hshown layer' heq)
    cases request with
    | position => exact (endures_query h rfl layer).mono hself hshown
    | length => exact (endures_query h rfl layer).mono hself hshown
    | setPosition target =>
      refine ((endures_ensureOpen layer).mono (fun _ h => h) hshown).bind hself fun _ => ?_
      exact (endures_moveTo layer target).of_pre hself
    | seek target => exact endures_seek h target layer
    | read mode room =>
      exact (endures_load h mode layer).bind (fun _ h => h) fun _ => endures_serve layer room
    | readByte =>
      exact (endures_load h .blocking layer).bind (fun _ h => h) fun _ => endures_serveByte layer
    | _ => cases hexplores

end Cached

/-! ## Stacks -/

namespace LayerKind

variable {σ : Type}

/-- Two layers of a kind over streams that drifted: where a layer keeps a cursor of its own, it may
be at another place, and a cached layer may have more blocks than the second one. -/
def Drifted (drifted : σ → σ → Prop) : (kind : LayerKind) → kind.Over σ → kind.Over σ → Prop
  | passthrough => Passthrough.Beside drifted
  | rebased => Rebased.Beside (Passthrough.Beside drifted)
  | truncated => Truncated.Drifted (Passthrough.Beside drifted)
  | readOnly => ReadOnly.Beside (Passthrough.Beside drifted)
  | cached => Cached.Drifted (Passthrough.Beside drifted)
  | window => fun layer layer' => layer = layer'

/-- Two layers of a kind that show the caller the same, over streams of which `shown` holds. What is
below a cached layer does not show, and may have drifted. -/
def Shown (drifted shown : σ → σ → Prop) : (kind : LayerKind) → kind.Over σ → kind.Over σ → Prop
  | passthrough => Passthrough.Beside shown
  | rebased => Rebased.Beside (Passthrough.Beside shown)
  | truncated => Truncated.Beside (Passthrough.Beside shown)
  | readOnly => ReadOnly.Beside (Passthrough.Beside shown)
  | cached => Cached.Beside (Passthrough.Beside drifted)
  | window => fun layer layer' => layer = layer'

/-- **A layer over a stream that withstands does so as well.** -/
theorem withstands [ByteStream Fate σ] {drifted shown : σ → σ → Prop}
    (h : Withstands drifted shown) :
    ∀ kind : LayerKind, kind ≠ .window → Withstands (kind.Drifted drifted)
      (kind.Shown drifted shown)
  | passthrough, _ => Passthrough.withstands h
  | rebased, _ => Rebased.withstands (Passthrough.withstands h)
  | truncated, _ => Truncated.withstands (Passthrough.withstands h)
  | readOnly, _ => ReadOnly.withstands (Passthrough.withstands h)
  | cached, _ => Cached.withstands h
  | window, hkind => absurd rfl hkind

end LayerKind

namespace Stack

/-- Two stacks of the same layers over the same content, with cursors at other places, where the
cached layers of the first one have the blocks of those of the second one and perhaps more. -/
def Drifted : (kinds : List LayerKind) → Stack kinds Fickle → Stack kinds Fickle → Prop
  | [] => Fickle.Drifted
  | kind :: kinds => kind.Drifted (Drifted kinds)

/-- Two stacks that are the same down to the outermost cached layer, its blocks and its cursor, and
below it drifted. -/
def Shown : (kinds : List LayerKind) → Stack kinds Fickle → Stack kinds Fickle → Prop
  | [] => fun base base' : Fickle => base = base'
  | kind :: kinds => kind.Shown (Drifted kinds) (Shown kinds)

theorem withstands : ∀ {kinds : List LayerKind}, .window ∉ kinds →
    Withstands (Drifted kinds) (Shown kinds)
  | [], _ => Fickle.withstands
  | kind :: _, hkinds =>
    kind.withstands (withstands fun hmem => hkinds (List.mem_cons_of_mem _ hmem))
      fun hkind => hkinds (hkind ▸ List.mem_cons_self)

end Stack

end LayeredStreams
