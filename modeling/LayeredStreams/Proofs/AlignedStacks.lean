import LayeredStreams.Proofs.StrayedCursors

/-!
# Aligned stacks

Two stacks with cached layers may differ below these, in cursors that no request tells apart as long
as the streams can be moved to where the cursors of the layers are.

* `Cached.Strayed` — two cached layers of the same blocks, with the same cursor or two that the
  streams below reach.
* `Window.Paired` — windows of one kind.
* `LayerKind.Strayed`, `LayerKind.Aligned`, `LayerKind.Reaches` and the same for `Stack` — what a
  stack of any layers makes of this.

Principal results: `Cached.settles` (cached layers that strayed agree once they are moved) and
`Stack.agrees_aligned` (no request tells stacks apart that are aligned, however many cached layers
they have).
-/

set_option autoImplicit false

namespace LayeredStreams

/-! ## Cached layers -/

namespace Cached

section Parts

variable {ω σ α : Type} {reaches : Passthrough σ → Nat → Prop}
  {pre good bad beside : Passthrough σ → Passthrough σ → Prop}
  {act act' : StreamM ω (Passthrough σ) α}

/-- Two layers of the same blocks, over parts of which `beside` holds, with the same cursor or two
that the parts reach. -/
def Strayed (reaches : Passthrough σ → Nat → Prop) (beside : Passthrough σ → Passthrough σ → Prop)
    (layer layer' : Cached σ) : Prop :=
  (∀ index, layer.cache.block? index = layer'.cache.block? index) ∧
    beside layer.base layer'.base ∧
    (layer.cursor = layer'.cursor ∨
      reaches layer.base layer.cursor ∧ reaches layer'.base layer'.cursor)

theorem strayed_of_beside {layer layer' : Cached σ} (h : Beside beside layer layer') :
    Strayed reaches beside layer layer' :=
  ⟨h.1.2, h.2, .inl h.1.1⟩

theorem alike_onBase_strayed (h : StreamM.Alike pre good bad act act')
    (hkept : ∀ place, StreamM.Keeps (Amid (reaches · place) fun _ : ω => True) act)
    (hkept' : ∀ place, StreamM.Keeps (Amid (reaches · place) fun _ : ω => True) act') :
    StreamM.Alike (Strayed reaches pre) (Strayed reaches good) (Strayed reaches bad) (onBase act)
      (onBase act') := by
  intro layer layer' w hstrayed
  obtain ⟨hblocks, hpre, hcursors⟩ := hstrayed
  have hcursors' : layer.cursor = layer'.cursor ∨
      reaches (act.final (layer.base, w)).1 layer.cursor ∧
        reaches (act'.final (layer'.base, w)).1 layer'.cursor := by
    apply hcursors.imp_right
    intro hreaches
    exact ⟨(hkept _ (layer.base, w) ⟨hreaches.1, trivial⟩).final.1,
      (hkept' _ (layer'.base, w) ⟨hreaches.2, trivial⟩).final.1⟩
  unfold onBase StreamM.within
  dsimp only
  rcases h.cases hpre w with ⟨_, _, _, _, heq, heq', hgood⟩ | ⟨_, _, _, _, heq, heq', hbad⟩
  · rw [StreamM.final_of_eq_ok heq, StreamM.final_of_eq_ok heq'] at hcursors'
    rw [heq, heq']
    exact ⟨rfl, rfl, hblocks, hgood, hcursors'⟩
  · rw [StreamM.final_of_eq_error heq, StreamM.final_of_eq_error heq'] at hcursors'
    rw [heq, heq']
    exact ⟨rfl, rfl, hblocks, hbad, hcursors'⟩

theorem alike_ensureOpen_of {rel : Cached σ → Cached σ → Prop}
    (h : ∀ {layer layer'}, rel layer layer' → layer.base.isDisposed = layer'.base.isDisposed) :
    StreamM.Alike rel rel rel (onBase Passthrough.ensureOpen : StreamM ω (Cached σ) Unit)
      (onBase Passthrough.ensureOpen) := by
  intro layer layer' w hrel
  have hdisposed := h hrel
  obtain ⟨⟨slot, ownership⟩, cache, cursor⟩ := layer
  obtain ⟨⟨slot', ownership'⟩, cache', cursor'⟩ := layer'
  cases slot with
  | live stream =>
    cases slot' with
    | live stream' => exact ⟨rfl, rfl, hrel⟩
    | disposed => cases hdisposed
  | disposed =>
    cases slot' with
    | live stream' => cases hdisposed
    | disposed => exact ⟨rfl, rfl, hrel⟩

theorem alike_moveTo_strayed (place : Nat) {bad : Cached σ → Cached σ → Prop} :
    StreamM.Alike (Strayed reaches beside) (Beside beside) bad
      (moveTo place : StreamM ω (Cached σ) Unit) (moveTo place) :=
  StreamM.alike_update fun _ _ h => ⟨⟨rfl, h.1⟩, h.2.1⟩

end Parts

variable {ω σ : Type} [ByteStream ω σ] {reaches : σ → Nat → Prop} {strayed agreed : σ → σ → Prop}

omit [ByteStream ω σ] in
theorem isDisposed_eq_of_strayed {layer layer' : Cached σ}
    (h : Strayed (Passthrough.Reaches reaches) (Passthrough.Beside strayed) layer layer') :
    layer.base.isDisposed = layer'.base.isDisposed :=
  Passthrough.isDisposed_eq_of_beside h.2.1

/-- The parts of cached layers that strayed can be taken to the cursors of the layers. -/
theorem alike_setPosition_strayed (h : Settles ω strayed agreed)
    (hreaching : Reaching ω reaches strayed) (place place' : Nat) :
    StreamM.Alike
      (fun layer layer' =>
        Strayed (Passthrough.Reaches reaches) (Passthrough.Beside strayed) layer layer' ∧
          layer.cursor = place ∧ layer'.cursor = place')
      (Strayed (Passthrough.Reaches reaches) (Passthrough.Beside strayed))
      (Strayed (Passthrough.Reaches reaches) (Passthrough.Beside strayed))
      (onBase (ByteStream.setPosition place) : StreamM ω (Cached σ) Unit)
      (onBase (ByteStream.setPosition place')) := by
  intro layer layer' w hpre
  obtain ⟨⟨hblocks, hbeside, hcursors⟩, rfl, rfl⟩ := hpre
  have hbelow := Passthrough.reaching hreaching
  have hkept : ∀ place there : Nat, StreamM.Keeps
      (Amid (Passthrough.Reaches reaches · there) fun _ : ω => True)
      (ByteStream.setPosition place : StreamM ω (Passthrough σ) Unit) :=
    fun place there => hbelow.kept there (.setPosition place) trivial
  rcases hcursors with hsame | hreaches
  · have hset := ((Passthrough.settles h).setPosition layer'.cursor).mono
      (fun _ _ hagreed => (Passthrough.settles h).drifted_of_agreed hagreed) fun _ _ h => h
    rw [hsame]
    exact alike_onBase_strayed hset (hkept _) (hkept _) layer layer' w
      ⟨hblocks, hbeside, .inl hsame⟩
  · have hset := hbelow.setPosition layer.cursor layer'.cursor
    exact alike_onBase_strayed hset (hkept _) (hkept _) layer layer' w
      ⟨hblocks, ⟨hbeside, hreaches.1, hreaches.2⟩, .inr hreaches⟩

/-- A seek from the start takes the parts to the cursors, and from there to the same place. -/
theorem alike_seek_strayed (h : Settles ω strayed agreed) (hreaching : Reaching ω reaches strayed)
    (offset : Nat) :
    StreamM.Alike (Strayed (Passthrough.Reaches reaches) (Passthrough.Beside strayed))
      (Beside (Passthrough.Beside strayed))
      (Strayed (Passthrough.Reaches reaches) (Passthrough.Beside strayed))
      (Cached.seek (.fromStart offset) : StreamM ω (Cached σ) Nat)
      (Cached.seek (.fromStart offset)) := by
  have hkept : ∀ there : Nat, StreamM.Keeps
      (Amid (Passthrough.Reaches reaches · there) fun _ : ω => True)
      (ByteStream.seek (.fromStart offset) : StreamM ω (Passthrough σ) Nat) :=
    fun there => (Passthrough.reaching hreaching).kept there (.seek (.fromStart offset)) trivial
  apply StreamM.alike_state_bind_self
  intro layer layer' hstrayed
  have hset := alike_setPosition_strayed h hreaching layer.cursor layer'.cursor
  refine StreamM.Alike.bind (hset.of_pre ?_) ?_
  · intro _ _ hstates
    obtain ⟨rfl, rfl⟩ := hstates
    exact ⟨hstrayed, rfl, rfl⟩
  intro _
  apply (alike_onBase_strayed ((Passthrough.settles h).seek offset) hkept hkept).bind
  intro place
  have hmoved : StreamM.Alike
      (Strayed (Passthrough.Reaches reaches) (Passthrough.Beside agreed))
      (Beside (Passthrough.Beside agreed))
      (Strayed (Passthrough.Reaches reaches) (Passthrough.Beside strayed))
      (moveTo place : StreamM ω (Cached σ) Unit) (moveTo place) := alike_moveTo_strayed place
  exact (hmoved.mono (beside_of_agreed h) fun _ _ h => h).bind fun _ =>
    StreamM.alike_pure (fun _ _ h => h) place

theorem alike_release_strayed (h : Settles ω strayed agreed)
    (hreaching : Reaching ω reaches strayed) :
    StreamM.Alike (Strayed (Passthrough.Reaches reaches) (Passthrough.Beside strayed))
      (Strayed (Passthrough.Reaches reaches) (Passthrough.Beside strayed))
      (Strayed (Passthrough.Reaches reaches) (Passthrough.Beside strayed))
      (release : StreamM ω (Cached σ) Unit) release := by
  have hkept := fun there => (Passthrough.reaching hreaching).kept there .dispose trivial
  have hdispose := alike_onBase_strayed ((Passthrough.settles h).still .dispose rfl) hkept hkept
  apply hdispose.attempt.bind
  intro outcome
  have hcleared : StreamM.Alike
      (Strayed (Passthrough.Reaches reaches) (Passthrough.Beside strayed))
      (Strayed (Passthrough.Reaches reaches) (Passthrough.Beside strayed))
      (Strayed (Passthrough.Reaches reaches) (Passthrough.Beside strayed))
      (updateCache BlockCache.clear : StreamM ω (Cached σ) Unit) (updateCache BlockCache.clear) :=
    StreamM.alike_update fun _ _ hstrayed => ⟨fun _ => rfl, hstrayed.2⟩
  apply hcleared.bind
  intro _
  exact StreamM.alike_settle (fun _ _ h => h) (fun _ _ h => h) outcome

variable [Cancellation ω]

/-- **Cached layers that strayed agree once they are moved.** -/
theorem settles (h : Settles ω strayed agreed) (hreaching : Reaching ω reaches strayed) :
    Settles ω (Strayed (Passthrough.Reaches reaches) (Passthrough.Beside strayed))
      (Beside (Passthrough.Beside strayed)) where
  drifted_self layer := ⟨fun _ => rfl, (Passthrough.settles h).drifted_self layer.base, .inl rfl⟩
  drifted_of_agreed := strayed_of_beside
  looks {layer layer'} hstrayed w := by
    obtain ⟨hdisposed, hcan⟩ := (Passthrough.settles h).looks hstrayed.2.1 w
    refine ⟨hdisposed, ?_⟩
    intro capability
    exact congrArg (capability != .writing && ·) (hcan capability)
  setPosition target := by
    apply (alike_ensureOpen_of fun hstrayed => isDisposed_eq_of_strayed hstrayed).bind
    intro _
    exact alike_moveTo_strayed target
  seek offset := alike_seek_strayed h hreaching offset
  still request hkeeps := by
    have hpassed : ∀ request : Request, request.keepsPlace = true → request.mutates = false →
        StreamM.Alike (Strayed (Passthrough.Reaches reaches) (Passthrough.Beside strayed))
          (Strayed (Passthrough.Reaches reaches) (Passthrough.Beside strayed))
          (Strayed (Passthrough.Reaches reaches) (Passthrough.Beside strayed))
          (onBase (Passthrough.performUnless request.mutates request) :
            StreamM ω (Cached σ) request.Answer)
          (onBase (Passthrough.performUnless request.mutates request)) := by
      intro request hkeeps hmutates
      rw [hmutates]
      have hkept := fun there => (Passthrough.reaching hreaching).kept there request trivial
      exact alike_onBase_strayed ((Passthrough.settles h).still request hkeeps) hkept hkept
    cases request with
    | length => exact hpassed .length rfl rfl
    | flush mode => exact hpassed (.flush mode) rfl rfl
    | timeout direction => exact hpassed (.timeout direction) rfl rfl
    | setTimeout direction limit => exact hpassed (.setTimeout direction limit) rfl rfl
    | dispose => exact alike_release_strayed h hreaching
    | _ => cases hkeeps
  agrees := Cached.agrees h

theorem reaching (hreaching : Reaching ω reaches strayed) :
    Reaching ω (fun (layer : Cached σ) place => Passthrough.Reaches reaches layer.base place)
      (Strayed (Passthrough.Reaches reaches) (Passthrough.Beside strayed)) where
  trans {first second third} hfirst hsecond := by
    have hbelow := Passthrough.reaching hreaching
    obtain ⟨hblocks, hbeside, hcursors⟩ := hfirst
    obtain ⟨hblocks', hbeside', hcursors'⟩ := hsecond
    refine ⟨fun index => (hblocks index).trans (hblocks' index), hbelow.trans hbeside hbeside', ?_⟩
    rcases hcursors with hsame | hreaches
    · rcases hcursors' with hsame' | hreaches'
      · exact .inl (hsame.trans hsame')
      · rw [hsame]
        exact .inr ⟨(hbelow.reaches_iff hbeside _).mpr hreaches'.1, hreaches'.2⟩
    · rcases hcursors' with hsame' | hreaches'
      · rw [← hsame']
        exact .inr ⟨hreaches.1, (hbelow.reaches_iff hbeside' _).mp hreaches.2⟩
      · exact .inr ⟨hreaches.1, hreaches'.2⟩
  reaches_iff hstrayed place := (Passthrough.reaching hreaching).reaches_iff hstrayed.2.1 place
  kept place := Cached.preservesOn Request.closed_all ((Passthrough.reaching hreaching).kept place)
  setPosition place place' := by
    apply StreamM.Alike.bind ((alike_ensureOpen_of fun hpre =>
      isDisposed_eq_of_strayed hpre.1).mono (fun _ _ hpre => hpre) fun _ _ hpre => hpre.1)
    intro _
    exact StreamM.alike_update fun _ _ hpre =>
      ⟨hpre.1.1, hpre.1.2.1, .inr ⟨hpre.2.1, hpre.2.2⟩⟩

end Cached

/-! ## Windows -/

namespace Window

section Parts

variable {ω σ : Type}

/-- Windows of one kind, over streams or layers of which something holds that depends on the kind.
-/
inductive Paired (stream : σ → σ → Prop) (rebased : Rebased σ → Rebased σ → Prop)
    (truncated : Truncated σ → Truncated σ → Prop)
    (both : Truncated (Rebased σ) → Truncated (Rebased σ) → Prop) : Window σ → Window σ → Prop
  | unwrapped {part part' : σ} (h : stream part part') :
    Paired stream rebased truncated both (.unwrapped part) (.unwrapped part')
  | rebased {layer layer' : Rebased σ} (h : rebased layer layer') :
    Paired stream rebased truncated both (.rebased layer) (.rebased layer')
  | truncated {layer layer' : Truncated σ} (h : truncated layer layer') :
    Paired stream rebased truncated both (.truncated layer) (.truncated layer')
  | rebasedTruncated {layer layer' : Truncated (Rebased σ)} (h : both layer layer') :
    Paired stream rebased truncated both (.rebasedTruncated layer) (.rebasedTruncated layer')

theorem Paired.mono {stream stream' : σ → σ → Prop}
    {rebased rebased' : Rebased σ → Rebased σ → Prop}
    {truncated truncated' : Truncated σ → Truncated σ → Prop}
    {both both' : Truncated (Rebased σ) → Truncated (Rebased σ) → Prop} {window window' : Window σ}
    (h : Paired stream rebased truncated both window window')
    (hstream : ∀ {part part'}, stream part part' → stream' part part')
    (hrebased : ∀ {layer layer'}, rebased layer layer' → rebased' layer layer')
    (htruncated : ∀ {layer layer'}, truncated layer layer' → truncated' layer layer')
    (hboth : ∀ {layer layer'}, both layer layer' → both' layer layer') :
    Paired stream' rebased' truncated' both' window window' := by
  cases h with
  | unwrapped h => exact .unwrapped (hstream h)
  | rebased h => exact .rebased (hrebased h)
  | truncated h => exact .truncated (htruncated h)
  | rebasedTruncated h => exact .rebasedTruncated (hboth h)

end Parts

variable {ω σ : Type} [ByteStream ω σ] {pre₁ good₁ bad₁ : σ → σ → Prop}
  {pre₂ good₂ bad₂ : Rebased σ → Rebased σ → Prop}
  {pre₃ good₃ bad₃ : Truncated σ → Truncated σ → Prop}
  {pre₄ good₄ bad₄ : Truncated (Rebased σ) → Truncated (Rebased σ) → Prop}

theorem alike_perform {request : Request}
    (h₁ : StreamM.Alike pre₁ good₁ bad₁ (ByteStream.perform request : StreamM ω σ request.Answer)
      (ByteStream.perform request))
    (h₂ : StreamM.Alike pre₂ good₂ bad₂
      (ByteStream.perform request : StreamM ω (Rebased σ) request.Answer)
      (ByteStream.perform request))
    (h₃ : StreamM.Alike pre₃ good₃ bad₃
      (ByteStream.perform request : StreamM ω (Truncated σ) request.Answer)
      (ByteStream.perform request))
    (h₄ : StreamM.Alike pre₄ good₄ bad₄
      (ByteStream.perform request : StreamM ω (Truncated (Rebased σ)) request.Answer)
      (ByteStream.perform request)) :
    StreamM.Alike (Paired pre₁ pre₂ pre₃ pre₄) (Paired good₁ good₂ good₃ good₄)
      (Paired bad₁ bad₂ bad₃ bad₄)
      (ByteStream.perform request : StreamM ω (Window σ) request.Answer)
      (ByteStream.perform request) := by
  intro window window' w hpaired
  cases hpaired with
  | unwrapped hpre =>
    exact h₁.carried (f := unwrapped) (fun _ _ => rfl) (fun _ _ => rfl) .unwrapped .unwrapped hpre
      _ _ w ⟨rfl, rfl⟩
  | rebased hpre =>
    exact h₂.carried (f := rebased) (fun _ _ => rfl) (fun _ _ => rfl) .rebased .rebased hpre
      _ _ w ⟨rfl, rfl⟩
  | truncated hpre =>
    exact h₃.carried (f := truncated) (fun _ _ => rfl) (fun _ _ => rfl) .truncated .truncated hpre
      _ _ w ⟨rfl, rfl⟩
  | rebasedTruncated hpre =>
    exact h₄.carried (f := rebasedTruncated) (fun _ _ => rfl) (fun _ _ => rfl) .rebasedTruncated
      .rebasedTruncated hpre _ _ w ⟨rfl, rfl⟩

section Settled

variable {strayed agreed : σ → σ → Prop} {strayed₂ agreed₂ : Rebased σ → Rebased σ → Prop}
  {strayed₃ agreed₃ : Truncated σ → Truncated σ → Prop}
  {strayed₄ agreed₄ : Truncated (Rebased σ) → Truncated (Rebased σ) → Prop}

theorem looksAlike_of_paired
    (h₁ : ∀ {stream stream'}, agreed stream stream' →
      ∀ w : ω, ByteStream.LooksAlike stream stream' w)
    (h₂ : ∀ {layer layer'}, agreed₂ layer layer' → ∀ w : ω, ByteStream.LooksAlike layer layer' w)
    (h₃ : ∀ {layer layer'}, agreed₃ layer layer' → ∀ w : ω, ByteStream.LooksAlike layer layer' w)
    (h₄ : ∀ {layer layer'}, agreed₄ layer layer' → ∀ w : ω, ByteStream.LooksAlike layer layer' w)
    {window window' : Window σ} (h : Paired agreed agreed₂ agreed₃ agreed₄ window window') (w : ω) :
    ByteStream.LooksAlike window window' w := by
  cases h with
  | unwrapped h => exact h₁ h w
  | rebased h => exact h₂ h w
  | truncated h => exact h₃ h w
  | rebasedTruncated h => exact h₄ h w

/-- Windows settle as what they consist of does. -/
theorem settles (h₁ : Settles ω strayed agreed) (h₂ : Settles ω strayed₂ agreed₂)
    (h₃ : Settles ω strayed₃ agreed₃) (h₄ : Settles ω strayed₄ agreed₄) :
    Settles ω (Paired strayed strayed₂ strayed₃ strayed₄)
      (Paired agreed agreed₂ agreed₃ agreed₄) where
  drifted_self window := by
    cases window with
    | unwrapped stream => exact .unwrapped (h₁.drifted_self stream)
    | rebased layer => exact .rebased (h₂.drifted_self layer)
    | truncated layer => exact .truncated (h₃.drifted_self layer)
    | rebasedTruncated layer => exact .rebasedTruncated (h₄.drifted_self layer)
  drifted_of_agreed hpaired := hpaired.mono h₁.drifted_of_agreed h₂.drifted_of_agreed
    h₃.drifted_of_agreed h₄.drifted_of_agreed
  looks hpaired := looksAlike_of_paired h₁.looks h₂.looks h₃.looks h₄.looks hpaired
  setPosition target := alike_perform (h₁.setPosition target) (h₂.setPosition target)
    (h₃.setPosition target) (h₄.setPosition target)
  seek offset := alike_perform (h₁.seek offset) (h₂.seek offset) (h₃.seek offset) (h₄.seek offset)
  still request hkeeps := alike_perform (h₁.still request hkeeps) (h₂.still request hkeeps)
    (h₃.still request hkeeps) (h₄.still request hkeeps)
  agrees :=
    { looks := fun hpaired => looksAlike_of_paired h₁.agrees.looks h₂.agrees.looks h₃.agrees.looks
        h₄.agrees.looks hpaired
      perform := fun request => alike_perform (h₁.agrees.perform request)
        (h₂.agrees.perform request)
        (h₃.agrees.perform request) (h₄.agrees.perform request) }

end Settled

section Reached

variable {reaches₁ : σ → Nat → Prop} {reaches₂ : Rebased σ → Nat → Prop}
  {reaches₃ : Truncated σ → Nat → Prop} {reaches₄ : Truncated (Rebased σ) → Nat → Prop}
  {strayed₁ : σ → σ → Prop} {strayed₂ : Rebased σ → Rebased σ → Prop}
  {strayed₃ : Truncated σ → Truncated σ → Prop}
  {strayed₄ : Truncated (Rebased σ) → Truncated (Rebased σ) → Prop}

/-- A window reaches the places that the stream or the layers reach that it consists of. -/
def Reaches (reaches₁ : σ → Nat → Prop) (reaches₂ : Rebased σ → Nat → Prop)
    (reaches₃ : Truncated σ → Nat → Prop) (reaches₄ : Truncated (Rebased σ) → Nat → Prop) :
    Window σ → Nat → Prop
  | unwrapped stream => reaches₁ stream
  | rebased layer => reaches₂ layer
  | truncated layer => reaches₃ layer
  | rebasedTruncated layer => reaches₄ layer

theorem reaching (h₁ : Reaching ω reaches₁ strayed₁) (h₂ : Reaching ω reaches₂ strayed₂)
    (h₃ : Reaching ω reaches₃ strayed₃) (h₄ : Reaching ω reaches₄ strayed₄) :
    Reaching ω (Reaches reaches₁ reaches₂ reaches₃ reaches₄)
      (Paired strayed₁ strayed₂ strayed₃ strayed₄) where
  trans hfirst hsecond := by
    cases hfirst with
    | unwrapped h =>
      cases hsecond with
      | unwrapped h' => exact .unwrapped (h₁.trans h h')
    | rebased h =>
      cases hsecond with
      | rebased h' => exact .rebased (h₂.trans h h')
    | truncated h =>
      cases hsecond with
      | truncated h' => exact .truncated (h₃.trans h h')
    | rebasedTruncated h =>
      cases hsecond with
      | rebasedTruncated h' => exact .rebasedTruncated (h₄.trans h h')
  reaches_iff hpaired place := by
    cases hpaired with
    | unwrapped h => exact h₁.reaches_iff h place
    | rebased h => exact h₂.reaches_iff h place
    | truncated h => exact h₃.reaches_iff h place
    | rebasedTruncated h => exact h₄.reaches_iff h place
  kept place request _ s hs := by
    obtain ⟨window, w⟩ := s
    cases window with
    | unwrapped stream =>
      exact StreamM.Carries.ends_keeps unwrapped (fun _ _ => rfl) (fun _ h => h)
        (h₁.kept place request trivial (stream, w) hs)
    | rebased layer =>
      exact StreamM.Carries.ends_keeps rebased (fun _ _ => rfl) (fun _ h => h)
        (h₂.kept place request trivial (layer, w) hs)
    | truncated layer =>
      exact StreamM.Carries.ends_keeps truncated (fun _ _ => rfl) (fun _ h => h)
        (h₃.kept place request trivial (layer, w) hs)
    | rebasedTruncated layer =>
      exact StreamM.Carries.ends_keeps rebasedTruncated (fun _ _ => rfl) (fun _ h => h)
        (h₄.kept place request trivial (layer, w) hs)
  setPosition place place' := by
    intro window window' w hpre
    obtain ⟨hpaired, hreaches, hreaches'⟩ := hpre
    cases hpaired with
    | unwrapped h =>
      exact (h₁.setPosition place place').carried (f := unwrapped) (fun _ _ => rfl)
        (fun _ _ => rfl) .unwrapped .unwrapped ⟨h, hreaches, hreaches'⟩ _ _ w ⟨rfl, rfl⟩
    | rebased h =>
      exact (h₂.setPosition place place').carried (f := rebased) (fun _ _ => rfl)
        (fun _ _ => rfl) .rebased .rebased ⟨h, hreaches, hreaches'⟩ _ _ w ⟨rfl, rfl⟩
    | truncated h =>
      exact (h₃.setPosition place place').carried (f := truncated) (fun _ _ => rfl)
        (fun _ _ => rfl) .truncated .truncated ⟨h, hreaches, hreaches'⟩ _ _ w ⟨rfl, rfl⟩
    | rebasedTruncated h =>
      exact (h₄.setPosition place place').carried (f := rebasedTruncated) (fun _ _ => rfl)
        (fun _ _ => rfl) .rebasedTruncated .rebasedTruncated ⟨h, hreaches, hreaches'⟩ _ _ w
        ⟨rfl, rfl⟩

end Reached

end Window

/-! ## Layers of any kind, and stacks -/

namespace LayerKind

variable {ω σ : Type} {reaches : σ → Nat → Prop} {strayed agreed : σ → σ → Prop}

/-- The places that a layer of a kind reaches. -/
def Reaches (reaches : σ → Nat → Prop) : (kind : LayerKind) → kind.Over σ → Nat → Prop
  | passthrough => Passthrough.Reaches reaches
  | rebased => Rebased.Reaches (Passthrough.Reaches reaches)
  | truncated => fun layer : Truncated σ => Passthrough.Reaches reaches layer.base
  | readOnly => fun layer : ReadOnly σ => Passthrough.Reaches reaches layer.base
  | cached => fun layer : Cached σ => Passthrough.Reaches reaches layer.base
  | window => Window.Reaches reaches (Rebased.Reaches (Passthrough.Reaches reaches))
    (fun layer : Truncated σ => Passthrough.Reaches reaches layer.base)
    fun layer : Truncated (Rebased σ) =>
      Passthrough.Reaches (Rebased.Reaches (Passthrough.Reaches reaches)) layer.base

/-- Two layers of a kind with the same blocks, whose cursors may be at different places in range. -/
def Strayed (reaches : σ → Nat → Prop) (strayed : σ → σ → Prop) :
    (kind : LayerKind) → kind.Over σ → kind.Over σ → Prop
  | passthrough => Passthrough.Beside strayed
  | rebased => Rebased.Beside (Passthrough.Beside strayed)
  | truncated => Truncated.Drifted (Passthrough.Beside strayed)
  | readOnly => ReadOnly.Beside (Passthrough.Beside strayed)
  | cached => Cached.Strayed (Passthrough.Reaches reaches) (Passthrough.Beside strayed)
  | window => Window.Paired strayed (Rebased.Beside (Passthrough.Beside strayed))
    (Truncated.Drifted (Passthrough.Beside strayed))
    (Truncated.Drifted (Passthrough.Beside (Rebased.Beside (Passthrough.Beside strayed))))

/-- Two layers of a kind with the same blocks and cursors; below a cached layer the streams may have
strayed. -/
def Aligned (strayed agreed : σ → σ → Prop) : (kind : LayerKind) → kind.Over σ → kind.Over σ → Prop
  | passthrough => Passthrough.Beside agreed
  | rebased => Rebased.Beside (Passthrough.Beside agreed)
  | truncated => Truncated.Beside (Passthrough.Beside agreed)
  | readOnly => ReadOnly.Beside (Passthrough.Beside agreed)
  | cached => Cached.Beside (Passthrough.Beside strayed)
  | window => Window.Paired agreed (Rebased.Beside (Passthrough.Beside agreed))
    (Truncated.Beside (Passthrough.Beside agreed))
    (Truncated.Beside (Passthrough.Beside (Rebased.Beside (Passthrough.Beside agreed))))

variable [Cancellation ω] [ByteStream ω σ]

/-- **Layers of any kind that strayed agree once they are moved.** -/
theorem settles_strayed (h : Settles ω strayed agreed) (hreaching : Reaching ω reaches strayed)
    (kind : LayerKind) :
    Settles ω (kind.Strayed reaches strayed) (kind.Aligned strayed agreed) := by
  have hbase := Passthrough.settles h
  have hrebased := Rebased.settles hbase
  have htruncated := Truncated.settles hbase (Passthrough.alike_ensureOpen agreed)
  cases kind with
  | passthrough => exact hbase
  | rebased => exact hrebased
  | truncated => exact htruncated
  | readOnly => exact ReadOnly.settles hbase
  | cached => exact Cached.settles h hreaching
  | window =>
    exact Window.settles h hrebased htruncated
      (Truncated.settles (Passthrough.settles hrebased) (Passthrough.alike_ensureOpen _))

theorem reaching_strayed (h : Reaching ω reaches strayed) (kind : LayerKind) :
    Reaching ω (kind.Reaches reaches) (kind.Strayed reaches strayed) := by
  have hbase := Passthrough.reaching h
  have hrebased := Rebased.reaching hbase
  cases kind with
  | passthrough => exact hbase
  | rebased => exact hrebased
  | truncated => exact Truncated.reaching hbase
  | readOnly => exact ReadOnly.reaching hbase
  | cached => exact Cached.reaching h
  | window =>
    exact Window.reaching h hrebased (Truncated.reaching hbase)
      (Truncated.reaching (Passthrough.reaching hrebased))

end LayerKind

namespace ResizedBase

/-- Two streams of zeros or over memory that differ in the cursor. -/
def Strayed : (base : ResizedBase) → base.Over → base.Over → Prop
  | zeros => Zeros.Strayed
  | memory => DeviceStream.Strayed

theorem settles {ω : Type} [Cancellation ω] (base : ResizedBase) :
    Settles ω base.Strayed fun stream stream' : base.Over => stream = stream' := by
  cases base with
  | zeros => exact Zeros.settles
  | memory => exact DeviceStream.settles

theorem reaching {ω : Type} [Cancellation ω] (base : ResizedBase) :
    Reaching ω (fun (_ : base.Over) place => place ≤ maxPosition) base.Strayed := by
  cases base with
  | zeros => exact Zeros.reaching
  | memory => exact DeviceStream.reaching

end ResizedBase

namespace Stack

variable {β : Type}

/-- The places that a stack reaches, over a base that reaches every position. -/
def Reaches : (kinds : List LayerKind) → Stack kinds β → Nat → Prop
  | [] => fun _ place => place ≤ maxPosition
  | kind :: kinds => kind.Reaches (Reaches kinds)

/-- Two stacks of the same blocks, whose cursors may be at different places in range. -/
def Strayed (strayed : β → β → Prop) :
    (kinds : List LayerKind) → Stack kinds β → Stack kinds β → Prop
  | [] => strayed
  | kind :: kinds => kind.Strayed (Reaches kinds) (Strayed strayed kinds)

/-- Two stacks that are the same down to the outermost cached layers, their blocks and cursors, and
below them have the same blocks and may have strayed. -/
def Aligned (strayed : β → β → Prop) :
    (kinds : List LayerKind) → Stack kinds β → Stack kinds β → Prop
  | [] => fun base base' : β => base = base'
  | kind :: kinds => kind.Aligned (Strayed strayed kinds) (Aligned strayed kinds)

variable {ω : Type} [Cancellation ω] [ByteStream ω β] {strayed : β → β → Prop}

theorem reaching_strayed (h : Reaching ω (fun (_ : β) place => place ≤ maxPosition) strayed) :
    ∀ kinds : List LayerKind, Reaching ω (Reaches kinds) (Strayed strayed kinds)
  -- the recursion is on the layers
  | [] => h
  | kind :: kinds => kind.reaching_strayed (reaching_strayed h kinds)

theorem settles_strayed (h : Settles ω strayed fun base base' : β => base = base')
    (hreaching : Reaching ω (fun (_ : β) place => place ≤ maxPosition) strayed) :
    ∀ kinds : List LayerKind, Settles ω (Strayed strayed kinds) (Aligned strayed kinds)
  -- the recursion is on the layers
  | [] => h
  | kind :: kinds => kind.settles_strayed (settles_strayed h hreaching kinds)
    (reaching_strayed hreaching kinds)

/-- **No request tells stacks apart that are aligned**, however many cached layers they have. -/
theorem agrees_aligned (base : ResizedBase) (kinds : List LayerKind) :
    ByteStream.Agrees ω (Aligned base.Strayed kinds) :=
  (settles_strayed base.settles base.reaching kinds).agrees

end Stack

end LayeredStreams
