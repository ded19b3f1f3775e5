import LayeredStreams.Proofs.Outcome

/-!
# Two runs side by side

Two computations that cannot be told apart by what comes of them, though they are run on states that
differ.

* `StreamM.Alike pre good bad act act'` — in the same surroundings, from states of which `pre`
  holds, `act` and `act'` come to the same value or the same error, and leave the same surroundings.
  `good` holds of the states after a value, and `bad` of those after an error.
* `ByteStream.LooksAlike` — two streams that say the same of themselves.
* `ByteStream.Agrees` — a relation between states of a stream that every request keeps, and that no
  request tells apart.

Principal results: `StreamM.Alike.bind`, `StreamM.Alike.within` (a part of the state is told apart
no better than alone) and `ByteStream.Agrees.outcome_after` (what is not told apart by one request
is not told apart by any number of them).
-/

set_option autoImplicit false

namespace LayeredStreams

namespace StreamM

variable {ω σ τ α β : Type}

/-- Two computations that come to the same in the same surroundings: `good` holds of the two states
after a value, and `bad` after an error. -/
def Alike (pre good bad : σ → σ → Prop) (act act' : StreamM ω σ α) : Prop :=
  ∀ state state' w, pre state state' →
    match act (state, w), act' (state', w) with
    | .ok value s, .ok value' s' => value = value' ∧ s.2 = s'.2 ∧ good s.1 s'.1
    | .error e s, .error e' s' => e = e' ∧ s.2 = s'.2 ∧ bad s.1 s'.1
    | _, _ => False

variable {pre good bad : σ → σ → Prop} {act act' : StreamM ω σ α}

/-- What two computations come to in the same surroundings, case by case. -/
theorem Alike.cases (h : Alike pre good bad act act') {state state' : σ} (hpre : pre state state')
    (w : ω) :
    (∃ value t t' w', act (state, w) = .ok value (t, w') ∧ act' (state', w) = .ok value (t', w') ∧
      good t t') ∨
    ∃ e t t' w', act (state, w) = .error e (t, w') ∧ act' (state', w) = .error e (t', w') ∧
      bad t t' := by
  have hact := h state state' w hpre
  cases heq : act (state, w) with
  | ok value s =>
    cases heq' : act' (state', w) with
    | ok value' s' =>
      rw [heq, heq'] at hact
      obtain ⟨t, w'⟩ := s
      obtain ⟨t', w''⟩ := s'
      obtain ⟨hvalue, hw, hgood⟩ := hact
      dsimp only at hw
      subst hvalue hw
      exact Or.inl ⟨value, t, t', w', rfl, rfl, hgood⟩
    | error e' s' =>
      rw [heq, heq'] at hact
      exact hact.elim
  | error e s =>
    cases heq' : act' (state', w) with
    | ok value' s' =>
      rw [heq, heq'] at hact
      exact hact.elim
    | error e' s' =>
      rw [heq, heq'] at hact
      obtain ⟨t, w'⟩ := s
      obtain ⟨t', w''⟩ := s'
      obtain ⟨he, hw, hbad⟩ := hact
      dsimp only at hw
      subst he hw
      exact Or.inr ⟨e, t, t', w', rfl, rfl, hbad⟩

/-- The same computation on the same state. -/
theorem alike_self (act : StreamM ω σ α) :
    Alike (fun state state' => state = state') (fun state state' => state = state')
      (fun state state' => state = state') act act := by
  rintro state _ w rfl
  cases act (state, w) with
  | ok value s => exact ⟨rfl, rfl, rfl⟩
  | error e s => exact ⟨rfl, rfl, rfl⟩

theorem alike_pure (h : ∀ state state', pre state state' → good state state') (value : α) :
    Alike pre good bad (pure value : StreamM ω σ α) (pure value) :=
  fun _ _ _ hpre => ⟨rfl, rfl, h _ _ hpre⟩

theorem alike_throw (h : ∀ state state', pre state state' → bad state state') (e : StreamError) :
    Alike pre good bad (throw e : StreamM ω σ α) (throw e) :=
  fun _ _ _ hpre => ⟨rfl, rfl, h _ _ hpre⟩

theorem alike_refuse (h : ∀ state state', pre state state' → bad state state')
    (cause : Refusal) : Alike pre good bad (refuse cause : StreamM ω σ α) (refuse cause) :=
  alike_throw h _

theorem alike_ofExcept (hgood : ∀ state state', pre state state' → good state state')
    (hbad : ∀ state state', pre state state' → bad state state') (outcome : Except Refusal α) :
    Alike pre good bad (ofExcept outcome : StreamM ω σ α) (ofExcept outcome) := by
  cases outcome with
  | ok value => exact alike_pure hgood value
  | error cause => exact alike_refuse hbad cause

theorem alike_settle (hgood : ∀ state state', pre state state' → good state state')
    (hbad : ∀ state state', pre state state' → bad state state')
    (outcome : Except StreamError α) :
    Alike pre good bad (settle outcome : StreamM ω σ α) (settle outcome) := by
  cases outcome with
  | ok value => exact alike_pure hgood value
  | error e => exact alike_throw hbad e

theorem alike_update {f f' : σ → σ}
    (h : ∀ state state', pre state state' → good (f state) (f' state')) :
    Alike pre good bad (update f : StreamM ω σ Unit) (update f') :=
  fun _ _ _ hpre => ⟨rfl, rfl, h _ _ hpre⟩

theorem Alike.mono {good' bad' : σ → σ → Prop} (h : Alike pre good bad act act')
    (hgood : ∀ state state', good state state' → good' state state')
    (hbad : ∀ state state', bad state state' → bad' state state') :
    Alike pre good' bad' act act' := by
  intro state state' w hpre
  rcases h.cases hpre w with ⟨_, _, _, _, heq, heq', h⟩ | ⟨_, _, _, _, heq, heq', h⟩
  · rw [heq, heq']
    exact ⟨rfl, rfl, hgood _ _ h⟩
  · rw [heq, heq']
    exact ⟨rfl, rfl, hbad _ _ h⟩

theorem Alike.of_pre {pre' : σ → σ → Prop} (h : Alike pre good bad act act')
    (hpre : ∀ state state', pre' state state' → pre state state') :
    Alike pre' good bad act act' :=
  fun state state' w hpre' => h state state' w (hpre _ _ hpre')

theorem Alike.bind {good' : σ → σ → Prop} {next next' : α → StreamM ω σ β}
    (h : Alike pre good bad act act')
    (hnext : ∀ value, Alike good good' bad (next value) (next' value)) :
    Alike pre good' bad (act >>= next) (act' >>= next') := by
  intro state state' w hpre
  rw [bind_apply, bind_apply]
  rcases h.cases hpre w with ⟨value, t, t', w', heq, heq', h⟩ | ⟨_, _, _, _, heq, heq', h⟩
  · rw [heq, heq']
    exact hnext value t t' w' h
  · rw [heq, heq']
    exact ⟨rfl, rfl, h⟩

/-- What goes on from two states of which `pre` holds. -/
theorem alike_state_bind {next next' : σ → StreamM ω σ α}
    (h : ∀ state state', pre state state' → Alike pre good bad (next state) (next' state')) :
    Alike pre good bad (StreamM.state >>= next) (StreamM.state >>= next') :=
  fun state state' w hpre => h state state' hpre state state' w hpre

theorem Alike.attempt (h : Alike pre good good act act') :
    Alike pre good bad act.attempt act'.attempt := by
  intro state state' w hpre
  unfold StreamM.attempt
  rcases h.cases hpre w with ⟨_, _, _, _, heq, heq', h⟩ | ⟨_, _, _, _, heq, heq', h⟩
  · rw [heq, heq']
    exact ⟨rfl, rfl, h⟩
  · rw [heq, heq']
    exact ⟨rfl, rfl, h⟩

/-- Two computations on parts are told apart no better than on the parts alone, and leave what is
told of the two rests. -/
theorem Alike.within {get : σ → τ} {put : τ → σ → σ} {pre good bad : τ → τ → Prop}
    {act act' : StreamM ω τ α} (rest : σ → σ → Prop) (get_put : ∀ part t, get (put part t) = part)
    (rest_put : ∀ part part' t t', rest t t' → rest (put part t) (put part' t'))
    (h : Alike pre good bad act act') :
    Alike (fun t t' => rest t t' ∧ pre (get t) (get t'))
      (fun t t' => rest t t' ∧ good (get t) (get t'))
      (fun t t' => rest t t' ∧ bad (get t) (get t'))
      (StreamM.within get put act) (StreamM.within get put act') := by
  rintro t t' w ⟨hrest, hpre⟩
  unfold StreamM.within
  rcases h.cases hpre w with ⟨_, part, part', _, heq, heq', h⟩ | ⟨_, part, part', _, heq, heq', h⟩
  · dsimp only
    rw [heq, heq']
    refine ⟨rfl, rfl, rest_put part part' t t' hrest, ?_⟩
    rw [get_put, get_put]
    exact h
  · dsimp only
    rw [heq, heq']
    refine ⟨rfl, rfl, rest_put part part' t t' hrest, ?_⟩
    rw [get_put, get_put]
    exact h

/-- What comes of the two computations is the same. -/
theorem Alike.outcome_eq (h : Alike pre good bad act act') {state state' : σ}
    (hpre : pre state state') (w : ω) : act.outcome (state, w) = act'.outcome (state', w) := by
  unfold outcome result final
  rcases h.cases hpre w with ⟨_, _, _, _, heq, heq', -⟩ | ⟨_, _, _, _, heq, heq', -⟩
  · rw [heq, heq']
  · rw [heq, heq']

/-- What is kept is kept, in the same surroundings. -/
theorem Alike.final (h : Alike pre good good act act') {state state' : σ} (hpre : pre state state')
    (w : ω) : ∃ t t' w', act.final (state, w) = (t, w') ∧ act'.final (state', w) = (t', w') ∧
      good t t' := by
  unfold StreamM.final
  rcases h.cases hpre w with ⟨_, t, t', w', heq, heq', h⟩ | ⟨_, t, t', w', heq, heq', h⟩
  · exact ⟨t, t', w', by rw [heq], by rw [heq'], h⟩
  · exact ⟨t, t', w', by rw [heq], by rw [heq'], h⟩

/-- Whether a transfer is admitted is a matter of the surroundings. -/
theorem alike_admission [Cancellation ω] (mode : Mode)
    (hgood : ∀ state state', pre state state' → good state state')
    (hbad : ∀ state state', pre state state' → bad state state') :
    Alike pre good bad (mode.checkToken : StreamM ω σ Unit) mode.checkToken := by
  intro state state' w hpre
  rw [Mode.checkToken_apply, Mode.checkToken_apply]
  cases mode.isCancelled w with
  | true => exact ⟨rfl, rfl, hbad _ _ hpre⟩
  | false => exact ⟨rfl, rfl, hgood _ _ hpre⟩

end StreamM

/-! ## Streams that no request tells apart -/

namespace ByteStream

variable {ω σ : Type} [ByteStream ω σ]

/-- Two streams that say the same of what they can do and of whether they were disposed. -/
def LooksAlike (stream stream' : σ) (w : ω) : Prop :=
  isDisposed stream w = isDisposed stream' w ∧
    ∀ capability, can capability stream w = can capability stream' w

/-- Streams of which `alike` holds look alike, and no request tells them apart. -/
structure Agrees (ω : Type) {σ : Type} [ByteStream ω σ] (alike : σ → σ → Prop) : Prop where
  looks : ∀ {stream stream'}, alike stream stream' → ∀ w : ω, LooksAlike stream stream' w
  perform : ∀ request : Request, StreamM.Alike alike alike alike
    (ByteStream.perform request : StreamM ω σ request.Answer) (ByteStream.perform request)

theorem agrees_self : Agrees ω fun stream stream' : σ => stream = stream' where
  looks := by
    rintro stream _ rfl w
    exact ⟨rfl, fun _ => rfl⟩
  perform _ := StreamM.alike_self _

variable {alike : σ → σ → Prop}

/-- Requests made one after the other keep what every request keeps. -/
theorem Agrees.after (h : Agrees ω alike) (requests : List Request) {stream stream' : σ}
    (halike : alike stream stream') (w : ω) :
    ∃ t t' w', ByteStream.after requests (stream, w) = (t, w') ∧
      ByteStream.after requests (stream', w) = (t', w') ∧ alike t t' := by
  induction requests generalizing stream stream' w with
  | nil => exact ⟨stream, stream', w, rfl, rfl, halike⟩
  | cons request requests ih =>
    obtain ⟨t, t', w', heq, heq', halike'⟩ := (h.perform request).final halike w
    rw [after_cons, after_cons, heq, heq']
    exact ih halike' w'

/-- **No number of requests tells two streams apart that no single request tells apart.** -/
theorem Agrees.outcome_after (h : Agrees ω alike) {stream stream' : σ}
    (halike : alike stream stream') (requests : List Request) (request : Request) (w : ω) :
    (ByteStream.perform request).outcome (ByteStream.after requests (stream, w)) =
      (ByteStream.perform request).outcome (ByteStream.after requests (stream', w)) := by
  obtain ⟨t, t', w', heq, heq', halike'⟩ := h.after requests halike w
  rw [heq, heq']
  exact (h.perform request).outcome_eq halike' w'

theorem Agrees.looks_after (h : Agrees ω alike) {stream stream' : σ}
    (halike : alike stream stream') (requests : List Request) (w : ω) :
    LooksAlike (ByteStream.after requests (stream, w)).1 (ByteStream.after requests (stream', w)).1
      (ByteStream.after requests (stream, w)).2 := by
  obtain ⟨t, t', w', heq, heq', halike'⟩ := h.after requests halike w
  rw [heq, heq']
  exact h.looks halike' w'

end ByteStream

end LayeredStreams
