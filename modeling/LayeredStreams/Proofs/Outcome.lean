import LayeredStreams.Layer.Passthrough

/-!
# What comes of a computation

* `StreamM.Ends act s good bad` — the outcome of `act` in the state `s`: `good` of the value and the
  state it leaves, or `bad` of the error and the state that a failing computation leaves.
* `StreamM.final`, `StreamM.result`, `StreamM.outcome` — the state left behind, the value or the
  error, and this together with the surroundings left behind.
* `StreamM.Moves stands act s good bad` — the same outcome, told of the positions at which a stream
  stands: `stands s p` says that it stands at `p` in the state `s`.
* `StreamM.Held`, `StreamM.Carries` — a state that is embedded in another one, and a computation
  that does there what it does alone; `ByteStream.Conducts` — an embedding of a stream in a layer
  that lets every quiet request through.
* `ByteStream.after` — the state after requests made one after the other, whatever comes of each.

Principal results: `Ends.bind` (a sequence ends as its second part does, from where the first part
went on), `Moves.within` and `Carries.moves` (a part of the state, and an embedded state, move as
they would alone) and `after_induction` (what every request keeps holds after every sequence of
requests).
-/

set_option autoImplicit false

namespace LayeredStreams

namespace StreamM

variable {ω σ τ α β : Type}

/-- What holds of the outcome of a computation: `good` of a value and the state after it, `bad` of
an error and the state after it. -/
def Ends (act : StreamM ω σ α) (s : σ × ω) (good : α → σ × ω → Prop)
    (bad : StreamError → σ × ω → Prop) : Prop :=
  match act s with
  | .ok value s' => good value s'
  | .error e s' => bad e s'

/-- The state that a computation leaves behind. -/
def final (act : StreamM ω σ α) (s : σ × ω) : σ × ω :=
  match act s with
  | .ok _ s' => s'
  | .error _ s' => s'

/-- The value or the error that comes of a computation. -/
def result (act : StreamM ω σ α) (s : σ × ω) : Except StreamError α :=
  match act s with
  | .ok value _ => .ok value
  | .error e _ => .error e

/-- What comes of a computation, and the surroundings it leaves. -/
def outcome (act : StreamM ω σ α) (s : σ × ω) : Except StreamError α × ω :=
  (act.result s, (act.final s).2)

variable {act : StreamM ω σ α} {s s' : σ × ω} {good good' : α → σ × ω → Prop}
  {bad bad' : StreamError → σ × ω → Prop}

theorem ends_of_eq_ok {value : α} (h : act s = .ok value s') (hgood : good value s') :
    act.Ends s good bad := by
  unfold Ends; rw [h]; exact hgood

theorem ends_of_eq_error {e : StreamError} (h : act s = .error e s') (hbad : bad e s') :
    act.Ends s good bad := by
  unfold Ends; rw [h]; exact hbad

theorem Ends.of_eq_ok {value : α} (h : act.Ends s good bad) (heq : act s = .ok value s') :
    good value s' := by
  unfold Ends at h; rwa [heq] at h

theorem Ends.of_eq_error {e : StreamError} (h : act.Ends s good bad) (heq : act s = .error e s') :
    bad e s' := by
  unfold Ends at h; rwa [heq] at h

theorem result_of_eq_ok {value : α} (h : act s = .ok value s') : act.result s = .ok value := by
  unfold result; rw [h]

theorem result_of_eq_error {e : StreamError} (h : act s = .error e s') :
    act.result s = .error e := by
  unfold result; rw [h]

theorem final_of_eq_ok {value : α} (h : act s = .ok value s') : act.final s = s' := by
  unfold final; rw [h]

theorem final_of_eq_error {e : StreamError} (h : act s = .error e s') : act.final s = s' := by
  unfold final; rw [h]

theorem Ends.exists_ok (h : act.Ends s good fun _ _ => False) :
    ∃ value s', act s = .ok value s' ∧ good value s' := by
  unfold Ends at h
  split at h
  · rename_i value s' heq
    exact ⟨value, s', heq, h⟩
  · exact h.elim

theorem Ends.eq_error {e : StreamError} (h : act.Ends s (fun _ _ => False) fun e' t =>
    e' = e ∧ t = s') : act s = .error e s' := by
  unfold Ends at h
  split at h
  · exact h.elim
  · rename_i heq
    rw [heq, h.1, h.2]

theorem Ends.mono (h : act.Ends s good bad) (hgood : ∀ value s', good value s' → good' value s')
    (hbad : ∀ e s', bad e s' → bad' e s') : act.Ends s good' bad' := by
  unfold Ends at h ⊢
  split at h
  · exact hgood _ _ h
  · exact hbad _ _ h

theorem Ends.of_value (h : act.Ends s good bad) : act.Ends s good fun _ _ => True :=
  h.mono (fun _ _ h => h) fun _ _ _ => trivial

theorem Ends.of_never (h : act.Ends s good fun _ _ => False) : act.Ends s good bad :=
  h.mono (fun _ _ h => h) fun _ _ h => h.elim

/-- A computation that ends in a value. -/
def Succeeds (act : StreamM ω σ α) (s : σ × ω) : Prop :=
  act.Ends s (fun _ _ => True) fun _ _ => False

theorem Ends.final {keeps : σ × ω → Prop} (h : act.Ends s (fun _ => keeps) fun _ => keeps) :
    keeps (act.final s) := by
  unfold Ends at h
  unfold StreamM.final
  split at h <;> exact h

theorem ends_of_final {keeps : σ × ω → Prop}
    (h : keeps (act.final s)) : act.Ends s (fun _ => keeps) fun _ => keeps := by
  unfold final at h
  unfold Ends
  split at h
  · exact h
  · exact h

/-- What is told of an outcome in two ways is told of it at once. -/
theorem Ends.and (h : act.Ends s good bad) (h' : act.Ends s good' bad') :
    act.Ends s (fun value s' => good value s' ∧ good' value s')
      fun e s' => bad e s' ∧ bad' e s' := by
  unfold Ends at *
  split at h
  · rename_i value s' heq
    rw [heq] at h'
    exact ⟨h, h'⟩
  · rename_i e s' heq
    rw [heq] at h'
    exact ⟨h, h'⟩

theorem Ends.of_succeeds (h : act.Ends s good bad) (hsucceeds : act.Succeeds s) :
    act.Ends s good bad' :=
  (h.and hsucceeds).mono (fun _ _ h => h.1) fun _ _ h => h.2.elim

/-- A sequence ends as its second part does, from wherever the first part went on. -/
theorem Ends.bind {next : α → StreamM ω σ β} {good' : β → σ × ω → Prop}
    (h : act.Ends s good bad) (hnext : ∀ value s', good value s' → (next value).Ends s' good' bad) :
    (act >>= next).Ends s good' bad := by
  unfold Ends at h ⊢
  rw [bind_apply]
  cases heq : act s with
  | ok value s' =>
    rw [heq] at h
    exact hnext value s' h
  | error e s' =>
    rw [heq] at h
    exact h

theorem ends_pure {value : α} (h : good value s) :
    (pure value : StreamM ω σ α).Ends s good bad := h

theorem ends_refuse {cause : Refusal} (h : bad (.refusal cause) s) :
    (refuse cause : StreamM ω σ α).Ends s good bad := h

theorem ends_ofExcept (outcome : Except Refusal α) :
    (ofExcept outcome : StreamM ω σ α).Ends s (fun value s' => outcome = .ok value ∧ s' = s)
      fun e s' => ∃ cause, outcome = .error cause ∧ e = .refusal cause ∧ s' = s := by
  cases outcome with
  | ok value => exact ⟨rfl, rfl⟩
  | error cause => exact ⟨cause, rfl, rfl, rfl⟩

theorem ends_bind_of_eq_ok {next : α → StreamM ω σ β} {value : α} {good : β → σ × ω → Prop}
    (h : act s = .ok value s') (hnext : (next value).Ends s' good bad) :
    (act >>= next).Ends s good bad := by
  unfold Ends at hnext ⊢
  rw [bind_apply, h]
  exact hnext

/-- After a look at the state a computation goes on from where it stands. -/
theorem ends_state_bind {next : σ → StreamM ω σ α} (h : (next s.1).Ends s good bad) :
    (state >>= next).Ends s good bad := by
  unfold Ends at h ⊢; rw [bind_apply]; exact h

theorem ends_update_bind {f : σ → σ} {next : Unit → StreamM ω σ α}
    (h : (next ()).Ends (f s.1, s.2) good bad) : (update f >>= next).Ends s good bad := by
  unfold Ends at h ⊢; rw [bind_apply]; exact h

theorem ends_update {f : σ → σ} {good : Unit → σ × ω → Prop} (h : good () (f s.1, s.2)) :
    (update f).Ends s good bad := h

/-- The outcome of a computation, once looked at, is a value. -/
theorem Ends.attempt (h : act.Ends s good bad) :
    act.attempt.Ends s (fun outcome s' =>
      match outcome with
      | .ok value => good value s'
      | .error e => bad e s') fun _ _ => False := by
  unfold Ends StreamM.attempt
  unfold Ends at h
  split at h <;> rename_i heq <;> simpa only [heq] using h

/-- A part of the state ends as it would alone, and is stored. -/
theorem Ends.within {get : σ → τ} {put : τ → σ → σ} {act : StreamM ω τ α}
    {good : α → τ × ω → Prop} {bad : StreamError → τ × ω → Prop}
    (h : act.Ends (get s.1, s.2) good bad) :
    (within get put act).Ends s
      (fun value s' => ∃ part, good value (part, s'.2) ∧ s'.1 = put part s.1)
      (fun e s' => ∃ part, bad e (part, s'.2) ∧ s'.1 = put part s.1) := by
  unfold Ends at h
  unfold Ends StreamM.within
  split at h
  · rename_i value s' heq
    rw [heq]; exact ⟨s'.1, h, rfl⟩
  · rename_i e s' heq
    rw [heq]; exact ⟨s'.1, h, rfl⟩

/-- A part that is found where it was stored ends as it would alone, and what is told of the rest
stays. -/
theorem Ends.within_keeping {get : σ → τ} {put : τ → σ → σ} (rest : σ → Prop)
    {act : StreamM ω τ α} {good : α → τ × ω → Prop} {bad : StreamError → τ × ω → Prop}
    (get_put : ∀ part t, get (put part t) = part) (rest_put : ∀ part t, rest t → rest (put part t))
    (hrest : rest s.1) (h : act.Ends (get s.1, s.2) good bad) :
    (StreamM.within get put act).Ends s
      (fun value s' => rest s'.1 ∧ good value (get s'.1, s'.2))
      (fun e s' => rest s'.1 ∧ bad e (get s'.1, s'.2)) := by
  refine h.within.mono ?_ ?_
  · intro value s' hout
    obtain ⟨part, hgood, heq⟩ := hout
    rw [heq, get_put]
    exact ⟨rest_put part s.1 hrest, hgood⟩
  · intro e s' hout
    obtain ⟨part, hbad, heq⟩ := hout
    rw [heq, get_put]
    exact ⟨rest_put part s.1 hrest, hbad⟩

theorem Ends.within_part {get : σ → τ} {put : τ → σ → σ} {act : StreamM ω τ α}
    {good : α → τ × ω → Prop} {bad : StreamError → τ × ω → Prop}
    (get_put : ∀ part t, get (put part t) = part) (h : act.Ends (get s.1, s.2) good bad) :
    (StreamM.within get put act).Ends s (fun value s' => good value (get s'.1, s'.2))
      (fun e s' => bad e (get s'.1, s'.2)) :=
  (h.within_keeping (fun _ => True) get_put (fun _ _ _ => trivial) trivial).mono
    (fun _ _ h => h.2) fun _ _ h => h.2

theorem within_eq_ok {get : σ → τ} {put : τ → σ → σ} {act : StreamM ω τ α} {s : σ × ω} {value : α}
    {part : τ} {w : ω} (h : act (get s.1, s.2) = .ok value (part, w)) :
    within get put act s = .ok value (put part s.1, w) := by
  unfold within
  rw [h]

theorem final_within (get : σ → τ) (put : τ → σ → σ) (act : StreamM ω τ α) (s : σ × ω) :
    (within get put act).final s =
      (put (act.final (get s.1, s.2)).1 s.1, (act.final (get s.1, s.2)).2) := by
  unfold final within
  cases act (get s.1, s.2) with
  | ok value s' => rfl
  | error e s' => rfl

theorem outcome_within (get : σ → τ) (put : τ → σ → σ) (act : StreamM ω τ α) (s : σ × ω) :
    (within get put act).outcome s = act.outcome (get s.1, s.2) := by
  unfold outcome
  rw [final_within]
  unfold result within
  cases act (get s.1, s.2) with
  | ok value s' => rfl
  | error e s' => rfl

/-! ## Positions -/

/-- What holds of the outcome of a computation on a stream and of the position at which it leaves
the stream. -/
def Moves (stands : σ × ω → Nat → Prop) (act : StreamM ω σ α) (s : σ × ω)
    (good : α → Nat → Prop) (bad : StreamError → Nat → Prop) : Prop :=
  act.Ends s (fun value s' => ∃ q, good value q ∧ stands s' q)
    (fun e s' => ∃ q, bad e q ∧ stands s' q)

variable {stands : σ × ω → Nat → Prop}

theorem Moves.mono {good good' : α → Nat → Prop} {bad bad' : StreamError → Nat → Prop}
    (h : act.Moves stands s good bad) (hgood : ∀ value q, good value q → good' value q)
    (hbad : ∀ e q, bad e q → bad' e q) : act.Moves stands s good' bad' :=
  Ends.mono h (fun value _ ⟨q, hq, hs⟩ => ⟨q, hgood value q hq, hs⟩)
    fun e _ ⟨q, hq, hs⟩ => ⟨q, hbad e q hq, hs⟩

theorem Moves.bind {next : α → StreamM ω σ β} {good : α → Nat → Prop} {good' : β → Nat → Prop}
    {bad : StreamError → Nat → Prop} (h : act.Moves stands s good bad)
    (hnext : ∀ value q s', good value q → stands s' q →
      (next value).Moves stands s' good' bad) : (act >>= next).Moves stands s good' bad :=
  Ends.bind h fun value s' ⟨q, hq, hs⟩ => hnext value q s' hq hs

theorem moves_pure {value : α} {good : α → Nat → Prop} {bad : StreamError → Nat → Prop} {p : Nat}
    (h : stands s p) (hgood : good value p) :
    (pure value : StreamM ω σ α).Moves stands s good bad := ⟨p, hgood, h⟩

theorem Moves.exists_ok {good : α → Nat → Prop} (h : act.Moves stands s good fun _ _ => False) :
    ∃ value q s', act s = .ok value s' ∧ good value q ∧ stands s' q := by
  have hends : act.Ends s (fun value s' => ∃ q, good value q ∧ stands s' q) fun _ _ => False :=
    Ends.mono h (fun _ _ h => h) fun _ _ ⟨_, h, _⟩ => h
  obtain ⟨value, s', heq, q, hgood, hstands⟩ := hends.exists_ok
  exact ⟨value, q, s', heq, hgood, hstands⟩

theorem Moves.attempt {good : α → Nat → Prop} {bad : StreamError → Nat → Prop}
    (h : act.Moves stands s good bad) :
    act.attempt.Moves stands s (fun outcome q =>
      match outcome with
      | .ok value => good value q
      | .error e => bad e q) fun _ _ => False := by
  refine (Ends.attempt h).mono ?_ (fun _ _ h => h.elim)
  rintro (e | value) s' hs'
  · exact hs'
  · exact hs'

/-- A part of the state moves as it would alone, and what is told of the rest stays. -/
theorem Moves.within {get : σ → τ} {put : τ → σ → σ} (rest : σ → Prop) {act : StreamM ω τ α}
    {stands : τ × ω → Nat → Prop} {good : α → Nat → Prop} {bad : StreamError → Nat → Prop}
    (get_put : ∀ part t, get (put part t) = part) (rest_put : ∀ part t, rest t → rest (put part t))
    (hrest : rest s.1) (h : act.Moves stands (get s.1, s.2) good bad) :
    (within get put act).Moves (fun s q => rest s.1 ∧ stands (get s.1, s.2) q) s good bad := by
  refine (Ends.within_keeping rest get_put rest_put hrest h).mono ?_ ?_
  · intro value s' hout
    obtain ⟨hrest', q, hgood, hstands⟩ := hout
    exact ⟨q, hgood, hrest', hstands⟩
  · intro e s' hout
    obtain ⟨hrest', q, hbad, hstands⟩ := hout
    exact ⟨q, hbad, hrest', hstands⟩

/-! ## Streams inside streams -/

/-- A state that holds, as `f` embeds it, a state of which `keeps` holds. -/
def Held (f : σ → τ) (keeps : σ × ω → Prop) (s : τ × ω) : Prop :=
  ∃ part, s.1 = f part ∧ keeps (part, s.2)

/-- `act'` does on an embedded state what `act` does on the state alone. -/
def Carries (f : σ → τ) (act : StreamM ω σ α) (act' : StreamM ω τ α) : Prop :=
  ∀ part w, act' (f part, w) =
    match act (part, w) with
    | .ok value (part', w') => .ok value (f part', w')
    | .error e (part', w') => .error e (f part', w')

theorem Carries.trans {ρ : Type} {f : ρ → σ} {g : σ → τ} {act : StreamM ω ρ α}
    {act' : StreamM ω σ α} {act'' : StreamM ω τ α} (hf : Carries f act act')
    (hg : Carries g act' act'') : Carries (fun part => g (f part)) act act'' := by
  intro part w
  rw [hg, hf]
  cases act (part, w) with
  | ok value s => rfl
  | error e s => rfl

/-- A computation that is carried ends as it does alone. -/
theorem Carries.ends {f : σ → τ} {act : StreamM ω σ α} {act' : StreamM ω τ α}
    (hcarries : Carries f act act') {keeps : σ × ω → Prop} {s : τ × ω} (hs : Held f keeps s)
    {good : α → σ × ω → Prop} {bad : StreamError → σ × ω → Prop}
    (h : ∀ t, keeps t → act.Ends t good bad) :
    act'.Ends s (fun value => Held f (good value)) (fun e => Held f (bad e)) := by
  obtain ⟨layer, w⟩ := s
  obtain ⟨part, rfl, hkeeps⟩ := hs
  have hact := h _ hkeeps
  unfold Ends at hact ⊢
  rw [hcarries]
  split at hact
  · rename_i value s' heq
    rw [heq]; exact ⟨s'.1, rfl, hact⟩
  · rename_i e s' heq
    rw [heq]; exact ⟨s'.1, rfl, hact⟩

/-- A computation that is carried moves as it does alone. -/
theorem Carries.moves {f : σ → τ} {act : StreamM ω σ α} {act' : StreamM ω τ α}
    (hcarries : Carries f act act') {stands : σ × ω → Nat → Prop} {s : τ × ω} {p : Nat}
    (hs : Held f (stands · p) s) {good : α → Nat → Prop} {bad : StreamError → Nat → Prop}
    (h : ∀ t, stands t p → act.Moves stands t good bad) :
    act'.Moves (fun s' q => Held f (stands · q) s') s good bad := by
  refine (hcarries.ends hs h).mono ?_ ?_
  · intro value s' hout
    obtain ⟨part, heq, q, hgood, hstands⟩ := hout
    exact ⟨q, hgood, part, heq, hstands⟩
  · intro e s' hout
    obtain ⟨part, heq, q, hbad, hstands⟩ := hout
    exact ⟨q, hbad, part, heq, hstands⟩

theorem Carries.ends_of {f : σ → τ} {act : StreamM ω σ α} {act' : StreamM ω τ α}
    (hcarries : Carries f act act') {part : σ} {w : ω} {good : α → σ × ω → Prop}
    {bad : StreamError → σ × ω → Prop} (h : act.Ends (part, w) good bad) :
    act'.Ends (f part, w) (fun value => Held f (good value)) fun e => Held f (bad e) := by
  have hat : Held f (· = (part, w)) (f part, w) := ⟨part, rfl, rfl⟩
  exact hcarries.ends hat fun t ht => ht ▸ h

theorem Carries.moves_of {f : σ → τ} {act : StreamM ω σ α} {act' : StreamM ω τ α}
    (hcarries : Carries f act act') {stands : σ × ω → Nat → Prop} {part : σ} {w : ω}
    {good : α → Nat → Prop} {bad : StreamError → Nat → Prop}
    (h : act.Moves stands (part, w) good bad) :
    act'.Moves (fun s' q => Held f (stands · q) s') (f part, w) good bad := by
  refine (hcarries.ends_of h).mono ?_ ?_
  · intro value s' hout
    obtain ⟨part', heq, q, hgood, hstands⟩ := hout
    exact ⟨q, hgood, part', heq, hstands⟩
  · intro e s' hout
    obtain ⟨part', heq, q, hbad, hstands⟩ := hout
    exact ⟨q, hbad, part', heq, hstands⟩

/-- A computation that is carried ends as it does alone, told of the embedded state. -/
theorem Carries.ends_at {f : σ → τ} {act : StreamM ω σ α} {act' : StreamM ω τ α}
    (hcarries : Carries f act act') {part : σ} {w : ω} {good : α → τ × ω → Prop}
    {bad : StreamError → τ × ω → Prop}
    (h : act.Ends (part, w) (fun value s' => good value (f s'.1, s'.2))
      fun e s' => bad e (f s'.1, s'.2)) : act'.Ends (f part, w) good bad := by
  unfold Ends at h ⊢
  rw [hcarries]
  cases heq : act (part, w) with
  | ok value s' =>
    rw [heq] at h
    exact h
  | error e s' =>
    rw [heq] at h
    exact h

theorem Carries.eq_ok {f : σ → τ} {act : StreamM ω σ α} {act' : StreamM ω τ α}
    (hcarries : Carries f act act') {part part' : σ} {w w' : ω} {value : α}
    (h : act (part, w) = .ok value (part', w')) :
    act' (f part, w) = .ok value (f part', w') := by
  rw [hcarries, h]

theorem carries_pure (f : σ → τ) (value : α) :
    Carries f (pure value : StreamM ω σ α) (pure value) := fun _ _ => rfl

theorem carries_settle (f : σ → τ) (outcome : Except StreamError α) :
    Carries f (settle outcome : StreamM ω σ α) (settle outcome) := by
  cases outcome with
  | ok value => exact fun _ _ => rfl
  | error e => exact fun _ _ => rfl

theorem Carries.bind {f : σ → τ} {act : StreamM ω σ α} {act' : StreamM ω τ α}
    {next : α → StreamM ω σ β} {next' : α → StreamM ω τ β} (hcarries : Carries f act act')
    (hnext : ∀ value, Carries f (next value) (next' value)) :
    Carries f (act >>= next) (act' >>= next') := by
  intro part w
  rw [bind_apply, bind_apply, hcarries]
  cases act (part, w) with
  | ok value s' => exact hnext value s'.1 s'.2
  | error e s' => rfl

theorem Carries.attempt {f : σ → τ} {act : StreamM ω σ α} {act' : StreamM ω τ α}
    (hcarries : Carries f act act') : Carries f act.attempt act'.attempt := by
  intro part w
  unfold StreamM.attempt
  rw [hcarries]
  cases act (part, w) with
  | ok value s' => rfl
  | error e s' => rfl

theorem Carries.final {f : σ → τ} {act : StreamM ω σ α} {act' : StreamM ω τ α}
    (hcarries : Carries f act act') (part : σ) (w : ω) :
    act'.final (f part, w) = (f (act.final (part, w)).1, (act.final (part, w)).2) := by
  unfold StreamM.final
  rw [hcarries]
  cases act (part, w) with
  | ok value s' => rfl
  | error e s' => rfl

end StreamM

namespace Passthrough

variable {ω σ α : Type}

theorem carries_forward (ownership : Ownership) (act : StreamM ω σ α) :
    StreamM.Carries (fun stream => ⟨.live stream, ownership⟩) act (forward act) :=
  fun stream w => forward_of_live stream ownership act w

/-- An open layer of an ownership over a stream that stands at `p`. -/
def Stands (ownership : Ownership) (stands : σ × ω → Nat → Prop) (s : Passthrough σ × ω)
    (p : Nat) : Prop :=
  StreamM.Held (fun stream => ⟨.live stream, ownership⟩) (stands · p) s

theorem ensureOpen_of_held {ownership : Ownership} {keeps : σ × ω → Prop}
    {s : Passthrough σ × ω}
    (h : StreamM.Held (fun stream => ⟨.live stream, ownership⟩) keeps s) :
    (ensureOpen : StreamM ω (Passthrough σ) Unit) s = .ok () s := by
  obtain ⟨layer, w⟩ := s
  obtain ⟨stream, rfl, -⟩ := h
  rfl

end Passthrough

namespace Mode

variable {ω σ : Type} [Cancellation ω]

/-- Whether a transfer is suspending and its token was cancelled. -/
def isCancelled : Mode → ω → Bool
  | blocking, _ => false
  | suspending token, w => token.isCancelled w

theorem checkToken_apply (mode : Mode) (s : σ × ω) :
    mode.checkToken s =
      if mode.isCancelled s.2 then .error (.refusal .cancelled) s else .ok () s := by
  cases mode with
  | blocking => rfl
  | suspending token =>
    show (StreamM.surroundings >>= fun w =>
      if token.isCancelled w then StreamM.refuse .cancelled else pure () : StreamM ω σ Unit) s = _
    rw [StreamM.bind_apply]
    by_cases hcancelled : token.isCancelled s.2 = true
    · simp [StreamM.surroundings, isCancelled, hcancelled]
    · simp [StreamM.surroundings, isCancelled, hcancelled]

/-- A transfer that is let go ahead leaves everything as it is; only one whose token was cancelled
can be stopped. -/
theorem ends_checkToken (mode : Mode) (s : σ × ω) :
    StreamM.Ends mode.checkToken s (fun _ s' => s' = s)
      (fun e s' => s' = s ∧ mode.isCancelled s.2 = true ∧ e = .refusal .cancelled) := by
  unfold StreamM.Ends
  rw [checkToken_apply]
  cases mode.isCancelled s.2 with
  | false => exact rfl
  | true => exact ⟨rfl, rfl, rfl⟩

/-- A transfer that is called off is declined, and any other goes ahead. -/
theorem ends_checkToken_bind {mode : Mode} {α : Type} {act : StreamM ω σ α} {s : σ × ω}
    {good : α → σ × ω → Prop} {bad : StreamError → σ × ω → Prop}
    (hcancelled : mode.isCancelled s.2 = true → bad (.refusal .cancelled) s)
    (hadmitted : mode.isCancelled s.2 = false → act.Ends s good bad) :
    StreamM.Ends (do mode.checkToken; act) s good bad := by
  unfold StreamM.Ends
  rw [StreamM.bind_apply, checkToken_apply]
  cases h : mode.isCancelled s.2 with
  | false => exact hadmitted h
  | true => exact hcancelled h

end Mode

/-- A target told from the start is a position unless it is too great. -/
theorem SeekTarget.resolve_fromStart (target position length : Nat) :
    (fromStart target).resolve position length =
      if target ≤ maxPosition then .ok target else .error (.invalidSeek target) := by
  split
  · rename_i hle
    exact resolve_eq_ok_iff.mpr ⟨rfl, hle⟩
  · rename_i hgt
    exact resolve_eq_error_iff.mpr ⟨rfl, Or.inr (Int.ofNat_lt.mpr (Nat.lt_of_not_le hgt))⟩

/-- Whether a request neither changes the content nor gives the stream up. -/
def Request.isQuiet (request : Request) : Bool := !request.mutates && request != .dispose

namespace ByteStream

variable {ω σ : Type} [ByteStream ω σ]

/-- The state after requests made one after the other, whatever comes of each. -/
def after (requests : List Request) (s : σ × ω) : σ × ω :=
  requests.foldl (fun s request => StreamM.final (perform request) s) s

@[simp] theorem after_nil (s : σ × ω) : after [] s = s := rfl

@[simp] theorem after_cons (request : Request) (requests : List Request) (s : σ × ω) :
    after (request :: requests) s = after requests (StreamM.final (perform request) s) := rfl

theorem after_append (requests requests' : List Request) (s : σ × ω) :
    after (requests ++ requests') s = after requests' (after requests s) :=
  List.foldl_append

/-- What every request of a sequence keeps holds after the sequence. -/
theorem after_induction {keeps : σ × ω → Prop} {requests : List Request}
    (hstep : ∀ request ∈ requests, ∀ s, keeps s →
      (perform request).Ends s (fun _ => keeps) fun _ => keeps)
    {s : σ × ω} (h : keeps s) : keeps (after requests s) := by
  induction requests generalizing s with
  | nil => exact h
  | cons request requests ih =>
    rw [after_cons]
    refine ih (fun request hmem => hstep request (List.mem_cons_of_mem _ hmem)) ?_
    exact (hstep request List.mem_cons_self s h).final

/-- A stream that is embedded with all its answers is led by requests where they lead it alone. -/
theorem after_carried {τ : Type} [ByteStream ω τ] {f : σ → τ}
    (hcarries : ∀ request : Request, StreamM.Carries f
      (perform request : StreamM ω σ request.Answer) (perform request))
    (requests : List Request) (part : σ) (w : ω) :
    after requests (f part, w) =
      (f (after requests (part, w)).1, (after requests (part, w)).2) := by
  induction requests generalizing part w with
  | nil => rfl
  | cons request requests ih => rw [after_cons, (hcarries request).final, ih, after_cons]

/-- `f` embeds a stream so that quiet requests get the answers they get from the stream alone. -/
def Conducts (ω : Type) {σ τ : Type} [ByteStream ω σ] [ByteStream ω τ] (f : σ → τ) : Prop :=
  ∀ request : Request, request.isQuiet = true →
    StreamM.Carries f (perform request : StreamM ω σ request.Answer) (perform request)

end ByteStream

/-- An open layer that changes nothing conducts the stream below. -/
theorem Passthrough.conducts {ω σ : Type} [ByteStream ω σ] (ownership : Ownership) :
    ByteStream.Conducts ω fun stream : σ => (⟨.live stream, ownership⟩ : Passthrough σ) := by
  intro request hquiet
  cases request with
  | dispose => cases hquiet
  | _ => exact carries_forward ownership _

end LayeredStreams
