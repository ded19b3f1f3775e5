import LayeredStreams.Proofs.Outcome

/-!
# A base whose calls may fail

A stream of a fixed content, of which any call may be made to fail, and then leaves the stream as it
was. What becomes of the calls is fixed beforehand.

* `Turn`, `Fate` — what becomes of a call; the turns of the calls to come, and the calls that were
  made.
* `Fickle` — the stream.
* `Fate.Calm`, `Fate.Struck` — what came to the calls since an earlier fate: none of them was made
  to fail, or the last one was and no other.
* `StreamM.Endures start pre mid shown act` — a computation that ends with the error that a call was
  made to fail with, as soon as one is.

Principal results: `StreamM.Endures.bind` (what endures goes on enduring) and
`Fickle.endures_explore` (a call that is made to fail leaves the base as it was).
-/

set_option autoImplicit false

namespace LayeredStreams

namespace Request

/-- Whether a request asks where a stream stands or how long it is. -/
def isQuery : Request → Bool
  | position | length => true
  | _ => false

/-- Whether a request reads, moves the cursor, or asks where it is or how far the content reaches.
-/
def explores : Request → Bool
  | position | setPosition _ | length | seek _ | read _ _ | readByte => true
  | _ => false

theorem mutates_of_explores {request : Request} (h : request.explores = true) :
    request.mutates = false := by
  cases request <;> first | rfl | cases h

theorem explores_of_isQuery {request : Request} (h : request.isQuery = true) :
    request.explores = true := by
  cases request <;> first | rfl | cases h

end Request

/-! ## Calls and what becomes of them -/

/-- What becomes of a call: it fails, or it is granted and moves at most so many bytes. -/
inductive Turn
  | fail (e : StreamError)
  | grant (bound : Option Nat)
  deriving DecidableEq, Repr

/-- A call that a base received, and the error that it was made to fail with. -/
structure FickleCall where
  request : Request
  failure : Option StreamError
  deriving DecidableEq, Repr

/-- Surroundings that say what becomes of the calls to come. -/
structure Fate where
  /-- The turns of the calls to come. -/
  turns : Nat → Turn
  /-- The calls that were made, the latest first. -/
  calls : List FickleCall
  cancelled : List String

namespace Fate

instance : Cancellation Fate where
  isCancelled name fate := fate.cancelled.contains name

/-- The fate after a call. -/
def after (call : FickleCall) (fate : Fate) : Fate :=
  { fate with turns := fun index => fate.turns (index + 1), calls := call :: fate.calls }

/-- None of the calls since `start` was made to fail. -/
def Calm (start fate : Fate) : Prop :=
  ∃ calls, fate.calls = calls ++ start.calls ∧ ∀ call ∈ calls, call.failure = none

/-- The last call was made to fail with `e`, and no other since `start`. -/
def Struck (e : StreamError) (start fate : Fate) : Prop :=
  ∃ request calls, fate.calls = ⟨request, some e⟩ :: (calls ++ start.calls) ∧
    ∀ call ∈ calls, call.failure = none

theorem calm_self (start : Fate) : start.Calm start :=
  ⟨[], rfl, fun _ hmem => absurd hmem List.not_mem_nil⟩

variable {start fate : Fate}

theorem Calm.grant (h : start.Calm fate) (request : Request) :
    start.Calm (fate.after ⟨request, none⟩) := by
  obtain ⟨calls, hcalls, hcalm⟩ := h
  refine ⟨⟨request, none⟩ :: calls, ?_, ?_⟩
  · show _ :: fate.calls = _
    rw [hcalls, List.cons_append]
  · intro call hmem
    rcases List.mem_cons.mp hmem with rfl | hmem
    · rfl
    · exact hcalm call hmem

theorem Calm.strike (h : start.Calm fate) (request : Request) (e : StreamError) :
    Struck e start (fate.after ⟨request, some e⟩) := by
  obtain ⟨calls, hcalls, hcalm⟩ := h
  refine ⟨request, calls, ?_, hcalm⟩
  show _ :: fate.calls = _
  rw [hcalls]

/-- Of the calls since `start`, none was made to fail where they were calm. -/
theorem Calm.failure_eq_none (h : start.Calm fate) {calls : List FickleCall}
    (hcalls : fate.calls = calls ++ start.calls) {call : FickleCall} (hmem : call ∈ calls) :
    call.failure = none := by
  obtain ⟨calls', hcalls', hcalm⟩ := h
  rw [hcalls] at hcalls'
  rw [List.append_cancel_right hcalls'] at hmem
  exact hcalm call hmem

/-- Of the calls since `start`, only the last one was made to fail where it was struck. -/
theorem Struck.failure_eq {e : StreamError} (h : Struck e start fate) {calls : List FickleCall}
    (hcalls : fate.calls = calls ++ start.calls) {call : FickleCall} (hmem : call ∈ calls)
    {e' : StreamError} (hfailure : call.failure = some e') : e = e' := by
  obtain ⟨request, calls', hcalls', hcalm⟩ := h
  rw [hcalls, ← List.cons_append] at hcalls'
  rw [List.append_cancel_right hcalls'] at hmem
  rcases List.mem_cons.mp hmem with rfl | hmem
  · exact Option.some.inj hfailure
  · rw [hcalm call hmem] at hfailure
    cases hfailure

end Fate

/-- A stream of a fixed content. -/
structure Fickle where
  content : Bytes
  cursor : Nat
  disposed : Bool
  deriving DecidableEq, Repr

namespace Fickle

/-- Enter a call, and suffer what becomes of it. -/
def undergo (request : Request) : StreamM Fate Fickle (Option Nat) := fun (base, fate) =>
  match fate.turns 0 with
  | .fail e => .error e (base, fate.after ⟨request, some e⟩)
  | .grant bound => .ok bound (base, fate.after ⟨request, none⟩)

/-- Read at most `room` bytes, and at most `bound`. -/
def take (bound : Option Nat) (room : Nat) : StreamM Fate Fickle Bytes := do
  let base ← StreamM.state
  let bytes := base.content.window base.cursor ((bound.map (min room)).getD room)
  StreamM.update fun base => { base with cursor := base.cursor + bytes.length }
  return bytes

/-- What a granted call does. The content cannot be changed. -/
def act (bound : Option Nat) : (request : Request) → StreamM Fate Fickle request.Answer
  | .position => do return (← StreamM.state).cursor
  | .setPosition target => StreamM.update fun base => { base with cursor := target }
  | .length => do return (← StreamM.state).content.length
  | .seek target => do
    let base ← StreamM.state
    let place ← StreamM.ofExcept (target.resolve base.cursor base.content.length)
    StreamM.update fun base => { base with cursor := place }
    return place
  | .read _ room => take bound room
  | .readByte => do return (← take none 1).head?
  | .flush _ => pure ()
  | .dispose => StreamM.update fun base => { base with disposed := true }
  | request => StreamM.refuse (.notSupported request.name)

/-- What a disposed stream answers. -/
def decline : (request : Request) → StreamM Fate Fickle request.Answer
  | .dispose => pure ()
  | _ => StreamM.refuse .disposed

/-- The answer of a fickle stream to a request. A suspending transfer looks at its token first. -/
def perform (request : Request) : StreamM Fate Fickle request.Answer := do
  request.mode.checkToken
  if (← StreamM.state).disposed then decline request
  else do
    let bound ← undergo request
    act bound request

instance : ByteStream Fate Fickle where
  can capability base _ := capability != .writing && capability != .timing && !base.disposed
  isDisposed base _ := base.disposed
  perform := Fickle.perform

end Fickle

/-! ## Computations that end as soon as a call is made to fail -/

theorem Mode.final_admission {ω σ : Type} [Cancellation ω] (mode : Mode) (s : σ × ω) :
    StreamM.final mode.checkToken s = s := by
  unfold StreamM.final
  rw [Mode.checkToken_apply]
  cases mode.isCancelled s.2 with
  | true => rfl
  | false => rfl

namespace StreamM

variable {σ τ α β : Type}

/-- From a state of which `pre` holds, in which no call was made to fail since `start`: either no
call is made to fail, and `mid` holds after the computation, or the last one is, the computation
ends with its error, and `shown` holds of the state. -/
def Endures (start : Fate) (pre mid shown : σ → Prop) (act : StreamM Fate σ α) : Prop :=
  ∀ s : σ × Fate, start.Calm s.2 → pre s.1 →
    act.Ends s (fun _ s' => start.Calm s'.2 ∧ mid s'.1)
      fun e s' => start.Calm s'.2 ∧ mid s'.1 ∨ Fate.Struck e start s'.2 ∧ shown s'.1

variable {start : Fate} {pre mid mid' shown shown' : σ → Prop} {act : StreamM Fate σ α}

theorem endures_pure (h : ∀ state, pre state → mid state) (value : α) :
    Endures start pre mid shown (pure value : StreamM Fate σ α) :=
  fun s hcalm hs => ⟨hcalm, h s.1 hs⟩

theorem endures_refuse (h : ∀ state, pre state → mid state) (cause : Refusal) :
    Endures start pre mid shown (refuse cause : StreamM Fate σ α) :=
  fun s hcalm hs => Or.inl ⟨hcalm, h s.1 hs⟩

theorem endures_ofExcept (h : ∀ state, pre state → mid state) (outcome : Except Refusal α) :
    Endures start pre mid shown (ofExcept outcome : StreamM Fate σ α) := by
  cases outcome with
  | ok value => exact endures_pure h value
  | error cause => exact endures_refuse h cause

/-- A computation that leaves everything as it is, whatever comes of it. -/
theorem endures_of_final (h : ∀ s, act.final s = s) : Endures start pre pre shown act := by
  intro s hcalm hs
  have hfinal := h s
  unfold final at hfinal
  unfold Ends
  cases heq : act s with
  | ok value s' =>
    rw [heq] at hfinal
    rw [show s' = s from hfinal]
    exact ⟨hcalm, hs⟩
  | error e s' =>
    rw [heq] at hfinal
    rw [show s' = s from hfinal]
    exact Or.inl ⟨hcalm, hs⟩

theorem Endures.mono (h : Endures start pre mid shown act) (hmid : ∀ state, mid state → mid' state)
    (hshown : ∀ state, shown state → shown' state) : Endures start pre mid' shown' act := by
  intro s hcalm hs
  refine (h s hcalm hs).mono ?_ ?_
  · intro _ s' hout
    exact ⟨hout.1, hmid _ hout.2⟩
  · intro e s' hout
    rcases hout with hout | hout
    · exact Or.inl ⟨hout.1, hmid _ hout.2⟩
    · exact Or.inr ⟨hout.1, hshown _ hout.2⟩

theorem Endures.bind {next : α → StreamM Fate σ β} (h : Endures start pre mid shown act)
    (hmid : ∀ state, mid state → mid' state)
    (hnext : ∀ value, Endures start mid mid' shown (next value)) :
    Endures start pre mid' shown (act >>= next) := by
  intro s hcalm hs
  refine ((h s hcalm hs).mono (fun _ _ h => h) ?_).bind ?_
  · intro e s' hout
    rcases hout with hout | hout
    · exact Or.inl ⟨hout.1, hmid _ hout.2⟩
    · exact Or.inr hout
  · intro value s' hout
    exact hnext value s' hout.1 hout.2

/-- What goes on from the state is known to go on from this one. -/
theorem endures_state_bind {next : σ → StreamM Fate σ α}
    (hnext : ∀ state, pre state → Endures start (· = state) mid shown (next state)) :
    Endures start pre mid shown (state >>= next) :=
  fun s hcalm hs => ends_state_bind (hnext s.1 hs s hcalm rfl)

theorem endures_update {f : σ → σ} (hf : ∀ state, pre state → mid (f state)) :
    Endures start pre mid shown (update f : StreamM Fate σ Unit) :=
  fun s hcalm hs => ⟨hcalm, hf s.1 hs⟩

theorem Endures.of_pre {pre' : σ → Prop} (h : Endures start pre mid shown act)
    (hpre : ∀ state, pre' state → pre state) : Endures start pre' mid shown act :=
  fun s hcalm hs => h s hcalm (hpre _ hs)

/-- A computation on a part endures as on the part alone, and leaves what is told of the rest. -/
theorem Endures.within {get : σ → τ} {put : τ → σ → σ} {act : StreamM Fate τ α}
    {pre mid shown : τ → Prop} (rest : σ → Prop) (get_put : ∀ part t, get (put part t) = part)
    (rest_put : ∀ part t, rest t → rest (put part t)) (h : Endures start pre mid shown act) :
    Endures start (fun t => rest t ∧ pre (get t)) (fun t => rest t ∧ mid (get t))
      (fun t => rest t ∧ shown (get t)) (StreamM.within get put act) := by
  intro s hcalm hs
  have hpart := h (get s.1, s.2) hcalm hs.2
  refine (Ends.within_keeping rest get_put rest_put hs.1 hpart).mono ?_ ?_
  · intro _ s' hout
    exact ⟨hout.2.1, hout.1, hout.2.2⟩
  · intro e s' hout
    rcases hout.2 with hmid | hshown
    · exact Or.inl ⟨hmid.1, hout.1, hmid.2⟩
    · exact Or.inr ⟨hshown.1, hout.1, hshown.2⟩

theorem Endures.within_of {get : σ → τ} {put : τ → σ → σ} {act : StreamM Fate τ α} {whole : σ}
    {mid shown : τ → Prop} (rest : σ → Prop) (hrest : rest whole)
    (get_put : ∀ part t, get (put part t) = part) (rest_put : ∀ part t, rest t → rest (put part t))
    (h : Endures start (· = get whole) mid shown act) :
    Endures start (· = whole) (fun t => rest t ∧ mid (get t)) (fun t => rest t ∧ shown (get t))
      (StreamM.within get put act) := by
  refine (h.within rest get_put rest_put).of_pre ?_
  rintro t rfl
  exact ⟨hrest, rfl⟩

end StreamM

/-! ## The base -/

namespace Fickle

variable {start : Fate} {base : Fickle}

/-- A stream of the same content, perhaps at another place. -/
def Drifted (base base' : Fickle) : Prop := { base with cursor := base'.cursor } = base'

theorem endures_undergo (request : Request) :
    StreamM.Endures start (· = base) (· = base) (· = base) (undergo request) := by
  rintro ⟨base', fate⟩ hcalm hbase
  unfold StreamM.Ends undergo
  dsimp only
  cases fate.turns 0 with
  | fail e => exact Or.inr ⟨Fate.Calm.strike hcalm request e, hbase⟩
  | grant bound => exact ⟨Fate.Calm.grant hcalm request, hbase⟩

theorem endures_admission (mode : Mode) :
    StreamM.Endures start (· = base) (· = base) (· = base)
      (mode.checkToken : StreamM Fate Fickle Unit) :=
  StreamM.endures_of_final mode.final_admission

/-- A call that is made to fail leaves the base as it was, and what a granted one does comes after.
-/
theorem endures_perform {request : Request} {mid : Fickle → Prop} (hmid : mid base)
    (hdecline : StreamM.Endures start (· = base) mid (· = base) (decline request))
    (hact : ∀ bound, StreamM.Endures start (· = base) mid (· = base) (act bound request)) :
    StreamM.Endures start (· = base) mid (· = base)
      (ByteStream.perform request : StreamM Fate Fickle request.Answer) := by
  have hkept : ∀ base', base' = base → mid base' := fun base' heq => heq ▸ hmid
  show StreamM.Endures _ _ _ _ (Fickle.perform request)
  unfold Fickle.perform
  refine (endures_admission request.mode).bind hkept fun _ => ?_
  refine StreamM.endures_state_bind fun base' heq => ?_
  subst heq
  split
  · exact hdecline
  · exact (endures_undergo request).bind hkept hact

theorem endures_query {request : Request} (hquery : request.isQuery = true) :
    StreamM.Endures start (· = base) (· = base) (· = base)
      (ByteStream.perform request : StreamM Fate Fickle request.Answer) := by
  have hdecline : StreamM.Endures start (· = base) (· = base) (· = base)
      (StreamM.refuse .disposed : StreamM Fate Fickle Nat) :=
    StreamM.endures_refuse (fun _ h => h) .disposed
  cases request with
  | position => exact endures_perform rfl hdecline fun _ _ hcalm h => ⟨hcalm, h⟩
  | length => exact endures_perform rfl hdecline fun _ _ hcalm h => ⟨hcalm, h⟩
  | _ => cases hquery

/-- **A call that is made to fail leaves the base as it was**, and any other at most moves it. -/
theorem endures_explore {request : Request} (hexplores : request.explores = true) :
    StreamM.Endures start (· = base) (Drifted · base) (· = base)
      (ByteStream.perform request : StreamM Fate Fickle request.Answer) := by
  have hself : ∀ base' : Fickle, base' = base → Drifted base' base := by
    rintro base' rfl
    rfl
  have hdecline : ∀ {α : Type},
      StreamM.Endures start (· = base) (Drifted · base) (· = base)
        (StreamM.refuse .disposed : StreamM Fate Fickle α) :=
    fun _ hcalm h => Or.inl ⟨hcalm, hself _ h⟩
  have htake : ∀ bound room,
      StreamM.Endures start (· = base) (Drifted · base) (· = base) (take bound room) := by
    intro bound room s hcalm h
    subst h
    exact ⟨hcalm, rfl⟩
  cases request with
  | position => exact (endures_query rfl).mono hself fun _ h => h
  | length => exact (endures_query rfl).mono hself fun _ h => h
  | setPosition target =>
    refine endures_perform rfl hdecline fun bound s hcalm h => ?_
    subst h
    exact ⟨hcalm, rfl⟩
  | seek target =>
    refine endures_perform rfl hdecline fun bound s hcalm h => ?_
    subst h
    refine StreamM.ends_state_bind ?_
    cases target.resolve s.1.cursor s.1.content.length with
    | error cause => exact Or.inl ⟨hcalm, rfl⟩
    | ok place => exact ⟨hcalm, rfl⟩
  | read mode room => exact endures_perform rfl hdecline fun bound => htake bound room
  | readByte =>
    refine endures_perform rfl hdecline fun bound => ?_
    exact (htake none 1).bind (fun _ h => h) fun _ => StreamM.endures_pure (fun _ h => h) _
  | _ => cases hexplores

end Fickle

end LayeredStreams
