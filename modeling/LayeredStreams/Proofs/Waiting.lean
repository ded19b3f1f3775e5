import LayeredStreams.Proofs.Preserved

/-!
# How a transfer waits

A transfer that is suspending under a token that nobody cancels comes to the same as one that is
blocking: on a stream that suspends by looking at the token first and blocking afterwards, and on
every layer over it. Only the name of an operation that is declined differs.

* `StreamM.unnamed` — a computation whose errors do not name the operation that is not offered.
* `StreamM.Same good act act'` — two computations come to the same where `good` holds.
* `Uncancelled allowed sound` — the states in which the stream is `sound` and no `allowed` mode is
  called off.
* `WaitsAlike allowed sound` — a stream whose transfers come to the same in every allowed mode.
* `AdmitsAndBlocks ω σ` — a stream whose suspending transfers are admitted and go on as blocking
  ones.

Principal results: `AdmitsAndBlocks.waitsAlike`, `WaitsAlike.same_fill` (a fill is the same in every
mode), `Cached.same_load` (so is the load of a block) and `Stack.waitsAlike` (so are the transfers
of every stack of layers).
-/

set_option autoImplicit false

namespace LayeredStreams

/-- The error, without the name of an operation that is not offered. -/
def StreamError.unnamed : StreamError → StreamError
  | .refusal (.notSupported _) => .refusal (.notSupported "")
  | e => e

namespace StreamM

variable {ω σ τ α β : Type}

/-- The computation, with errors that do not name the operation that is not offered. -/
def unnamed (act : StreamM ω σ α) : StreamM ω σ α := fun s =>
  match act s with
  | .ok value s' => .ok value s'
  | .error e s' => .error e.unnamed s'

variable {act act' : StreamM ω σ α} {next next' : α → StreamM ω σ β} {good : σ × ω → Prop}

theorem unnamed_apply (act : StreamM ω σ α) (s : σ × ω) :
    act.unnamed s =
      match act s with
      | .ok value s' => .ok value s'
      | .error e s' => .error e.unnamed s' := rfl

theorem final_unnamed (act : StreamM ω σ α) (s : σ × ω) : act.unnamed.final s = act.final s := by
  unfold final unnamed
  cases act s with
  | ok value s' => rfl
  | error e s' => rfl

theorem unnamed_bind (act : StreamM ω σ α) (next : α → StreamM ω σ β) :
    (act >>= next).unnamed = act.unnamed >>= fun value => (next value).unnamed := by
  funext s
  rw [unnamed_apply, bind_apply, bind_apply, unnamed_apply]
  cases act s with
  | ok value s' => rfl
  | error e s' => rfl

theorem unnamed_within (get : σ → τ) (put : τ → σ → σ) (act : StreamM ω τ α) :
    (within get put act).unnamed = within get put act.unnamed := by
  funext s
  show (match within get put act s with
    | .ok value s' => .ok value s'
    | .error e s' => .error e.unnamed s') = within get put act.unnamed s
  unfold within
  rw [unnamed_apply]
  cases act (get s.1, s.2) with
  | ok value s' => rfl
  | error e s' => rfl

theorem final_congr {s : σ × ω} (h : act s = act' s) : act.final s = act'.final s := by
  unfold final
  rw [h]

theorem result_congr {s : σ × ω} (h : act s = act' s) : act.result s = act'.result s := by
  unfold result
  rw [h]

theorem Keeps.unnamed (h : Keeps good act) : Keeps good act.unnamed := by
  intro s hs
  refine ends_of_final ?_
  rw [final_unnamed]
  exact (h s hs).final

/-- Two computations come to the same, and leave the same state, where `good` holds. -/
def Same (good : σ × ω → Prop) (act act' : StreamM ω σ α) : Prop := ∀ s, good s → act s = act' s

theorem Same.refl (act : StreamM ω σ α) : Same good act act := fun _ _ => rfl

theorem Same.mono {good' : σ × ω → Prop} (h : Same good act act')
    (himp : ∀ s, good' s → good s) : Same good' act act' :=
  fun s hs => h s (himp s hs)

theorem Same.unnamed (h : Same good act act') : Same good act.unnamed act'.unnamed := by
  intro s hs
  rw [unnamed_apply, unnamed_apply, h s hs]

/-- What goes on the same way from wherever the same first part leads is the same. -/
theorem Same.bind (h : Same good act act') (hkeeps : Keeps good act)
    (hnext : ∀ value, Same good (next value) (next' value)) :
    Same good (act >>= next) (act' >>= next') := by
  intro s hs
  have hout := hkeeps s hs
  unfold Ends at hout
  rw [bind_apply, bind_apply, ← h s hs]
  cases heq : act s with
  | ok value s' =>
    rw [heq] at hout
    exact hnext value s' hout
  | error e s' => rfl

theorem same_state_bind {next next' : σ → StreamM ω σ α}
    (hnext : ∀ stream, Same good (next stream) (next' stream)) :
    Same good (state >>= next) (state >>= next') := by
  intro s hs
  rw [bind_apply, bind_apply]
  exact hnext s.1 s hs

theorem Same.attempt (h : Same good act act') : Same good act.attempt act'.attempt := by
  intro s hs
  unfold StreamM.attempt
  rw [h s hs]

theorem Same.within {get : σ → τ} {put : τ → σ → σ} {good : τ × ω → Prop}
    {act act' : StreamM ω τ α} (h : Same good act act') :
    Same (fun s : σ × ω => good (get s.1, s.2)) (StreamM.within get put act)
      (StreamM.within get put act') := by
  intro s hs
  unfold StreamM.within
  rw [h (get s.1, s.2) hs]

theorem Same.unnamed_within {get : σ → τ} {put : τ → σ → σ} {good : τ × ω → Prop}
    {act act' : StreamM ω τ α} (h : Same good act.unnamed act'.unnamed) :
    Same (fun s : σ × ω => good (get s.1, s.2)) (StreamM.within get put act).unnamed
      (StreamM.within get put act').unnamed := by
  rw [StreamM.unnamed_within, StreamM.unnamed_within]
  exact h.within

theorem Carries.unnamed {f : σ → τ} {act : StreamM ω σ α} {act' : StreamM ω τ α}
    (h : Carries f act act') : Carries f act.unnamed act'.unnamed := by
  intro part w
  rw [unnamed_apply, unnamed_apply, h]
  cases act (part, w) with
  | ok value s' => rfl
  | error e s' => rfl

end StreamM

section

variable {ω σ : Type} [Cancellation ω]

/-- A sound stream, where no allowed mode is called off. -/
def Uncancelled (allowed : Mode → Prop) (sound : σ → Prop) (s : σ × ω) : Prop :=
  sound s.1 ∧ ∀ mode, allowed mode → mode.isCancelled s.2 = false

variable [ByteStream ω σ]

/-- A stream whose transfers come to the same in every allowed mode, up to the name of an operation
that it does not offer. No request calls an allowed mode off. -/
structure WaitsAlike (ω : Type) {σ : Type} [Cancellation ω] [ByteStream ω σ] (allowed : Mode → Prop)
    (sound : σ → Prop) : Prop where
  keeps : ∀ request : Request, StreamM.Keeps (Uncancelled allowed sound)
    (ByteStream.perform request : StreamM ω σ request.Answer)
  read : ∀ {mode : Mode}, allowed mode → ∀ room : Nat, StreamM.Same (Uncancelled allowed sound)
    (ByteStream.read mode room : StreamM ω σ Bytes) (ByteStream.read .blocking room)
  write : ∀ {mode : Mode}, allowed mode → ∀ data : Bytes,
    StreamM.Same (Uncancelled allowed sound)
      (ByteStream.write mode data : StreamM ω σ Unit).unnamed
      (ByteStream.write .blocking data : StreamM ω σ Unit).unnamed
  flush : ∀ {mode : Mode}, allowed mode → StreamM.Same (Uncancelled allowed sound)
    (ByteStream.flush mode : StreamM ω σ Unit).unnamed
    (ByteStream.flush .blocking : StreamM ω σ Unit).unnamed

/-- A stream whose suspending transfers look at the token and go on as blocking ones. -/
structure AdmitsAndBlocks (ω σ : Type) [Cancellation ω] [ByteStream ω σ] : Prop where
  read : ∀ (mode : Mode) (room : Nat), (ByteStream.read mode room : StreamM ω σ Bytes) =
    (do mode.checkToken; ByteStream.read .blocking room)
  write : ∀ (mode : Mode) (data : Bytes), (ByteStream.write mode data : StreamM ω σ Unit) =
    (do mode.checkToken; ByteStream.write .blocking data)
  flush : ∀ mode : Mode, (ByteStream.flush mode : StreamM ω σ Unit) =
    (do mode.checkToken; ByteStream.flush .blocking)

variable {allowed : Mode → Prop} {sound : σ → Prop} {mode : Mode}

omit [ByteStream ω σ] in
/-- Where a mode is not called off, a transfer goes ahead. -/
theorem same_checkToken_bind {α : Type} (hmode : allowed mode) (act : StreamM ω σ α) :
    StreamM.Same (Uncancelled allowed sound) (do mode.checkToken; act) act := by
  intro s hs
  rw [StreamM.bind_apply, Mode.checkToken_apply, hs.2 mode hmode]
  rfl

/-- **A stream that is admitted and blocks waits alike**, if it calls off no allowed mode. -/
theorem AdmitsAndBlocks.waitsAlike (plain : AdmitsAndBlocks ω σ)
    (keeps : ∀ request : Request, StreamM.Keeps (Uncancelled allowed sound)
      (ByteStream.perform request : StreamM ω σ request.Answer)) :
    WaitsAlike ω allowed sound where
  keeps := keeps
  read hmode room := by
    rw [plain.read]
    exact same_checkToken_bind hmode _
  write hmode data := by
    rw [plain.write]
    exact (same_checkToken_bind hmode _).unnamed
  flush hmode := by
    rw [plain.flush]
    exact (same_checkToken_bind hmode _).unnamed

namespace WaitsAlike

variable (h : WaitsAlike ω allowed sound)
include h

theorem preservesOn : ByteStream.PreservesOn ω (fun _ => True) (Uncancelled allowed sound) :=
  fun request _ => h.keeps request

theorem keeps_fillWithin (mode : Mode) (reads room : Nat) :
    StreamM.Keeps (Uncancelled allowed sound) (fillWithin mode reads room : StreamM ω σ Filled) :=
  LayeredStreams.keeps_fillWithin (fun room => h.keeps (.read mode room)) reads room

theorem keeps_readAdmitted (mode : Mode) (room : Nat) :
    StreamM.Keeps (Uncancelled allowed sound) (readAdmitted mode room : StreamM ω σ Bytes) :=
  (keeps_admission mode).bind fun _ => h.keeps (.read mode room)

theorem same_readAdmitted (hmode : allowed mode) (room : Nat) :
    StreamM.Same (Uncancelled allowed sound) (readAdmitted mode room : StreamM ω σ Bytes)
      (readAdmitted .blocking room) := by
  intro s hs
  calc readAdmitted mode room s = ByteStream.read mode room s := same_checkToken_bind hmode _ s hs
    _ = ByteStream.read .blocking room s := h.read hmode room s hs
    _ = readAdmitted .blocking room s := rfl

/-- The induction is on the reads that are left. -/
theorem same_fillWithin (hmode : allowed mode) : ∀ reads room : Nat,
    StreamM.Same (Uncancelled allowed sound) (fillWithin mode reads room : StreamM ω σ Filled)
      (fillWithin .blocking reads room)
  | 0, _ => .refl _
  | reads + 1, room => by
    unfold fillWithin
    split
    · exact .refl _
    refine (h.same_readAdmitted hmode room).attempt.bind (h.keeps_readAdmitted mode room).attempt ?_
    intro outcome
    split
    · exact .refl _
    · exact .refl _
    · refine (same_fillWithin hmode reads _).bind (h.keeps_fillWithin mode reads _) ?_
      exact fun _ => .refl _

/-- **A fill is the same in every allowed mode**, also one that a failing read ends. -/
theorem same_fill (hmode : allowed mode) (room : Nat) :
    StreamM.Same (Uncancelled allowed sound) (fill mode room : StreamM ω σ Filled)
      (fill .blocking room) :=
  h.same_fillWithin hmode room room

theorem keeps_fill (mode : Mode) (room : Nat) :
    StreamM.Keeps (Uncancelled allowed sound) (fill mode room : StreamM ω σ Filled) :=
  h.keeps_fillWithin mode room room

theorem same_fillExactly (hmode : allowed mode) (room : Nat) :
    StreamM.Same (Uncancelled allowed sound) (fillExactly mode room : StreamM ω σ Filled)
      (fillExactly .blocking room) :=
  (h.same_fill hmode room).bind (h.keeps_fill mode room) fun _ => .refl _

theorem keeps_fillExactly (mode : Mode) (room : Nat) :
    StreamM.Keeps (Uncancelled allowed sound) (fillExactly mode room : StreamM ω σ Filled) :=
  (h.keeps_fill mode room).bind fun _ => StreamM.keeps_pure _

omit h

/-- A stream waits alike where it embeds one that does. -/
theorem carried {τ : Type} [ByteStream ω τ] {f : σ → τ} (h : WaitsAlike ω allowed sound)
    (hcarries : ∀ request : Request, StreamM.Carries f
      (ByteStream.perform request : StreamM ω σ request.Answer) (ByteStream.perform request)) :
    WaitsAlike ω allowed fun stream : τ => ∃ part, stream = f part ∧ sound part where
  keeps request := by
    rintro ⟨_, w⟩ ⟨⟨part, rfl, hsound⟩, hw⟩
    have hkeeps := h.keeps request (part, w) ⟨hsound, hw⟩
    unfold StreamM.Ends at hkeeps ⊢
    rw [hcarries request]
    cases heq : (ByteStream.perform request : StreamM ω σ request.Answer) (part, w) with
    | ok value s' =>
      rw [heq] at hkeeps
      exact ⟨⟨s'.1, rfl, hkeeps.1⟩, hkeeps.2⟩
    | error e s' =>
      rw [heq] at hkeeps
      exact ⟨⟨s'.1, rfl, hkeeps.1⟩, hkeeps.2⟩
  read {mode} hmode room := by
    rintro ⟨_, w⟩ ⟨⟨part, rfl, hsound⟩, hw⟩
    have hread := h.read hmode room (part, w) ⟨hsound, hw⟩
    unfold ByteStream.read at hread ⊢
    rw [hcarries (.read mode room), hread, hcarries (.read .blocking room)]
  write {mode} hmode data := by
    rintro ⟨_, w⟩ ⟨⟨part, rfl, hsound⟩, hw⟩
    have hwrite := h.write hmode data (part, w) ⟨hsound, hw⟩
    unfold ByteStream.write at hwrite ⊢
    rw [(hcarries (.write mode data)).unnamed, hwrite, (hcarries (.write .blocking data)).unnamed]
  flush {mode} hmode := by
    rintro ⟨_, w⟩ ⟨⟨part, rfl, hsound⟩, hw⟩
    have hflush := h.flush hmode (part, w) ⟨hsound, hw⟩
    unfold ByteStream.flush at hflush ⊢
    rw [(hcarries (.flush mode)).unnamed, hflush, (hcarries (.flush .blocking)).unnamed]

/-- A stream waits alike if it does in parts that cover its states. -/
theorem of_cover (hcover : ∀ stream : σ, sound stream → ∃ part : σ → Prop,
      part stream ∧ WaitsAlike ω allowed part ∧ ∀ other, part other → sound other) :
    WaitsAlike ω allowed sound where
  keeps request s hs := by
    obtain ⟨part, hpart, h, hsound⟩ := hcover s.1 hs.1
    have himp : ∀ s' : σ × ω, Uncancelled allowed part s' → Uncancelled allowed sound s' :=
      fun s' hs' => ⟨hsound s'.1 hs'.1, hs'.2⟩
    exact (h.keeps request s ⟨hpart, hs.2⟩).mono (fun _ => himp) fun _ => himp
  read hmode room s hs := by
    obtain ⟨part, hpart, h, -⟩ := hcover s.1 hs.1
    exact h.read hmode room s ⟨hpart, hs.2⟩
  write hmode data s hs := by
    obtain ⟨part, hpart, h, -⟩ := hcover s.1 hs.1
    exact h.write hmode data s ⟨hpart, hs.2⟩
  flush hmode s hs := by
    obtain ⟨part, hpart, h, -⟩ := hcover s.1 hs.1
    exact h.flush hmode s ⟨hpart, hs.2⟩

end WaitsAlike

end

/-! ## Layers -/

section Layers

variable {ω σ α : Type} [Cancellation ω] [ByteStream ω σ] {allowed : Mode → Prop} {mode : Mode}

namespace Passthrough

variable {sound : σ → Prop}

omit [ByteStream ω σ] in
theorem same_forward {act act' : StreamM ω σ α}
    (h : StreamM.Same (Uncancelled allowed sound) act act') :
    StreamM.Same (Uncancelled allowed (Sound sound)) (forward act) (forward act') := by
  rintro ⟨⟨slot, ownership⟩, w⟩ hs
  cases slot with
  | disposed => rfl
  | live stream => rw [forward_of_live, forward_of_live, h (stream, w) ⟨hs.1 stream rfl, hs.2⟩]

omit [Cancellation ω] [ByteStream ω σ] in
theorem unnamed_forward (act : StreamM ω σ α) : (forward act).unnamed = forward act.unnamed := by
  funext s
  obtain ⟨⟨slot, ownership⟩, w⟩ := s
  cases slot with
  | disposed => rfl
  | live stream =>
    rw [StreamM.unnamed_apply, forward_of_live, forward_of_live, StreamM.unnamed_apply]
    cases act (stream, w) with
    | ok value s' => rfl
    | error e s' => rfl

omit [Cancellation ω] [ByteStream ω σ] in
/-- Whatever is declined, it is declined in the same way but for its name. -/
theorem unnamed_decline (request request' : Request) :
    (decline request : StreamM ω (Passthrough σ) α).unnamed =
      (decline request' : StreamM ω (Passthrough σ) α).unnamed := by
  funext s
  obtain ⟨⟨slot, ownership⟩, w⟩ := s
  cases slot with
  | disposed => rfl
  | live stream => rfl

omit [ByteStream ω σ] in
theorem same_unnamed_forward {act act' : StreamM ω σ α}
    (h : StreamM.Same (Uncancelled allowed sound) act.unnamed act'.unnamed) :
    StreamM.Same (Uncancelled allowed (Sound sound)) (forward act).unnamed
      (forward act').unnamed := by
  rw [unnamed_forward, unnamed_forward]
  exact same_forward h

theorem waitsAlike (h : WaitsAlike ω allowed sound) : WaitsAlike ω allowed (Sound sound) where
  keeps request := by
    have hbelow : ByteStream.PreservesOn ω (fun _ => True)
        (Amid sound fun w => ∀ mode, allowed mode → mode.isCancelled w = false) := h.preservesOn
    have hlayer := preservesOn_sound hbelow
    exact hlayer request trivial
  read hmode room := same_forward (h.read hmode room)
  write hmode data := same_unnamed_forward (h.write hmode data)
  flush hmode := same_unnamed_forward (h.flush hmode)

end Passthrough

/-! Over a layer that waits alike, whatever it is, every other layer does. -/

variable {sound : Passthrough σ → Prop}

omit [Cancellation ω] [ByteStream ω σ] in
/-- What is declined is the same in every mode. -/
theorem Passthrough.same_decline (good : Passthrough σ × ω → Prop) (request request' : Request) :
    StreamM.Same good (decline request : StreamM ω (Passthrough σ) α).unnamed
      (decline request' : StreamM ω (Passthrough σ) α).unnamed :=
  fun s _ => congrFun (unnamed_decline request request') s

namespace Rebased

omit [Cancellation ω] [ByteStream ω σ] in
theorem same_onBase {good : Passthrough σ × ω → Prop} {act act' : StreamM ω (Passthrough σ) α}
    (h : StreamM.Same good act act') :
    StreamM.Same (Passthrough.At Rebased.base good) (onBase act) (onBase act') :=
  h.within

omit [Cancellation ω] [ByteStream ω σ] in
theorem same_unnamed_onBase {good : Passthrough σ × ω → Prop}
    {act act' : StreamM ω (Passthrough σ) α} (h : StreamM.Same good act.unnamed act'.unnamed) :
    StreamM.Same (Passthrough.At Rebased.base good) (onBase act).unnamed (onBase act').unnamed :=
  h.unnamed_within

theorem waitsAlike (h : WaitsAlike ω allowed sound) :
    WaitsAlike ω allowed fun layer : Rebased σ => sound layer.base where
  keeps request := preservesOn Request.closed_all h.preservesOn request trivial
  read hmode room := same_onBase (h.read hmode room)
  write hmode data := same_unnamed_onBase (h.write hmode data)
  flush hmode := same_unnamed_onBase (h.flush hmode)

end Rebased

namespace Truncated

omit [Cancellation ω] [ByteStream ω σ] in
theorem same_onBase {good : Passthrough σ × ω → Prop} {act act' : StreamM ω (Passthrough σ) α}
    (h : StreamM.Same good act act') :
    StreamM.Same (Passthrough.At Truncated.base good) (onBase act) (onBase act') :=
  h.within

omit [Cancellation ω] [ByteStream ω σ] in
theorem same_unnamed_onBase {good : Passthrough σ × ω → Prop}
    {act act' : StreamM ω (Passthrough σ) α} (h : StreamM.Same good act.unnamed act'.unnamed) :
    StreamM.Same (Passthrough.At Truncated.base good) (onBase act).unnamed (onBase act').unnamed :=
  h.unnamed_within

theorem same_read (h : WaitsAlike ω allowed sound) (hmode : allowed mode) (room : Nat) :
    StreamM.Same (Passthrough.At Truncated.base (Uncancelled allowed sound))
      (read mode room : StreamM ω (Truncated σ) Bytes) (read .blocking room) := by
  refine StreamM.same_state_bind fun layer => ?_
  refine (same_onBase (h.read hmode _)).bind (keeps_onBase (h.keeps (.read mode _))) ?_
  exact fun _ => .refl _

theorem waitsAlike (h : WaitsAlike ω allowed sound) :
    WaitsAlike ω allowed fun layer : Truncated σ => sound layer.base where
  keeps request := preservesOn Request.closed_all h.preservesOn request trivial
  read hmode room := same_read h hmode room
  write {mode} _ data := same_unnamed_onBase
    (Passthrough.same_decline (Uncancelled allowed sound) (.write mode data)
      (.write .blocking data))
  flush {mode} _ := same_unnamed_onBase
    (Passthrough.same_decline (Uncancelled allowed sound) (.flush mode) (.flush .blocking))

end Truncated

namespace ReadOnly

omit [Cancellation ω] [ByteStream ω σ] in
theorem same_onBase {good : Passthrough σ × ω → Prop} {act act' : StreamM ω (Passthrough σ) α}
    (h : StreamM.Same good act act') :
    StreamM.Same (Passthrough.At ReadOnly.base good) (onBase act) (onBase act') :=
  h.within

omit [Cancellation ω] [ByteStream ω σ] in
theorem same_unnamed_onBase {good : Passthrough σ × ω → Prop}
    {act act' : StreamM ω (Passthrough σ) α} (h : StreamM.Same good act.unnamed act'.unnamed) :
    StreamM.Same (Passthrough.At ReadOnly.base good) (onBase act).unnamed (onBase act').unnamed :=
  h.unnamed_within

theorem waitsAlike (h : WaitsAlike ω allowed sound) :
    WaitsAlike ω allowed fun layer : ReadOnly σ => sound layer.base where
  keeps request := preservesOn h.preservesOn request trivial
  read hmode room := same_onBase (h.read hmode room)
  write {mode} _ data := same_unnamed_onBase
    (Passthrough.same_decline (Uncancelled allowed sound) (.write mode data)
      (.write .blocking data))
  flush hmode := same_unnamed_onBase (h.flush hmode)

end ReadOnly

namespace Cached

omit [Cancellation ω] [ByteStream ω σ] in
theorem same_onBase {good : Passthrough σ × ω → Prop} {act act' : StreamM ω (Passthrough σ) α}
    (h : StreamM.Same good act act') :
    StreamM.Same (Passthrough.At Cached.base good) (onBase act) (onBase act') :=
  h.within

omit [Cancellation ω] [ByteStream ω σ] in
theorem same_unnamed_onBase {good : Passthrough σ × ω → Prop}
    {act act' : StreamM ω (Passthrough σ) α} (h : StreamM.Same good act.unnamed act'.unnamed) :
    StreamM.Same (Passthrough.At Cached.base good) (onBase act).unnamed (onBase act').unnamed :=
  h.unnamed_within

theorem same_fetch (h : WaitsAlike ω allowed sound) (hmode : allowed mode) (index : BlockIndex) :
    StreamM.Same (Passthrough.At Cached.base (Uncancelled allowed sound))
      (fetch mode index : StreamM ω (Cached σ) Unit) (fetch .blocking index) := by
  refine (StreamM.Same.refl _).bind (keeps_onBase (h.keeps (.seek _))) fun _ => ?_
  have hfill := same_onBase (h.same_fill hmode blockSize)
  refine hfill.bind (keeps_onBase (h.keeps_fill mode blockSize)) ?_
  exact fun _ => .refl _

/-- **The load of a block is the same in every allowed mode.** -/
theorem same_load (h : WaitsAlike ω allowed sound) (hmode : allowed mode) :
    StreamM.Same (Passthrough.At Cached.base (Uncancelled allowed sound))
      (load mode : StreamM ω (Cached σ) Unit) (load .blocking) := by
  refine (StreamM.Same.refl _).bind (keeps_onBase Passthrough.keeps_ensureOpen) fun _ => ?_
  refine StreamM.same_state_bind fun layer => ?_
  dsimp only
  split
  · exact .refl _
  refine (StreamM.Same.refl _).bind (keeps_onBase (h.keeps .length)) fun size => ?_
  split
  · exact .refl _
  refine (StreamM.Same.refl _).bind (keeps_updateCache _) fun _ => ?_
  split
  · exact .refl _
  · exact same_fetch h hmode _

theorem waitsAlike (h : WaitsAlike ω allowed sound) :
    WaitsAlike ω allowed fun layer : Cached σ => sound layer.base where
  keeps request := preservesOn Request.closed_all h.preservesOn request trivial
  read {mode} hmode room := by
    have hload := same_load h hmode
    have hkeeps := keeps_load Request.closed_all h.preservesOn mode fun _ => trivial
    exact hload.bind hkeeps fun _ => .refl (serve room)
  write {mode} _ data := same_unnamed_onBase
    (Passthrough.same_decline (Uncancelled allowed sound) (.write mode data)
      (.write .blocking data))
  flush hmode := same_unnamed_onBase (h.flush hmode)

end Cached

/-- A window waits alike, as the stream or the layers do that it consists of. -/
theorem Window.waitsAlike {sound : σ → Prop} (h : WaitsAlike ω allowed sound) :
    WaitsAlike ω allowed (Window.Sound sound) := by
  have hlayer := Passthrough.waitsAlike h
  refine .of_cover fun window hsound => ?_
  cases window with
  | unwrapped stream =>
    refine ⟨_, ⟨stream, rfl, hsound⟩, h.carried fun _ _ _ => rfl, ?_⟩
    rintro _ ⟨part, rfl, hpart⟩
    exact hpart
  | rebased layer =>
    refine ⟨_, ⟨layer, rfl, hsound⟩, (Rebased.waitsAlike hlayer).carried fun _ _ _ => rfl, ?_⟩
    rintro _ ⟨part, rfl, hpart⟩
    exact hpart
  | truncated layer =>
    refine ⟨_, ⟨layer, rfl, hsound⟩, (Truncated.waitsAlike hlayer).carried fun _ _ _ => rfl, ?_⟩
    rintro _ ⟨part, rfl, hpart⟩
    exact hpart
  | rebasedTruncated layer =>
    have hboth := Truncated.waitsAlike (Passthrough.waitsAlike (Rebased.waitsAlike hlayer))
    refine ⟨_, ⟨layer, rfl, hsound⟩, hboth.carried fun _ _ _ => rfl, ?_⟩
    rintro _ ⟨part, rfl, hpart⟩
    exact hpart

namespace LayerKind

/-- **A layer of any kind waits alike if the stream below does.** -/
theorem waitsAlike {sound : σ → Prop} (h : WaitsAlike ω allowed sound) (kind : LayerKind) :
    WaitsAlike ω allowed (kind.Sound sound) := by
  have hlayer := Passthrough.waitsAlike h
  cases kind with
  | passthrough => exact hlayer
  | rebased => exact Rebased.waitsAlike hlayer
  | truncated => exact Truncated.waitsAlike hlayer
  | readOnly => exact ReadOnly.waitsAlike hlayer
  | cached => exact Cached.waitsAlike hlayer
  | window => exact Window.waitsAlike h

end LayerKind

namespace Stack

/-- **Every stack of layers waits alike if its base does.** The recursion is on the layers. -/
theorem waitsAlike {sound : σ → Prop} (h : WaitsAlike ω allowed sound) :
    ∀ kinds : List LayerKind, WaitsAlike ω allowed (Sound sound kinds)
  | [] => h
  | kind :: kinds => kind.waitsAlike (waitsAlike h kinds)

end Stack

end Layers

end LayeredStreams
