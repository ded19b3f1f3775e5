import LayeredStreams.Proofs.PatientLoops

/-!
# Interruptions do not show

A device whose transfers are interrupted now and then, before the device below is asked, and streams
over it.

* `Interruption` — a failure that makes a stream try again.
* `Delayed δ` — a device whose coming transfers may be interrupted first, as often as a list says.
* `seenAs view outcome` — an outcome, with the state it leaves looked at through `view`.
* `Mirrors view act act'` — looked at through `view`, what `act` comes to is what `act'` comes to.

Principal results: `Delayed.mirrors_readPatiently` and `Delayed.mirrors_writePatiently` (a transfer
of a delayed device comes to what it comes to on the device below), `DeviceStream.perform_bare` and
`DeviceStream.after_bare` (a stream over a delayed device answers every request, and every run of
requests, as the one over the device below).
-/

set_option autoImplicit false

namespace LayeredStreams

/-- An outcome, with the state it leaves looked at through `view`. -/
def seenAs {ε ω σ τ α : Type} (view : σ → τ) :
    EStateM.Result ε (σ × ω) α → EStateM.Result ε (τ × ω) α
  | .ok value s => .ok value (view s.1, s.2)
  | .error e s => .error e (view s.1, s.2)

/-- Looked at through `view`, what `act` comes to is what `act'` comes to. -/
def Mirrors {ε ω σ τ α : Type} (view : σ → τ) (act : EStateM ε (σ × ω) α)
    (act' : EStateM ε (τ × ω) α) : Prop :=
  ∀ s, seenAs view (act s) = act' (view s.1, s.2)

section

variable {ε ω σ τ α β : Type} {view : σ → τ}

theorem mirrors_pure (value : α) :
    Mirrors view (pure value : EStateM ε (σ × ω) α) (pure value) := fun _ => rfl

theorem Mirrors.bind {act : EStateM ε (σ × ω) α} {act' : EStateM ε (τ × ω) α}
    {next : α → EStateM ε (σ × ω) β} {next' : α → EStateM ε (τ × ω) β}
    (h : Mirrors view act act') (hnext : ∀ value, Mirrors view (next value) (next' value)) :
    Mirrors view (act >>= next) (act' >>= next') := by
  intro s
  have hact := h s
  show seenAs view (EStateM.bind act next s) = EStateM.bind act' next' (view s.1, s.2)
  unfold EStateM.bind
  rw [← hact]
  cases act s with
  | ok value s' => exact hnext value s'
  | error e s' => rfl

theorem mirrors_refuse (cause : Refusal) :
    Mirrors view (StreamM.refuse cause : StreamM ω σ α) (StreamM.refuse cause) := fun _ => rfl

theorem mirrors_ofExcept (outcome : Except Refusal α) :
    Mirrors view (StreamM.ofExcept outcome : StreamM ω σ α) (StreamM.ofExcept outcome) := by
  cases outcome with
  | ok value => exact mirrors_pure value
  | error cause => exact mirrors_refuse cause

theorem mirrors_admission [Cancellation ω] (mode : Mode) :
    Mirrors view (mode.checkToken : StreamM ω σ Unit) mode.checkToken := by
  intro s
  rw [Mode.checkToken_apply, Mode.checkToken_apply]
  cases mode.isCancelled s.2 with
  | true => rfl
  | false => rfl

theorem Mirrors.final {act : StreamM ω σ α} {act' : StreamM ω τ α} (h : Mirrors view act act')
    (s : σ × ω) : act'.final (view s.1, s.2) = (view (act.final s).1, (act.final s).2) := by
  have hact := h s
  unfold StreamM.final
  rw [← hact]
  cases act s with
  | ok value s' => rfl
  | error e s' => rfl

end

/-- A failure that makes a stream try again. -/
structure Interruption where
  error : DeviceError
  interrupted : error.isInterrupted = true

/-- A device whose coming transfers may be interrupted before the device below is asked. -/
structure Delayed (δ : Type) where
  /-- What the coming transfers suffer; those that are not listed go through. -/
  coming : List (Option Interruption)
  device : δ

namespace Delayed

variable {ω δ α : Type}

/-- Run a computation on the device below. -/
def below (act : DeviceM ω δ α) : DeviceM ω (Delayed δ) α := fun (delayed, w) =>
  match act (delayed.device, w) with
  | .ok value (device, w) => .ok value ({ delayed with device := device }, w)
  | .error e (device, w) => .error e ({ delayed with device := device }, w)

/-- Suffer the next interruption, or go through. -/
def suffer (act : DeviceM ω (Delayed δ) α) : DeviceM ω (Delayed δ) α := fun (delayed, w) =>
  match delayed.coming with
  | [] => act (delayed, w)
  | none :: coming => act ({ delayed with coming := coming }, w)
  | some interruption :: coming =>
    .error interruption.error ({ delayed with coming := coming }, w)

variable [Device ω δ]

/-- Carry out an operation. Only transfers are interrupted. -/
def operate : (call : DeviceCall) → DeviceM ω (Delayed δ) call.Answer
  | .read room => suffer (below (Device.operate (.read room)))
  | .write data => suffer (below (Device.operate (.write data)))
  | call => below (Device.operate call)

instance : Device ω (Delayed δ) where
  operate := Delayed.operate
  patience delayed w := delayed.coming.countP Option.isSome + Device.patience delayed.device w
  writeNothing := below Device.writeNothing

/-! ## One call -/

omit [Device ω δ] in
theorem mirrors_below (act : DeviceM ω δ α) : Mirrors device (below act) act := by
  intro s
  unfold below seenAs
  dsimp only
  cases act (s.1.device, s.2) <;> rfl

omit [Device ω δ] in
theorem below_eq_ok {act : DeviceM ω δ α} {s s' : Delayed δ × ω} {value : α}
    (h : below act s = .ok value s') :
    act (s.1.device, s.2) = .ok value (s'.1.device, s'.2) ∧ s'.1.coming = s.1.coming := by
  unfold below at h
  dsimp only at h
  cases hact : act (s.1.device, s.2) with
  | ok value' t =>
    rw [hact] at h
    cases h
    exact ⟨rfl, rfl⟩
  | error e t =>
    rw [hact] at h
    cases h

omit [Device ω δ] in
theorem below_eq_error {act : DeviceM ω δ α} {s s' : Delayed δ × ω} {e : DeviceError}
    (h : below act s = .error e s') :
    act (s.1.device, s.2) = .error e (s'.1.device, s'.2) ∧ s'.1.coming = s.1.coming := by
  unfold below at h
  dsimp only at h
  cases hact : act (s.1.device, s.2) with
  | ok value' t =>
    rw [hact] at h
    cases h
  | error e t =>
    rw [hact] at h
    cases h
    exact ⟨rfl, rfl⟩

/-- The interruptions that are still to come over a device. -/
def interruptions (s : Delayed δ × ω) : Nat := s.1.coming.countP Option.isSome

omit [Device ω δ] in
/-- A transfer that goes through does what it does on the device below. -/
theorem of_suffer_eq_ok {act : DeviceM ω δ α} {s s' : Delayed δ × ω} {value : α}
    (h : suffer (below act) s = .ok value s') :
    act (s.1.device, s.2) = .ok value (s'.1.device, s'.2) ∧
      interruptions s' = interruptions s := by
  obtain ⟨⟨coming, device⟩, w⟩ := s
  unfold interruptions
  match coming with
  | [] =>
    obtain ⟨hact, hsame⟩ := below_eq_ok (s := (⟨[], device⟩, w)) h
    exact ⟨hact, by rw [hsame]⟩
  | none :: coming =>
    obtain ⟨hact, hsame⟩ := below_eq_ok (s := (⟨coming, device⟩, w)) h
    exact ⟨hact, by rw [hsame, List.countP_cons_of_neg Bool.false_ne_true]⟩
  | some interruption :: coming => cases h

omit [Device ω δ] in
/-- A transfer that fails was interrupted before the device below was asked, or fails there. -/
theorem of_suffer_eq_error {act : DeviceM ω δ α} {s s' : Delayed δ × ω} {e : DeviceError}
    (h : suffer (below act) s = .error e s') :
    (e.isInterrupted = true ∧ (s'.1.device, s'.2) = (s.1.device, s.2) ∧
      interruptions s' < interruptions s) ∨
    (act (s.1.device, s.2) = .error e (s'.1.device, s'.2) ∧
      interruptions s' = interruptions s) := by
  obtain ⟨⟨coming, device⟩, w⟩ := s
  unfold interruptions
  match coming with
  | [] =>
    obtain ⟨hact, hsame⟩ := below_eq_error (s := (⟨[], device⟩, w)) h
    exact Or.inr ⟨hact, by rw [hsame]⟩
  | none :: coming =>
    obtain ⟨hact, hsame⟩ := below_eq_error (s := (⟨coming, device⟩, w)) h
    exact Or.inr ⟨hact, by rw [hsame, List.countP_cons_of_neg Bool.false_ne_true]⟩
  | some interruption :: coming =>
    cases h
    refine Or.inl ⟨interruption.interrupted, rfl, ?_⟩
    rw [List.countP_cons_of_pos rfl]
    exact Nat.lt_succ_self _

/-- The number of transfers that are still to be interrupted, over a device and by it. -/
theorem pending_eq (s : Delayed δ × ω) :
    Device.pending s = interruptions s + Device.pending (s.1.device, s.2) := rfl

/-- **A delayed device is patient** if the one below is. -/
theorem patient (h : Device.Patient ω δ) : Device.Patient ω (Delayed δ) where
  read {room s s' e} hcall hinterrupted := by
    rw [pending_eq, pending_eq]
    rcases of_suffer_eq_error hcall with ⟨-, hsame, hless⟩ | ⟨hact, hsame⟩
    · rw [hsame]
      omega
    · have hless := h.read hact hinterrupted
      omega
  write {data s s' e} hcall hinterrupted := by
    rw [pending_eq, pending_eq]
    rcases of_suffer_eq_error hcall with ⟨-, hsame, hless⟩ | ⟨hact, hsame⟩
    · rw [hsame]
      omega
    · have hless := h.write hact hinterrupted
      omega
  taken {data s s' count} hcall := by
    rw [pending_eq, pending_eq]
    obtain ⟨hact, hsame⟩ := of_suffer_eq_ok hcall
    have hle := h.taken hact
    omega

/-! ## Loops -/

/-- What reads come to over a delayed device they come to over the one below, whose calls are those
that were not interrupted before. The induction is on the calls. -/
theorem readsTo_below {room : Nat} {s : Delayed δ × ω}
    {outcome : EStateM.Result DeviceError (Delayed δ × ω) Bytes}
    (h : Device.ReadsTo room s outcome) :
    Device.ReadsTo room (s.1.device, s.2) (seenAs device outcome) := by
  induction h with
  | given hcall => exact .given (of_suffer_eq_ok hcall).1
  | failed hcall hfinal =>
    rcases of_suffer_eq_error hcall with ⟨hinterrupted, -, -⟩ | ⟨hact, -⟩
    · rw [hfinal] at hinterrupted
      cases hinterrupted
    · exact .failed hact hfinal
  | again hcall hinterrupted _ ih =>
    rcases of_suffer_eq_error hcall with ⟨-, hsame, -⟩ | ⟨hact, -⟩
    · rwa [hsame] at ih
    · exact .again hact hinterrupted ih

/-- What writes come to over a delayed device they come to over the one below. The induction is on
the calls. -/
theorem writesTo_below {data : Bytes} {s : Delayed δ × ω}
    {outcome : EStateM.Result DeviceError (Delayed δ × ω) Unit}
    (h : Device.WritesTo data s outcome) :
    Device.WritesTo data (s.1.device, s.2) (seenAs device outcome) := by
  induction h with
  | done => exact .done
  | refused hcall => exact .refused (of_suffer_eq_ok hcall).1
  | taken hcall _ ih => exact .taken (of_suffer_eq_ok hcall).1 ih
  | failed hcall hfinal =>
    rcases of_suffer_eq_error hcall with ⟨hinterrupted, -, -⟩ | ⟨hact, -⟩
    · rw [hfinal] at hinterrupted
      cases hinterrupted
    · exact .failed hact hfinal
  | again hcall hinterrupted _ ih =>
    rcases of_suffer_eq_error hcall with ⟨-, hsame, -⟩ | ⟨hact, -⟩
    · rwa [hsame] at ih
    · exact .again hact hinterrupted ih

/-- **A read over a delayed device is the read over the one below.** -/
theorem mirrors_readPatiently (h : Device.Patient ω δ) (room : Nat) :
    Mirrors device (Device.readPatiently room : DeviceM ω (Delayed δ) Bytes)
      (Device.readPatiently room) :=
  fun s => (readsTo_below ((patient h).readsTo room s)).unique (h.readsTo room _)

/-- **A write over a delayed device is the write over the one below.** -/
theorem mirrors_writePatiently (h : Device.Patient ω δ) (data : Bytes) :
    Mirrors device (Device.writePatiently data : DeviceM ω (Delayed δ) Unit)
      (Device.writePatiently data) := by
  intro s
  by_cases hdata : data = []
  · subst hdata
    exact mirrors_below Device.writeNothing s
  · exact (writesTo_below ((patient h).writesTo hdata s)).unique (h.writesTo hdata _)

theorem mirrors_measure :
    Mirrors device (Device.measure : DeviceM ω (Delayed δ) Nat) Device.measure := by
  refine (mirrors_below _).bind fun here => (mirrors_below _).bind fun reach => ?_
  by_cases hback : reach ≠ here
  · rw [if_pos hback, if_pos hback]
    exact (mirrors_below _).bind fun _ => mirrors_pure _
  · rw [if_neg hback, if_neg hback]
    exact mirrors_pure _

end Delayed

/-! ## Streams -/

namespace DeviceStream

variable {ω δ α : Type}

/-- The stream over the device below a delayed one. -/
def bare (stream : DeviceStream (Delayed δ)) : DeviceStream δ where
  device :=
    match stream.device with
    | .live delayed => .live delayed.device
    | .disposed => .disposed
  access := stream.access

theorem mirrors_onDevice {act : DeviceM ω (Delayed δ) α} {act' : DeviceM ω δ α}
    (h : Mirrors Delayed.device act act') : Mirrors bare (onDevice act) (onDevice act') := by
  rintro ⟨⟨slot, access⟩, w⟩
  cases slot with
  | disposed => rfl
  | live delayed =>
    have hact := h (delayed, w)
    unfold onDevice bare
    dsimp only at hact ⊢
    rw [← hact]
    cases act (delayed, w) with
    | ok value s => rfl
    | error e s => rfl

theorem mirrors_ensureOpen :
    Mirrors bare (ensureOpen : StreamM ω (DeviceStream (Delayed δ)) Unit) ensureOpen :=
  mirrors_onDevice (mirrors_pure ())

theorem mirrors_accessMode :
    Mirrors bare (accessMode : StreamM ω (DeviceStream (Delayed δ)) Access) accessMode :=
  fun _ => rfl

variable [Device ω δ]

theorem mirrors_locate (target : SeekTarget) :
    Mirrors bare (locate target : StreamM ω (DeviceStream (Delayed δ)) Nat) (locate target) := by
  cases target with
  | fromStart offset => exact mirrors_ofExcept _
  | fromCurrent | fromEnd =>
    refine (mirrors_onDevice (Delayed.mirrors_below _)).bind fun here => ?_
    exact (mirrors_onDevice Delayed.mirrors_measure).bind fun size => mirrors_ofExcept _

theorem mirrors_seek (target : SeekTarget) :
    Mirrors bare (seek target : StreamM ω (DeviceStream (Delayed δ)) Nat) (seek target) :=
  (mirrors_locate target).bind fun _ => mirrors_onDevice (Delayed.mirrors_below _)

section Patient

variable (h : Device.Patient ω δ)
include h

theorem mirrors_write (data : Bytes) :
    Mirrors bare (write data : StreamM ω (DeviceStream (Delayed δ)) Unit) (write data) := by
  refine mirrors_ensureOpen.bind fun _ => mirrors_accessMode.bind fun access => ?_
  by_cases haccess : access = .readOnly
  · rw [if_pos haccess, if_pos haccess]
    exact fun _ => rfl
  · rw [if_neg haccess, if_neg haccess]
    exact mirrors_onDevice (Delayed.mirrors_writePatiently h data)

omit h in
theorem mirrors_setLength (size : Nat) :
    Mirrors bare (setLength size : StreamM ω (DeviceStream (Delayed δ)) Unit) (setLength size) := by
  have hset : Mirrors bare
      (onDevice (Device.operate (.setLength size)) : StreamM ω (DeviceStream (Delayed δ)) Unit)
      (onDevice (Device.operate (.setLength size))) := mirrors_onDevice (Delayed.mirrors_below _)
  refine mirrors_ensureOpen.bind fun _ => mirrors_accessMode.bind fun access => ?_
  by_cases haccess : access ≠ .resizable
  · rw [if_pos haccess, if_pos haccess]
    exact fun _ => rfl
  · rw [if_neg haccess, if_neg haccess]
    split
    · exact fun _ => rfl
    · exact hset

/-- **A stream over a delayed device answers every request as the one over the device below.** -/
theorem perform_bare [Cancellation ω] (request : Request) :
    Mirrors bare
      (ByteStream.perform request : StreamM ω (DeviceStream (Delayed δ)) request.Answer)
      (ByteStream.perform request) := by
  have hread : ∀ room, Mirrors bare (read room : StreamM ω (DeviceStream (Delayed δ)) Bytes)
      (read room) := fun room => mirrors_onDevice (Delayed.mirrors_readPatiently h room)
  cases request with
  | position => exact mirrors_onDevice (Delayed.mirrors_below _)
  | setPosition target => exact (mirrors_seek (.fromStart target)).bind fun _ => mirrors_pure _
  | length => exact mirrors_onDevice Delayed.mirrors_measure
  | setLength size => exact mirrors_setLength size
  | seek target => exact mirrors_seek target
  | read mode room => exact (mirrors_admission mode).bind fun _ => hread room
  | readByte => exact (hread 1).bind fun _ => mirrors_pure _
  | write mode data => exact (mirrors_admission mode).bind fun _ => mirrors_write h data
  | writeByte byte => exact mirrors_write h [byte]
  | flush mode =>
    exact (mirrors_admission mode).bind fun _ => mirrors_onDevice (Delayed.mirrors_below _)
  | dispose => exact fun _ => rfl
  | timeout direction => exact mirrors_refuse _
  | setTimeout direction limit => exact mirrors_refuse _

/-- **Runs of requests to a stream over a delayed device** lead where they lead over the device
below. -/
theorem after_bare [Cancellation ω] (requests : List Request) (s : DeviceStream (Delayed δ) × ω) :
    ByteStream.after requests (s.1.bare, s.2) =
      ((ByteStream.after requests s).1.bare, (ByteStream.after requests s).2) := by
  induction requests generalizing s with
  | nil => rfl
  | cons request requests ih =>
    rw [ByteStream.after_cons, (perform_bare h request).final, ih, ByteStream.after_cons]

end Patient

end DeviceStream

end LayeredStreams
