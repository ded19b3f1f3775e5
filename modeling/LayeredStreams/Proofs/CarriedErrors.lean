import LayeredStreams.Device.Scripted
import LayeredStreams.Proofs.Barrier
import LayeredStreams.Proofs.DeviceOutcome
import LayeredStreams.Proofs.Surfacing

/-!
# Errors that a device carries

A device may fail a call with the error of another stream, which it carries. What the stack over it
answers then, and of what kind that is.

* `DeviceFailure`, `Noted ω` — a call that a device failed, and surroundings in which the failures
  are noted.
* `DeviceFailure.isRetried` — the failures after which a stream tries again.
* `Overseen δ` — a device whose failures are noted.
* `Noted.Calm`, `Noted.Struck` — what was noted since an earlier state: failures after which a
  stream tries again, and perhaps a last one.
* `Errand.failure?` — the error that an errand came to, also where it is named by a fill.

Principal results: `StreamError.kind_toDeviceError` (a device that carries an error keeps its kind,
unless the error is an overflow), `DeviceStream.candid` (a stream over an overseen device answers
the first failure after which it does not try again) and `Errand.failure_surfaces` (so does every
stack of layers over it).
-/

set_option autoImplicit false

namespace LayeredStreams

/-- The kind of an error that was carried through a device. An overflow loses its own. -/
theorem StreamError.kind_toDeviceError (e : StreamError) :
    (StreamError.device e.toDeviceError).kind =
      if e = .refusal .overflow then .other else e.kind := by
  cases e with
  | device cause => rfl
  | refusal cause => cases cause <;> rfl

/-! ## Failures that are noted -/

/-- A call that a device failed, and the error that it failed with. -/
structure DeviceFailure where
  call : DeviceCall
  error : DeviceError
  deriving DecidableEq, Repr

/-- Whether a stream tries again after a failure: an interrupted transfer. -/
def DeviceFailure.isRetried (failure : DeviceFailure) : Bool :=
  match failure.call with
  | .read _ | .write _ => failure.error.isInterrupted
  | _ => false

/-- Surroundings in which the failures of devices are noted. -/
structure Noted (ω : Type) where
  /-- The failures so far, the latest first. -/
  failures : List DeviceFailure
  surroundings : ω

instance Noted.cancellation {ω : Type} [Cancellation ω] : Cancellation (Noted ω) where
  isCancelled name noted := Cancellation.isCancelled name noted.surroundings

namespace Noted

variable {ω : Type} {start noted : Noted ω}

/-- Since `start` only failures were noted after which a stream tries again. -/
def Calm (start noted : Noted ω) : Prop :=
  ∃ retried, noted.failures = retried ++ start.failures ∧
    ∀ failure ∈ retried, failure.isRetried = true

/-- Since `start` a failure with `e` was noted last, after others after which a stream tries again.
-/
def Struck (start : Noted ω) (e : DeviceError) (noted : Noted ω) : Prop :=
  ∃ call retried, noted.failures = ⟨call, e⟩ :: (retried ++ start.failures) ∧
    ∀ failure ∈ retried, failure.isRetried = true

/-- Since `start` a failure was noted that a stream over the device shows as `e`. -/
def Shown (start : Noted ω) (e : StreamError) (noted : Noted ω) : Prop :=
  ∃ cause, e = .device cause ∧ Struck start cause noted

theorem calm_self (start : Noted ω) : Calm start start :=
  ⟨[], rfl, fun _ hmem => absurd hmem List.not_mem_nil⟩

/-- The surroundings with one more failure. -/
def strike (failure : DeviceFailure) (noted : Noted ω) : Noted ω :=
  { noted with failures := failure :: noted.failures }

theorem Calm.strike (h : Calm start noted) (call : DeviceCall) (e : DeviceError) :
    Struck start e (noted.strike ⟨call, e⟩) := by
  obtain ⟨retried, hnoted, hretried⟩ := h
  refine ⟨call, retried, ?_, hretried⟩
  show _ :: noted.failures = _
  rw [hnoted]

theorem Calm.retry (h : Calm start noted) {failure : DeviceFailure}
    (hfailure : failure.isRetried = true) : Calm start (noted.strike failure) := by
  obtain ⟨retried, hnoted, hretried⟩ := h
  refine ⟨failure :: retried, ?_, ?_⟩
  · show _ :: noted.failures = _
    rw [hnoted, List.cons_append]
  · intro other hmem
    rcases List.mem_cons.mp hmem with rfl | hmem
    · exact hfailure
    · exact hretried other hmem

end Noted

/-- A device whose failures are noted. -/
structure Overseen (δ : Type) where
  device : δ

namespace Overseen

variable {ω δ α : Type}

/-- Run a computation on the device, and note its failure as one of `call`. -/
def note (call : DeviceCall) (act : DeviceM ω δ α) : DeviceM (Noted ω) (Overseen δ) α :=
  fun (overseen, noted) =>
    match act (overseen.device, noted.surroundings) with
    | .ok value (device, w) => .ok value (⟨device⟩, { noted with surroundings := w })
    | .error e (device, w) =>
      .error e (⟨device⟩, { noted with surroundings := w }.strike ⟨call, e⟩)

variable [Device ω δ]

instance : Device (Noted ω) (Overseen δ) where
  operate call := note call (Device.operate call)
  patience overseen noted := Device.patience overseen.device noted.surroundings
  writeNothing := note (.write []) Device.writeNothing

end Overseen

/-! ## Streams over overseen devices -/

namespace Overseen

variable {ω δ α β : Type} {start : Noted ω}

/-- From surroundings in which nothing but retried failures was noted since `start`, a computation
on a device leads to such ones, or ends with the error that was noted last. -/
def Tells (start : Noted ω) (act : DeviceM (Noted ω) (Overseen δ) α) : Prop :=
  ∀ s, start.Calm s.2 →
    act.Ends s (fun _ s' => start.Calm s'.2) fun e s' => start.Calm s'.2 ∨ start.Struck e s'.2

theorem tells_pure (value : α) : Tells start (pure value : DeviceM (Noted ω) (Overseen δ) α) :=
  fun _ hcalm => hcalm

theorem Tells.bind {act : DeviceM (Noted ω) (Overseen δ) α}
    {next : α → DeviceM (Noted ω) (Overseen δ) β} (h : Tells start act)
    (hnext : ∀ value, Tells start (next value)) : Tells start (act >>= next) :=
  fun s hcalm => (h s hcalm).bind fun value s' hcalm' => hnext value s' hcalm'

/-- A failure that is noted is the answer, and is one after which a stream tries again or not. -/
theorem ends_note (call : DeviceCall) (act : DeviceM ω δ α) {s : Overseen δ × Noted ω}
    (hcalm : start.Calm s.2) :
    (note call act).Ends s (fun _ s' => start.Calm s'.2) fun e s' => start.Struck e s'.2 ∧
      ((DeviceFailure.mk call e).isRetried = true → start.Calm s'.2) := by
  unfold DeviceM.Ends note
  dsimp only
  cases act (s.1.device, s.2.surroundings) with
  | ok value t => exact hcalm
  | error e t =>
    have hcalm' : start.Calm { s.2 with surroundings := t.2 } := hcalm
    exact ⟨hcalm'.strike call e, fun hretried => hcalm'.retry hretried⟩

theorem tells_note (call : DeviceCall) (act : DeviceM ω δ α) : Tells start (note call act) :=
  fun _ hcalm => (ends_note call act hcalm).mono (fun _ _ hout => hout)
    fun _ _ hout => Or.inr hout.1

variable [Device ω δ]

/-- The induction is on the reads that may still be made. -/
theorem tells_readUninterrupted (room : Nat) : ∀ retries : Nat,
    Tells start (Device.readUninterrupted room retries : DeviceM (Noted ω) (Overseen δ) Bytes)
  | 0 => tells_note (.read room) _
  | retries + 1 => by
    intro s hcalm
    have hread := ends_note (.read room) (Device.operate (.read room) : DeviceM ω δ Bytes) hcalm
    unfold DeviceM.Ends Device.readUninterrupted
    cases heq : (Device.operate (.read room) : DeviceM (Noted ω) (Overseen δ) Bytes) s with
    | ok bytes s' => exact hread.of_eq_ok heq
    | error e s' =>
      obtain ⟨hstruck, hretry⟩ := hread.of_eq_error heq
      dsimp only
      by_cases hinterrupted : e.isInterrupted = true
      · rw [if_pos hinterrupted]
        exact tells_readUninterrupted room retries s' (hretry hinterrupted)
      · rw [if_neg hinterrupted]
        exact Or.inr hstruck

/-- The induction is on the writes that may still be made. -/
theorem tells_writeAll : ∀ (attempts : Nat) (data : Bytes),
    Tells start (Device.writeAll attempts data : DeviceM (Noted ω) (Overseen δ) Unit)
  | 0, [] => tells_pure ()
  | _ + 1, [] => tells_pure ()
  | 0, _ :: _ => fun _ hcalm => Or.inl hcalm
  | attempts + 1, byte :: rest => by
    intro s hcalm
    have hwrite := ends_note (.write (byte :: rest))
      (Device.operate (.write (byte :: rest)) : DeviceM ω δ Nat) hcalm
    unfold DeviceM.Ends Device.writeAll
    cases heq : (Device.operate (.write (byte :: rest)) : DeviceM (Noted ω) (Overseen δ) Nat) s with
    | ok count s' =>
      have hcalm' := hwrite.of_eq_ok heq
      cases count with
      | zero => exact Or.inl hcalm'
      | succ count => exact tells_writeAll attempts (rest.drop count) s' hcalm'
    | error e s' =>
      obtain ⟨hstruck, hretry⟩ := hwrite.of_eq_error heq
      dsimp only
      by_cases hinterrupted : e.isInterrupted = true
      · rw [if_pos hinterrupted]
        exact tells_writeAll attempts (byte :: rest) s' (hretry hinterrupted)
      · rw [if_neg hinterrupted]
        exact Or.inr hstruck

theorem tells_writePatiently (data : Bytes) :
    Tells start (Device.writePatiently data : DeviceM (Noted ω) (Overseen δ) Unit) := by
  intro s hcalm
  unfold DeviceM.Ends Device.writePatiently
  by_cases hempty : data.isEmpty = true
  · rw [if_pos hempty]
    exact tells_note (.write []) (Device.writeNothing : DeviceM ω δ Unit) s hcalm
  · rw [if_neg hempty]
    exact tells_writeAll _ data s hcalm

theorem tells_measure : Tells start (Device.measure : DeviceM (Noted ω) (Overseen δ) Nat) := by
  refine (tells_note (.seek _) _).bind fun here => (tells_note (.seek _) _).bind fun reach => ?_
  split
  · exact (tells_note (.seek _) _).bind fun _ => tells_pure _
  · exact tells_pure _

end Overseen

namespace DeviceStream

variable {ω δ α : Type} {start : Noted ω}

theorem surfaces_onDevice {act : DeviceM (Noted ω) (Overseen δ) α} (h : Overseen.Tells start act) :
    StreamM.Surfaces start.Calm start.Shown (onDevice act) := by
  rintro ⟨⟨slot, access⟩, noted⟩ hcalm
  cases slot with
  | disposed => exact Or.inl hcalm
  | live overseen =>
    refine (ends_onDevice_live (h (overseen, noted) hcalm)).mono ?_ ?_
    · rintro _ s' ⟨_, -, hcalm'⟩
      exact hcalm'
    · rintro _ s' ⟨cause, rfl, _, -, hout⟩
      exact hout.imp id fun hstruck => ⟨cause, rfl, hstruck⟩

variable [Device ω δ]

theorem surfaces_locate (target : SeekTarget) :
    StreamM.Surfaces start.Calm start.Shown
      (locate target : StreamM (Noted ω) (DeviceStream (Overseen δ)) Nat) := by
  cases target with
  | fromStart offset => exact StreamM.surfaces_ofExcept _
  | fromCurrent | fromEnd =>
    refine (surfaces_onDevice (Overseen.tells_note _ _)).bind fun here => ?_
    refine (surfaces_onDevice Overseen.tells_measure).bind fun size => ?_
    exact StreamM.surfaces_ofExcept _

theorem surfaces_seek (target : SeekTarget) :
    StreamM.Surfaces start.Calm start.Shown
      (seek target : StreamM (Noted ω) (DeviceStream (Overseen δ)) Nat) :=
  (surfaces_locate target).bind fun _ => surfaces_onDevice (Overseen.tells_note _ _)

theorem surfaces_read (room : Nat) :
    StreamM.Surfaces start.Calm start.Shown
      (read room : StreamM (Noted ω) (DeviceStream (Overseen δ)) Bytes) :=
  surfaces_onDevice fun s hcalm => Overseen.tells_readUninterrupted room _ s hcalm

omit [Device ω δ] in
/-- What the kind of access decides comes after a look at the slot and at the access. -/
theorem surfaces_access {next : Access → StreamM (Noted ω) (DeviceStream (Overseen δ)) α}
    (hnext : ∀ access, StreamM.Surfaces start.Calm start.Shown (next access)) :
    StreamM.Surfaces start.Calm start.Shown (do
      ensureOpen
      next (← accessMode)) := by
  refine (surfaces_onDevice (Overseen.tells_pure ())).bind fun _ => ?_
  refine StreamM.Surfaces.bind ?_ hnext
  exact StreamM.surfaces_state_bind fun stream => StreamM.surfaces_pure _

theorem surfaces_write (data : Bytes) :
    StreamM.Surfaces start.Calm start.Shown
      (write data : StreamM (Noted ω) (DeviceStream (Overseen δ)) Unit) := by
  refine surfaces_access fun access => ?_
  split
  · exact StreamM.surfaces_refuse _
  · exact surfaces_onDevice (Overseen.tells_writePatiently data)

theorem surfaces_setLength (size : Nat) :
    StreamM.Surfaces start.Calm start.Shown
      (setLength size : StreamM (Noted ω) (DeviceStream (Overseen δ)) Unit) := by
  refine surfaces_access fun access => ?_
  by_cases haccess : access ≠ .resizable
  · rw [if_pos haccess]
    exact fun _ hcalm => Or.inl hcalm
  rw [if_neg haccess]
  split
  · exact StreamM.surfaces_refuse _
  · exact surfaces_onDevice (Overseen.tells_note _ _)

/-- **A stream over an overseen device is candid**: it answers the failure that was noted last, and
makes no call after it, unless it tries again. -/
theorem candid [Cancellation ω] (start : Noted ω) :
    ByteStream.Candid start.Calm start.Shown (DeviceStream (Overseen δ)) := by
  intro request
  cases request with
  | position => exact surfaces_onDevice (Overseen.tells_note _ _)
  | setPosition target =>
    exact (surfaces_seek (.fromStart target)).bind fun _ => StreamM.surfaces_pure _
  | length => exact surfaces_onDevice Overseen.tells_measure
  | setLength size => exact surfaces_setLength size
  | seek target => exact surfaces_seek target
  | read mode room => exact (StreamM.surfaces_admission mode).bind fun _ => surfaces_read room
  | readByte => exact (surfaces_read 1).bind fun _ => StreamM.surfaces_pure _
  | write mode data => exact (StreamM.surfaces_admission mode).bind fun _ => surfaces_write data
  | writeByte byte => exact surfaces_write [byte]
  | flush mode =>
    refine (StreamM.surfaces_admission mode).bind fun _ => ?_
    exact surfaces_onDevice (Overseen.tells_note _ _)
  | dispose => exact fun _ hcalm => hcalm
  | timeout direction => exact StreamM.surfaces_refuse _
  | setTimeout direction limit => exact StreamM.surfaces_refuse _

end DeviceStream

/-! ## Errands -/

namespace Errand

/-- The error that an errand came to; a fill names it besides the bytes that came before. -/
def failure? : (errand : Errand) → Except StreamError errand.Answer → Option StreamError
  | fill _ _, .ok filled => filled.failure
  | fillExactly _ _, .ok filled => filled.failure
  | _, .ok _ => none
  | _, .error e => some e

theorem failure?_error (errand : Errand) (e : StreamError) :
    errand.failure? (.error e) = some e := by
  cases errand <;> rfl

variable {ω σ τ : Type} [Cancellation ω] [ByteStream ω σ] [ByteStream ω τ] {calm : ω → Prop}
  {struck : StreamError → ω → Prop}

omit [Cancellation ω] [ByteStream ω σ] [ByteStream ω τ] in
/-- A short fill is no failure of the stream below. -/
theorem accounts_complete {filled : Filled} {w : ω} (room : Nat)
    (h : Accounts calm struck filled.failure w) :
    Accounts calm struck (filled.complete room).failure w := by
  obtain ⟨bytes, failure⟩ := filled
  cases failure with
  | some e => exact h
  | none =>
    unfold Filled.complete
    dsimp only
    split
    · exact Or.inl h
    · exact h

omit [Cancellation ω] [ByteStream ω σ] [ByteStream ω τ] in
theorem ends_onSource {α : Type} {act : StreamM ω σ α} {s : (σ × τ) × ω}
    {good : α → σ × ω → Prop} {bad : StreamError → σ × ω → Prop}
    (h : act.Ends (s.1.1, s.2) good bad) :
    (onSource act : StreamM ω (σ × τ) α).Ends s (fun value s' => good value (s'.1.1, s'.2))
      fun e s' => bad e (s'.1.1, s'.2) :=
  h.within_part fun _ _ => rfl

omit [Cancellation ω] [ByteStream ω σ] [ByteStream ω τ] in
theorem surfaces_onSource {α : Type} {act : StreamM ω σ α} (h : StreamM.Surfaces calm struck act) :
    StreamM.Surfaces calm struck (onSource act : StreamM ω (σ × τ) α) := h.within

/-- What an errand between two candid streams comes to accounts for the surroundings it leaves. -/
theorem ends_accounts (hsource : ByteStream.Candid calm struck σ)
    (hdestination : ByteStream.Candid calm struck τ) (errand : Errand) (s : (σ × τ) × ω)
    (hcalm : calm s.2) :
    (errand.perform : StreamM ω (σ × τ) errand.Answer).Ends s
      (fun answer s' => Accounts calm struck (errand.failure? (.ok answer)) s'.2)
      fun e s' => Accounts calm struck (some e) s'.2 := by
  have hask : ∀ request : Request, StreamM.Surfaces calm struck
      (onSource (ByteStream.perform request) : StreamM ω (σ × τ) request.Answer) :=
    fun request => surfaces_onSource (hsource request)
  have hfill : ∀ mode room, (LayeredStreams.fill mode room : StreamM ω σ Filled).Ends (s.1.1, s.2)
      (fun filled s' => Accounts calm struck filled.failure s'.2) fun _ _ => False :=
    fun mode room => ends_fill_accounts (fun room => hsource (.read mode room)) room _ hcalm
  cases errand with
  | ask request => exact hask request s hcalm
  | fill mode room =>
    exact (ends_onSource (hfill mode room)).mono (fun _ _ hout => hout) fun _ _ hout => hout.elim
  | fillExactly mode room =>
    have hexactly : (LayeredStreams.fillExactly mode room : StreamM ω σ Filled).Ends (s.1.1, s.2)
        (fun filled s' => Accounts calm struck filled.failure s'.2) fun _ _ => False :=
      (hfill mode room).bind fun _ _ haccounts => accounts_complete room haccounts
    exact (ends_onSource hexactly).mono (fun _ _ hout => hout) fun _ _ hout => hout.elim
  | readRange size offset count =>
    have hread : StreamM.Surfaces calm struck
        (LayeredStreams.readRange size offset count : StreamM ω σ Bytes) :=
      (StreamM.surfaces_ofExcept _).bind fun _ => hsource (.read .blocking count)
    exact surfaces_onSource hread s hcalm
  | writeRange data offset count =>
    have hwrite : StreamM.Surfaces calm struck
        (LayeredStreams.writeRange data offset count : StreamM ω σ Unit) :=
      (StreamM.surfaces_ofExcept _).bind fun _ => hsource (.write .blocking _)
    exact surfaces_onSource hwrite s hcalm
  | readToEnd =>
    have hread := surfaces_readToEndWithin (hsource (.read .blocking chunkSize)) readLimit
    exact surfaces_onSource hread s hcalm
  | copy mode =>
    exact surfaces_copyWithin (hsource (.read mode copyBufferSize))
      (fun data => hdestination (.write mode data)) readLimit s hcalm
  | channelRead suspended room => exact hask (.read (Channel.mode suspended) room) s hcalm
  | channelWrite suspended data =>
    have hwrite : StreamM.Surfaces calm struck (Channel.write suspended data : StreamM ω σ Nat) :=
      StreamM.Surfaces.bind (hsource (.write (Channel.mode suspended) data)) fun _ =>
        StreamM.surfaces_pure _
    exact surfaces_onSource hwrite s hcalm
  | channelFlush suspended => exact hask (.flush (Channel.mode suspended)) s hcalm
  | channelSeek target => exact hask (.seek target) s hcalm

end Errand

namespace Noted

variable {ω : Type} {start noted : Noted ω}

/-- Of the failures since `start`, the one that is shown is the only one after which a stream does
not try again. -/
theorem eq_of_accounts {failure? : Option StreamError}
    (h : Accounts start.Calm start.Shown failure? noted) {failures : List DeviceFailure}
    (hfailures : noted.failures = failures ++ start.failures) {failure : DeviceFailure}
    (hmem : failure ∈ failures) (hretried : failure.isRetried = false) :
    failure? = some (.device failure.error) := by
  have hnever : ¬ start.Calm noted := by
    rintro ⟨retried, hretries, hall⟩
    rw [hfailures] at hretries
    rw [List.append_cancel_right hretries] at hmem
    rw [hall failure hmem] at hretried
    cases hretried
  cases failure? with
  | none => exact absurd h hnever
  | some e =>
    rcases h with hcalm | ⟨cause, rfl, call, retried, hstruck, hall⟩
    · exact absurd hcalm hnever
    rw [hfailures, ← List.cons_append] at hstruck
    rw [List.append_cancel_right hstruck] at hmem
    rcases List.mem_cons.mp hmem with rfl | hmem
    · rfl
    · rw [hall failure hmem] at hretried
      cases hretried

/-- The failures that were noted come after those that were noted before. -/
theorem exists_failures {failure? : Option StreamError}
    (h : Accounts start.Calm start.Shown failure? noted) :
    ∃ failures, noted.failures = failures ++ start.failures := by
  have hcalm : start.Calm noted → ∃ failures, noted.failures = failures ++ start.failures :=
    fun ⟨retried, hretries, _⟩ => ⟨retried, hretries⟩
  cases failure? with
  | none => exact hcalm h
  | some e =>
    rcases h with h | ⟨cause, -, call, retried, hstruck, -⟩
    · exact hcalm h
    · exact ⟨⟨call, cause⟩ :: retried, hstruck⟩

end Noted

namespace Errand

variable {ω δ δ' : Type} [Cancellation ω] [Device ω δ] [Device ω δ']

/-- **A failure of the device surfaces from every stack of layers over it, and keeps its kind unless
it is an overflow.** Whatever is done with the stack, if the device fails a call on the way with the
error `e` of another stream, carried, and this is no interrupted transfer, that error is the answer;
its kind is the one of `e`, but that of an overflow is lost. -/
theorem failure_surfaces {kinds kinds' : List LayerKind} (errand : Errand)
    (s : (Stack kinds (DeviceStream (Overseen δ)) × Stack kinds' (DeviceStream (Overseen δ'))) ×
      Noted ω) :
    ∃ failures, (errand.perform.final s).2.failures = failures ++ s.2.failures ∧
      ∀ (call : DeviceCall) (e : StreamError), ⟨call, e.toDeviceError⟩ ∈ failures →
        (DeviceFailure.mk call e.toDeviceError).isRetried = false →
        errand.failure? (errand.perform.result s) = some (.device e.toDeviceError) ∧
        (StreamError.device e.toDeviceError).kind =
          if e = .refusal .overflow then .other else e.kind := by
  have hends := ends_accounts (Stack.candid (DeviceStream.candid s.2) kinds)
    (Stack.candid (DeviceStream.candid s.2) kinds') errand s (Noted.calm_self s.2)
  have haccounts : Accounts s.2.Calm s.2.Shown (errand.failure? (errand.perform.result s))
      (errand.perform.final s).2 := by
    unfold StreamM.result StreamM.final
    cases heq : errand.perform s with
    | ok answer s' => exact hends.of_eq_ok heq
    | error e s' =>
      rw [failure?_error]
      exact hends.of_eq_error heq
  obtain ⟨failures, hfailures⟩ := Noted.exists_failures haccounts
  refine ⟨failures, hfailures, fun call e hmem hretried => ⟨?_, e.kind_toDeviceError⟩⟩
  exact Noted.eq_of_accounts haccounts hfailures hmem hretried

/-- A read-only layer over a device that fails the first flush with an overflow that it carries,
beside a stream of its own. -/
def overflowing : Stack [.readOnly] (DeviceStream (Overseen ScriptedDevice)) ×
    Stack [] (DeviceStream (Overseen ScriptedDevice)) :=
  (ReadOnly.ofStream (DeviceStream.ofDevice
    ⟨⟨⟨[0, 1, 2, 3], 0, none, ⟨[("flush", [.fail (.refusal .overflow)])]⟩, 0⟩⟩⟩ .fixedLength),
    DeviceStream.ofDevice ⟨⟨⟨[], 0, none, .empty, 1⟩⟩⟩ .fixedLength)

/-- An overflow that a device carries surfaces from a flush as an error of another kind. -/
theorem overflow_loses_kind :
    ∃ noted, DeviceFailure.mk .flush (StreamError.refusal .overflow).toDeviceError ∈ noted ∧
      ((Errand.ask (.flush .blocking)).perform.final
        (overflowing, (⟨[], .initial⟩ : Noted Surroundings))).2.failures = noted ∧
      (Errand.ask (.flush .blocking)).failure? ((Errand.ask (.flush .blocking)).perform.result
        (overflowing, (⟨[], .initial⟩ : Noted Surroundings))) =
          some (.device (.carried .overflow)) ∧
      (StreamError.device (.carried .overflow)).kind = .other ∧
      (StreamError.refusal .overflow).kind = .outOfMemory := by
  obtain ⟨failures, hfailures, hall⟩ := failure_surfaces (.ask (.flush .blocking))
    (overflowing, (⟨[], .initial⟩ : Noted Surroundings))
  have hnoted : [DeviceFailure.mk .flush (.carried .overflow)] = failures ++ [] := hfailures
  rw [List.append_nil] at hnoted
  have hmem : DeviceFailure.mk .flush (.carried .overflow) ∈ failures :=
    hnoted ▸ List.mem_singleton_self _
  obtain ⟨hsurfaces, hkind⟩ := hall .flush (.refusal .overflow) hmem rfl
  exact ⟨failures, hmem, hfailures.trans (List.append_nil _), hsurfaces, hkind, rfl⟩

end Errand

end LayeredStreams
