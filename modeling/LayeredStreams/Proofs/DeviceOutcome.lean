import LayeredStreams.Device.Scripted
import LayeredStreams.Proofs.Outcome

/-!
# What comes of a computation on a device

* `DeviceM.Ends act s good bad` — the outcome of `act` in the state `s`: `good` of the value and the
  state it leaves, or `bad` of the error and the state that a failing computation leaves.
* `DeviceStream.Over access held` — a stream of that access over a device of which `held` holds.
* `ScriptedDevice.faulted` — a scripted device after the next fault for a call was taken off the
  script.

Principal results: `DeviceM.Ends.bind` (a sequence ends as its second part does, from where the
first part went on), `DeviceStream.ends_onDevice_live` (a computation on the device of a stream ends
as it does alone, and shows the error of the device) and `ScriptedDevice.ends_operate` (a scripted
device fails as its script says, or acts on its content).
-/

set_option autoImplicit false

namespace LayeredStreams

namespace DeviceM

variable {ω δ α β : Type}

/-- What holds of the outcome of a computation on a device: `good` of a value and the state after
it, `bad` of an error and the state after it. -/
def Ends (act : DeviceM ω δ α) (s : δ × ω) (good : α → δ × ω → Prop)
    (bad : DeviceError → δ × ω → Prop) : Prop :=
  match act s with
  | .ok value s' => good value s'
  | .error e s' => bad e s'

theorem bind_apply (act : DeviceM ω δ α) (next : α → DeviceM ω δ β) (s : δ × ω) :
    (act >>= next) s =
      match act s with
      | .ok value s' => next value s'
      | .error e s' => .error e s' := by
  show EStateM.bind act next s = _
  unfold EStateM.bind
  cases act s <;> rfl

variable {act : DeviceM ω δ α} {s s' : δ × ω} {good good' : α → δ × ω → Prop}
  {bad bad' : DeviceError → δ × ω → Prop}

theorem ends_of_eq_ok {value : α} (h : act s = .ok value s') (hgood : good value s') :
    act.Ends s good bad := by
  unfold Ends; rw [h]; exact hgood

theorem ends_of_eq_error {e : DeviceError} (h : act s = .error e s') (hbad : bad e s') :
    act.Ends s good bad := by
  unfold Ends; rw [h]; exact hbad

theorem Ends.of_eq_ok {value : α} (h : act.Ends s good bad) (heq : act s = .ok value s') :
    good value s' := by
  unfold Ends at h; rwa [heq] at h

theorem Ends.of_eq_error {e : DeviceError} (h : act.Ends s good bad) (heq : act s = .error e s') :
    bad e s' := by
  unfold Ends at h; rwa [heq] at h

theorem Ends.mono (h : act.Ends s good bad) (hgood : ∀ value s', good value s' → good' value s')
    (hbad : ∀ e s', bad e s' → bad' e s') : act.Ends s good' bad' := by
  unfold Ends at h ⊢
  split at h
  · exact hgood _ _ h
  · exact hbad _ _ h

/-- What is told of an outcome in two ways is told of it at once. -/
theorem Ends.and (h : act.Ends s good bad) (h' : act.Ends s good' bad') :
    act.Ends s (fun value s' => good value s' ∧ good' value s')
      fun e s' => bad e s' ∧ bad' e s' := by
  unfold Ends at *
  split at h
  · rename_i value s' heq
    rw [heq] at h'
    exact ⟨h, h'⟩
  · rename_i e s' heq
    rw [heq] at h'
    exact ⟨h, h'⟩

theorem ends_pure {value : α} (h : good value s) :
    (pure value : DeviceM ω δ α).Ends s good bad := h

/-- A sequence ends as its second part does, from wherever the first part went on. -/
theorem Ends.bind {next : α → DeviceM ω δ β} {good' : β → δ × ω → Prop}
    (h : act.Ends s good bad) (hnext : ∀ value s', good value s' → (next value).Ends s' good' bad) :
    (act >>= next).Ends s good' bad := by
  unfold Ends at h ⊢
  rw [bind_apply]
  cases heq : act s with
  | ok value s' =>
    rw [heq] at h
    exact hnext value s' h
  | error e s' =>
    rw [heq] at h
    exact h

/-- What comes of a computation, together with what came of it. -/
theorem ends_self (act : DeviceM ω δ α) (s : δ × ω) :
    act.Ends s (fun value s' => act s = .ok value s') fun e s' => act s = .error e s' := by
  unfold Ends
  cases act s with
  | ok value s' => rfl
  | error e s' => rfl

end DeviceM

namespace DeviceStream

variable {ω δ α : Type}

/-- A stream of that access over a device of which `held` holds. -/
def Over (access : Access) (held : δ × ω → Prop) : DeviceStream δ × ω → Prop :=
  StreamM.Held (fun device => ⟨.live device, access⟩) held

theorem over_ofDevice {access : Access} {held : δ × ω → Prop} {device : δ} {w : ω}
    (h : held (device, w)) : Over access held (ofDevice device access, w) := ⟨device, rfl, h⟩

theorem Over.mono {access : Access} {held held' : δ × ω → Prop} {s : DeviceStream δ × ω}
    (h : Over access held s) (himp : ∀ t, held t → held' t) : Over access held' s := by
  obtain ⟨device, heq, hheld⟩ := h
  exact ⟨device, heq, himp _ hheld⟩

/-- A computation on the device of a stream ends as it does alone, and shows the error of the
device. -/
theorem ends_onDevice_live {access : Access} {act : DeviceM ω δ α} {device : δ} {w : ω}
    {good : α → δ × ω → Prop} {bad : DeviceError → δ × ω → Prop}
    (h : act.Ends (device, w) good bad) :
    (onDevice act).Ends (ofDevice device access, w) (fun value => Over access (good value))
      fun e s' => ∃ cause : DeviceError, e = .device cause ∧ Over access (bad cause) s' := by
  unfold StreamM.Ends onDevice ofDevice
  dsimp only
  cases heq : act (device, w) with
  | ok value s' => exact over_ofDevice (h.of_eq_ok heq)
  | error e s' => exact ⟨e, rfl, over_ofDevice (h.of_eq_error heq)⟩

end DeviceStream

namespace ScriptedDevice

variable {α : Type}

/-- The device after the next fault for a call of that name was taken off its script. -/
def faulted (name : String) (device : ScriptedDevice) : ScriptedDevice :=
  ⟨{ device.scripted with script := (device.scripted.script.next name).2 }⟩

theorem ends_onContent {act : DeviceM Surroundings ScriptedContent α} {device : ScriptedDevice}
    {w : Surroundings} {good : α → ScriptedDevice × Surroundings → Prop}
    {bad : DeviceError → ScriptedDevice × Surroundings → Prop}
    (h : act.Ends (device.scripted, w) (fun value s' => good value (⟨s'.1⟩, s'.2))
      fun e s' => bad e (⟨s'.1⟩, s'.2)) : (onContent act).Ends (device, w) good bad := by
  unfold DeviceM.Ends onContent
  dsimp only
  cases heq : act (device.scripted, w) with
  | ok value s' => exact h.of_eq_ok heq
  | error e s' => exact h.of_eq_error heq

/-- A scripted device fails as the next fault of its script says, or acts on its content. -/
theorem ends_operate {call : DeviceCall} {device : ScriptedDevice} {w : Surroundings}
    {good : call.Answer → ScriptedDevice × Surroundings → Prop}
    {bad : DeviceError → ScriptedDevice × Surroundings → Prop}
    (hfail : ∀ e w', (device.scripted.script.next call.name).1 = .fail e →
      bad e.toDeviceError (device.faulted call.name, w'))
    (hact : ∀ bound w', DeviceM.Ends (act bound call) ((device.faulted call.name).scripted, w')
      (fun value s' => good value (⟨s'.1⟩, s'.2)) fun e s' => bad e (⟨s'.1⟩, s'.2)) :
    (Device.operate call : DeviceM Surroundings ScriptedDevice call.Answer).Ends (device, w)
      good bad := by
  unfold faulted at hfail hact
  refine ends_onContent ?_
  unfold DeviceM.Ends
  rw [DeviceM.bind_apply]
  dsimp only [ScriptedContent.receive]
  rw [DeviceM.bind_apply]
  unfold ScriptedContent.obey
  dsimp only
  generalize device.scripted.script.next call.name = asked at hfail hact ⊢
  obtain ⟨fault, script⟩ := asked
  cases fault with
  | none => exact hact none _
  | cancel token => exact hact none _
  | atMost count => exact hact (some count) _
  | fail e => exact hfail e _ rfl

end ScriptedDevice

end LayeredStreams
