import LayeredStreams.Device.Basic
import LayeredStreams.Script

/-!
# Scripted devices

A device in memory whose calls are entered in the journal and suffer the faults of a script. A
refusal that the script asks for is carried; any other failure is reported as it is.

* `ScriptedDevice.operate` — its operations: enter the call, suffer the fault, act.
-/

set_option autoImplicit false

namespace LayeredStreams

/-- A device that follows a script. -/
structure ScriptedDevice where
  scripted : ScriptedContent
  deriving DecidableEq, Repr

namespace ScriptedDevice

variable {α : Type}

/-- A device that is asked to hold too much. -/
def full : DeviceError := .reported .other "medium full"

/-- A seek that leads to no machine word. -/
def badSeek : DeviceError := .reported .invalidInput "bad seek"

/-- Run a computation on the content. -/
def onContent (act : EStateM DeviceError (ScriptedContent × Surroundings) α) :
    DeviceM Surroundings ScriptedDevice α := fun (device, w) =>
  match act (device.scripted, w) with
  | .ok value (scripted, w) => .ok value (⟨scripted⟩, w)
  | .error e (scripted, w) => .error e (⟨scripted⟩, w)

/-- The content and the script. -/
def scriptedContent : EStateM DeviceError (ScriptedContent × Surroundings) ScriptedContent :=
  return (← get).1

/-- What an operation does once the script has let it through, moving at most `bound` bytes. -/
def act (bound : Option Nat) :
    (call : DeviceCall) → EStateM DeviceError (ScriptedContent × Surroundings) call.Answer
  | .read room => do
    let scripted ← scriptedContent
    ScriptedContent.take (scripted.allowance room bound)
  | .write data => do
    let scripted ← scriptedContent
    let taken := data.take (scripted.allowance data.length bound)
    ScriptedContent.put full taken
    return taken.length
  | .flush => pure ()
  | .seek target => fun (scripted, w) =>
    let place := target.destination scripted.cursor scripted.content.length
    if 0 ≤ place ∧ place ≤ maxWord then
      .ok place.toNat ({ scripted with cursor := place.toNat }, w)
    else .error badSeek (scripted, w)
  | .setLength size => ScriptedContent.resize full size

/-- Carry out an operation. -/
def operate (call : DeviceCall) : DeviceM Surroundings ScriptedDevice call.Answer :=
  onContent do
    ScriptedContent.receive (.operation call)
    let bound ← ScriptedContent.obey StreamError.toDeviceError call.name
    act bound call

instance : Device Surroundings ScriptedDevice where
  operate := ScriptedDevice.operate
  patience device _ :=
    device.scripted.script.pending "read" + device.scripted.script.pending "write"

end ScriptedDevice

end LayeredStreams
