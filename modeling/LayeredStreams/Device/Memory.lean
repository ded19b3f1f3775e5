import LayeredStreams.Device.Basic

/-!
# Memory as a device

A content with a cursor. Reads take all that is there and fits, and writes take everything,
zero-filling a gap before the cursor; a write of no bytes fills the gap, too. Only a seek that leads
to no machine word fails.

* `MemoryDevice` — content and cursor.
* `MemoryDevice.operate` — its operations.

Principal results: `operate_read` and `operate_write`, equations in terms of windows and splices,
and `writePatiently_eq`: every whole write is one splice, whether or not there are bytes.
-/

set_option autoImplicit false

namespace LayeredStreams

/-- A content with a cursor, which may lie beyond the end. -/
structure MemoryDevice where
  content : Bytes
  cursor : Nat
  deriving DecidableEq, Repr

namespace MemoryDevice

variable {ω : Type}

/-- A content with the cursor at the start. -/
def ofContent (content : Bytes) : MemoryDevice := ⟨content, 0⟩

/-- A seek that leads to no machine word. -/
def badSeek : DeviceError :=
  .reported .invalidInput "invalid seek to a negative or overflowing position"

/-- Carry out an operation. -/
def operate : (call : DeviceCall) → DeviceM ω MemoryDevice call.Answer
  | .read room => fun (device, w) =>
    let bytes := device.content.window device.cursor room
    .ok bytes ({ device with cursor := device.cursor + bytes.length }, w)
  | .write data => fun (device, w) =>
    .ok data.length
      (⟨device.content.splice device.cursor data, device.cursor + data.length⟩, w)
  | .flush => pure ()
  | .seek target => fun (device, w) =>
    let place := target.destination device.cursor device.content.length
    if 0 ≤ place ∧ place ≤ maxWord then .ok place.toNat ({ device with cursor := place.toNat }, w)
    else .error badSeek (device, w)
  | .setLength size => fun (device, w) =>
    .ok () ({ device with content := device.content.resize size }, w)

instance : Device ω MemoryDevice where
  operate := MemoryDevice.operate
  patience _ _ := 0
  writeNothing := do
    let _ ← operate (.write [])

theorem operate_read (device : MemoryDevice) (room : Nat) (w : ω) :
    operate (.read room) (device, w) =
      .ok (device.content.window device.cursor room)
        ({ device with
            cursor := device.cursor + min room (device.content.length - device.cursor) }, w) := by
  simp [operate, Bytes.length_window]

theorem operate_write (device : MemoryDevice) (data : Bytes) (w : ω) :
    operate (.write data) (device, w) =
      .ok data.length
        (⟨device.content.splice device.cursor data, device.cursor + data.length⟩, w) := rfl

/-- A whole write is one splice at the cursor. Without bytes it still fills the gap before the
cursor, so the content reaches the cursor afterwards in any case. -/
theorem writePatiently_eq (device : MemoryDevice) (data : Bytes) (w : ω) :
    Device.writePatiently data (device, w) =
      .ok () (⟨device.content.splice device.cursor data, device.cursor + data.length⟩, w) := by
  cases data with
  | nil => rfl
  | cons byte rest =>
    simp [Device.writePatiently, Device.patience, Device.writeAll, Device.operate, operate_write,
      pure, EStateM.pure]

end MemoryDevice

end LayeredStreams
