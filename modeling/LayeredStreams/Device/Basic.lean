import LayeredStreams.Slot
import LayeredStreams.Stream
import LayeredStreams.Device.Call

/-!
# Streams over devices

* `DeviceM ω δ α` — a computation on a device whose state is `δ`, in surroundings `ω`.
* `Device ω δ` — a device: how it carries out each operation, how many more operations can be
  interrupted before one goes through, and what becomes of it when no byte at all is written.
* `Device.readUninterrupted`, `Device.writeAll` — a read that is repeated while it is interrupted,
  and writes that are repeated until all bytes are taken.
* `DeviceStream δ` — the stream over a device. A device has no length of its own: the stream finds
  it by moving the device's cursor to the end and back.

Principal results: `onDevice_of_disposed` (nothing reaches the device of a disposed stream) and
`readUninterrupted_of_ok` (a read that is not interrupted is made once).
-/

set_option autoImplicit false

namespace LayeredStreams

/-- A computation on a device with state `δ` in surroundings `ω`. -/
abbrev DeviceM (ω δ α : Type) := EStateM DeviceError (δ × ω) α

/-- A device with state `δ` in surroundings `ω`. -/
class Device (ω δ : Type) where
  operate : (call : DeviceCall) → DeviceM ω δ call.Answer
  /-- A bound on the operations that are still to be interrupted. -/
  patience : δ → ω → Nat
  /-- What a write of no bytes comes to. There is nothing to take, so most devices are not asked. -/
  writeNothing : DeviceM ω δ Unit := pure ()

namespace Device

variable {ω δ : Type} [Device ω δ]

/-- Read at most `room` bytes; an interrupted read is made again, at most `retries` times. -/
def readUninterrupted (room : Nat) : (retries : Nat) → DeviceM ω δ Bytes
  | 0 => operate (.read room)
  | retries + 1 => fun s =>
    match (operate (.read room) : DeviceM ω δ Bytes) s with
    | .ok bytes s' => .ok bytes s'
    | .error e s' => if e.isInterrupted then readUninterrupted room retries s' else .error e s'

/-- Write all of `data` in at most `attempts` writes. Each write takes some bytes or is interrupted;
a write that takes nothing of what is left is a failure. -/
def writeAll : (attempts : Nat) → (data : Bytes) → DeviceM ω δ Unit
  | _, [] => pure ()
  | 0, _ :: _ => throw .nothingWritten
  | attempts + 1, byte :: rest => fun s =>
    match (operate (.write (byte :: rest)) : DeviceM ω δ Nat) s with
    | .ok 0 s' => .error .nothingWritten s'
    | .ok (count + 1) s' => writeAll attempts (rest.drop count) s'
    | .error e s' => if e.isInterrupted then writeAll attempts (byte :: rest) s' else .error e s'

/-- A read that is made again while it is interrupted. -/
def readPatiently (room : Nat) : DeviceM ω δ Bytes := fun s =>
  readUninterrupted room (patience s.1 s.2) s

/-- Writes that are made until all of `data` is taken: each takes a byte or is interrupted. Where
there is no byte to take, the device has its own way. -/
def writePatiently (data : Bytes) : DeviceM ω δ Unit := fun s =>
  if data.isEmpty then writeNothing s else writeAll (data.length + patience s.1 s.2) data s

/-- The length of the content. The cursor goes to the end and, unless it was there, back. -/
def measure : DeviceM ω δ Nat := do
  let here ← operate (.seek (.fromCurrent 0))
  let reach ← operate (.seek (.fromEnd 0))
  if reach ≠ here then
    let _ ← operate (.seek (.fromStart here))
  return reach

theorem readUninterrupted_of_ok {room : Nat} {s s' : δ × ω} {bytes : Bytes}
    (h : (operate (.read room) : DeviceM ω δ Bytes) s = .ok bytes s') (retries : Nat) :
    readUninterrupted room retries s = .ok bytes s' := by
  cases retries with
  | zero => exact h
  | succ retries => simp [readUninterrupted, h]

end Device

/-- What a stream over a device lets its callers change. -/
inductive Access
  /-- Bytes can be written; the length cannot be set. -/
  | fixedLength
  | readOnly
  /-- Bytes can be written and the length can be set. -/
  | resizable
  deriving DecidableEq, Repr

/-- A stream over a device, which it gives up when it is disposed. -/
structure DeviceStream (δ : Type) where
  device : Slot δ
  access : Access
  deriving DecidableEq, Repr

namespace DeviceStream

variable {ω δ α : Type}

/-- The stream over a device. -/
def ofDevice (device : δ) (access : Access) : DeviceStream δ := ⟨.live device, access⟩

/-- Run a computation on the device. -/
def onDevice (act : DeviceM ω δ α) : StreamM ω (DeviceStream δ) α := fun (stream, w) =>
  match stream.device with
  | .disposed => .error (.refusal .disposed) (stream, w)
  | .live device =>
    match act (device, w) with
    | .ok value (device, w) => .ok value ({ stream with device := .live device }, w)
    | .error e (device, w) => .error e.toStreamError ({ stream with device := .live device }, w)

/-- Decline if the stream was disposed. -/
def ensureOpen : StreamM ω (DeviceStream δ) Unit := onDevice (pure ())

/-- The kind of access. -/
def accessMode : StreamM ω (DeviceStream δ) Access := do return (← StreamM.state).access

variable [Device ω δ]

/-- The position of the device's cursor. -/
def position : StreamM ω (DeviceStream δ) Nat :=
  onDevice (Device.operate (.seek (.fromCurrent 0)))

/-- Where a seek target leads. A target told from the start needs no question to the device. -/
def locate (target : SeekTarget) : StreamM ω (DeviceStream δ) Nat :=
  match target with
  | .fromStart _ => StreamM.ofExcept (target.resolve 0 0)
  | _ => do
    let here ← position
    let size ← onDevice Device.measure
    StreamM.ofExcept (target.resolve here size)

/-- Move the device's cursor to a seek target. -/
def seek (target : SeekTarget) : StreamM ω (DeviceStream δ) Nat := do
  let place ← locate target
  onDevice (Device.operate (.seek (.fromStart place)))

/-- Read at most `room` bytes from the device. -/
def read (room : Nat) : StreamM ω (DeviceStream δ) Bytes := onDevice (Device.readPatiently room)

/-- Write all of `data` to the device. -/
def write (data : Bytes) : StreamM ω (DeviceStream δ) Unit := do
  ensureOpen
  if (← accessMode) = .readOnly then StreamM.refuse (.notSupported "write")
  onDevice (Device.writePatiently data)

/-- Set the length of the device's content. -/
def setLength (size : Nat) : StreamM ω (DeviceStream δ) Unit := do
  ensureOpen
  if (← accessMode) ≠ .resizable then StreamM.refuse (.notSupported "set_length")
  if maxPosition < size then StreamM.refuse (.argumentOutOfRange "length" size)
  onDevice (Device.operate (.setLength size))

/-- The answer of a stream over a device to a request. -/
def perform [Cancellation ω] : (request : Request) → StreamM ω (DeviceStream δ) request.Answer
  | .position => position
  | .setPosition target => do
    let _ ← seek (.fromStart target)
  | .length => onDevice Device.measure
  | .setLength size => setLength size
  | .seek target => seek target
  | .read mode room => do
    mode.checkToken
    read room
  | .readByte => do return (← read 1).head?
  | .write mode data => do
    mode.checkToken
    write data
  | .writeByte byte => write [byte]
  | .flush mode => do
    mode.checkToken
    onDevice (Device.operate .flush)
  | .dispose => StreamM.update fun stream => { stream with device := .disposed }
  | .timeout direction => StreamM.refuse (.notSupported (Request.timeout direction).name)
  | .setTimeout direction limit =>
    StreamM.refuse (.notSupported (Request.setTimeout direction limit).name)

/-- What a stream over a device can do. -/
def can (capability : Capability) (stream : DeviceStream δ) : Bool :=
  !stream.device.isDisposed &&
    match capability with
    | .reading | .seeking => true
    | .writing => stream.access != .readOnly
    | .timing => false

instance [Cancellation ω] : ByteStream ω (DeviceStream δ) where
  can capability stream _ := stream.can capability
  isDisposed stream _ := stream.device.isDisposed
  perform := DeviceStream.perform

omit [Device ω δ] in
theorem onDevice_of_disposed {stream : DeviceStream δ} (h : stream.device = .disposed)
    (act : DeviceM ω δ α) (w : ω) :
    onDevice act (stream, w) = .error (.refusal .disposed) (stream, w) := by
  simp [onDevice, h]

end DeviceStream

end LayeredStreams
