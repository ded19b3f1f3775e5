import LayeredStreams.Device.Memory

/-!
# Files

A file is a content with a cursor, and its operations are those of memory. It differs in one point:
bytes that are written behind the end bring the gap before them into being, but a write of no bytes
leaves the file as it is.

* `FileDevice` — a file.
* `FileDevice.operate` — its operations.

Principal results: `writePatiently_nil` (a write of no bytes changes nothing) and
`writePatiently_cons` (any other whole write is one splice at the cursor).
-/

set_option autoImplicit false

namespace LayeredStreams

/-- A file. -/
structure FileDevice where
  /-- What the file holds, and its cursor. -/
  held : MemoryDevice
  deriving DecidableEq, Repr

namespace FileDevice

variable {ω : Type}

/-- A file with the cursor at the start. -/
def ofContent (content : Bytes) : FileDevice := ⟨.ofContent content⟩

/-- Carry out an operation. -/
def operate (call : DeviceCall) : DeviceM ω FileDevice call.Answer := fun (file, w) =>
  match MemoryDevice.operate call (file.held, w) with
  | .ok value (held, w) => .ok value (⟨held⟩, w)
  | .error e (held, w) => .error e (⟨held⟩, w)

instance : Device ω FileDevice where
  operate := FileDevice.operate
  patience _ _ := 0

/-- A write of no bytes changes nothing, also where the cursor lies behind the end. -/
theorem writePatiently_nil (file : FileDevice) (w : ω) :
    Device.writePatiently [] (file, w) = .ok () (file, w) := rfl

/-- A whole write of some bytes is one splice at the cursor. -/
theorem writePatiently_cons (file : FileDevice) (byte : UInt8) (rest : Bytes) (w : ω) :
    Device.writePatiently (byte :: rest) (file, w) =
      .ok () (⟨⟨file.held.content.splice file.held.cursor (byte :: rest),
        file.held.cursor + (rest.length + 1)⟩⟩, w) := by
  simp [Device.writePatiently, Device.patience, Device.writeAll, Device.operate, operate,
    MemoryDevice.operate_write, pure, EStateM.pure]

end FileDevice

end LayeredStreams
