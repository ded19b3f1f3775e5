import LayeredStreams.Session.Environment

/-!
# Reports

What a session tells about a step.

* `LayerInfo`, `WindowInfo`, `Info` — what can be seen of a stream from outside, without asking it.
* `Summary` — what a stream can do, whether it was disposed, its position and its length.
* `Value` — a result; `Value.ofAnswer` is the one of a request.
* `Failure`, `Report` — a step fails with an error of the stream, or because its kind of stream does
  not have the operation. A step that reads also reports its buffer.
* `Node.info` — what can be seen of a stream; `nameOf` tells by what name a session knows the stream
  below.
-/

set_option autoImplicit false

namespace LayeredStreams

/-- What can be seen of a layer: the stream below by name, if it is still held. -/
structure LayerInfo where
  ownership : Ownership
  /-- The name of the stream below, if it has one. -/
  inner : Except Refusal (Option String)
  disposed : Bool

/-- What can be seen of a window. -/
inductive WindowInfo
  | unwrapped (inner : Option String)
  | rebased (layer : LayerInfo) (baseOffset : Nat)
  | truncated (layer : LayerInfo) (maxLength origin : Nat)
  | rebasedTruncated (ownership : Ownership) (maxLength origin : Nat)
      (below : Except Refusal (LayerInfo × Nat))

/-- What can be seen of a stream. -/
inductive Info
  | zeros (cursor size : Nat)
  | device (held : Except Refusal (Bytes × Nat))
  | file (size : Except Refusal Nat)
  | probe (content : Bytes) (cursor : Nat) (disposed : Bool)
  | passthrough (layer : LayerInfo)
  | rebased (layer : LayerInfo) (baseOffset : Nat)
  | truncated (layer : LayerInfo) (maxLength origin : Nat)
  | readOnly (layer : LayerInfo)
  | cached (layer : LayerInfo) (count : Nat) (loaded : List Nat)
  | window (info : WindowInfo)

/-- What a stream says of itself. -/
structure Summary where
  can : Capability → Bool
  disposed : Bool
  position : Except StreamError Nat
  length : Except StreamError Nat

/-- A result. -/
inductive Value
  | unit
  | number (n : Nat)
  | byte (byte : Option UInt8)
  | bytes (bytes : Bytes)
  | flag (flag : Bool)
  | duration (limit : Option Duration)
  | name (name : Option String)
  | content (bytes : Bytes) (cursor : Nat)
  | summary (summary : Summary)
  | info (info : Info)
  | calls (calls : List Call)

namespace Value

/-- The result of a request. A read reports the number of bytes; they are in the buffer. -/
def ofAnswer : (request : Request) → request.Answer → Value
  | .position, n => number n
  | .setPosition _, _ => unit
  | .length, n => number n
  | .setLength _, _ => unit
  | .seek _, n => number n
  | .read _ _, got => number got.length
  | .readByte, found => byte found
  | .write _ _, _ => unit
  | .writeByte _, _ => unit
  | .flush _, _ => unit
  | .timeout _, limit => duration limit
  | .setTimeout _ _, _ => unit
  | .dispose, _ => unit

end Value

/-- Why a step fails. -/
inductive Failure
  | stream (error : StreamError)
  /-- The stream is not used as a byte channel. -/
  | noChannel
  /-- The stream cannot be copied. -/
  | noClone
  /-- The stream is built over nothing that could be taken out. -/
  | noInner
  deriving DecidableEq, Repr

/-- What a session tells about a step. -/
structure Report where
  outcome : Except Failure Value
  /-- The buffer after the step, if the step reads. -/
  buffer : Option Bytes

/-- The report of a step that does not read. -/
def Report.ofOutcome (outcome : Except Failure Value) : Report := ⟨outcome, none⟩

/-- The report of a step that succeeded with nothing to tell. -/
def Report.done : Report := .ofOutcome (.ok .unit)

namespace Passthrough

/-- What can be seen of a layer. -/
def info (nameOf : Handle → Option String) (layer : Passthrough Handle) : LayerInfo :=
  ⟨layer.ownership, layer.slot.get.map nameOf, layer.isDisposed⟩

end Passthrough

namespace DeviceStream

/-- The content and cursor of a memory device, if it is still held. -/
def memoryContent (stream : DeviceStream MemoryDevice) : Except Refusal (Bytes × Nat) :=
  stream.device.get.map fun device => (device.content, device.cursor)

/-- The content and cursor of a file, if it is still held. -/
def fileContent (stream : DeviceStream FileDevice) : Except Refusal (Bytes × Nat) :=
  stream.device.get.map fun file => (file.held.content, file.held.cursor)

/-- The content and cursor of a scripted device, if it is still held. -/
def scriptedContent (stream : DeviceStream ScriptedDevice) : Except Refusal (Bytes × Nat) :=
  stream.device.get.map fun device => (device.scripted.content, device.scripted.cursor)

end DeviceStream

namespace Cached

/-- The number of blocks that a report tells about. -/
def reportedBlocks : Nat := 64

/-- The blocks that are kept, among the first ones. -/
def loadedBlocks {σ : Type} (layer : Cached σ) : List Nat :=
  (List.range reportedBlocks).filter layer.isBlockLoaded

end Cached

namespace Window

/-- What can be seen of a window. -/
def info (nameOf : Handle → Option String) : Window Handle → WindowInfo
  | unwrapped stream => .unwrapped (nameOf stream)
  | rebased layer => .rebased (layer.base.info nameOf) layer.baseOffset
  | truncated layer => .truncated (layer.base.info nameOf) layer.maxLength layer.origin
  | rebasedTruncated layer =>
    .rebasedTruncated layer.base.ownership layer.maxLength layer.origin
      (layer.base.slot.get.map fun below => (below.base.info nameOf, below.baseOffset))

end Window

namespace Node

/-- What can be seen of a stream. -/
def info (nameOf : Handle → Option String) : Node → Info
  | zeros stream => .zeros stream.cursor stream.size
  | memory stream => .device stream.memoryContent
  | file stream => .file (stream.fileContent.map fun held => held.1.length)
  | scripted stream => .device stream.scriptedContent
  | probe stream => .probe stream.scripted.content stream.scripted.cursor stream.disposed
  | passthrough layer => .passthrough (layer.info nameOf)
  | rebased layer => .rebased (layer.base.info nameOf) layer.baseOffset
  | truncated layer => .truncated (layer.base.info nameOf) layer.maxLength layer.origin
  | readOnly layer => .readOnly (layer.base.info nameOf)
  | cached layer => .cached (layer.base.info nameOf) layer.cachedBlockCount layer.loadedBlocks
  | window layers => .window (layers.info nameOf)

/-- What is taken out of a stream that is given up: the content of a device, or the name of the
stream below. -/
def inner (nameOf : Handle → Option String) (node : Node) : Except Failure Value :=
  let refused : Refusal → Failure := fun cause => .stream (.refusal cause)
  let below : Passthrough Handle → Except Failure Value := fun layer =>
    (layer.slot.get.map fun stream => Value.name (nameOf stream)).mapError refused
  let held : Except Refusal (Bytes × Nat) → Except Failure Value := fun content =>
    (content.map fun held => Value.content held.1 held.2).mapError refused
  match node with
  | zeros _ | probe _ => .error .noInner
  | memory stream => held stream.memoryContent
  | file stream => held stream.fileContent
  | scripted stream => held stream.scriptedContent
  | passthrough layer => below layer
  | rebased layer => below layer.base
  | truncated layer => below layer.base
  | readOnly layer => below layer.base
  | cached layer => below layer.base
  | window layers => .ok (.name (layers.unwrapped?.bind nameOf))

end Node

end LayeredStreams
