import LayeredStreams.Bytes
import LayeredStreams.Position

/-!
# Operations on devices

A device is what lies below the lowest stream: a file, a block of memory, a line. Its transfers may
be short, may be interrupted, and may fail.

* `DeviceCall` — one operation with its arguments; `DeviceCall.Answer` is the type of its result.
* `DeviceCall.name`, `DeviceCall.text` — the word for the operation, and the line a journal shows
  for it.
-/

set_option autoImplicit false

namespace LayeredStreams

/-- An operation on a device, with its arguments. -/
inductive DeviceCall
  | read (room : Nat)
  /-- Write some bytes out of `data`. -/
  | write (data : Bytes)
  /-- Hand buffered changes on. -/
  | flush
  | seek (target : SeekTarget)
  /-- Cut or extend the content. -/
  | setLength (size : Nat)
  deriving DecidableEq, Repr

namespace DeviceCall

/-- The type of the result of an operation. A read answers the bytes it got, a write the number of
bytes it took. -/
@[reducible] def Answer : DeviceCall → Type
  | read _ => Bytes
  | write _ => Nat
  | flush => Unit
  | seek _ => Nat
  | setLength _ => Unit

/-- The word for an operation on a device. -/
def name : DeviceCall → String
  | read _ => "read"
  | write _ => "write"
  | flush => "flush"
  | seek _ => "seek"
  | setLength _ => "set_len"

/-- The line a journal shows for an operation on a device. -/
def text (call : DeviceCall) : String :=
  match call with
  | read room => call.name ++ " " ++ toString room
  | write data => call.name ++ " " ++ toString data.length
  | flush => call.name
  | seek target => call.name ++ " " ++ target.originName ++ " " ++ toString target.offset
  | setLength size => call.name ++ " " ++ toString size

end DeviceCall

end LayeredStreams
