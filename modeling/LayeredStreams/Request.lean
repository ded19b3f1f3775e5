import LayeredStreams.Bytes
import LayeredStreams.Position

/-!
# Requests

Everything a caller can ask of a stream, as data. A layer that forwards what it does not change
forwards a request; a journal of calls is a list of them.

* `Token`, `Mode` — a transfer is blocking, or suspending under a cancellation token.
* `Request` — one operation with its arguments; `Request.Answer` is the type of its result.
* `Request.name`, `Request.text` — the word for the operation, and the line a journal shows for it.
* `Request.mutates` — the requests that change the content.
* `Capability` — what a stream can be asked whether it can do.

Principal results: `inBlockingMode_of_mode` and `mutates_inBlockingMode` (the mode says how a
transfer waits, not what it does).
-/

set_option autoImplicit false

namespace LayeredStreams

/-- A handle by which a suspended transfer can be called off. -/
inductive Token
  /-- A fresh token, which nobody else can cancel. -/
  | never
  /-- A token shared under a name. -/
  | named (name : String)
  deriving DecidableEq, Repr

/-- How a transfer waits. -/
inductive Mode
  /-- The caller waits for the transfer. -/
  | blocking
  /-- The caller is suspended, and the transfer stops if the token is cancelled. -/
  | suspending (token : Token)
  deriving DecidableEq, Repr

/-- The two directions of transfer, each with a time limit of its own. -/
inductive Direction
  | reading
  | writing
  deriving DecidableEq, Repr

/-- A length of time. -/
structure Duration where
  seconds : Nat
  /-- Nanoseconds beyond the whole seconds. -/
  nanoseconds : Nat
  deriving DecidableEq, Repr

namespace Duration

/-- The number of nanoseconds in a second. -/
def nanosecondsPerSecond : Nat := 1000000000

/-- So many seconds and nanoseconds, whole seconds among the nanoseconds carried over. -/
def ofParts (seconds nanoseconds : Nat) : Duration :=
  ⟨seconds + nanoseconds / nanosecondsPerSecond, nanoseconds % nanosecondsPerSecond⟩

theorem nanoseconds_ofParts_lt (seconds nanoseconds : Nat) :
    (ofParts seconds nanoseconds).nanoseconds < nanosecondsPerSecond :=
  Nat.mod_lt _ (by decide)

end Duration

/-- What a stream can be asked whether it can do. -/
inductive Capability
  | reading
  | writing
  | seeking
  | timing
  deriving DecidableEq, Repr

/-- An operation on a stream, with its arguments. -/
inductive Request
  | position
  | setPosition (target : Nat)
  | length
  /-- Cut or extend the content. -/
  | setLength (length : Nat)
  | seek (target : SeekTarget)
  /-- Read at most `room` bytes at the cursor. -/
  | read (mode : Mode) (room : Nat)
  | readByte
  /-- Write all of `data` at the cursor. -/
  | write (mode : Mode) (data : Bytes)
  | writeByte (byte : UInt8)
  /-- Hand buffered changes on. -/
  | flush (mode : Mode)
  | timeout (direction : Direction)
  | setTimeout (direction : Direction) (limit : Option Duration)
  /-- Give the stream up. -/
  | dispose
  deriving DecidableEq, Repr

namespace Request

/-- The type of the result of a request. A read answers the bytes it got. -/
@[reducible] def Answer : Request → Type
  | position => Nat
  | setPosition _ => Unit
  | length => Nat
  | setLength _ => Unit
  | seek _ => Nat
  | read _ _ => Bytes
  | readByte => Option UInt8
  | write _ _ => Unit
  | writeByte _ => Unit
  | flush _ => Unit
  | timeout _ => Option Duration
  | setTimeout _ _ => Unit
  | dispose => Unit

/-- The word for an operation. -/
def name : Request → String
  | position => "position"
  | setPosition _ => "set_position"
  | length => "length"
  | setLength _ => "set_length"
  | seek _ => "seek"
  | read .blocking _ => "read"
  | read (.suspending _) _ => "read_async"
  | readByte => "read_byte"
  | write .blocking _ => "write"
  | write (.suspending _) _ => "write_async"
  | writeByte _ => "write_byte"
  | flush .blocking => "flush"
  | flush (.suspending _) => "flush_async"
  | timeout .reading => "read_timeout"
  | timeout .writing => "write_timeout"
  | setTimeout .reading _ => "set_read_timeout"
  | setTimeout .writing _ => "set_write_timeout"
  | dispose => "dispose"

/-- The line a journal shows for a request: its word, and its argument if it is a number, a count
of bytes or a seek target. -/
def text (request : Request) : String :=
  match request with
  | setPosition target => request.name ++ " " ++ toString target
  | setLength size => request.name ++ " " ++ toString size
  | seek target => request.name ++ " " ++ target.originName ++ " " ++ toString target.offset
  | read .blocking room => request.name ++ " " ++ toString room
  | write .blocking data => request.name ++ " " ++ toString data.length
  | writeByte byte => request.name ++ " " ++ toString byte.toNat
  | _ => request.name

/-- Whether a request would change the content. -/
def mutates : Request → Bool
  | setLength _ | write _ _ | writeByte _ => true
  | _ => false

/-- Whether a request is a flush. -/
def isFlush : Request → Bool
  | flush _ => true
  | _ => false

/-- The same request, made by a caller that waits. -/
def inBlockingMode : Request → Request
  | read _ room => read .blocking room
  | write _ data => write .blocking data
  | flush _ => flush .blocking
  | request => request

/-- The mode of a request; those that are no transfer are blocking. -/
def mode : Request → Mode
  | read mode _ | write mode _ | flush mode => mode
  | _ => .blocking

theorem inBlockingMode_of_mode {request : Request} (h : request.mode = .blocking) :
    request.inBlockingMode = request := by
  cases request <;> simp_all [mode, inBlockingMode]

@[simp] theorem mutates_inBlockingMode (request : Request) :
    request.inBlockingMode.mutates = request.mutates := by
  cases request <;> rfl

end Request

end LayeredStreams
