/-!
# Errors

What can go wrong with a stream, as causes, and the wording of each.

* `Refusal` — the stream itself declines: it is disposed, it does not offer the operation, an
  argument is outside its range, a seek leads nowhere, the content ends early, a position
  overflows, or the caller's token was cancelled.
* `DeviceError` — the device below a stream reports a failure of some `DeviceErrorKind`, or hands
  back a refusal that was carried through it.
* `StreamError` — one or the other; `StreamError.message` is its wording and `StreamError.kind` the
  coarse class that callers without access to the cause go by.
* `StreamError.toDeviceError`, `DeviceError.toStreamError` — the way down to a device and up again.

Principal results: `ofName?_name` (every kind of device failure has a word of its own),
`toDeviceError_toStreamError` (a device error taken up and down again is itself) and
`kind_toStreamError` (it keeps its class on the way up).
-/

set_option autoImplicit false

namespace LayeredStreams

/-- The coarse classes of errors. -/
inductive ErrorKind
  | invalidInput
  | invalidData
  | unsupported
  | interrupted
  | timedOut
  | outOfMemory
  | writeZero
  | other
  deriving DecidableEq, Repr

namespace ErrorKind

/-- The word for a class of errors. -/
def name : ErrorKind → String
  | invalidInput => "InvalidInput"
  | invalidData => "InvalidData"
  | unsupported => "Unsupported"
  | interrupted => "Interrupted"
  | timedOut => "TimedOut"
  | outOfMemory => "OutOfMemory"
  | writeZero => "WriteZero"
  | other => "Other"

end ErrorKind

/-- The kinds of failure a device tells apart. -/
inductive DeviceErrorKind
  | notFound
  | permissionDenied
  | connectionRefused
  | connectionReset
  | hostUnreachable
  | networkUnreachable
  | connectionAborted
  | notConnected
  | addrInUse
  | addrNotAvailable
  | networkDown
  | brokenPipe
  | alreadyExists
  | wouldBlock
  | notADirectory
  | isADirectory
  | directoryNotEmpty
  | readOnlyFilesystem
  | staleNetworkFileHandle
  | invalidInput
  | invalidData
  | timedOut
  | writeZero
  | storageFull
  | notSeekable
  | quotaExceeded
  | fileTooLarge
  | resourceBusy
  | executableFileBusy
  | deadlock
  | crossesDevices
  | tooManyLinks
  | invalidFilename
  | argumentListTooLong
  | interrupted
  | unsupported
  | unexpectedEof
  | outOfMemory
  | other
  deriving DecidableEq, Repr

namespace DeviceErrorKind

/-- Every kind with its word. -/
def table : List (DeviceErrorKind × String) :=
  [ (notFound, "NotFound"), (permissionDenied, "PermissionDenied"),
    (connectionRefused, "ConnectionRefused"), (connectionReset, "ConnectionReset"),
    (hostUnreachable, "HostUnreachable"), (networkUnreachable, "NetworkUnreachable"),
    (connectionAborted, "ConnectionAborted"), (notConnected, "NotConnected"),
    (addrInUse, "AddrInUse"), (addrNotAvailable, "AddrNotAvailable"),
    (networkDown, "NetworkDown"), (brokenPipe, "BrokenPipe"),
    (alreadyExists, "AlreadyExists"), (wouldBlock, "WouldBlock"),
    (notADirectory, "NotADirectory"), (isADirectory, "IsADirectory"),
    (directoryNotEmpty, "DirectoryNotEmpty"), (readOnlyFilesystem, "ReadOnlyFilesystem"),
    (staleNetworkFileHandle, "StaleNetworkFileHandle"), (invalidInput, "InvalidInput"),
    (invalidData, "InvalidData"), (timedOut, "TimedOut"), (writeZero, "WriteZero"),
    (storageFull, "StorageFull"), (notSeekable, "NotSeekable"),
    (quotaExceeded, "QuotaExceeded"), (fileTooLarge, "FileTooLarge"),
    (resourceBusy, "ResourceBusy"), (executableFileBusy, "ExecutableFileBusy"),
    (deadlock, "Deadlock"), (crossesDevices, "CrossesDevices"), (tooManyLinks, "TooManyLinks"),
    (invalidFilename, "InvalidFilename"), (argumentListTooLong, "ArgumentListTooLong"),
    (interrupted, "Interrupted"), (unsupported, "Unsupported"),
    (unexpectedEof, "UnexpectedEof"), (outOfMemory, "OutOfMemory"), (other, "Other") ]

/-- The word for a kind of device failure. -/
def name (kind : DeviceErrorKind) : String := (table.lookup kind).getD "Other"

/-- The kind that a word stands for. -/
def ofName? (word : String) : Option DeviceErrorKind :=
  (table.find? fun entry => entry.2 == word).map Prod.fst

/-- The coarse class of a kind of device failure; a kind without a class of its own is other. -/
def toErrorKind : DeviceErrorKind → ErrorKind
  | invalidInput => .invalidInput
  | invalidData => .invalidData
  | unsupported => .unsupported
  | interrupted => .interrupted
  | timedOut => .timedOut
  | outOfMemory => .outOfMemory
  | writeZero => .writeZero
  | _ => .other

/-- Every kind stands in the table, so each has a word of its own. -/
theorem ofName?_name (kind : DeviceErrorKind) : ofName? kind.name = some kind := by
  cases kind <;> decide +kernel

end DeviceErrorKind

/-- Why a stream declines a request by itself. -/
inductive Refusal
  | disposed
  /-- The stream does not offer the operation of that name. -/
  | notSupported (operation : String)
  /-- The arguments do not fit together. -/
  | invalidArgument (reason : String)
  /-- One argument lies outside its range. -/
  | argumentOutOfRange (argument : String) (value : Int)
  /-- A seek leads before the start or beyond the greatest position. -/
  | invalidSeek (target : Int)
  /-- The content ended before a complete read was done. -/
  | endOfStream (expected actual : Nat)
  /-- A position would exceed the greatest one. -/
  | overflow
  | cancelled
  deriving DecidableEq, Repr

namespace Refusal

/-- The name of the cause. -/
def name : Refusal → String
  | disposed => "Disposed"
  | notSupported _ => "NotSupported"
  | invalidArgument _ => "InvalidArgument"
  | argumentOutOfRange _ _ => "ArgumentOutOfRange"
  | invalidSeek _ => "InvalidSeek"
  | endOfStream _ _ => "EndOfStream"
  | overflow => "Overflow"
  | cancelled => "Cancelled"

/-- The wording of a refusal. -/
def message : Refusal → String
  | disposed => "Cannot access a disposed stream"
  | notSupported operation => "Stream does not support " ++ operation
  | invalidArgument reason => "Invalid argument: " ++ reason
  | argumentOutOfRange argument value =>
      "Argument '" ++ argument ++ "' is out of range: " ++ toString value
  | invalidSeek target => "Invalid seek to position " ++ toString target
  | endOfStream expected actual =>
      "Unexpected end of stream: expected " ++ toString expected ++ " bytes, read " ++
        toString actual
  | overflow => "Stream position overflow"
  | cancelled => "Operation was cancelled"

/-- The coarse class of a refusal. -/
def kind : Refusal → ErrorKind
  | notSupported _ => .unsupported
  | invalidArgument _ | argumentOutOfRange _ _ | invalidSeek _ => .invalidInput
  | overflow => .outOfMemory
  | cancelled => .interrupted
  | disposed | endOfStream _ _ => .other

/-- The kind of device failure that a refusal shows as once a device carries it. -/
def deviceKind : Refusal → DeviceErrorKind
  | notSupported _ => .unsupported
  | invalidArgument _ | argumentOutOfRange _ _ | invalidSeek _ => .invalidInput
  | endOfStream _ _ => .unexpectedEof
  | cancelled => .interrupted
  | disposed | overflow => .other

end Refusal

/-- What a device answers instead of a result. -/
inductive DeviceError
  /-- A failure of the device, with its own wording. -/
  | reported (kind : DeviceErrorKind) (message : String)
  /-- A refusal of another stream that the device passes on. -/
  | carried (refusal : Refusal)
  deriving DecidableEq, Repr

namespace DeviceError

/-- The kind of a device error. -/
def kind : DeviceError → DeviceErrorKind
  | reported kind _ => kind
  | carried refusal => refusal.deviceKind

/-- The wording of a device error. -/
def message : DeviceError → String
  | reported _ message => message
  | carried refusal => refusal.message

/-- The refusal a device error carries, if it carries one. -/
def refusal? : DeviceError → Option Refusal
  | reported _ _ => none
  | carried refusal => some refusal

/-- An interrupted transfer is simply tried again. -/
def isInterrupted (e : DeviceError) : Bool := e.kind == .interrupted

/-- A device that takes nothing of a non-empty write. -/
def nothingWritten : DeviceError := .reported .writeZero "failed to write whole buffer"

end DeviceError

/-- What a stream answers instead of a result. -/
inductive StreamError
  /-- The stream itself declines. -/
  | refusal (cause : Refusal)
  /-- The device below fails. -/
  | device (cause : DeviceError)
  deriving DecidableEq, Repr

/-- The error of a device as the stream over it shows it. -/
def DeviceError.toStreamError (e : DeviceError) : StreamError := .device e

namespace StreamError

/-- The name of the cause. -/
def name : StreamError → String
  | refusal cause => cause.name
  | device _ => "Io"

/-- The wording of an error. -/
def message : StreamError → String
  | refusal cause => cause.message
  | device cause => "I/O error: " ++ cause.message

/-- The coarse class of an error. -/
def kind : StreamError → ErrorKind
  | refusal cause => cause.kind
  | device cause => cause.kind.toErrorKind

/-- The device error behind an error, if the device is to blame. -/
def source? : StreamError → Option DeviceError
  | refusal _ => none
  | device cause => some cause

/-- Whether the stream was disposed. -/
def isDisposed (e : StreamError) : Bool := e == .refusal .disposed

/-- Whether the stream does not offer the operation. -/
def isNotSupported : StreamError → Bool
  | refusal (.notSupported _) => true
  | _ => false

/-- The error as a device hands it on: its own errors as they are, a refusal carried. -/
def toDeviceError : StreamError → DeviceError
  | refusal cause => .carried cause
  | device cause => cause

end StreamError

@[simp] theorem DeviceError.toDeviceError_toStreamError (e : DeviceError) :
    e.toStreamError.toDeviceError = e := rfl

@[simp] theorem DeviceError.kind_toStreamError (e : DeviceError) :
    e.toStreamError.kind = e.kind.toErrorKind := rfl

end LayeredStreams
