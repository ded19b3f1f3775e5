import LayeredStreams.Script

/-!
# Probes

A stream in memory that enters every request in the journal, suffers the faults of a script, and can
be told to report another length or to offer less than it could. It is what layers are watched with.

* `Probe` — its state.
* `Probe.perform` — its answers: enter the request, decline if disposed, suffer the fault, act. A
  suspending transfer is entered, looks at its token, and goes on as the blocking one.
-/

set_option autoImplicit false

namespace LayeredStreams

/-- A stream to watch layers with. -/
structure Probe where
  scripted : ScriptedContent
  /-- The length to report, if it is not that of the content. -/
  claimedLength : Option Nat
  /-- What the stream says it can do while it is open. -/
  offers : Capability → Bool
  limits : Direction → Option Duration
  disposed : Bool

namespace Probe

variable {α : Type}

/-- The length that the stream reports. -/
def reportedLength (probe : Probe) : Nat :=
  probe.claimedLength.getD probe.scripted.content.length

/-- Run a computation on the content. -/
def onContent (act : StreamM Surroundings ScriptedContent α) : StreamM Surroundings Probe α :=
  StreamM.within Probe.scripted (fun scripted probe => { probe with scripted := scripted }) act

/-- Enter a request in the journal. -/
def receive (request : Request) : StreamM Surroundings Probe Unit :=
  onContent (ScriptedContent.receive (.request request))

/-- Suffer the next fault for a request. -/
def obey (request : Request) : StreamM Surroundings Probe (Option Nat) :=
  onContent (ScriptedContent.obey id request.name)

/-- Enter a request, decline it if the stream was disposed, and suffer its fault. -/
def accept (request : Request) : StreamM Surroundings Probe (Option Nat) := do
  receive request
  if (← StreamM.state).disposed then StreamM.refuse .disposed
  obey request

/-- Move the cursor to a seek target. -/
def moveTo (target : SeekTarget) : StreamM Surroundings Probe Nat := do
  let probe ← StreamM.state
  let place ← StreamM.ofExcept (target.resolve probe.scripted.cursor probe.reportedLength)
  onContent (StreamM.update fun scripted => { scripted with cursor := place })
  return place

/-- Decline a time limit that the stream does not offer. -/
def ensureTiming (request : Request) : StreamM Surroundings Probe Unit := do
  if !(← StreamM.state).offers .timing then StreamM.refuse (.notSupported request.name)

/-- What a request does once it is accepted, moving at most `bound` bytes. -/
def act (bound : Option Nat) :
    (request : Request) → StreamM Surroundings Probe request.Answer
  | .position => do return (← StreamM.state).scripted.cursor
  | .setPosition target => onContent (StreamM.update fun s => { s with cursor := target })
  | .length => do return (← StreamM.state).reportedLength
  | .setLength size => onContent (ScriptedContent.resize (.refusal .overflow) size)
  | .seek target => moveTo target
  | .read _ room => do
    let probe ← StreamM.state
    onContent (ScriptedContent.take (probe.scripted.allowance room bound))
  | .readByte => do return (← onContent (ScriptedContent.take 1)).head?
  | .write _ data => onContent (ScriptedContent.put (.refusal .overflow) data)
  | .writeByte byte => onContent (ScriptedContent.put (.refusal .overflow) [byte])
  | .flush _ => pure ()
  | .timeout direction => do
    ensureTiming (.timeout direction)
    return (← StreamM.state).limits direction
  | .setTimeout direction limit => do
    ensureTiming (.setTimeout direction limit)
    StreamM.update fun probe =>
      { probe with limits := fun d => if d = direction then limit else probe.limits d }
  | .dispose => pure ()

/-- Give the stream up. The stream is disposed even if the script makes the request fail. -/
def giveUp : StreamM Surroundings Probe Unit := do
  receive .dispose
  StreamM.update fun probe => { probe with disposed := true }
  let _ ← obey .dispose

/-- Enter a suspending transfer and look at its token. -/
def suspended (request : Request) : StreamM Surroundings Probe Unit := do
  receive request
  request.mode.checkToken

/-- The answer of a probe to a request. -/
def perform : (request : Request) → StreamM Surroundings Probe request.Answer
  | .dispose => giveUp
  | .read (.suspending token) room => do
    suspended (.read (.suspending token) room)
    act (← accept (.read .blocking room)) (.read .blocking room)
  | .write (.suspending token) data => do
    suspended (.write (.suspending token) data)
    act (← accept (.write .blocking data)) (.write .blocking data)
  | .flush (.suspending token) => do
    suspended (.flush (.suspending token))
    act (← accept (.flush .blocking)) (.flush .blocking)
  | request => do act (← accept request) request

instance : ByteStream Surroundings Probe where
  can capability probe _ := probe.offers capability && !probe.disposed
  isDisposed probe _ := probe.disposed
  perform := Probe.perform

end Probe

end LayeredStreams
