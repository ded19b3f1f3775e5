import LayeredStreams.Channel
import LayeredStreams.Session.Report

/-!
# Sessions

A session makes streams under names and uses them, one step at a time.

* `Creation` — a stream to make: one with a content of its own, or a layer over a named stream.
* `Operation` — what to do with a stream: a request, a whole transfer, a use as a byte channel, a
  look from outside, or taking it apart.
* `Step` — make a stream, use one, show the calls or extend the script of a scripted stream, or
  cancel a token.
* `Session.step`, `Session.run` — the report of a step, and those of a list of steps. A failing step
  does not end the session; a step that names a stream nobody made is no step of a session.

Principal results: `run_append` (a session goes on where it stands) and `lookup_bindName` (a new
name stands for the stream made last under it).
-/

set_option autoImplicit false

namespace LayeredStreams

/-- The queues of faults of a script, by the name of the call. -/
abbrev Faults := List (String × List Fault)

/-- A stream to make. -/
inductive Creation
  | zeros (size : Nat)
  | memory (content : Bytes) (access : Access)
  | file (content : Bytes) (access : Access)
  | scripted (content : Bytes) (access : Access) (chunk : Option Nat) (faults : Faults)
  | probe (content : Bytes) (chunk : Option Nat) (claimedLength : Option Nat)
      (offers : List Capability) (faults : Faults)
  | passthrough (on : String) (ownership : Ownership)
  | rebased (on : String) (ownership : Ownership)
  | cached (on : String) (ownership : Ownership)
  | truncated (on : String) (maxLength : Nat) (ownership : Ownership)
  | readOnly (on : String)
  | window (on : String) (offset : Nat) (size : Option Nat) (ownership : Ownership)

/-- What to do with a stream. -/
inductive Operation
  | request (request : Request)
  | isDisposed
  | summary
  | info
  | fill (mode : Mode) (room : Nat)
  | fillExactly (mode : Mode) (room : Nat)
  | readRange (size offset count : Nat)
  | writeRange (data : Bytes) (offset count : Nat)
  | readToEnd
  | copy (mode : Mode) (destination : String)
  | channelRead (suspended : Bool) (room : Nat)
  | channelWrite (suspended : Bool) (data : Bytes)
  | channelFlush (suspended : Bool)
  | channelSeek (target : SeekTarget)
  | clone (name : String)
  | takeApart

namespace Operation

/-- The size of the buffer of a step that reads. -/
def bufferSize : Operation → Option Nat
  | request (.read _ room) => some room
  | fill _ room | fillExactly _ room | channelRead _ room => some room
  | readRange size _ _ => some size
  | _ => none

/-- The place in the buffer where the bytes go. -/
def bufferPlace : Operation → Nat
  | readRange _ offset _ => offset
  | _ => 0

/-- Whether the operation uses the stream as a byte channel. -/
def usesChannel : Operation → Bool
  | channelRead _ _ | channelWrite _ _ | channelFlush _ | channelSeek _ => true
  | _ => false

end Operation

/-- A step of a session. -/
inductive Step
  | create (name : String) (creation : Creation)
  /-- Use a stream; a buffer holds `blank` in every place before. -/
  | use (name : String) (blank : UInt8) (operation : Operation)
  /-- Show the calls that a scripted stream received since they were last shown. -/
  | calls (name : String)
  | faults (name : String) (faults : Faults)
  | cancel (token : String)

/-- Named streams. -/
structure Session where
  environment : Environment
  /-- The names, in the order in which they were first given. -/
  names : List (String × Handle)
  /-- The streams with scripts, each under the name it was last made with. They can be reached by
  it even when the name stands for another stream or for none. -/
  scripted : List (String × Handle)

namespace Session

/-- No stream was made. -/
def empty : Session := ⟨.empty, [], []⟩

/-- The stream of a name. -/
def handleOf (session : Session) (name : String) : Option Handle := session.names.lookup name

/-- The first name of a stream. -/
def nameOf (session : Session) (handle : Handle) : Option String :=
  (session.names.find? fun entry => entry.2 == handle).map Prod.fst

/-- The names with one more, or with another stream for one that is there. -/
def bindName (names : List (String × Handle)) (name : String) (handle : Handle) :
    List (String × Handle) :=
  match names with
  | [] => [(name, handle)]
  | (key, old) :: rest =>
    if key == name then (key, handle) :: rest else (key, old) :: bindName rest name handle

/-- Add a stream under a name. -/
def add (session : Session) (name : String) (node : Node) : Session :=
  { session with
    environment := session.environment.add node
    names := bindName session.names name session.environment.nextHandle }

/-- Enter the stream that is made next among those with scripts. -/
def trace (session : Session) (name : String) : Session :=
  { session with
    scripted := (name, session.environment.nextHandle) ::
      session.scripted.filter fun entry => entry.1 != name }

/-- Run a computation on a stream. -/
def onHandle {α : Type} (session : Session) (handle : Handle)
    (act : StreamM Environment Handle α) : Except StreamError α × Session :=
  match act (handle, session.environment) with
  | .ok value (_, env) => (.ok value, { session with environment := env })
  | .error e (_, env) => (.error e, { session with environment := env })

/-- Put a layer over the stream behind a handle, and add it under a name. -/
def addLayer {τ : Type} (session : Session) (name : String) (make : τ → Node)
    (describe : τ → Value) (handle : Handle) (wrap : StreamM Environment Handle τ) :
    Report × Session :=
  match session.onHandle handle wrap with
  | (.ok layer, session) => (.ofOutcome (.ok (describe layer)), session.add name (make layer))
  | (.error e, session) => (.ofOutcome (.error (.stream e)), session)

/-- Make a stream under a name. -/
def create (session : Session) (name : String) : Creation → Option (Report × Session)
  | .zeros size => some (.done, session.add name (.zeros (.ofSize size)))
  | .memory content access =>
    some (.done, session.add name (.memory (.ofDevice (.ofContent content) access)))
  | .file content access =>
    some (.done, session.add name (.file (.ofDevice (.ofContent content) access)))
  | .scripted content access chunk faults =>
    let scripted := ScriptedContent.ofContent content chunk (Script.empty.appendAll faults)
      session.environment.nextHandle.index
    some (.done, (session.trace name).add name (.scripted (.ofDevice ⟨scripted⟩ access)))
  | .probe content chunk claimedLength offers faults =>
    let scripted := ScriptedContent.ofContent content chunk (Script.empty.appendAll faults)
      session.environment.nextHandle.index
    some (.done, (session.trace name).add name
      (.probe ⟨scripted, claimedLength, offers.contains, fun _ => none, false⟩))
  | .passthrough on ownership => do
    let handle ← session.handleOf on
    some (.done, session.add name (.passthrough (.ofStream handle ownership)))
  | .readOnly on => do
    let handle ← session.handleOf on
    some (.done, session.add name (.readOnly (.ofStream handle)))
  | .rebased on ownership => do
    let handle ← session.handleOf on
    some (session.addLayer name .rebased (fun _ => .unit) handle (Rebased.wrap ownership))
  | .cached on ownership => do
    let handle ← session.handleOf on
    some (session.addLayer name .cached (fun _ => .unit) handle (Cached.wrap ownership))
  | .truncated on maxLength ownership => do
    let handle ← session.handleOf on
    some (session.addLayer name .truncated (fun _ => .unit) handle
      (Truncated.wrap maxLength ownership))
  | .window on offset size ownership => do
    let handle ← session.handleOf on
    some (session.addLayer name .window (fun window => .name (some window.name)) handle
      (Window.ofPart offset size ownership))

/-- What comes of an operation: its outcome, and the bytes that went into the buffer. -/
abbrev Delivery := Except Failure Value × Bytes

/-- The outcome of an operation without a buffer. -/
def deliver {α : Type} (tell : α → Value) : Except StreamError α → Delivery
  | .ok value => (.ok (tell value), [])
  | .error e => (.error (.stream e), [])

/-- The outcome of a read. -/
def deliverBytes : Except StreamError Bytes → Delivery
  | .ok bytes => (.ok (.number bytes.length), bytes)
  | .error e => (.error (.stream e), [])

/-- The outcome of filling a buffer: also a failing one may have put bytes into it. -/
def deliverFill (tell : Bytes → Value) : Except StreamError Filled → Delivery
  | .ok filled => (filled.outcome.map tell |>.mapError .stream, filled.bytes)
  | .error e => (.error (.stream e), [])

/-- Ask a stream what it can do, whether it was disposed, and where its cursor and its end are. -/
def summarize (session : Session) (handle : Handle) : Delivery × Session :=
  let env := session.environment
  let can capability := ByteStream.can capability handle env
  let disposed := ByteStream.isDisposed handle env
  let (position, session) := session.onHandle handle ByteStream.position
  let (length, session) := session.onHandle handle ByteStream.length
  ((.ok (.summary ⟨can, disposed, position, length⟩), []), session)

/-- Take a stream apart; its name stands for nothing afterwards. -/
def takeApart (session : Session) (name : String) (node : Node) : Delivery × Session :=
  let names := session.names.filter fun entry => entry.1 != name
  let session := { session with names := names }
  ((node.inner session.nameOf, []), session)

/-- Carry out an operation on the stream of a name. -/
def operate (session : Session) (name : String) (handle : Handle) (node : Node) :
    Operation → Option (Delivery × Session)
  | .request (.read mode room) =>
    let (outcome, session) := session.onHandle handle (ByteStream.read mode room)
    some (deliverBytes outcome, session)
  | .request request =>
    let (outcome, session) := session.onHandle handle (ByteStream.perform request)
    some (deliver (Value.ofAnswer request) outcome, session)
  | .isDisposed =>
    some ((.ok (.flag (ByteStream.isDisposed handle session.environment)), []), session)
  | .summary => some (session.summarize handle)
  | .info => some ((.ok (.info (node.info session.nameOf)), []), session)
  | .fill mode room =>
    let (outcome, session) := session.onHandle handle (fill mode room)
    some (deliverFill (fun bytes => .number bytes.length) outcome, session)
  | .fillExactly mode room =>
    let (outcome, session) := session.onHandle handle (fillExactly mode room)
    some (deliverFill (fun _ => .unit) outcome, session)
  | .readRange size offset count =>
    let (outcome, session) := session.onHandle handle (readRange size offset count)
    some (deliverBytes outcome, session)
  | .writeRange data offset count =>
    let (outcome, session) := session.onHandle handle (writeRange data offset count)
    some (deliver (fun _ => .unit) outcome, session)
  | .readToEnd =>
    let (outcome, session) := session.onHandle handle readToEnd
    some (deliver Value.bytes outcome, session)
  | .copy mode destination => do
    let other ← session.handleOf destination
    match (copy mode : StreamM Environment (Handle × Handle) Nat)
        ((handle, other), session.environment) with
    | .ok count (_, env) => some ((.ok (.number count), []), { session with environment := env })
    | .error e (_, env) => some ((.error (.stream e), []), { session with environment := env })
  | .channelRead suspended room =>
    let (outcome, session) := session.onHandle handle (Channel.read suspended room)
    some (deliverBytes outcome, session)
  | .channelWrite suspended data =>
    let (outcome, session) := session.onHandle handle (Channel.write suspended data)
    some (deliver Value.number outcome, session)
  | .channelFlush suspended =>
    let (outcome, session) := session.onHandle handle (Channel.flush suspended)
    some (deliver (fun _ => .unit) outcome, session)
  | .channelSeek target =>
    let (outcome, session) := session.onHandle handle (Channel.seek target)
    some (deliver Value.number outcome, session)
  | .clone copy =>
    match node with
    | .zeros stream => some ((.ok .unit, []), session.add copy (.zeros stream))
    | _ => some ((.error .noClone, []), session)
  | .takeApart => some (session.takeApart name node)

/-- Whether a stream can be used as a byte channel; a probe cannot. -/
def isChannel : Node → Bool
  | .probe _ => false
  | _ => true

/-- Use a stream. A buffer holds `blank` wherever no byte was put. -/
def use (session : Session) (name : String) (blank : UInt8) (operation : Operation) :
    Option (Report × Session) := do
  let handle ← session.handleOf name
  let node ← session.environment.node? handle
  let ((outcome, bytes), session) ←
    if operation.usesChannel && !isChannel node then some ((.error .noChannel, []), session)
    else session.operate name handle node operation
  let buffer := operation.bufferSize.map fun size =>
    Bytes.overlay (List.replicate size blank) operation.bufferPlace bytes
  return (⟨outcome, buffer⟩, session)

/-- Show the calls that a stream with a script received, and strike them from the journal. -/
def showCalls (session : Session) (name : String) : Option (Report × Session) := do
  let handle ← session.scripted.lookup name
  let env := session.environment
  let calls := env.surroundings.entriesOf handle.index
  return (.ofOutcome (.ok (.calls calls)),
    { session with
      environment := { env with surroundings := env.surroundings.forget handle.index } })

/-- Append faults to the script of a stream that was made with one, which layers may still use when
it has lost its name. A device that was disposed took its script with it. -/
def extendScript (session : Session) (name : String) (faults : Faults) :
    Option (Report × Session) := do
  let handle ← session.scripted.lookup name
  let extend (scripted : ScriptedContent) : ScriptedContent :=
    { scripted with script := scripted.script.appendAll faults }
  let node ← match ← session.environment.node? handle with
    | .scripted stream =>
      some (.scripted { stream with device := stream.device.map fun d => ⟨extend d.scripted⟩ })
    | .probe stream => some (.probe { stream with scripted := extend stream.scripted })
    | _ => none
  return (.done, { session with environment := session.environment.put handle node })

/-- Cancel a token. -/
def cancel (session : Session) (token : String) : Session :=
  let env := session.environment
  { session with environment := { env with surroundings := env.surroundings.cancel token } }

/-- Carry out a step. -/
def step (session : Session) : Step → Option (Report × Session)
  | .create name creation => session.create name creation
  | .use name blank operation => session.use name blank operation
  | .calls name => session.showCalls name
  | .faults name faults => session.extendScript name faults
  | .cancel token => some (.done, session.cancel token)

/-- Carry out steps one after the other. -/
def run (session : Session) : List Step → Option (List Report × Session)
  | [] => some ([], session)
  | step :: steps => do
    let (report, session) ← session.step step
    let (reports, session) ← session.run steps
    return (report :: reports, session)

/-- A session goes on where it stands. -/
theorem run_append (session : Session) (first second : List Step) :
    session.run (first ++ second) = do
      let (reports, session) ← session.run first
      let (more, session) ← session.run second
      return (reports ++ more, session) := by
  induction first generalizing session with
  | nil => cases h : session.run second <;> simp [run, h]
  | cons step steps ih =>
    simp only [List.cons_append, run]
    cases session.step step with
    | none => rfl
    | some result =>
      simp only [Option.bind_eq_bind, Option.bind_some, ih]
      cases h : result.2.run steps with
      | none => rfl
      | some rest => cases h' : rest.2.run second <;> simp [h']

/-- A new name stands for the stream made last under it. -/
theorem lookup_bindName (names : List (String × Handle)) (name other : String) (handle : Handle) :
    (bindName names name handle).lookup other =
      if other == name then some handle else names.lookup other := by
  induction names with
  | nil => cases h : other == name <;> simp [bindName, List.lookup_cons, h]
  | cons entry rest ih =>
    obtain ⟨key, old⟩ := entry
    unfold bindName
    by_cases hk : key = name
    · subst hk
      rw [if_pos (beq_self_eq_true key), List.lookup_cons, List.lookup_cons]
      cases h : other == key <;> simp
    · have hkey : (key == name) = false := by simpa using hk
      rw [hkey, if_neg Bool.false_ne_true, List.lookup_cons, List.lookup_cons, ih]
      cases h : other == key with
      | false => rfl
      | true =>
        rw [eq_of_beq h, hkey, if_neg Bool.false_ne_true]
        rfl

end Session

end LayeredStreams
