import LayeredStreams.Device.File
import LayeredStreams.Device.Memory
import LayeredStreams.Device.Scripted
import LayeredStreams.Layer.Cached
import LayeredStreams.Layer.ReadOnly
import LayeredStreams.Layer.Window
import LayeredStreams.Probe
import LayeredStreams.Zeros

/-!
# Environments of shared streams

Streams that share each other: a layer does not hold the state of the stream below, but a handle to
it, so that the stream below can be used by its own handle too.

* `Handle` — the number of a stream in an environment.
* `Node` — a stream of any kind; the layers hold handles.
* `Environment` — the streams, and their surroundings.
* `ByteStream Environment Handle` — a handle is a stream. A layer is made after the stream below it,
  so handles lead from later streams to earlier ones, and following them comes to an end.

Principal results: `node?_add` and `node?_put` say what stands behind each handle.
-/

set_option autoImplicit false

namespace LayeredStreams

/-- The number of a stream in an environment. -/
structure Handle where
  /-- How many streams were made before it. -/
  index : Nat
  deriving DecidableEq, Repr

/-- A stream of any kind. -/
inductive Node
  | zeros (stream : Zeros)
  | memory (stream : DeviceStream MemoryDevice)
  | file (stream : DeviceStream FileDevice)
  | scripted (stream : DeviceStream ScriptedDevice)
  | probe (stream : Probe)
  | passthrough (layer : Passthrough Handle)
  | rebased (layer : Rebased Handle)
  | truncated (layer : Truncated Handle)
  | readOnly (layer : ReadOnly Handle)
  | cached (layer : Cached Handle)
  | window (window : Window Handle)

/-- Streams that share each other, and what they share besides. -/
structure Environment where
  nodes : List Node
  surroundings : Surroundings

namespace Environment

/-- No stream was made. -/
def empty : Environment := ⟨[], .initial⟩

/-- The stream behind a handle. -/
def node? (env : Environment) (handle : Handle) : Option Node := env.nodes[handle.index]?

/-- Replace the stream behind a handle. -/
def put (env : Environment) (handle : Handle) (node : Node) : Environment :=
  { env with nodes := env.nodes.set handle.index node }

/-- The handle that the next stream gets. -/
def nextHandle (env : Environment) : Handle := ⟨env.nodes.length⟩

/-- Add a stream. -/
def add (env : Environment) (node : Node) : Environment :=
  { env with nodes := env.nodes ++ [node] }

instance : Cancellation Environment where
  isCancelled name env := Cancellation.isCancelled name env.surroundings

theorem node?_put (env : Environment) (handle other : Handle) (node : Node) :
    (env.put handle node).node? other =
      if handle = other then (env.node? other).map fun _ => node else env.node? other := by
  obtain ⟨i⟩ := handle
  obtain ⟨j⟩ := other
  simp only [node?, put, List.getElem?_set, Handle.mk.injEq]
  split
  · rename_i h
    subst h
    by_cases hi : i < env.nodes.length
    · simp [hi]
    · simp [hi]
  · rfl

theorem node?_add (env : Environment) (node : Node) (handle : Handle) :
    (env.add node).node? handle =
      if handle = env.nextHandle then some node else env.node? handle := by
  obtain ⟨i⟩ := handle
  simp only [node?, add, nextHandle, Handle.mk.injEq, List.getElem?_append]
  rcases Nat.lt_trichotomy i env.nodes.length with h | h | h
  · rw [if_pos h, if_neg (Nat.ne_of_lt h)]
  · subst h
    simp
  · rw [if_neg (Nat.not_lt.2 (Nat.le_of_lt h)), if_neg (Nat.ne_of_gt h),
      List.getElem?_eq_none (by simp only [List.length_singleton]; omega),
      List.getElem?_eq_none (Nat.le_of_lt h)]

end Environment

namespace Handle

variable {τ α : Type}

/-- Run a computation that only needs the shared surroundings. -/
def inSurroundings (act : StreamM Surroundings τ α) : StreamM Environment τ α :=
  fun (stream, env) =>
    match act (stream, env.surroundings) with
    | .ok value (stream, w) => .ok value (stream, { env with surroundings := w })
    | .error e (stream, w) => .error e (stream, { env with surroundings := w })

/-- Run a computation on the stream behind the handle, and store what became of it. -/
def onStream (make : τ → Node) (stream : τ) (act : StreamM Environment τ α) :
    StreamM Environment Handle α := fun (handle, env) =>
  match act (stream, env) with
  | .ok value (stream, env) => .ok value (handle, env.put handle (make stream))
  | .error e (stream, env) => .error e (handle, env.put handle (make stream))

/-- The answer of a stream to a request, if the handles it holds answer as they do. -/
def performNode [ByteStream Environment Handle] (node : Node) (request : Request) :
    StreamM Environment Handle request.Answer :=
  match node with
  | .zeros stream => onStream .zeros stream (ByteStream.perform request)
  | .memory stream => onStream .memory stream (ByteStream.perform request)
  | .file stream => onStream .file stream (ByteStream.perform request)
  | .scripted stream => onStream .scripted stream (inSurroundings (ByteStream.perform request))
  | .probe stream => onStream .probe stream (inSurroundings (ByteStream.perform request))
  | .passthrough layer => onStream .passthrough layer (ByteStream.perform request)
  | .rebased layer => onStream .rebased layer (ByteStream.perform request)
  | .truncated layer => onStream .truncated layer (ByteStream.perform request)
  | .readOnly layer => onStream .readOnly layer (ByteStream.perform request)
  | .cached layer => onStream .cached layer (ByteStream.perform request)
  | .window window => onStream .window window (ByteStream.perform request)

/-- What a stream can do. -/
def canNode [ByteStream Environment Handle] (capability : Capability) (node : Node)
    (env : Environment) : Bool :=
  match node with
  | .zeros stream => ByteStream.can capability stream env
  | .memory stream => ByteStream.can capability stream env
  | .file stream => ByteStream.can capability stream env
  | .scripted stream => ByteStream.can capability stream env.surroundings
  | .probe stream => ByteStream.can capability stream env.surroundings
  | .passthrough layer => ByteStream.can capability layer env
  | .rebased layer => ByteStream.can capability layer env
  | .truncated layer => ByteStream.can capability layer env
  | .readOnly layer => ByteStream.can capability layer env
  | .cached layer => ByteStream.can capability layer env
  | .window window => ByteStream.can capability window env

/-- Whether a stream was disposed. -/
def isDisposedNode [ByteStream Environment Handle] (node : Node) (env : Environment) : Bool :=
  match node with
  | .zeros stream => ByteStream.isDisposed stream env
  | .memory stream => ByteStream.isDisposed stream env
  | .file stream => ByteStream.isDisposed stream env
  | .scripted stream => ByteStream.isDisposed stream env.surroundings
  | .probe stream => ByteStream.isDisposed stream env.surroundings
  | .passthrough layer => ByteStream.isDisposed layer env
  | .rebased layer => ByteStream.isDisposed layer env
  | .truncated layer => ByteStream.isDisposed layer env
  | .readOnly layer => ByteStream.isDisposed layer env
  | .cached layer => ByteStream.isDisposed layer env
  | .window window => ByteStream.isDisposed window env

/-- Handles as streams, for handles with a number below `bound`. Any other handle is a stream that
was disposed. -/
@[reducible] def streamsBelow : (bound : Nat) → ByteStream Environment Handle
  | 0 =>
    { can := fun _ _ _ => false
      isDisposed := fun _ _ => true
      perform := fun _ => StreamM.refuse .disposed }
  | bound + 1 =>
    haveI := streamsBelow bound
    { can := fun capability handle env =>
        ((env.node? handle).map fun node => canNode capability node env).getD false
      isDisposed := fun handle env =>
        ((env.node? handle).map fun node => isDisposedNode node env).getD true
      perform := fun request => do
        match (← StreamM.surroundings).node? (← StreamM.state) with
        | none => StreamM.refuse .disposed
        | some node => performNode node request }

instance : ByteStream Environment Handle where
  can capability handle := (streamsBelow (handle.index + 1)).can capability handle
  isDisposed handle := (streamsBelow (handle.index + 1)).isDisposed handle
  perform request := do
    let handle ← StreamM.state
    (streamsBelow (handle.index + 1)).perform request

end Handle

end LayeredStreams
