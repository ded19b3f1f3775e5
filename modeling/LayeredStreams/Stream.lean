import LayeredStreams.Request

/-!
# Streams

* `StreamM ω σ α` — a computation on a stream whose state is `σ`, in surroundings `ω` that streams
  share. A computation that fails still says what state it leaves behind.
* `StreamM.attempt`, `StreamM.settle` — look at the outcome of a computation, and take it up again.
* `StreamM.within` — run a computation on a part of the state.
* `Cancellation` — surroundings that know which tokens were cancelled; `Mode.checkToken` stops a
  suspending transfer whose token was.
* `ByteStream ω σ` — a stream: what it can do, whether it was disposed, and how it answers each
  request.

Principal results: `bind_apply` and its like say how a computation runs; `settle_attempt` (looking
at an outcome and taking it up again changes nothing), `within_bind` and `within_throw` (a part runs
as it would alone).
-/

set_option autoImplicit false

namespace LayeredStreams

/-- A computation on a stream with state `σ` in surroundings `ω`. -/
abbrev StreamM (ω σ α : Type) := EStateM StreamError (σ × ω) α

namespace StreamM

variable {ω σ τ α β : Type}

/-- Decline a request. -/
def refuse (cause : Refusal) : StreamM ω σ α := throw (.refusal cause)

/-- Go on with a value, or decline. -/
def ofExcept : Except Refusal α → StreamM ω σ α
  | .ok value => pure value
  | .error cause => refuse cause

/-- The state of the stream. -/
def state : StreamM ω σ σ := fun s => .ok s.1 s

/-- The surroundings of the stream. -/
def surroundings : StreamM ω σ ω := fun s => .ok s.2 s

/-- Change the state of the stream. -/
def update (f : σ → σ) : StreamM ω σ Unit := fun s => .ok () (f s.1, s.2)

/-- Change the surroundings of the stream. -/
def updateSurroundings (f : ω → ω) : StreamM ω σ Unit := fun s => .ok () (s.1, f s.2)

/-- The outcome of a computation, which itself does not fail. -/
def attempt (act : StreamM ω σ α) : StreamM ω σ (Except StreamError α) := fun s =>
  match act s with
  | .ok value s' => .ok (.ok value) s'
  | .error e s' => .ok (.error e) s'

/-- Take an outcome up again. -/
def settle : Except StreamError α → StreamM ω σ α
  | .ok value => pure value
  | .error e => throw e

/-- Run a computation on the part `get` of the state; `put` stores what became of the part. -/
def within (get : σ → τ) (put : τ → σ → σ) (act : StreamM ω τ α) : StreamM ω σ α := fun s =>
  match act (get s.1, s.2) with
  | .ok value (part, w) => .ok value (put part s.1, w)
  | .error e (part, w) => .error e (put part s.1, w)

theorem bind_apply (act : StreamM ω σ α) (next : α → StreamM ω σ β) (s : σ × ω) :
    (act >>= next) s =
      match act s with
      | .ok value s' => next value s'
      | .error e s' => .error e s' := by
  show EStateM.bind act next s = _
  unfold EStateM.bind
  cases act s <;> rfl

theorem map_apply (f : α → β) (act : StreamM ω σ α) (s : σ × ω) :
    (f <$> act) s =
      match act s with
      | .ok value s' => .ok (f value) s'
      | .error e s' => .error e s' := by
  show EStateM.map f act s = _
  unfold EStateM.map
  cases act s <;> rfl

@[simp] theorem pure_apply (value : α) (s : σ × ω) :
    (pure value : StreamM ω σ α) s = .ok value s := rfl

@[simp] theorem state_apply (s : σ × ω) : (state : StreamM ω σ σ) s = .ok s.1 s := rfl

@[simp] theorem refuse_apply (cause : Refusal) (s : σ × ω) :
    (refuse cause : StreamM ω σ α) s = .error (.refusal cause) s := rfl

@[simp] theorem update_apply (f : σ → σ) (s : σ × ω) :
    (update f : StreamM ω σ Unit) s = .ok () (f s.1, s.2) := rfl

@[simp] theorem settle_attempt (act : StreamM ω σ α) : (attempt act >>= settle) = act := by
  funext s
  show EStateM.bind (attempt act) settle s = act s
  unfold EStateM.bind attempt
  cases act s <;> rfl

theorem within_throw (get : σ → τ) (put : τ → σ → σ) (e : StreamError) (s : σ × ω) :
    within get put (throw e : StreamM ω τ α) s = .error e (put (get s.1) s.1, s.2) := rfl

/-- A part whose storage is faithful runs a sequence as it would alone. -/
theorem within_bind (get : σ → τ) (put : τ → σ → σ) (get_put : ∀ part s, get (put part s) = part)
    (put_put : ∀ part part' s, put part (put part' s) = put part s) (act : StreamM ω τ α)
    (next : α → StreamM ω τ β) :
    within get put (act >>= next) =
      within get put act >>= fun value => within get put (next value) := by
  funext s
  show within get put (EStateM.bind act next) s =
    EStateM.bind (within get put act) (fun value => within get put (next value)) s
  unfold within EStateM.bind
  dsimp only
  cases act (get s.1, s.2) with
  | error e s' => rfl
  | ok value s' =>
    dsimp only
    rw [get_put]
    cases next value s' <;> simp [put_put]

end StreamM

/-- Surroundings that know which shared tokens were cancelled. -/
class Cancellation (ω : Type) where
  /-- Whether the token of that name was cancelled. -/
  isCancelled : String → ω → Bool

/-- Whether a token was cancelled; a fresh one never is. -/
def Token.isCancelled {ω : Type} [Cancellation ω] : Token → ω → Bool
  | never, _ => false
  | named name, w => Cancellation.isCancelled name w

/-- Let a transfer go ahead, unless it is suspending and its token was cancelled. -/
def Mode.checkToken {ω σ : Type} [Cancellation ω] : Mode → StreamM ω σ Unit
  | blocking => pure ()
  | suspending token => do
    if token.isCancelled (← StreamM.surroundings) then StreamM.refuse .cancelled

/-- A stream with state `σ` in surroundings `ω`. -/
class ByteStream (ω σ : Type) where
  /-- Whether the stream can do something, in its present state. -/
  can : Capability → σ → ω → Bool
  isDisposed : σ → ω → Bool
  /-- The answer to a request. -/
  perform : (request : Request) → StreamM ω σ request.Answer

namespace ByteStream

variable {ω σ : Type} [ByteStream ω σ]

/-- The position of the cursor. -/
def position : StreamM ω σ Nat := perform .position

/-- Move the cursor to a position. -/
def setPosition (target : Nat) : StreamM ω σ Unit := perform (.setPosition target)

/-- The length of the content. -/
def length : StreamM ω σ Nat := perform .length

/-- Cut or extend the content. -/
def setLength (size : Nat) : StreamM ω σ Unit := perform (.setLength size)

/-- Move the cursor to a seek target, and say where that is. -/
def seek (target : SeekTarget) : StreamM ω σ Nat := perform (.seek target)

/-- Read at most `room` bytes at the cursor. -/
def read (mode : Mode) (room : Nat) : StreamM ω σ Bytes := perform (.read mode room)

/-- Read one byte at the cursor; none at the end. -/
def readByte : StreamM ω σ (Option UInt8) := perform .readByte

/-- Write all of `data` at the cursor. -/
def write (mode : Mode) (data : Bytes) : StreamM ω σ Unit := perform (.write mode data)

/-- Write one byte at the cursor. -/
def writeByte (byte : UInt8) : StreamM ω σ Unit := perform (.writeByte byte)

/-- Hand buffered changes on. -/
def flush (mode : Mode) : StreamM ω σ Unit := perform (.flush mode)

/-- The time limit of a direction. -/
def timeout (direction : Direction) : StreamM ω σ (Option Duration) := perform (.timeout direction)

/-- Set the time limit of a direction. -/
def setTimeout (direction : Direction) (limit : Option Duration) : StreamM ω σ Unit :=
  perform (.setTimeout direction limit)

/-- Give the stream up. -/
def dispose : StreamM ω σ Unit := perform .dispose

end ByteStream

end LayeredStreams
