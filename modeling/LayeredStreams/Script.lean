import LayeredStreams.Surroundings

/-!
# Fault scripts

Scripted streams and devices behave as memory does, except where a script says otherwise.

* `Fault` — what happens to one call: nothing, a token is cancelled meanwhile, the call moves only
  so many bytes, or the call fails.
* `Script` — for the calls of each name, the faults still to come, in order.
* `ScriptedContent` — a content with a cursor, a greatest transfer size, a script and the number
  under which calls are entered in the journal.
* `ScriptedContent.receive` — enter a call in the journal; `ScriptedContent.obey` — take the next
  fault for a call of that name and suffer it.

Principal results: `queue_append` (appended faults come after those that are there) and
`pending_next` (a fault happens once).
-/

set_option autoImplicit false

namespace LayeredStreams

/-- What happens to one call. -/
inductive Fault
  | none
  /-- The token of that name is cancelled, and the call goes through. -/
  | cancel (token : String)
  /-- The call moves at most so many bytes. -/
  | atMost (count : Nat)
  | fail (error : StreamError)
  deriving DecidableEq, Repr

/-- The faults still to come, by the name of the call. -/
structure Script where
  queues : List (String × List Fault)
  deriving DecidableEq, Repr

namespace Script

/-- No fault is to come. -/
def empty : Script := ⟨[]⟩

/-- The faults still to come for calls of that name. -/
def queue (script : Script) (name : String) : List Fault := (script.queues.lookup name).getD []

/-- The script with another queue for calls of that name. -/
def setQueue (script : Script) (name : String) (faults : List Fault) : Script :=
  ⟨(name, faults) :: script.queues.filter fun entry => entry.1 != name⟩

/-- The fault that the next call of that name suffers, and the script after it. -/
def next (script : Script) (name : String) : Fault × Script :=
  match script.queue name with
  | [] => (.none, script)
  | fault :: faults => (fault, script.setQueue name faults)

/-- Append faults for calls of that name. -/
def append (script : Script) (name : String) (faults : List Fault) : Script :=
  script.setQueue name (script.queue name ++ faults)

/-- Append faults for calls of several names. -/
def appendAll (script : Script) (queues : List (String × List Fault)) : Script :=
  queues.foldl (fun script entry => script.append entry.1 entry.2) script

/-- The number of faults still to come for calls of that name. -/
def pending (script : Script) (name : String) : Nat := (script.queue name).length

/-- Entries of one key do not matter for the look-up of another. -/
theorem lookup_filter_ne {α : Type} (entries : List (String × α)) {name other : String}
    (h : other ≠ name) :
    (entries.filter fun entry => entry.1 != name).lookup other = entries.lookup other := by
  induction entries with
  | nil => rfl
  | cons entry rest ih =>
    obtain ⟨key, value⟩ := entry
    by_cases hk : key = name
    · have hb : (other == key) = false := beq_eq_false_iff_ne.mpr (hk ▸ h)
      simp [hk ▸ hb, hk, ih, List.lookup_cons]
    · have hb : (key != name) = true := bne_iff_ne.mpr hk
      rw [List.filter_cons, if_pos hb, List.lookup_cons, List.lookup_cons, ih]

@[simp] theorem queue_setQueue (script : Script) (name other : String) (faults : List Fault) :
    (script.setQueue name faults).queue other =
      if other = name then faults else script.queue other := by
  unfold setQueue queue
  rw [List.lookup_cons]
  by_cases h : other = name
  · simp [h]
  · have hb : (other == name) = false := beq_eq_false_iff_ne.mpr h
    simp only [hb, if_neg h, lookup_filter_ne _ h]

/-- Appended faults come after those that are there. -/
theorem queue_append (script : Script) (name other : String) (faults : List Fault) :
    (script.append name faults).queue other =
      if other = name then script.queue name ++ faults else script.queue other := by
  simp [append]

/-- A fault happens once. -/
theorem pending_next (script : Script) (name : String) :
    (script.next name).2.pending name = script.pending name - 1 := by
  unfold next pending
  cases h : script.queue name <;> simp [h]

end Script

/-- A content that follows a script. -/
structure ScriptedContent where
  content : Bytes
  /-- The cursor, which may lie beyond the end. -/
  cursor : Nat
  /-- The greatest number of bytes that a partial transfer moves, if there is a bound. -/
  chunk : Option Nat
  script : Script
  /-- The number under which calls are entered in the journal. -/
  source : Nat
  deriving DecidableEq, Repr

namespace ScriptedContent

/-- The length beyond which a scripted content does not grow. -/
def sizeLimit : Nat := 0x100000

/-- A content with the cursor at the start. -/
def ofContent (content : Bytes) (chunk : Option Nat) (script : Script) (source : Nat) :
    ScriptedContent := ⟨content, 0, chunk, script, source⟩

/-- The bytes one transfer moves: no more than asked for, than the fault of the call allows and than
a chunk holds. -/
def allowance (scripted : ScriptedContent) (asked : Nat) (bound : Option Nat) : Nat :=
  let bounded := (bound.map (min asked)).getD asked
  (scripted.chunk.map (min bounded)).getD bounded

variable {ε : Type}

/-- Enter a call in the journal. -/
def receive (call : Call) : EStateM ε (ScriptedContent × Surroundings) Unit := fun (scripted, w) =>
  .ok () (scripted, w.record scripted.source call)

/-- Suffer the next fault for a call of that name. The answer is the bound it sets on the transfer;
`wrong` is how a failure shows. -/
def obey (wrong : StreamError → ε) (name : String) :
    EStateM ε (ScriptedContent × Surroundings) (Option Nat) := fun (scripted, w) =>
  let (fault, script) := scripted.script.next name
  let scripted := { scripted with script := script }
  match fault with
  | .none => .ok none (scripted, w)
  | .cancel token => .ok none (scripted, w.cancel token)
  | .atMost count => .ok (some count) (scripted, w)
  | .fail e => .error (wrong e) (scripted, w)

/-- The bytes at the cursor, at most `count` of them; the cursor moves behind them. -/
def take (count : Nat) : EStateM ε (ScriptedContent × Surroundings) Bytes := fun (scripted, w) =>
  let bytes := scripted.content.window scripted.cursor count
  .ok bytes ({ scripted with cursor := scripted.cursor + bytes.length }, w)

/-- Put bytes at the cursor, which moves behind them; fail with `full` if the content would grow
beyond its limit. -/
def put (full : ε) (data : Bytes) : EStateM ε (ScriptedContent × Surroundings) Unit :=
  fun (scripted, w) =>
    if scripted.cursor + data.length ≤ sizeLimit then
      .ok ()
        ({ scripted with
            content := scripted.content.splice scripted.cursor data
            cursor := scripted.cursor + data.length }, w)
    else .error full (scripted, w)

/-- Cut or extend the content; fail with `full` beyond its limit. -/
def resize (full : ε) (size : Nat) : EStateM ε (ScriptedContent × Surroundings) Unit :=
  fun (scripted, w) =>
    if size ≤ sizeLimit then
      .ok () ({ scripted with content := scripted.content.resize size }, w)
    else .error full (scripted, w)

end ScriptedContent

end LayeredStreams
