import LayeredStreams.Stream
import LayeredStreams.Device.Call

/-!
# Shared surroundings

What streams share besides each other: the tokens that were cancelled, and the journal of the calls
that scripted streams and devices received.

* `Call` — a request to a stream or an operation on a device.
* `Surroundings` — cancelled tokens and journal; every entry of the journal is tagged with the
  number of its source, so that it outlives the source.

Principal results: `entriesOf_record` (a recorded call is the latest entry of its source, and of no
other) and `isCancelled_cancel`.
-/

set_option autoImplicit false

namespace LayeredStreams

/-- A call that a scripted stream or device received. -/
inductive Call
  | request (request : Request)
  | operation (operation : DeviceCall)
  deriving DecidableEq, Repr

namespace Call

/-- The word for a call. -/
def name : Call → String
  | request r => r.name
  | operation o => o.name

/-- The line a journal shows for a call. -/
def text : Call → String
  | request r => r.text
  | operation o => o.text

end Call

/-- What streams share. -/
structure Surroundings where
  cancelled : List String
  /-- The calls received so far, the latest first, each with the number of its source. -/
  journal : List (Nat × Call)
  deriving DecidableEq, Repr

namespace Surroundings

/-- No token was cancelled and no call was received. -/
def initial : Surroundings := ⟨[], []⟩

/-- Cancel the token of that name. -/
def cancel (name : String) (w : Surroundings) : Surroundings :=
  { w with cancelled := name :: w.cancelled }

/-- Enter a call that the source of that number received. -/
def record (source : Nat) (call : Call) (w : Surroundings) : Surroundings :=
  { w with journal := (source, call) :: w.journal }

/-- The calls that a source received, in order. -/
def entriesOf (source : Nat) (w : Surroundings) : List Call :=
  ((w.journal.filter fun entry => entry.1 == source).map Prod.snd).reverse

/-- Strike the calls that a source received. -/
def forget (source : Nat) (w : Surroundings) : Surroundings :=
  { w with journal := w.journal.filter fun entry => entry.1 != source }

instance : Cancellation Surroundings where
  isCancelled name w := w.cancelled.contains name

theorem isCancelled_cancel (name other : String) (w : Surroundings) :
    Cancellation.isCancelled other (w.cancel name) =
      (other == name || Cancellation.isCancelled other w) := by
  exact List.contains_cons

theorem entriesOf_record (source other : Nat) (call : Call) (w : Surroundings) :
    (w.record source call).entriesOf other =
      if source = other then w.entriesOf other ++ [call] else w.entriesOf other := by
  unfold entriesOf record
  by_cases h : source = other <;> simp [h]

@[simp] theorem entriesOf_forget (source : Nat) (w : Surroundings) :
    (w.forget source).entriesOf source = [] := by
  simp [entriesOf, forget]

end Surroundings

end LayeredStreams
