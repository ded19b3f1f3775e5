import LayeredStreams.Error

/-!
# Slots and ownership

* `Slot` — a place that holds a value until it is disposed, and nothing from then on.
* `Slot.apply` — what comes of an operation on a slot.
* `Ownership` — whether disposing a layer also disposes the stream below it.

Principal results: `get_eq_error_iff` (a slot refuses exactly when it is disposed),
`isDisposed_take` (a slot whose value was taken is disposed) and `apply_disposed` (a disposed slot
stays disposed).
-/

set_option autoImplicit false

namespace LayeredStreams

/-- Whether a layer owns the stream below it. -/
inductive Ownership
  /-- The stream below is borrowed and outlives the layer. -/
  | borrows
  /-- The stream below is disposed together with the layer. -/
  | owns
  deriving DecidableEq, Repr

namespace Ownership

/-- The ownership that a flag asks for. -/
def ofFlag (flag : Bool) : Ownership := if flag then owns else borrows

/-- Whether the stream below is disposed together with the layer. -/
def isOwner : Ownership → Bool
  | borrows => false
  | owns => true

/-- The word for an ownership. -/
def name : Ownership → String
  | borrows => "None"
  | owns => "Owns"

@[simp] theorem isOwner_ofFlag (flag : Bool) : (ofFlag flag).isOwner = flag := by
  cases flag <;> rfl

end Ownership

/-- A place for a value that can be disposed. -/
inductive Slot (α : Type)
  | live (value : α)
  | disposed
  deriving DecidableEq, Repr

namespace Slot

variable {α : Type}

/-- Whether the value is gone. -/
def isDisposed : Slot α → Bool
  | live _ => false
  | disposed => true

/-- The value, or the refusal of a disposed slot. -/
def get : Slot α → Except Refusal α
  | live value => .ok value
  | disposed => .error .disposed

/-- The value, if it is there. -/
def get? : Slot α → Option α
  | live value => some value
  | disposed => none

/-- Change the value in place; a disposed slot stays as it is. -/
def map (f : α → α) : Slot α → Slot α
  | live value => live (f value)
  | disposed => disposed

/-- The value, if it is there, and the slot without it. -/
def take (slot : Slot α) : Option α × Slot α := (slot.get?, disposed)

/-- What can be done with a slot. -/
inductive Operation (α : Type)
  | get
  | set (value : α)
  /-- Take the value out, if it is there. -/
  | take
  /-- Give the slot up for its value. -/
  | unwrap
  deriving DecidableEq, Repr

/-- Carry out an operation: the value that comes of it, if any, and the slot afterwards. -/
def apply (slot : Slot α) : Operation α → Except Refusal (Option α) × Slot α
  | .get => (slot.get.map some, slot)
  | .set value => (slot.get.map fun _ => none, slot.map fun _ => value)
  | .take => (.ok slot.take.1, slot.take.2)
  | .unwrap => (slot.get.map some, disposed)

@[simp] theorem get_live (value : α) : (live value).get = .ok value := rfl

@[simp] theorem get_disposed : (disposed : Slot α).get = .error .disposed := rfl

theorem get_eq_error_iff {slot : Slot α} {refusal : Refusal} :
    slot.get = .error refusal ↔ slot = disposed ∧ refusal = .disposed := by
  cases slot <;> simp [get, eq_comm]

theorem get?_of_isDisposed {slot : Slot α} (h : slot.isDisposed = true) :
    slot.get? = none := by
  cases slot with
  | live value => cases h
  | disposed => rfl

@[simp] theorem isDisposed_map (f : α → α) (slot : Slot α) :
    (slot.map f).isDisposed = slot.isDisposed := by
  cases slot <;> rfl

/-- A disposed slot stays disposed, whatever is done with it. -/
theorem apply_disposed (operation : Operation α) :
    ((disposed : Slot α).apply operation).2 = disposed := by
  cases operation <;> rfl

@[simp] theorem isDisposed_take (slot : Slot α) : slot.take.2.isDisposed = true := rfl

end Slot

end LayeredStreams
