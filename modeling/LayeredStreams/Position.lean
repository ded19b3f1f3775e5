import LayeredStreams.Error

/-!
# Positions and seeks

A position counts bytes from the start of a stream. Positions are natural numbers here; the two
limits of the machine are stated where they bind.

* `maxPosition` — the greatest position a stream may be moved to.
* `maxWord` — the greatest machine word; `saturatingAdd` stops there.
* `SeekTarget` — where to seek, told from the start, from the cursor or from the end.
* `SeekTarget.resolve` — the position a target stands for, or an `invalidSeek` that names it.

Principal result: `resolve_eq_ok_iff`: a seek is granted exactly if its destination is a position.
-/

set_option autoImplicit false

namespace LayeredStreams

/-- The greatest position: one less than half the machine words. -/
def maxPosition : Nat := 0x7FFFFFFFFFFFFFFF

/-- The greatest machine word. -/
def maxWord : Nat := 0xFFFFFFFFFFFFFFFF

/-- The sum of two words, or the greatest word if the sum is none. -/
def saturatingAdd (a b : Nat) : Nat := min (a + b) maxWord

/-- Where a seek leads. -/
inductive SeekTarget
  /-- So many bytes after the start. -/
  | fromStart (offset : Nat)
  /-- So many bytes after (or before) the cursor. -/
  | fromCurrent (offset : Int)
  /-- So many bytes after (or before) the end. -/
  | fromEnd (offset : Int)
  deriving DecidableEq, Repr

namespace SeekTarget

/-- The place a target stands for, when the cursor is at `position` and the end at `length`; it need
not be a position. -/
def destination (target : SeekTarget) (position length : Nat) : Int :=
  match target with
  | fromStart offset => offset
  | fromCurrent offset => position + offset
  | fromEnd offset => length + offset

/-- The position a target stands for. -/
def resolve (target : SeekTarget) (position length : Nat) : Except Refusal Nat :=
  let place := target.destination position length
  if 0 ≤ place ∧ place ≤ maxPosition then .ok place.toNat else .error (.invalidSeek place)

/-- The word for the place a target counts from. -/
def originName : SeekTarget → String
  | fromStart _ => "start"
  | fromCurrent _ => "current"
  | fromEnd _ => "end"

/-- The text for a seek target. -/
def text : SeekTarget → String
  | fromStart offset => "Start(" ++ toString offset ++ ")"
  | fromCurrent offset => "Current(" ++ toString offset ++ ")"
  | fromEnd offset => "End(" ++ toString offset ++ ")"

/-- The signed distance from the place a target counts from. -/
def offset : SeekTarget → Int
  | fromStart offset => offset
  | fromCurrent offset | fromEnd offset => offset

theorem resolve_eq_ok_iff {target : SeekTarget} {position length result : Nat} :
    target.resolve position length = .ok result ↔
      target.destination position length = result ∧ result ≤ maxPosition := by
  unfold resolve
  dsimp only
  split
  · rw [Except.ok.injEq]; omega
  · constructor
    · intro h; cases h
    · intro h; omega

theorem resolve_eq_error_iff {target : SeekTarget} {position length : Nat} {refusal : Refusal} :
    target.resolve position length = .error refusal ↔
      refusal = .invalidSeek (target.destination position length) ∧
        (target.destination position length < 0 ∨
          maxPosition < target.destination position length) := by
  unfold resolve
  dsimp only
  split
  · constructor
    · intro h; cases h
    · intro h; omega
  · rw [Except.error.injEq, eq_comm]
    constructor
    · intro h; exact ⟨h, by omega⟩
    · intro h; exact h.1

end SeekTarget

end LayeredStreams
