/-!
# Block indices

A content is cut into blocks of `blockSize` bytes, numbered from zero.

* `BlockIndex.containing` — the block that an offset lies in.
* `BlockIndex.start` — the first offset of a block.
* `BlockIndex.offsetWithin` — the place of an offset inside its block.

Principal results: `start_add_offsetWithin` (block and place give the offset back) and
`containing_eq_iff` (an offset lies in exactly the block whose stretch holds it).
-/

set_option autoImplicit false

namespace LayeredStreams

/-- The number of bytes in a full block. -/
def blockSize : Nat := 4096

/-- The number of a block. -/
structure BlockIndex where
  /-- How many blocks come before it. -/
  value : Nat
  deriving DecidableEq, Repr

namespace BlockIndex

/-- The block that an offset lies in. -/
def containing (offset : Nat) : BlockIndex := ⟨offset / blockSize⟩

/-- The first offset of a block. -/
def start (index : BlockIndex) : Nat := index.value * blockSize

/-- The place of an offset inside its block. -/
def offsetWithin (offset : Nat) : Nat := offset % blockSize

/-- The text for a block index. -/
def text (index : BlockIndex) : String := "Block(" ++ toString index.value ++ ")"

instance : LT BlockIndex where
  lt a b := a.value < b.value

instance (a b : BlockIndex) : Decidable (a < b) := inferInstanceAs (Decidable (a.value < b.value))

theorem start_add_offsetWithin (offset : Nat) :
    (containing offset).start + offsetWithin offset = offset := by
  simp only [containing, start, offsetWithin]
  exact Nat.div_add_mod' offset blockSize

theorem offsetWithin_lt (offset : Nat) : offsetWithin offset < blockSize :=
  Nat.mod_lt _ (by decide)

theorem containing_eq_iff {offset : Nat} {index : BlockIndex} :
    containing offset = index ↔ index.start ≤ offset ∧ offset < index.start + blockSize := by
  obtain ⟨value⟩ := index
  simp only [containing, start, BlockIndex.mk.injEq, blockSize]
  omega

theorem containing_start_add (index : BlockIndex) {place : Nat} (h : place < blockSize) :
    containing (index.start + place) = index :=
  containing_eq_iff.mpr ⟨Nat.le_add_right _ _, Nat.add_lt_add_left h _⟩

theorem offsetWithin_start_add (index : BlockIndex) {place : Nat} (h : place < blockSize) :
    offsetWithin (index.start + place) = place := by
  have hoffset := start_add_offsetWithin (index.start + place)
  rw [index.containing_start_add h] at hoffset
  exact Nat.add_left_cancel hoffset

theorem start_lt_start {a b : BlockIndex} : a.start < b.start ↔ a < b := by
  show a.value * blockSize < b.value * blockSize ↔ a.value < b.value
  simp only [blockSize]
  omega

end BlockIndex

end LayeredStreams
