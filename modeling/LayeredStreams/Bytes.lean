/-!
# Byte strings

The content of a stream is a finite list of bytes, addressed from zero.

* `Bytes.window` — the bytes of a stretch of a content, as far as the content goes.
* `Bytes.splice` — overwrite from an offset on, zero-filling a gap before it.
* `Bytes.resize` — cut or zero-extend to a length.
* `Bytes.overlay` — a buffer after bytes were put into it at an offset.

Principal results: `getElem?_window` and `getElem?_splice` say what stands at every place, and
`length_splice`, `length_resize`, `length_overlay` say how long the outcome is.
-/

set_option autoImplicit false

namespace LayeredStreams

/-- A content or a buffer: bytes in order. -/
abbrev Bytes := List UInt8

namespace Bytes

/-- At most `count` bytes of `content`, from offset `start` on. -/
def window (content : Bytes) (start count : Nat) : Bytes := (content.drop start).take count

/-- `count` zero bytes. -/
def zeros (count : Nat) : Bytes := List.replicate count 0

/-- Cut or zero-extend a content to `length` bytes. -/
def resize (content : Bytes) (length : Nat) : Bytes :=
  content.take length ++ zeros (length - content.length)

/-- Write `data` at offset `start`; a gap between the content and `start` is filled with zeros. -/
def splice (content : Bytes) (start : Nat) (data : Bytes) : Bytes :=
  resize content start ++ (data ++ content.drop (start + data.length))

/-- A buffer after `data` was put into it at offset `start`; what lies beyond its end is dropped. -/
def overlay (buffer : Bytes) (start : Nat) (data : Bytes) : Bytes :=
  buffer.take start ++ data.take (buffer.length - start) ++ buffer.drop (start + data.length)

theorem length_window (content : Bytes) (start count : Nat) :
    (content.window start count).length = min count (content.length - start) := by
  simp [window]

theorem getElem?_window (content : Bytes) (start count i : Nat) :
    (content.window start count)[i]? = if i < count then content[start + i]? else none := by
  simp [window, List.getElem?_take]

@[simp] theorem length_resize (content : Bytes) (length : Nat) :
    (content.resize length).length = length := by
  simp [resize, zeros]; omega

theorem length_splice (content : Bytes) (start : Nat) (data : Bytes) :
    (content.splice start data).length = max content.length (start + data.length) := by
  simp [splice]; omega

theorem getElem?_splice (content : Bytes) (start : Nat) (data : Bytes) (i : Nat) :
    (content.splice start data)[i]? =
      if i < start then (content.resize start)[i]?
      else if i < start + data.length then data[i - start]?
      else content[i]? := by
  unfold splice
  rw [List.getElem?_append]
  simp only [length_resize]
  split
  · rfl
  · rw [List.getElem?_append]
    by_cases h : i < start + data.length
    · rw [if_pos (by omega), if_pos h]
    · rw [if_neg (by omega), if_neg h, List.getElem?_drop]
      congr 1; omega

theorem length_overlay (buffer : Bytes) (start : Nat) (data : Bytes)
    (h : start ≤ buffer.length) : (buffer.overlay start data).length = buffer.length := by
  simp [overlay]; omega

end Bytes

end LayeredStreams
