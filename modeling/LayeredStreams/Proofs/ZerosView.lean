import LayeredStreams.Proofs.View
import LayeredStreams.Zeros

/-!
# Streams of zeros as views

* `Zeros.Stands size s p` — an open stream of `size` zeros, with the cursor at `p`.

Principal result: `Zeros.view`: an open stream of zeros is a base that does not fail.
-/

set_option autoImplicit false

namespace LayeredStreams

namespace Zeros

variable {ω : Type} [Cancellation ω] {size : Nat} {s : Zeros × ω} {p : Nat}

/-- An open stream of `size` zeros, with the cursor at `p`. -/
def Stands (size : Nat) (s : Zeros × ω) (p : Nat) : Prop := s.1 = ⟨p, size, false⟩

theorem length_zeros (count : Nat) : (Bytes.zeros count).length = count := List.length_replicate

theorem window_zeros (size start count : Nat) :
    Bytes.window (Bytes.zeros size) start count = Bytes.zeros (min count (size - start)) := by
  unfold Bytes.window Bytes.zeros
  rw [List.drop_replicate, List.take_replicate]

omit [Cancellation ω] in
theorem ends_take (h : Stands size s p) (room : Nat) {bad : StreamError → Zeros × ω → Prop} :
    (take room).Ends s
      (fun bytes s' => Delivers (Bytes.zeros size) p room bytes ∧ Stands size s' (p + bytes.length))
      bad := by
  obtain ⟨zeros, w⟩ := s
  obtain rfl : zeros = ⟨p, size, false⟩ := h
  refine StreamM.ends_of_eq_ok (take_of_open rfl room w) ⟨?_, ?_⟩
  · rw [← window_zeros]
    exact .window (fun hroom => hroom) (Nat.le_refl _)
  · unfold Stands
    rw [length_zeros]

/-- **A stream of zeros is a view of its zeros**, as long as its length is a position. -/
theorem view (size : Nat) (hsize : size ≤ maxPosition) :
    View (Bytes.zeros size) (Bytes.zeros size).length (Stands size : Zeros × ω → Nat → Prop) where
  size_le := Nat.le_refl _
  fits := by
    rw [length_zeros]
    exact hsize
  read h _ room :=
    Mode.ends_checkToken_bind (fun hcancelled => ⟨.inr ⟨hcancelled, rfl⟩, h⟩) fun _ =>
      ends_take h room
  position {s p} h := by
    obtain ⟨zeros, w⟩ := s
    obtain rfl : zeros = ⟨p, size, false⟩ := h
    exact ⟨p, ⟨rfl, rfl⟩, rfl⟩
  length {s p} h := by
    obtain ⟨zeros, w⟩ := s
    obtain rfl : zeros = ⟨p, size, false⟩ := h
    exact ⟨p, ⟨(length_zeros size).symm, rfl⟩, rfl⟩
  seekStart {s p} h target htarget := by
    obtain ⟨zeros, w⟩ := s
    obtain rfl : zeros = ⟨p, size, false⟩ := h
    rw [length_zeros] at htarget
    refine StreamM.ends_bind_of_eq_ok (opened_of_open rfl w) ?_
    dsimp only
    rw [SeekTarget.resolve_fromStart, if_pos (by omega)]
    exact ⟨target, ⟨rfl, rfl⟩, rfl⟩
  granted {s p} h request hquiet := by
    obtain ⟨zeros, w⟩ := s
    obtain rfl : zeros = ⟨p, size, false⟩ := h
    cases request with
    | position => exact rfl
    | setPosition target =>
      refine StreamM.ends_bind_of_eq_ok (opened_of_open rfl w) ?_
      split
      · exact rfl
      · exact trivial
    | length => exact rfl
    | seek target =>
      refine StreamM.ends_bind_of_eq_ok (opened_of_open rfl w) ?_
      dsimp only
      cases target.resolve p size with
      | ok place => exact rfl
      | error cause => exact trivial
    | read mode room =>
      refine (mode.ends_checkToken _).of_value.bind ?_
      rintro _ _ rfl
      refine StreamM.ends_of_eq_ok (take_of_open rfl room w) ?_
      show Zeros.mk _ _ _ = Zeros.mk _ _ _
      rw [Request.landing, length_zeros]
    | readByte =>
      refine StreamM.ends_bind_of_eq_ok (take_of_open rfl 1 w) (StreamM.ends_pure ?_)
      rcases (show min 1 (size - p) = 0 ∨ min 1 (size - p) = 1 by omega) with hnone | hone
      · rw [hnone]; exact rfl
      · rw [hone]; exact rfl
    | flush mode =>
      refine (mode.ends_checkToken _).of_value.bind ?_
      rintro _ _ rfl
      exact rfl
    | timeout direction => exact trivial
    | setTimeout direction limit => exact trivial
    | setLength | write | writeByte | dispose => cases hquiet

end Zeros

end LayeredStreams
