import LayeredStreams.Device.Scripted
import LayeredStreams.Proofs.DeviceOutcome

/-!
# Measuring moves the cursor

A stream over a device finds the length by moving the device's cursor to the end and back. What
comes of the cursor when one of these seeks fails is told here, for every device whose seeks move
the cursor to the place they answer, and which stays where it is when a seek fails.

* `Device.Seekable ω cursor` — a device with such seeks, whose cursor is told by `cursor`.
* `Device.Stranded s e s'` — the device told where it is, went to an end that lies elsewhere, and
  failed to go back, with the error `e` and in the state `s'`.
* `ScriptedDevice.seekable` — a scripted device is one of them, whatever its script says.

Principal results: `Device.Seekable.ends_measure` (a measurement keeps the cursor unless it ends
stranded), `DeviceStream.cursor_kept_unless_stranded` (and so does every request for the length, and
every seek that fails) and `DeviceStream.length_loses_cursor` (a device that is stranded).
-/

set_option autoImplicit false

namespace LayeredStreams

namespace Device

variable {ω δ : Type} [Device ω δ] {cursor : δ × ω → Nat}

/-- A device whose seeks move its cursor to the place they answer, or fail and leave it. -/
structure Seekable (ω : Type) {δ : Type} [Device ω δ] (cursor : δ × ω → Nat) : Prop where
  moves : ∀ (target : SeekTarget) (s : δ × ω),
    (operate (.seek target) : DeviceM ω δ Nat).Ends s (fun place s' => cursor s' = place)
      fun _ s' => cursor s' = cursor s
  /-- The place no bytes after the cursor is the cursor. -/
  current : ∀ {s s' : δ × ω} {place : Nat},
    (operate (.seek (.fromCurrent 0)) : DeviceM ω δ Nat) s = .ok place s' → place = cursor s
  /-- The place so many bytes after the start is that many. -/
  start : ∀ {s s' : δ × ω} {offset place : Nat},
    (operate (.seek (.fromStart offset)) : DeviceM ω δ Nat) s = .ok place s' → place = offset

/-- The device told where it is, went to an end that lies elsewhere, and failed to go back. -/
def Stranded (s : δ × ω) (e : DeviceError) (s' : δ × ω) : Prop :=
  ∃ (here reach : Nat) (asked gone : δ × ω),
    (operate (.seek (.fromCurrent 0)) : DeviceM ω δ Nat) s = .ok here asked ∧
    (operate (.seek (.fromEnd 0)) : DeviceM ω δ Nat) asked = .ok reach gone ∧
    reach ≠ here ∧
    (operate (.seek (.fromStart here)) : DeviceM ω δ Nat) gone = .error e s'

namespace Seekable

variable (h : Seekable ω cursor)
include h

theorem ends_seek (target : SeekTarget) (s : δ × ω) :
    (operate (.seek target) : DeviceM ω δ Nat).Ends s
      (fun place s' => (operate (.seek target) : DeviceM ω δ Nat) s = .ok place s' ∧
        cursor s' = place)
      fun e s' => (operate (.seek target) : DeviceM ω δ Nat) s = .error e s' ∧
        cursor s' = cursor s :=
  (DeviceM.ends_self _ s).and (h.moves target s)

theorem ends_here (s : δ × ω) :
    (operate (.seek (.fromCurrent 0)) : DeviceM ω δ Nat).Ends s
      (fun here s' => (operate (.seek (.fromCurrent 0)) : DeviceM ω δ Nat) s = .ok here s' ∧
        here = cursor s ∧ cursor s' = cursor s)
      fun _ s' => cursor s' = cursor s := by
  refine (h.ends_seek (.fromCurrent 0) s).mono ?_ fun _ _ hout => hout.2
  rintro here s' ⟨hasked, hcursor⟩
  have hhere := h.current hasked
  exact ⟨hasked, hhere, hcursor.trans hhere⟩

/-- **A measurement keeps the cursor** unless the device fails to go back from the end. -/
theorem ends_measure (s : δ × ω) :
    (measure : DeviceM ω δ Nat).Ends s (fun _ s' => cursor s' = cursor s)
      fun e s' => cursor s' = cursor s ∨ Stranded s e s' := by
  unfold measure
  refine ((h.ends_here s).mono (fun _ _ hout => hout) fun _ _ hkept => Or.inl hkept).bind ?_
  rintro here asked ⟨hasked, hhere, hkept⟩
  refine ((h.ends_seek (.fromEnd 0) asked).mono (fun _ _ hout => hout) ?_).bind ?_
  · exact fun _ _ hout => Or.inl (hout.2.trans hkept)
  rintro reach gone ⟨hgone, hreach⟩
  by_cases hback : reach ≠ here
  · rw [if_pos hback]
    refine ((h.ends_seek (.fromStart here) gone).mono (fun _ _ hout => hout) ?_).bind ?_
    · exact fun e s' hout => Or.inr ⟨here, reach, asked, gone, hasked, hgone, hback, hout.1⟩
    rintro place s' ⟨hreturned, hcursor⟩
    refine DeviceM.ends_pure ?_
    rw [hcursor, h.start hreturned, hhere]
  · rw [if_neg hback]
    refine DeviceM.ends_pure ?_
    rw [hreach, Decidable.not_not.mp hback, hhere]

/-- A stranded device has its cursor at an end that is not where the cursor was. -/
theorem cursor_of_stranded {s s' : δ × ω} {e : DeviceError} (hstranded : Stranded s e s') :
    cursor s' ≠ cursor s := by
  obtain ⟨here, reach, asked, gone, hasked, hgone, hback, hfailed⟩ := hstranded
  have hkept := ((h.ends_seek (.fromStart here) gone).of_eq_error hfailed).2
  have hreach := ((h.ends_seek (.fromEnd 0) asked).of_eq_ok hgone).2
  rw [hkept, hreach, ← h.current hasked]
  exact hback

end Seekable

end Device

namespace ScriptedDevice

/-- The place of a scripted device's cursor. -/
def cursor (s : ScriptedDevice × Surroundings) : Nat := s.1.scripted.cursor

theorem ends_act_seek (bound : Option Nat) (target : SeekTarget) (scripted : ScriptedContent)
    (w : Surroundings) :
    DeviceM.Ends (act bound (.seek target)) (scripted, w)
      (fun place s' => s'.1.cursor = place ∧
        target.destination scripted.cursor scripted.content.length = (place : Nat))
      fun _ s' => s'.1.cursor = scripted.cursor := by
  unfold DeviceM.Ends act
  dsimp only
  by_cases hword : 0 ≤ target.destination scripted.cursor scripted.content.length ∧
      target.destination scripted.cursor scripted.content.length ≤ maxWord
  · rw [if_pos hword]
    exact ⟨rfl, (Int.toNat_of_nonneg hword.1).symm⟩
  · rw [if_neg hword]

theorem ends_seek (target : SeekTarget) (s : ScriptedDevice × Surroundings) :
    (Device.operate (.seek target) : DeviceM Surroundings ScriptedDevice Nat).Ends s
      (fun place s' => cursor s' = place ∧
        target.destination (cursor s) s.1.scripted.content.length = (place : Nat))
      fun _ s' => cursor s' = cursor s :=
  ends_operate (fun _ _ _ => rfl) fun bound w' => ends_act_seek bound target _ w'

/-- **The seeks of a scripted device move its cursor or leave it**, whatever its script says. -/
theorem seekable : Device.Seekable Surroundings cursor where
  moves target s := (ends_seek target s).mono (fun _ _ hout => hout.1) fun _ _ hout => hout
  current {s s' place} h := by
    have hplace := ((ends_seek (.fromCurrent 0) s).of_eq_ok h).2
    simp only [SeekTarget.destination] at hplace
    omega
  start {s s' offset place} h := by
    have hplace := ((ends_seek (.fromStart offset) s).of_eq_ok h).2
    simp only [SeekTarget.destination] at hplace
    omega

/-- A device of four bytes, with the cursor behind the first, that will not go back from the end. -/
def stuckAtEnd : ScriptedDevice :=
  ⟨⟨[0, 1, 2, 3], 1, none,
    ⟨[("seek", [.none, .none, .fail (.device (.reported .other "stuck"))])]⟩, 0⟩⟩

end ScriptedDevice

namespace DeviceStream

variable {ω δ : Type} [Device ω δ] {cursor : δ × ω → Nat}

/-- A seek that is not told from the start asked for the cursor, and its measurement was stranded.
-/
def StrandedSeek (target : SeekTarget) (s : δ × ω) (e : DeviceError) (s' : δ × ω) : Prop :=
  (∀ offset, target ≠ .fromStart offset) ∧
    ∃ here asked, (Device.operate (.seek (.fromCurrent 0)) : DeviceM ω δ Nat) s = .ok here asked ∧
      Device.Stranded asked e s'

/-- The cursor is where it was in the state `s`, or the error is that of a device that `stranded`
tells of. -/
def KeptUnless (cursor : δ × ω → Nat) (stranded : DeviceError → δ × ω → Prop) (s : δ × ω)
    (e : StreamError) (s' : δ × ω) : Prop :=
  cursor s' = cursor s ∨ ∃ cause, e = .device cause ∧ stranded cause s'

omit [Device ω δ] in
theorem KeptUnless.over {stranded : DeviceError → δ × ω → Prop} {s : δ × ω} {access : Access}
    {e : StreamError} {s' : DeviceStream δ × ω}
    (h : ∃ cause, e = .device cause ∧
      Over access (fun t => cursor t = cursor s ∨ stranded cause t) s') :
    Over access (KeptUnless cursor stranded s e) s' := by
  obtain ⟨cause, rfl, hover⟩ := h
  refine hover.mono fun t ht => ?_
  exact ht.imp id fun hstranded => ⟨cause, rfl, hstranded⟩

section Seekable

variable (h : Device.Seekable ω cursor) (access : Access) (device : δ) (w : ω)
include h

theorem ends_length_kept [Cancellation ω] :
    (ByteStream.length : StreamM ω (DeviceStream δ) Nat).Ends (ofDevice device access, w)
      (fun _ => Over access fun t => cursor t = cursor (device, w))
      fun e => Over access
        (KeptUnless cursor (Device.Stranded (device, w)) (device, w) e) :=
  (ends_onDevice_live (h.ends_measure (device, w))).mono (fun _ _ hout => hout)
    fun _ _ hout => KeptUnless.over hout

theorem ends_locate_kept (target : SeekTarget) :
    (locate target : StreamM ω (DeviceStream δ) Nat).Ends (ofDevice device access, w)
      (fun _ => Over access fun t => cursor t = cursor (device, w))
      fun e => Over access
        (KeptUnless cursor (StrandedSeek target (device, w)) (device, w) e) := by
  have hresolved : ∀ (here size : Nat) (s' : DeviceStream δ × ω),
      Over access (fun t => cursor t = cursor (device, w)) s' →
      (StreamM.ofExcept (target.resolve here size) : StreamM ω (DeviceStream δ) Nat).Ends s'
        (fun _ => Over access fun t => cursor t = cursor (device, w))
        fun e => Over access
          (KeptUnless cursor (StrandedSeek target (device, w)) (device, w) e) := by
    intro here size s' hover
    refine (StreamM.ends_ofExcept _).mono ?_ ?_
    · rintro place _ ⟨-, rfl⟩
      exact hover
    · rintro _ _ ⟨cause, -, rfl, rfl⟩
      exact hover.mono fun t ht => Or.inl ht
  have hfound : (∀ offset, target ≠ .fromStart offset) →
      (do
        let here ← position
        let size ← onDevice Device.measure
        StreamM.ofExcept (target.resolve here size) : StreamM ω (DeviceStream δ) Nat).Ends
        (ofDevice device access, w)
        (fun _ => Over access fun t => cursor t = cursor (device, w))
        fun e => Over access
          (KeptUnless cursor (StrandedSeek target (device, w)) (device, w) e) := by
    intro htarget
    refine ((ends_onDevice_live (h.ends_here (device, w))).mono (fun _ _ hout => hout) ?_).bind ?_
    · rintro _ s' ⟨cause, rfl, hover⟩
      exact hover.mono fun t ht => Or.inl ht
    rintro here ⟨-, w'⟩ ⟨device', rfl, hasked, -, hkept⟩
    refine ((ends_onDevice_live (h.ends_measure (device', w'))).mono
      (fun _ _ hout => hout) ?_).bind ?_
    · rintro _ s' ⟨cause, rfl, hover⟩
      refine hover.mono fun t ht => ?_
      rcases ht with ht | hstranded
      · exact Or.inl (ht.trans hkept)
      · exact Or.inr ⟨cause, rfl, htarget, here, (device', w'), hasked, hstranded⟩
    · intro size s' hover
      exact hresolved here size s' (hover.mono fun t ht => ht.trans hkept)
  cases target with
  | fromStart offset => exact hresolved 0 0 _ (over_ofDevice rfl)
  | fromCurrent offset => exact hfound nofun
  | fromEnd offset => exact hfound nofun

theorem ends_seek_kept [Cancellation ω] (target : SeekTarget) :
    (ByteStream.seek target : StreamM ω (DeviceStream δ) Nat).Ends (ofDevice device access, w)
      (fun place => Over access fun t => cursor t = place)
      fun e => Over access
        (KeptUnless cursor (StrandedSeek target (device, w)) (device, w) e) := by
  refine (ends_locate_kept h access device w target).bind ?_
  rintro place ⟨-, w'⟩ ⟨device', rfl, hkept⟩
  refine (ends_onDevice_live (h.ends_seek (.fromStart place) (device', w'))).mono ?_ ?_
  · intro reached s' hover
    exact hover.mono fun t ht => ht.2
  · rintro _ s' ⟨cause, rfl, hover⟩
    exact hover.mono fun t ht => Or.inl (ht.2.trans hkept)

end Seekable

/-- **Asking for the length keeps the cursor, and so does every seek that fails**, unless a
measurement went to the end and the device failed to go back; then the answer is that failure. -/
theorem cursor_kept_unless_stranded [Cancellation ω] (h : Device.Seekable ω cursor)
    (access : Access) (device : δ) (w : ω) :
    (ByteStream.length : StreamM ω (DeviceStream δ) Nat).Ends (ofDevice device access, w)
      (fun _ => Over access fun t => cursor t = cursor (device, w))
      (fun e => Over access (KeptUnless cursor (Device.Stranded (device, w)) (device, w) e)) ∧
    ∀ target : SeekTarget,
      (ByteStream.seek target : StreamM ω (DeviceStream δ) Nat).Ends (ofDevice device access, w)
        (fun place => Over access fun t => cursor t = place)
        fun e => Over access (KeptUnless cursor (StrandedSeek target (device, w)) (device, w) e) :=
  ⟨ends_length_kept h access device w, ends_seek_kept h access device w⟩

/-- The device that will not go back, asked for the length and told to seek beyond every position.
-/
theorem cursor_kept_unless_stuck :
    (ByteStream.length : StreamM Surroundings (DeviceStream ScriptedDevice) Nat).Ends
      (ofDevice .stuckAtEnd .fixedLength, .initial)
      (fun _ => Over .fixedLength fun t => ScriptedDevice.cursor t = 1)
      (fun e => Over .fixedLength (KeptUnless ScriptedDevice.cursor
        (Device.Stranded (.stuckAtEnd, .initial)) (.stuckAtEnd, .initial) e)) ∧
    (ByteStream.seek (.fromStart (maxPosition + 1)) :
        StreamM Surroundings (DeviceStream ScriptedDevice) Nat).Ends
      (ofDevice .stuckAtEnd .fixedLength, .initial)
      (fun place => Over .fixedLength fun t => ScriptedDevice.cursor t = place)
      (fun _ => Over .fixedLength fun t => ScriptedDevice.cursor t = 1) := by
  have hkept := cursor_kept_unless_stranded ScriptedDevice.seekable .fixedLength .stuckAtEnd
    .initial
  refine ⟨hkept.1, (hkept.2 (.fromStart (maxPosition + 1))).mono (fun _ _ hout => hout) ?_⟩
  intro e s' hover
  refine hover.mono fun t ht => ?_
  rcases ht with hcursor | ⟨cause, -, hstranded⟩
  · exact hcursor
  · exact absurd rfl (hstranded.1 _)

/-- **A question for the length can lose the cursor.** The device fails its third seek only, the one
back from the end, and its failing seeks leave the cursor; the stream answers the failure, and the
cursor, which was behind the first byte, is at the end. -/
theorem length_loses_cursor :
    Device.Seekable Surroundings ScriptedDevice.cursor ∧
    ScriptedDevice.cursor (.stuckAtEnd, .initial) = 1 ∧
    (ByteStream.length : StreamM Surroundings (DeviceStream ScriptedDevice) Nat).Ends
      (ofDevice .stuckAtEnd .fixedLength, .initial) (fun _ _ => False)
      fun e s' => e = .device (.reported .other "stuck") ∧
        Over .fixedLength (fun t => ScriptedDevice.cursor t = 4) s' :=
  ⟨ScriptedDevice.seekable, rfl, rfl, _, rfl, rfl⟩

end DeviceStream

end LayeredStreams
