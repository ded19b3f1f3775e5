import LayeredStreams.Proofs.OwnCursors
import LayeredStreams.Proofs.Resizing

/-!
# Bearings of stacks

* `Bearing.ofBase` — the bearing of a stream that stands below all layers.
* `Window.HasBearing`, `LayerKind.HasBearing`, `Stack.HasBearing` — the bearings of windows, of
  layers of any kind and of stacks over zeros or memory.

Principal results: `Zeros.followsBearing`, `DeviceStream.followsBearing` and `Stack.followsBearing`
(a stack is moved as its bearing says).
-/

set_option autoImplicit false

namespace LayeredStreams

/-! ## Bases -/

namespace Bearing

/-- The bearing of a stream of `size` bytes that stands at `cursor`. -/
def ofBase (cursor size : Nat) (stops : Prop) : Bearing where
  origin := 0
  mark := cursor
  size := size
  reach := size
  level := True
  ranged := cursor ≤ maxPosition ∧ size ≤ maxPosition
  stops := stops

variable {cursor cursor' size : Nat} {stops : Prop}

theorem moved_ofBase : (ofBase cursor size stops).Moved cursor' (ofBase cursor' size stops) :=
  ⟨rfl, rfl, rfl, rfl, .rfl, fun hranged hle => ⟨hle, hranged.2⟩⟩

theorem led_ofBase (h : cursor' ≤ max cursor size) :
    (ofBase cursor size stops).Led cursor' (ofBase cursor' size stops) := by
  refine ⟨rfl, rfl, ?_⟩
  intro hranged
  obtain ⟨hcursor, hsize⟩ : cursor ≤ maxPosition ∧ size ≤ maxPosition := hranged
  exact ⟨by omega, hsize⟩

theorem leads_ofBase {target : SeekTarget} {place : Nat}
    (h : target.destination cursor size = place) :
    (ofBase cursor size stops).Leads place target := by
  cases target with
  | fromStart offset =>
    have hplace : (offset : Int) = place := h
    show place = offset
    omega
  | fromCurrent offset =>
    have hplace : (cursor : Int) + offset = place := h
    show ((0 + place : Nat) : Int) = cursor + offset
    omega
  | fromEnd offset =>
    have hplace : (size : Int) + offset = place := h
    show (place : Int) = size + offset
    omega

theorem maxPosition_lt_of_refused {target : SeekTarget}
    (h : target.destination cursor size < 0 ∨ maxPosition < target.destination cursor size)
    (htarget : target = .fromCurrent 0) : maxPosition < cursor := by
  rw [htarget] at h
  have hplace : (cursor : Int) + 0 < 0 ∨ (maxPosition : Int) < cursor + 0 := h
  omega

end Bearing

/-- A seek below all layers leads to the places it asks for. -/
theorem StreamM.MovesBearing.leads_ofBase {ω σ : Type} {bearing : σ × ω → Bearing → Prop}
    {act : StreamM ω σ Nat} {s : σ × ω} {cursor size : Nat} {stops : Prop} {target : SeekTarget}
    (h : act.MovesBearing bearing s
      (fun place x' => target.destination cursor size = place ∧ place ≤ maxPosition ∧
        (Bearing.ofBase cursor size stops).Moved place x')
      fun _ x' => (target.destination cursor size < 0 ∨
          maxPosition < target.destination cursor size) ∧
        (Bearing.ofBase cursor size stops).Moved cursor x') :
    act.MovesBearing bearing s
      (fun place x' => (Bearing.ofBase cursor size stops).Leads place target ∧
        0 + place ≤ maxPosition ∧ (Bearing.ofBase cursor size stops).Moved (0 + place) x')
      fun _ x' => (target = .fromCurrent 0 → cursor < 0 ∨ maxPosition < cursor) ∧
        ((Request.isFromEnd (.seek target) = true → True) →
          (Bearing.ofBase cursor size stops).Moved cursor x') := by
  apply h.mono
  · intro place x' hout
    obtain ⟨hdestination, hle, hmoved⟩ := hout
    rw [Nat.zero_add]
    exact ⟨Bearing.leads_ofBase hdestination, hle, hmoved⟩
  · intro e x' hout
    obtain ⟨hfar, hmoved⟩ := hout
    exact ⟨fun htarget => .inr (Bearing.maxPosition_lt_of_refused hfar htarget), fun _ => hmoved⟩

theorem Bytes.length_head? {bytes : Bytes} (h : bytes.length ≤ 1) :
    bytes.head?.toList.length = bytes.length := by
  cases bytes with
  | nil => rfl
  | cons byte bytes => simpa using h

section Bases

variable {ω : Type} [Cancellation ω]

namespace Zeros

/-- An open stream of zeros, with its bearing. -/
def HasBearing (s : Zeros × ω) (x : Bearing) : Prop :=
  s.1.disposed = false ∧ x = .ofBase s.1.cursor s.1.size True

variable {cursor size : Nat} {w : ω} {x : Bearing}

omit [Cancellation ω] in
theorem hasBearing_open :
    HasBearing ((⟨cursor, size, false⟩ : Zeros), w) (.ofBase cursor size True) :=
  ⟨rfl, rfl⟩

omit [Cancellation ω] in
theorem movesBearing_take (room : Nat) {bad : StreamError → Bearing → Prop} :
    (take room : StreamM ω Zeros Bytes).MovesBearing HasBearing (⟨cursor, size, false⟩, w)
      (fun bytes x' => bytes.length ≤ room ∧
        (Bearing.ofBase cursor size True).Led (cursor + bytes.length) x') bad := by
  have htake : (take room : StreamM ω Zeros Bytes) (⟨cursor, size, false⟩, w) = _ :=
    take_of_open rfl room w
  refine StreamM.ends_of_eq_ok htake ⟨_, ⟨?_, ?_⟩, hasBearing_open⟩
  · rw [Bytes.zeros, List.length_replicate]
    exact Nat.min_le_left _ _
  · rw [Bytes.zeros, List.length_replicate]
    apply Bearing.led_ofBase
    dsimp only
    omega

theorem movesBearing_setPosition (target : Nat) :
    (ByteStream.setPosition target : StreamM ω Zeros Unit).MovesBearing HasBearing
      (⟨cursor, size, false⟩, w)
      (fun _ => (Bearing.ofBase cursor size True).Moved target)
      fun _ x' => maxPosition < target ∧ (Bearing.ofBase cursor size True).Moved cursor x' := by
  apply StreamM.ends_bind_of_eq_ok (opened_of_open rfl w)
  split
  · exact ⟨.ofBase target size True, Bearing.moved_ofBase, hasBearing_open⟩
  · rename_i hfar
    exact ⟨.ofBase cursor size True, ⟨Nat.lt_of_not_le hfar, Bearing.moved_ofBase⟩, hasBearing_open⟩

theorem movesBearing_seek (target : SeekTarget) :
    (ByteStream.seek target : StreamM ω Zeros Nat).MovesBearing HasBearing
      (⟨cursor, size, false⟩, w)
      (fun place x' => target.destination cursor size = place ∧ place ≤ maxPosition ∧
        (Bearing.ofBase cursor size True).Moved place x')
      fun _ x' => (target.destination cursor size < 0 ∨
          maxPosition < target.destination cursor size) ∧
        (Bearing.ofBase cursor size True).Moved cursor x' := by
  apply StreamM.ends_bind_of_eq_ok (opened_of_open rfl w)
  dsimp only
  cases hplace : target.resolve cursor size with
  | ok place =>
    obtain ⟨hdestination, hle⟩ := SeekTarget.resolve_eq_ok_iff.mp hplace
    exact ⟨.ofBase place size True, ⟨hdestination, hle, Bearing.moved_ofBase⟩, hasBearing_open⟩
  | error cause =>
    obtain ⟨-, hfar⟩ := SeekTarget.resolve_eq_error_iff.mp hplace
    exact ⟨.ofBase cursor size True, ⟨hfar, Bearing.moved_ofBase⟩, hasBearing_open⟩

omit [Cancellation ω] in
theorem movesBearing_cover (hcursor : cursor ≤ maxPosition) (hsize : size ≤ maxPosition)
    (count : Nat) :
    (cover count : StreamM ω Zeros Unit).MovesBearing HasBearing (⟨cursor, size, false⟩, w)
      (fun _ x' => x'.origin = 0 ∧ x'.ranged ∧ cursor ≤ x'.mark)
      fun _ x' => x'.origin = 0 ∧ x'.ranged ∧ cursor ≤ x'.mark := by
  apply StreamM.ends_bind_of_eq_ok (opened_of_open rfl w)
  dsimp only
  split
  · rename_i hreach
    have hsize' : max size (cursor + count) ≤ maxPosition := Nat.max_le.mpr ⟨hsize, hreach⟩
    exact ⟨.ofBase (cursor + count) (max size (cursor + count)) True,
      ⟨rfl, ⟨hreach, hsize'⟩, Nat.le_add_right _ _⟩, hasBearing_open⟩
  · exact ⟨.ofBase cursor size True, ⟨rfl, ⟨hcursor, hsize⟩, Nat.le_refl _⟩, hasBearing_open⟩

theorem movesBearing_setLength (hcursor : cursor ≤ maxPosition) (hsize : size ≤ maxPosition)
    (target : Nat) :
    (ByteStream.setLength target : StreamM ω Zeros Unit).MovesBearing HasBearing
      (⟨cursor, size, false⟩, w)
      (fun _ x' => x'.origin = 0 ∧ x'.ranged ∧ min cursor target ≤ x'.mark)
      fun _ x' => x'.origin = 0 ∧ x'.ranged ∧ min cursor target ≤ x'.mark := by
  apply StreamM.ends_bind_of_eq_ok (opened_of_open rfl w)
  split
  · rename_i htarget
    have hcut : min cursor target ≤ maxPosition := Nat.le_trans (Nat.min_le_right _ _) htarget
    exact ⟨.ofBase (min cursor target) target True, ⟨rfl, ⟨hcut, htarget⟩, Nat.le_refl _⟩,
      hasBearing_open⟩
  · exact ⟨.ofBase cursor size True, ⟨rfl, ⟨hcursor, hsize⟩, Nat.min_le_left _ _⟩, hasBearing_open⟩

/-- **A stream of zeros** is moved as its bearing says, whatever its length. -/
theorem followsBearing : FollowsBearing ω (HasBearing : Zeros × ω → Bearing → Prop) where
  range := by
    intro s x hs hranged
    obtain ⟨-, rfl⟩ := hs
    exact ⟨Nat.zero_le _, hranged.1⟩
  position := by
    intro s x hs
    obtain ⟨hopen, rfl⟩ := hs
    apply StreamM.ends_bind_of_eq_ok (opened_of_open hopen s.2)
    exact ⟨Nat.zero_add _, rfl⟩
  length := by
    intro s x hs
    obtain ⟨hopen, rfl⟩ := hs
    show (opened >>= fun zeros => pure zeros.size) (s.1, s.2) = _
    rw [StreamM.bind_apply, opened_of_open hopen]
    rfl
  setPosition := by
    intro s x hs target
    obtain ⟨⟨cursor, size, disposed⟩, w⟩ := s
    obtain ⟨hopen, rfl⟩ := hs
    cases hopen
    have hzero : (Bearing.ofBase cursor size True).origin + target = target := Nat.zero_add target
    rw [hzero]
    exact movesBearing_setPosition target
  seek := by
    intro s x hs target
    obtain ⟨⟨cursor, size, disposed⟩, w⟩ := s
    obtain ⟨hopen, rfl⟩ := hs
    cases hopen
    exact (movesBearing_seek target).leads_ofBase
  read := by
    intro s x hs mode room
    obtain ⟨⟨cursor, size, disposed⟩, w⟩ := s
    obtain ⟨hopen, rfl⟩ := hs
    cases hopen
    apply Mode.ends_checkToken_bind
    · intro _
      exact ⟨_, Bearing.led_self _, hasBearing_open⟩
    · intro _
      exact (movesBearing_take room).mono (fun _ _ hout => hout.2) fun _ _ hout => hout
  readByte := by
    intro s x hs
    obtain ⟨⟨cursor, size, disposed⟩, w⟩ := s
    obtain ⟨hopen, rfl⟩ := hs
    cases hopen
    apply StreamM.MovesBearing.bind (movesBearing_take 1)
    intro bytes x' s' hout hs'
    obtain ⟨hroom, hled⟩ := hout
    refine StreamM.movesBearing_pure hs' ?_
    rw [Bytes.length_head? hroom]
    exact hled
  placeless := by
    intro s x hs request hplaceless
    obtain ⟨⟨cursor, size, disposed⟩, w⟩ := s
    obtain ⟨hopen, rfl⟩ := hs
    cases hopen
    have hself : ∃ x', (Bearing.ofBase cursor size True).Led cursor x' ∧
        HasBearing ((⟨cursor, size, false⟩ : Zeros), w) x' :=
      ⟨_, Bearing.led_self (.ofBase cursor size True), hasBearing_open⟩
    cases request with
    | flush mode =>
      apply Mode.ends_checkToken_bind
      · intro _
        exact hself
      · intro _
        exact hself
    | timeout direction => exact hself
    | setTimeout direction limit => exact hself
    | _ => cases hplaceless
  mutating := by
    intro s x hs hranged request hmutates _
    obtain ⟨⟨cursor, size, disposed⟩, w⟩ := s
    obtain ⟨hopen, rfl⟩ := hs
    cases hopen
    obtain ⟨hcursor, hsize⟩ : cursor ≤ maxPosition ∧ size ≤ maxPosition := hranged
    cases request with
    | setLength target =>
      have hzero : 0 + target = target := Nat.zero_add target
      show StreamM.MovesBearing _ _ _ (fun _ x' => x'.origin = 0 ∧ x'.ranged ∧
        min cursor (0 + target) ≤ x'.mark) fun _ x' => x'.origin = 0 ∧ x'.ranged ∧
        min cursor (0 + target) ≤ x'.mark
      rw [hzero]
      exact movesBearing_setLength hcursor hsize target
    | write mode data =>
      apply Mode.ends_checkToken_bind
      · intro _
        exact ⟨.ofBase cursor size True, ⟨rfl, ⟨hcursor, hsize⟩, Nat.le_refl _⟩, hasBearing_open⟩
      · intro _
        exact movesBearing_cover hcursor hsize data.length
    | writeByte byte => exact movesBearing_cover hcursor hsize 1
    | _ => cases hmutates

end Zeros

namespace DeviceStream

/-- An open stream over memory whose cursor and end are machine words, with its bearing. -/
def HasBearing (s : DeviceStream MemoryDevice × ω) (x : Bearing) : Prop :=
  ∃ memory access, s.1 = ofDevice memory access ∧ memory.Words ∧
    x = .ofBase memory.cursor memory.content.length False

variable {memory : MemoryDevice} {access : Access} {w : ω}

omit [Cancellation ω] in
theorem hasBearing_ofDevice (h : memory.Words) :
    HasBearing (ofDevice memory access, w) (.ofBase memory.cursor memory.content.length False) :=
  ⟨memory, access, rfl, h, rfl⟩

omit [Cancellation ω] in
theorem movesBearing_seek (hwords : memory.Words) (target : SeekTarget) :
    (seek target : StreamM ω (DeviceStream MemoryDevice) Nat).MovesBearing HasBearing
      (ofDevice memory access, w)
      (fun place x' => target.destination memory.cursor memory.content.length = place ∧
        place ≤ maxPosition ∧
        (Bearing.ofBase memory.cursor memory.content.length False).Moved place x')
      fun _ x' => (target.destination memory.cursor memory.content.length < 0 ∨
          maxPosition < target.destination memory.cursor memory.content.length) ∧
        (Bearing.ofBase memory.cursor memory.content.length False).Moved memory.cursor x' := by
  apply (ends_seek hwords target).mono
  · intro place s' hout
    obtain ⟨hplace, rfl⟩ := hout
    obtain ⟨hdestination, hle⟩ := SeekTarget.resolve_eq_ok_iff.mp hplace
    have hwords' : (memory.moveTo place).Words := ⟨le_maxWord hle, hwords.length_le⟩
    exact ⟨_, ⟨hdestination, hle, Bearing.moved_ofBase⟩, hasBearing_ofDevice hwords'⟩
  · intro e s' hout
    obtain ⟨cause, hcause, -, rfl⟩ := hout
    obtain ⟨-, hfar⟩ := SeekTarget.resolve_eq_error_iff.mp hcause
    exact ⟨_, ⟨hfar, Bearing.moved_ofBase⟩, hasBearing_ofDevice hwords⟩

omit [Cancellation ω] in
theorem movesBearing_read (hwords : memory.Words) (room : Nat)
    {bad : StreamError → Bearing → Prop} :
    (read room : StreamM ω (DeviceStream MemoryDevice) Bytes).MovesBearing HasBearing
      (ofDevice memory access, w)
      (fun bytes x' => bytes.length ≤ room ∧
        (Bearing.ofBase memory.cursor memory.content.length False).Led
          (memory.cursor + bytes.length) x') bad := by
  have hread : (read room : StreamM ω (DeviceStream MemoryDevice) Bytes)
      (ofDevice memory access, w) = .ok (memory.content.window memory.cursor room)
        (ofDevice { memory with
          cursor := memory.cursor + (memory.content.window memory.cursor room).length } access,
          w) := onDevice_of_eq_ok rfl access
  have hlength := Bytes.length_window memory.content memory.cursor room
  have hcursor := hwords.cursor_le
  have hend := hwords.length_le
  refine StreamM.ends_of_eq_ok hread ⟨_, ⟨?_, ?_⟩, hasBearing_ofDevice ⟨?_, hend⟩⟩
  · omega
  · apply Bearing.led_ofBase
    omega
  · show memory.cursor + (memory.content.window memory.cursor room).length ≤ maxWord
    omega

omit [Cancellation ω] in
theorem movesBearing_write (hwords : memory.Words) (hlength : memory.content.length ≤ maxPosition)
    {data : Bytes} (hfits : memory.cursor + data.length ≤ maxPosition) :
    (write data : StreamM ω (DeviceStream MemoryDevice) Unit).MovesBearing HasBearing
      (ofDevice memory access, w)
      (fun _ x' => x'.origin = 0 ∧ x'.ranged ∧ memory.cursor ≤ x'.mark)
      fun _ x' => x'.origin = 0 ∧ x'.ranged ∧ memory.cursor ≤ x'.mark := by
  have hcursor : memory.cursor ≤ maxPosition := Nat.le_trans (Nat.le_add_right _ _) hfits
  apply StreamM.ends_bind_of_eq_ok (onDevice_of_eq_ok rfl access)
  apply StreamM.ends_bind_of_eq_ok rfl
  dsimp only
  split
  · refine ⟨_, ?_, hasBearing_ofDevice hwords⟩
    exact ⟨rfl, ⟨hcursor, hlength⟩, Nat.le_refl _⟩
  · have hput : (memory.put data).content.length ≤ maxPosition := by
      show (memory.content.splice memory.cursor data).length ≤ maxPosition
      rw [Bytes.length_splice]
      exact Nat.max_le.mpr ⟨hlength, hfits⟩
    have hwords' : (memory.put data).Words := ⟨le_maxWord hfits, le_maxWord hput⟩
    refine StreamM.ends_of_eq_ok
      (onDevice_of_eq_ok (MemoryDevice.writePatiently_eq memory data w) access) ?_
    refine ⟨_, ?_, hasBearing_ofDevice hwords'⟩
    exact ⟨rfl, ⟨hfits, hput⟩, Nat.le_add_right _ _⟩

omit [Cancellation ω] in
theorem movesBearing_setLength (hwords : memory.Words) (hcursor : memory.cursor ≤ maxPosition)
    (hlength : memory.content.length ≤ maxPosition) (size : Nat) :
    (setLength size : StreamM ω (DeviceStream MemoryDevice) Unit).MovesBearing HasBearing
      (ofDevice memory access, w)
      (fun _ x' => x'.origin = 0 ∧ x'.ranged ∧ memory.cursor ≤ x'.mark)
      fun _ x' => x'.origin = 0 ∧ x'.ranged ∧ memory.cursor ≤ x'.mark := by
  have hself : ∃ x', (x'.origin = 0 ∧ x'.ranged ∧ memory.cursor ≤ x'.mark) ∧
      HasBearing (ofDevice memory access, w) x' :=
    ⟨.ofBase memory.cursor memory.content.length False,
      ⟨rfl, ⟨hcursor, hlength⟩, Nat.le_refl _⟩, hasBearing_ofDevice hwords⟩
  apply StreamM.ends_bind_of_eq_ok (onDevice_of_eq_ok rfl access)
  apply StreamM.ends_bind_of_eq_ok rfl
  dsimp only
  split
  · exact hself
  split
  · exact hself
  · rename_i hsize
    have hresized : (memory.content.resize size).length ≤ maxPosition := by
      rw [Bytes.length_resize]
      exact Nat.le_of_not_lt hsize
    have hwords' : MemoryDevice.Words { memory with content := memory.content.resize size } :=
      ⟨hwords.cursor_le, le_maxWord hresized⟩
    refine StreamM.ends_of_eq_ok (onDevice_of_eq_ok rfl access) ?_
    refine ⟨_, ?_, hasBearing_ofDevice hwords'⟩
    exact ⟨rfl, ⟨hcursor, hresized⟩, Nat.le_refl _⟩

theorem movesBearing_setPosition (hwords : memory.Words) (target : Nat) :
    (ByteStream.setPosition target : StreamM ω (DeviceStream MemoryDevice) Unit).MovesBearing
      HasBearing
      (ofDevice memory access, w)
      (fun _ => (Bearing.ofBase memory.cursor memory.content.length False).Moved target)
      fun _ x' => maxPosition < target ∧
        (Bearing.ofBase memory.cursor memory.content.length False).Moved memory.cursor x' := by
  apply StreamM.MovesBearing.bind
    ((movesBearing_seek hwords (.fromStart target)).mono (fun _ _ h => h) ?_)
  · intro place x' s' hout hs'
    obtain ⟨hplace, -, hmoved⟩ := hout
    obtain rfl : target = place := Int.ofNat_inj.mp hplace
    exact StreamM.movesBearing_pure hs' hmoved
  · intro e x' hout
    obtain ⟨hfar, hmoved⟩ := hout
    have hfar : (target : Int) < 0 ∨ (maxPosition : Int) < target := hfar
    exact ⟨by omega, hmoved⟩

/-- **A stream over memory** is moved as its bearing says. -/
theorem followsBearing :
    FollowsBearing ω (HasBearing : DeviceStream MemoryDevice × ω → Bearing → Prop) where
  range := by
    intro s x hs hranged
    obtain ⟨memory, access, -, -, rfl⟩ := hs
    exact ⟨Nat.zero_le _, hranged.1⟩
  position := by
    intro s x hs
    obtain ⟨stream, w⟩ := s
    obtain ⟨memory, access, rfl, hwords, rfl⟩ := hs
    exact StreamM.ends_of_eq_ok (onDevice_of_eq_ok (operate_here hwords) access)
      ⟨Nat.zero_add _, rfl⟩
  length := by
    intro s x hs
    obtain ⟨stream, w⟩ := s
    obtain ⟨memory, access, rfl, hwords, rfl⟩ := hs
    exact onDevice_of_eq_ok (measure_apply hwords) access
  setPosition := by
    intro s x hs target
    obtain ⟨stream, w⟩ := s
    obtain ⟨memory, access, rfl, hwords, rfl⟩ := hs
    have hzero : (Bearing.ofBase memory.cursor memory.content.length False).origin + target =
        target := Nat.zero_add target
    rw [hzero]
    exact movesBearing_setPosition hwords target
  seek := by
    intro s x hs target
    obtain ⟨stream, w⟩ := s
    obtain ⟨memory, access, rfl, hwords, rfl⟩ := hs
    exact (movesBearing_seek hwords target).leads_ofBase
  read := by
    intro s x hs mode room
    obtain ⟨stream, w⟩ := s
    obtain ⟨memory, access, rfl, hwords, rfl⟩ := hs
    apply Mode.ends_checkToken_bind
    · intro _
      exact ⟨_, Bearing.led_self _, hasBearing_ofDevice hwords⟩
    · intro _
      exact (movesBearing_read hwords room).mono (fun _ _ hout => hout.2) fun _ _ hout => hout
  readByte := by
    intro s x hs
    obtain ⟨stream, w⟩ := s
    obtain ⟨memory, access, rfl, hwords, rfl⟩ := hs
    apply StreamM.MovesBearing.bind (movesBearing_read hwords 1)
    intro bytes x' s' hout hs'
    obtain ⟨hroom, hled⟩ := hout
    refine StreamM.movesBearing_pure hs' ?_
    rw [Bytes.length_head? hroom]
    exact hled
  placeless := by
    intro s x hs request hplaceless
    obtain ⟨stream, w⟩ := s
    obtain ⟨memory, access, rfl, hwords, rfl⟩ := hs
    have hself : ∃ x', (Bearing.ofBase memory.cursor memory.content.length False).Led
        memory.cursor x' ∧ HasBearing (ofDevice memory access, w) x' :=
      ⟨_, Bearing.led_self (.ofBase memory.cursor memory.content.length False),
        hasBearing_ofDevice hwords⟩
    cases request with
    | flush mode =>
      apply Mode.ends_checkToken_bind
      · intro _
        exact hself
      · intro _
        exact StreamM.ends_of_eq_ok (onDevice_of_eq_ok rfl access) hself
    | timeout direction => exact hself
    | setTimeout direction limit => exact hself
    | _ => cases hplaceless
  mutating := by
    intro s x hs hranged request hmutates hfits
    obtain ⟨stream, w⟩ := s
    obtain ⟨memory, access, rfl, hwords, rfl⟩ := hs
    obtain ⟨hcursor, hlength⟩ :
      memory.cursor ≤ maxPosition ∧ memory.content.length ≤ maxPosition := hranged
    cases request with
    | setLength size =>
      have hfloor : min memory.cursor (0 + size) ≤ memory.cursor := Nat.min_le_left _ _
      apply (movesBearing_setLength hwords hcursor hlength size).mono
      · intro _ x' hout
        exact ⟨hout.1, hout.2.1, Nat.le_trans hfloor hout.2.2⟩
      · intro _ x' hout
        exact ⟨hout.1, hout.2.1, Nat.le_trans hfloor hout.2.2⟩
    | write mode data =>
      have hfits : memory.cursor + data.length ≤ maxPosition := hfits.resolve_left id
      apply Mode.ends_checkToken_bind
      · intro _
        exact ⟨.ofBase memory.cursor memory.content.length False,
          ⟨rfl, ⟨hcursor, hlength⟩, Nat.le_refl _⟩, hasBearing_ofDevice hwords⟩
      · intro _
        exact movesBearing_write hwords hlength hfits
    | writeByte byte =>
      have hfits : memory.cursor + 1 ≤ maxPosition := hfits.resolve_left id
      exact movesBearing_write hwords hlength hfits
    | _ => cases hmutates

end DeviceStream

end Bases

/-! ## Windows -/

section Layers

variable {ω σ τ : Type} {bearing : σ × ω → Bearing → Prop}

/-- A stream that is embedded, with its bearing. -/
def Along (f : σ → τ) (bearing : σ × ω → Bearing → Prop) (s : τ × ω) (x : Bearing) : Prop :=
  StreamM.Held f (bearing · x) s

theorem along_mk (f : σ → τ) {part : σ} {w : ω} {x : Bearing} (h : bearing (part, w) x) :
    Along f bearing (f part, w) x := ⟨part, rfl, h⟩

theorem StreamM.MovesBearing.of_hasBearing {α : Type} {bearing bearing' : σ × ω → Bearing → Prop}
    {act : StreamM ω σ α} {s : σ × ω} {good : α → Bearing → Prop}
    {bad : StreamError → Bearing → Prop}
    (h : act.MovesBearing bearing s good bad) (himp : ∀ {s x}, bearing s x → bearing' s x) :
    act.MovesBearing bearing' s good bad := by
  apply StreamM.Ends.mono h
  · intro value s' hout
    obtain ⟨x, hx, hs'⟩ := hout
    exact ⟨x, hx, himp hs'⟩
  · intro e s' hout
    obtain ⟨x, hx, hs'⟩ := hout
    exact ⟨x, hx, himp hs'⟩

namespace FollowsBearing

/-- A stream that is embedded with its answers keeps its bearing. -/
theorem along [ByteStream ω σ] [ByteStream ω τ] (h : FollowsBearing ω bearing) {f : σ → τ}
    (hcarries : ∀ request : Request, StreamM.Carries f
      (ByteStream.perform request : StreamM ω σ request.Answer) (ByteStream.perform request)) :
    FollowsBearing ω (Along f bearing) := by
  have hmoves : ∀ {request : Request} {part : σ} {w : ω} {good : request.Answer → Bearing → Prop}
      {bad : StreamError → Bearing → Prop},
      (ByteStream.perform request : StreamM ω σ request.Answer).MovesBearing bearing (part, w)
        good bad →
      (ByteStream.perform request : StreamM ω τ request.Answer).MovesBearing (Along f bearing)
        (f part, w) good bad := by
    intro request part w good bad hpart
    exact hpart.carried (hcarries request) (fun hs => along_mk f hs) (fun _ _ h => h)
      fun _ _ h => h
  constructor
  case range =>
    intro s x hs
    obtain ⟨part, -, hpart⟩ := hs
    exact h.range hpart
  case position =>
    intro s x hs
    obtain ⟨stream, w⟩ := s
    obtain ⟨part, rfl, hpart⟩ := hs
    exact (hcarries .position).ends_same (h.position hpart)
  case length =>
    intro s x hs
    obtain ⟨stream, w⟩ := s
    obtain ⟨part, rfl, hpart⟩ := hs
    exact (hcarries .length).eq_ok (h.length hpart)
  all_goals
    intro s x hs
    obtain ⟨stream, w⟩ := s
    obtain ⟨part, rfl, hpart⟩ := hs
  case setPosition => exact fun target => hmoves (h.setPosition hpart target)
  case seek => exact fun target => hmoves (h.seek hpart target)
  case read => exact fun mode room => hmoves (h.read hpart mode room)
  case readByte => exact hmoves (h.readByte hpart)
  case placeless =>
    exact fun request hplaceless => hmoves (h.placeless hpart request hplaceless)
  case mutating =>
    exact fun hranged request hmutates hfits =>
      hmoves (h.mutating hpart hranged request hmutates hfits)

/-- A stream is moved as its bearing says if that is so of parts that cover its states. -/
theorem of_cover [ByteStream ω σ]
    (hcover : ∀ {s : σ × ω} {x : Bearing}, bearing s x → ∃ part : σ × ω → Bearing → Prop,
      part s x ∧ FollowsBearing ω part ∧ ∀ {s x}, part s x → bearing s x) :
    FollowsBearing ω bearing := by
  constructor
  case range =>
    intro s x hs
    obtain ⟨part, hpart, h, -⟩ := hcover hs
    exact h.range hpart
  case position =>
    intro s x hs
    obtain ⟨part, hpart, h, -⟩ := hcover hs
    exact h.position hpart
  case length =>
    intro s x hs
    obtain ⟨part, hpart, h, -⟩ := hcover hs
    exact h.length hpart
  all_goals
    intro s x hs
    obtain ⟨part, hpart, h, himp⟩ := hcover hs
  case setPosition => exact fun target => (h.setPosition hpart target).of_hasBearing himp
  case seek => exact fun target => (h.seek hpart target).of_hasBearing himp
  case read => exact fun mode room => (h.read hpart mode room).of_hasBearing himp
  case readByte => exact (h.readByte hpart).of_hasBearing himp
  case placeless =>
    exact fun request hplaceless => (h.placeless hpart request hplaceless).of_hasBearing himp
  case mutating =>
    exact fun hranged request hmutates hfits =>
      (h.mutating hpart hranged request hmutates hfits).of_hasBearing himp

end FollowsBearing

namespace Window

/-- The bearing of a window is that of what it consists of. -/
def HasBearing (bearing : σ × ω → Bearing → Prop) : Window σ × ω → Bearing → Prop
  | (.unwrapped stream, w) => bearing (stream, w)
  | (.rebased layer, w) => Rebased.HasBearing (Passthrough.HasBearing bearing) (layer, w)
  | (.truncated layer, w) => Truncated.HasBearing (Passthrough.HasBearing bearing) (layer, w)
  | (.rebasedTruncated layer, w) =>
    Truncated.HasBearing (Passthrough.HasBearing
      (Rebased.HasBearing (Passthrough.HasBearing bearing))) (layer, w)

/-- **A window** is moved as its bearing says. -/
theorem followsBearing [ByteStream ω σ] (h : FollowsBearing ω bearing) :
    FollowsBearing ω (HasBearing bearing) := by
  have hlayer := Passthrough.followsBearing h
  have hrebased := Rebased.followsBearing hlayer
  have htruncated := Truncated.followsBearing hlayer Passthrough.ensureOpen_of_hasBearing
  have hboth := Truncated.followsBearing (Passthrough.followsBearing hrebased)
    Passthrough.ensureOpen_of_hasBearing
  apply FollowsBearing.of_cover
  intro s x hs
  obtain ⟨window, w⟩ := s
  cases window with
  | unwrapped stream =>
    refine ⟨Along unwrapped bearing, ⟨stream, rfl, hs⟩, h.along fun _ _ _ => rfl, ?_⟩
    intro ⟨_, w⟩ x ⟨part, heq, hpart⟩
    obtain rfl := heq
    exact hpart
  | rebased layer =>
    refine ⟨Along rebased _, ⟨layer, rfl, hs⟩, hrebased.along fun _ _ _ => rfl, ?_⟩
    intro ⟨_, w⟩ x ⟨part, heq, hpart⟩
    obtain rfl := heq
    exact hpart
  | truncated layer =>
    refine ⟨Along truncated _, ⟨layer, rfl, hs⟩, htruncated.along fun _ _ _ => rfl, ?_⟩
    intro ⟨_, w⟩ x ⟨part, heq, hpart⟩
    obtain rfl := heq
    exact hpart
  | rebasedTruncated layer =>
    refine ⟨Along rebasedTruncated _, ⟨layer, rfl, hs⟩, hboth.along fun _ _ _ => rfl, ?_⟩
    intro ⟨_, w⟩ x ⟨part, heq, hpart⟩
    obtain rfl := heq
    exact hpart

end Window

/-! ## Layers of any kind, and stacks -/

namespace LayerKind

/-- The bearing of a layer of a kind. -/
def HasBearing (bearing : σ × ω → Bearing → Prop) :
    (kind : LayerKind) → kind.Over σ × ω → Bearing → Prop
  | passthrough => Passthrough.HasBearing bearing
  | rebased => Rebased.HasBearing (Passthrough.HasBearing bearing)
  | truncated => Truncated.HasBearing (Passthrough.HasBearing bearing)
  | readOnly => ReadOnly.HasBearing (Passthrough.HasBearing bearing)
  | cached => Cached.HasBearing (Passthrough.HasBearing bearing)
  | window => Window.HasBearing bearing

/-- **A layer of any kind is moved as its bearing says, if the stream below is.** -/
theorem followsBearing [Cancellation ω] [ByteStream ω σ] (h : FollowsBearing ω bearing) :
    ∀ kind : LayerKind, FollowsBearing ω (kind.HasBearing bearing)
  | passthrough => Passthrough.followsBearing h
  | rebased => Rebased.followsBearing (Passthrough.followsBearing h)
  | truncated =>
    Truncated.followsBearing (Passthrough.followsBearing h) Passthrough.ensureOpen_of_hasBearing
  | readOnly => ReadOnly.followsBearing (Passthrough.followsBearing h)
  | cached =>
    Cached.followsBearing (Passthrough.followsBearing h) Passthrough.ensureOpen_of_hasBearing
  | window => Window.followsBearing h

end LayerKind

end Layers

/-- The bearing of a stream of zeros or over memory. -/
def ResizedBase.HasBearing {ω : Type} : (base : ResizedBase) → base.Over × ω → Bearing → Prop
  | .zeros => Zeros.HasBearing
  | .memory => DeviceStream.HasBearing

theorem ResizedBase.followsBearing {ω : Type} [Cancellation ω] (base : ResizedBase) :
    FollowsBearing ω (base.HasBearing : base.Over × ω → Bearing → Prop) := by
  cases base with
  | zeros => exact Zeros.followsBearing
  | memory => exact DeviceStream.followsBearing

namespace Stack

variable {ω β : Type} {stands : β × ω → Bearing → Prop}

/-- The bearing of a stack of open layers, from that of its base. -/
def HasBearing (stands : β × ω → Bearing → Prop) :
    (kinds : List LayerKind) → Stack kinds β × ω → Bearing → Prop
  | [] => stands
  | kind :: kinds => kind.HasBearing (HasBearing stands kinds)

/-- **A stack is moved as its bearing says, if its base is.** The recursion is on the layers. -/
theorem followsBearing [Cancellation ω] [ByteStream ω β] (h : FollowsBearing ω stands) :
    ∀ kinds : List LayerKind, FollowsBearing ω (HasBearing stands kinds)
  | [] => h
  | kind :: kinds => kind.followsBearing (followsBearing h kinds)

end Stack

end LayeredStreams
