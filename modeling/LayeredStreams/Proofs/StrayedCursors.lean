import LayeredStreams.Proofs.HiddenCursors
import LayeredStreams.Proofs.Preserved
import LayeredStreams.Proofs.Resizing

/-!
# Cursors that strayed within range

With several cached layers in a stack the streams between them keep cursors of their own, which
matters for a stream that cannot follow to where such a cursor is. As long as every cursor is in
range, each stream can follow.

* `Reaching reaches strayed` — streams that strayed can be moved to whatever places they reach, and
  nothing takes a place out of their reach.
* `Zeros.Strayed`, `DeviceStream.Strayed` — two streams of the same content that differ in the
  cursor.

Principal results: `Zeros.reaching` and `DeviceStream.reaching` (what bases reach), and `reaching`
of each layer that has no blocks (it reaches what the stream below does, or what lies behind its
origin).
-/

set_option autoImplicit false

namespace LayeredStreams

namespace StreamM

variable {ω σ α : Type} {pre good bad : σ → σ → Prop}

/-- What goes on from two states, which are still the states. -/
theorem alike_state_bind_self {next next' : σ → StreamM ω σ α}
    (h : ∀ state state', pre state state' →
      Alike (fun t t' => t = state ∧ t' = state') good bad (next state) (next' state')) :
    Alike pre good bad (StreamM.state >>= next) (StreamM.state >>= next') :=
  fun state state' w hpre => h state state' hpre state state' w ⟨rfl, rfl⟩

/-- Two computations that are carried come to the same as they do alone. -/
theorem Alike.carried {τ : Type} {f : σ → τ} {act act' : StreamM ω σ α}
    {carried carried' : StreamM ω τ α} {good' bad' : τ → τ → Prop}
    (h : Alike pre good bad act act') (hcarries : Carries f act carried)
    (hcarries' : Carries f act' carried')
    (hgood : ∀ {part part'}, good part part' → good' (f part) (f part'))
    (hbad : ∀ {part part'}, bad part part' → bad' (f part) (f part')) {part part' : σ}
    (hpre : pre part part') :
    Alike (fun t t' => t = f part ∧ t' = f part') good' bad' carried carried' := by
  intro t t' w hparts
  obtain ⟨rfl, rfl⟩ := hparts
  rw [hcarries, hcarries']
  rcases h.cases hpre w with ⟨_, _, _, _, heq, heq', h⟩ | ⟨_, _, _, _, heq, heq', h⟩
  · rw [heq, heq']
    exact ⟨rfl, rfl, hgood h⟩
  · rw [heq, heq']
    exact ⟨rfl, rfl, hbad h⟩

end StreamM

/-- Streams that strayed reach the same places, can be moved to any that they reach, and have
strayed no further then; and whatever they are asked, they reach these places afterwards. -/
structure Reaching (ω : Type) {σ : Type} [ByteStream ω σ] (reaches : σ → Nat → Prop)
    (strayed : σ → σ → Prop) : Prop where
  trans : ∀ {first second third}, strayed first second → strayed second third →
    strayed first third
  reaches_iff : ∀ {stream stream'}, strayed stream stream' →
    ∀ place, reaches stream place ↔ reaches stream' place
  kept : ∀ place, ByteStream.PreservesOn ω (fun _ => True)
    (Amid (reaches · place) fun _ : ω => True)
  setPosition : ∀ place place' : Nat, StreamM.Alike
    (fun stream stream' => strayed stream stream' ∧ reaches stream place ∧ reaches stream' place')
    strayed strayed (ByteStream.setPosition place : StreamM ω σ Unit)
    (ByteStream.setPosition place')

/-! ## Bases -/

section Bases

variable {ω : Type} [Cancellation ω]

namespace Zeros

/-- Two streams of zeros that differ in the cursor. -/
def Strayed (zeros zeros' : Zeros) : Prop := ∃ cursor, zeros' = { zeros with cursor := cursor }

omit [Cancellation ω] in
/-- What comes after a look whether the stream is disposed. -/
theorem alike_opened_bind {α : Type} {good : Zeros → Zeros → Prop}
    {next next' : Zeros → StreamM ω Zeros α}
    (h : ∀ zeros zeros', Strayed zeros zeros' →
      StreamM.Alike Strayed good Strayed (next zeros) (next' zeros')) :
    StreamM.Alike Strayed good Strayed (opened >>= next) (opened >>= next') := by
  unfold opened
  rw [bind_assoc, bind_assoc]
  apply StreamM.alike_state_bind
  intro zeros zeros' hstrayed
  obtain ⟨cursor, rfl⟩ := hstrayed
  dsimp only
  split
  · have hrefuse : StreamM.Alike Strayed (fun _ _ => False) Strayed
        (StreamM.refuse .disposed : StreamM ω Zeros Zeros) (StreamM.refuse .disposed) :=
      StreamM.alike_refuse (fun _ _ h => h) _
    exact hrefuse.bind fun _ _ _ _ hfalse => hfalse.elim
  · exact h zeros _ ⟨cursor, rfl⟩

omit [Cancellation ω] in
theorem alike_moveTo (place : Nat) {bad : Zeros → Zeros → Prop} :
    StreamM.Alike Strayed (fun zeros zeros' => zeros = zeros') bad
      (StreamM.update fun zeros => { zeros with cursor := place } : StreamM ω Zeros Unit)
      (StreamM.update fun zeros => { zeros with cursor := place }) := by
  apply StreamM.alike_update
  intro zeros zeros' hstrayed
  obtain ⟨cursor, rfl⟩ := hstrayed
  rfl

theorem settles : Settles ω Strayed fun zeros zeros' => zeros = zeros' where
  drifted_self zeros := ⟨zeros.cursor, rfl⟩
  drifted_of_agreed {zeros zeros'} heq := by
    subst heq
    exact ⟨zeros.cursor, rfl⟩
  looks := by
    intro zeros zeros' hstrayed w
    obtain ⟨cursor, rfl⟩ := hstrayed
    exact ⟨rfl, fun _ => rfl⟩
  setPosition target := by
    apply alike_opened_bind
    intro _ _ _
    split
    · exact alike_moveTo target
    · exact StreamM.alike_refuse (fun _ _ h => h) _
  seek offset := by
    apply alike_opened_bind
    intro zeros zeros' _
    rw [SeekTarget.resolve_fromStart, SeekTarget.resolve_fromStart]
    apply (StreamM.alike_ofExcept (fun _ _ h => h) (fun _ _ h => h) _).bind
    intro place
    exact (alike_moveTo place).bind fun _ => StreamM.alike_pure (fun _ _ h => h) place
  still request hkeeps := by
    have hrefuse : ∀ {α : Type} (cause : Refusal), StreamM.Alike Strayed Strayed Strayed
        (StreamM.refuse cause : StreamM ω Zeros α) (StreamM.refuse cause) :=
      fun cause => StreamM.alike_refuse (fun _ _ h => h) cause
    cases request with
    | length =>
      apply alike_opened_bind
      intro zeros zeros' hstrayed
      obtain ⟨cursor, rfl⟩ := hstrayed
      exact StreamM.alike_pure (fun _ _ h => h) zeros.size
    | flush mode =>
      apply (StreamM.alike_admission mode (fun _ _ h => h) fun _ _ h => h).bind
      intro _
      exact alike_opened_bind fun _ _ _ => StreamM.alike_pure (fun _ _ h => h) ()
    | timeout direction => exact hrefuse _
    | setTimeout direction limit => exact hrefuse _
    | dispose =>
      have hdispose : StreamM.Alike Strayed Strayed Strayed
          (StreamM.update fun zeros => { zeros with disposed := true } : StreamM ω Zeros Unit)
          (StreamM.update fun zeros => { zeros with disposed := true }) := by
        apply StreamM.alike_update
        intro zeros zeros' hstrayed
        obtain ⟨cursor, rfl⟩ := hstrayed
        exact ⟨cursor, rfl⟩
      exact hdispose
    | _ => cases hkeeps
  agrees := ByteStream.agrees_self

theorem reaching : Reaching ω (fun (_ : Zeros) place => place ≤ maxPosition) Strayed where
  trans hfirst hsecond := by
    obtain ⟨_, rfl⟩ := hfirst
    obtain ⟨cursor, rfl⟩ := hsecond
    exact ⟨cursor, rfl⟩
  reaches_iff _ _ := Iff.rfl
  kept place request _ s hs := StreamM.ends_of_final ⟨hs.1, trivial⟩
  setPosition place place' := by
    intro zeros zeros' w hpre
    obtain ⟨hstrayed, hle, hle'⟩ := hpre
    have halike : StreamM.Alike Strayed Strayed Strayed
        (ByteStream.setPosition place : StreamM ω Zeros Unit)
        (ByteStream.setPosition place') := by
      apply alike_opened_bind
      intro _ _ _
      rw [if_pos hle, if_pos hle']
      apply StreamM.alike_update
      intro zeros zeros' hstrayed
      obtain ⟨cursor, rfl⟩ := hstrayed
      exact ⟨place', rfl⟩
    exact halike zeros zeros' w hstrayed

end Zeros

namespace DeviceStream

open MemoryDevice

/-- Two streams over memory that are the same or differ in the cursor, which is a machine word. -/
inductive Strayed : DeviceStream MemoryDevice → DeviceStream MemoryDevice → Prop
  | same (stream : DeviceStream MemoryDevice) : Strayed stream stream
  | moved {memory : MemoryDevice} {cursor : Nat} (hcursor : memory.cursor ≤ maxWord)
    (hcursor' : cursor ≤ maxWord) (access : Access) :
    Strayed (ofDevice memory access) (ofDevice (memory.moveTo cursor) access)

omit [Cancellation ω] in
/-- What leaves streams that strayed as they are, and tells the same of them. -/
theorem alike_strayed {α : Type} {act : StreamM ω (DeviceStream MemoryDevice) α}
    {good : DeviceStream MemoryDevice → DeviceStream MemoryDevice → Prop}
    (hgood : ∀ stream, good stream stream)
    (h : ∀ {memory : MemoryDevice} {cursor : Nat}, memory.cursor ≤ maxWord → cursor ≤ maxWord →
      ∀ access, StreamM.Alike
        (fun stream stream' => stream = ofDevice memory access ∧
          stream' = ofDevice (memory.moveTo cursor) access) good Strayed act act) :
    StreamM.Alike Strayed good Strayed act act := by
  intro stream stream' w hstrayed
  cases hstrayed with
  | same =>
    have hself : StreamM.Alike (fun stream stream' => stream = stream') good Strayed act act := by
      apply (StreamM.alike_self act).mono
      · intro stream stream' heq
        exact heq ▸ hgood stream
      · intro stream stream' heq
        exact heq ▸ Strayed.same stream
    exact hself stream stream w rfl
  | moved hcursor hcursor' access => exact h hcursor hcursor' access _ _ w ⟨rfl, rfl⟩

omit [Cancellation ω] in
/-- A place that is told from the start is the same for both. -/
theorem alike_operate_seek (place : Nat) :
    StreamM.Alike Strayed (fun stream stream' => stream = stream') Strayed
      (onDevice (Device.operate (.seek (.fromStart place))) :
        StreamM ω (DeviceStream MemoryDevice) Nat)
      (onDevice (Device.operate (.seek (.fromStart place)))) := by
  apply alike_strayed fun _ => rfl
  intro memory cursor hcursor hcursor' access stream stream' w hstreams
  obtain ⟨rfl, rfl⟩ := hstreams
  by_cases hplace : place ≤ maxWord
  · rw [onDevice_of_eq_ok (operate_seek rfl hplace) access,
      onDevice_of_eq_ok (operate_seek rfl hplace) access]
    exact ⟨rfl, rfl, rfl⟩
  · have hfar : ∀ memory : MemoryDevice,
        (onDevice (Device.operate (.seek (.fromStart place))) :
          StreamM ω (DeviceStream MemoryDevice) Nat) (ofDevice memory access, w) =
            .error badSeek.toStreamError (ofDevice memory access, w) := by
      intro memory
      simp [onDevice, ofDevice, Device.operate, operate, SeekTarget.destination, hplace]
    rw [hfar, hfar]
    exact ⟨rfl, rfl, .moved hcursor hcursor' access⟩

omit [Cancellation ω] in
/-- A content that is longer than the machine can tell has no length. -/
theorem measure_of_long {memory : MemoryDevice} (hcursor : memory.cursor ≤ maxWord)
    (hlong : ¬ memory.content.length ≤ maxWord) (w : ω) :
    (Device.measure : DeviceM ω MemoryDevice Nat) (memory, w) = .error badSeek (memory, w) := by
  have hhere : (Device.operate (.seek (.fromCurrent 0)) : DeviceM ω MemoryDevice Nat) (memory, w) =
      .ok memory.cursor (memory, w) := operate_seek (Int.add_zero _) hcursor
  have hend : (Device.operate (.seek (.fromEnd 0)) : DeviceM ω MemoryDevice Nat) (memory, w) =
      .error badSeek (memory, w) := by
    simp [Device.operate, operate, SeekTarget.destination, hlong]
  simp only [Device.measure, bind, EStateM.bind, hhere, hend]

omit [Cancellation ω] in
theorem alike_measure :
    StreamM.Alike Strayed Strayed Strayed
      (onDevice Device.measure : StreamM ω (DeviceStream MemoryDevice) Nat)
      (onDevice Device.measure) := by
  apply alike_strayed Strayed.same
  intro memory cursor hcursor hcursor' access stream stream' w hstreams
  obtain ⟨rfl, rfl⟩ := hstreams
  have hstrayed := Strayed.moved hcursor hcursor' access
  by_cases hlength : memory.content.length ≤ maxWord
  · have hwords : memory.Words := ⟨hcursor, hlength⟩
    have hwords' : (memory.moveTo cursor).Words := ⟨hcursor', hlength⟩
    rw [onDevice_of_eq_ok (measure_apply hwords) access,
      onDevice_of_eq_ok (measure_apply hwords') access]
    exact ⟨rfl, rfl, hstrayed⟩
  · have hlong : ∀ memory : MemoryDevice, memory.cursor ≤ maxWord →
        ¬ memory.content.length ≤ maxWord →
        (onDevice Device.measure : StreamM ω (DeviceStream MemoryDevice) Nat)
          (ofDevice memory access, w) =
            .error badSeek.toStreamError (ofDevice memory access, w) := by
      intro memory hcursor hlong
      simp [onDevice, ofDevice, measure_of_long hcursor hlong]
    rw [hlong memory hcursor hlength, hlong (memory.moveTo cursor) hcursor' hlength]
    exact ⟨rfl, rfl, hstrayed⟩

omit [Cancellation ω] in
theorem alike_seek_fromStart (offset : Nat) :
    StreamM.Alike Strayed (fun stream stream' => stream = stream') Strayed
      (seek (.fromStart offset) : StreamM ω (DeviceStream MemoryDevice) Nat)
      (seek (.fromStart offset)) :=
  (StreamM.alike_ofExcept (fun _ _ h => h) (fun _ _ h => h) _).bind fun place =>
    alike_operate_seek place

theorem settles : Settles ω Strayed fun stream stream' => stream = stream' where
  drifted_self := Strayed.same
  drifted_of_agreed {stream stream'} heq := heq ▸ Strayed.same stream
  looks := by
    intro stream stream' hstrayed w
    cases hstrayed with
    | same => exact ⟨rfl, fun _ => rfl⟩
    | moved => exact ⟨rfl, fun _ => rfl⟩
  setPosition target :=
    (alike_seek_fromStart target).bind fun _ => StreamM.alike_pure (fun _ _ h => h) ()
  seek := alike_seek_fromStart
  still request hkeeps := by
    have hrefuse : ∀ {α : Type} (cause : Refusal), StreamM.Alike Strayed Strayed Strayed
        (StreamM.refuse cause : StreamM ω (DeviceStream MemoryDevice) α) (StreamM.refuse cause) :=
      fun cause => StreamM.alike_refuse (fun _ _ h => h) cause
    cases request with
    | length => exact alike_measure
    | flush mode =>
      apply (StreamM.alike_admission mode (fun _ _ h => h) fun _ _ h => h).bind
      intro _
      apply alike_strayed Strayed.same
      intro memory cursor hcursor hcursor' access stream stream' w hstreams
      obtain ⟨rfl, rfl⟩ := hstreams
      exact ⟨rfl, rfl, .moved hcursor hcursor' access⟩
    | timeout direction => exact hrefuse _
    | setTimeout direction limit => exact hrefuse _
    | dispose =>
      apply alike_strayed Strayed.same
      intro memory cursor _ _ access stream stream' w hstreams
      obtain ⟨rfl, rfl⟩ := hstreams
      exact ⟨rfl, rfl, .same _⟩
    | _ => cases hkeeps
  agrees := ByteStream.agrees_self

/-- A stream over memory is taken to a position, unless it was disposed. -/
theorem setPosition_apply {place : Nat} (hplace : place ≤ maxPosition) (slot : Slot MemoryDevice)
    (access : Access) (w : ω) :
    (ByteStream.setPosition place : StreamM ω (DeviceStream MemoryDevice) Unit)
        (⟨slot, access⟩, w) =
      match slot with
      | .live memory => .ok () (ofDevice (memory.moveTo place) access, w)
      | .disposed => .error (.refusal .disposed) (⟨.disposed, access⟩, w) := by
  cases slot with
  | disposed =>
    show (seek (.fromStart place) >>= fun _ => pure ()) _ = _
    unfold seek locate
    rw [SeekTarget.resolve_fromStart, if_pos hplace]
    rfl
  | live memory =>
    have hseek : (onDevice (Device.operate (.seek (.fromStart place))) :
        StreamM ω (DeviceStream MemoryDevice) Nat) (ofDevice memory access, w) =
          .ok place (ofDevice (memory.moveTo place) access, w) :=
      onDevice_of_eq_ok (operate_seek rfl (le_maxWord hplace)) access
    show (seek (.fromStart place) >>= fun _ => pure ()) (ofDevice memory access, w) = _
    unfold seek locate
    rw [SeekTarget.resolve_fromStart, if_pos hplace]
    show (onDevice _ >>= fun _ => pure ()) _ = _
    rw [StreamM.bind_apply, hseek]
    rfl

theorem reaching :
    Reaching ω (fun (_ : DeviceStream MemoryDevice) place => place ≤ maxPosition) Strayed where
  trans {first second third} hfirst hsecond := by
    cases hfirst with
    | same => exact hsecond
    | moved hcursor hcursor' access =>
      cases hsecond with
      | same => exact .moved hcursor hcursor' access
      | moved _ hcursor'' => exact .moved hcursor hcursor'' access
  reaches_iff _ _ := Iff.rfl
  kept place request _ s hs := StreamM.ends_of_final ⟨hs.1, trivial⟩
  setPosition place place' := by
    intro stream stream' w hpre
    obtain ⟨hstrayed, hle, hle'⟩ := hpre
    have hwords := le_maxWord hle
    have hwords' := le_maxWord hle'
    cases hstrayed with
    | same =>
      obtain ⟨slot, access⟩ := stream
      rw [setPosition_apply hle, setPosition_apply hle']
      cases slot with
      | disposed => exact ⟨rfl, rfl, .same _⟩
      | live memory => exact ⟨rfl, rfl, .moved hwords hwords' access⟩
    | moved hcursor hcursor' access =>
      unfold ofDevice
      rw [setPosition_apply hle, setPosition_apply hle']
      exact ⟨rfl, rfl, .moved hwords hwords' access⟩

end DeviceStream

end Bases

/-! ## Layers -/

section Layers

variable {ω σ α : Type} {reaches : σ → Nat → Prop} {strayed agreed : σ → σ → Prop}

namespace Passthrough

/-- An open layer reaches the places that the stream below reaches. -/
def Reaches (reaches : σ → Nat → Prop) (layer : Passthrough σ) (place : Nat) : Prop :=
  Sound (reaches · place) layer

theorem reaching [ByteStream ω σ] (h : Reaching ω reaches strayed) :
    Reaching ω (Reaches reaches) (Beside strayed) where
  trans hfirst hsecond := hfirst.trans hsecond h.trans
  reaches_iff {layer layer'} hbeside place := by
    obtain ⟨slot, ownership⟩ := layer
    obtain ⟨slot', ownership'⟩ := layer'
    obtain ⟨-, hslot⟩ := hbeside
    cases hslot with
    | disposed => exact ⟨fun _ => sound_disposed _, fun _ => sound_disposed _⟩
    | live hstrayed =>
      have hiff := h.reaches_iff hstrayed place
      constructor
      · intro hsound
        apply sound_live
        exact hiff.mp (hsound _ rfl)
      · intro hsound
        apply sound_live
        exact hiff.mpr (hsound _ rfl)
  kept place := preservesOn_sound (h.kept place)
  setPosition place place' := by
    apply (alike_forward (h.setPosition place place')).of_pre
    intro layer layer' hpre
    obtain ⟨slot, ownership⟩ := layer
    obtain ⟨slot', ownership'⟩ := layer'
    obtain ⟨⟨rfl, hslot⟩, hreaches, hreaches'⟩ := hpre
    cases hslot with
    | disposed => exact ⟨rfl, .disposed⟩
    | live hstrayed => exact ⟨rfl, .live ⟨hstrayed, hreaches _ rfl, hreaches' _ rfl⟩⟩

end Passthrough

end Layers

section Parts

variable {ω σ α : Type} {reaches : Passthrough σ → Nat → Prop}
  {strayed : Passthrough σ → Passthrough σ → Prop}

namespace Rebased

/-- A layer reaches the places that are behind its origin below. -/
def Reaches (reaches : Passthrough σ → Nat → Prop) (layer : Rebased σ) (place : Nat) : Prop :=
  place + layer.baseOffset ≤ maxWord ∧ reaches layer.base (place + layer.baseOffset)

theorem baseOffset_eq {layer layer' : Rebased σ} (h : Beside strayed layer layer') :
    layer.baseOffset = layer'.baseOffset := by
  rw [← h.1]

/-- A place that is a machine word below is where the layer below is taken. -/
theorem setPosition_apply [ByteStream ω σ] {layer : Rebased σ} {place : Nat}
    (hword : place + layer.baseOffset ≤ maxWord) (w : ω) :
    (ByteStream.setPosition place : StreamM ω (Rebased σ) Unit) (layer, w) =
      onBase (ByteStream.setPosition (place + layer.baseOffset)) (layer, w) := by
  show (toBase place >>= fun there => onBase (ByteStream.setPosition there)) (layer, w) = _
  rw [StreamM.bind_apply, toBase_eq_ok layer place w hword]

theorem reaching [ByteStream ω σ] (h : Reaching ω reaches strayed) :
    Reaching ω (Reaches reaches) (Beside strayed) where
  trans hfirst hsecond := by
    refine ⟨?_, h.trans hfirst.2 hsecond.2⟩
    rw [← hsecond.1, ← hfirst.1]
  reaches_iff hbeside place := by
    unfold Reaches
    rw [baseOffset_eq hbeside, h.reaches_iff hbeside.2]
  kept place request _ s hs := by
    obtain ⟨layer, w⟩ := s
    obtain ⟨⟨hword, hreaches⟩, -⟩ := hs
    have hkept := preservesOn_countsFrom Request.closed_all
      (h.kept (place + layer.baseOffset)) layer.baseOffset request trivial (layer, w)
      ⟨rfl, hreaches, trivial⟩
    have hback : ∀ s' : Rebased σ × ω, CountsFrom layer.baseOffset
        (Amid (reaches · (place + layer.baseOffset)) fun _ => True) s' →
          Amid (Reaches reaches · place) (fun _ => True) s' := by
      intro s' hs'
      obtain ⟨hoffset, hreaches', -⟩ := hs'
      refine ⟨?_, trivial⟩
      show place + s'.1.baseOffset ≤ maxWord ∧ reaches s'.1.base (place + s'.1.baseOffset)
      rw [hoffset]
      exact ⟨hword, hreaches'⟩
    exact hkept.mono (fun _ => hback) fun _ => hback
  setPosition place place' := by
    intro layer layer' w hpre
    obtain ⟨hbeside, ⟨hword, hreaches⟩, hword', hreaches'⟩ := hpre
    have hbelow := alike_onBase
      (h.setPosition (place + layer.baseOffset) (place' + layer'.baseOffset))
    rw [setPosition_apply hword w, setPosition_apply hword' w]
    exact hbelow layer layer' w ⟨hbeside.1, hbeside.2, hreaches, hreaches'⟩

end Rebased

namespace ReadOnly

theorem reaching [ByteStream ω σ] (h : Reaching ω reaches strayed) :
    Reaching ω (fun (layer : ReadOnly σ) place => reaches layer.base place) (Beside strayed) where
  trans hfirst hsecond := h.trans hfirst hsecond
  reaches_iff hbeside place := h.reaches_iff hbeside place
  kept place := ReadOnly.preservesOn (h.kept place)
  setPosition place place' := alike_onBase (h.setPosition place place')

end ReadOnly

namespace Truncated

theorem reaching [ByteStream ω σ] (h : Reaching ω reaches strayed) :
    Reaching ω (fun (layer : Truncated σ) place => reaches layer.base place)
      (Drifted strayed) where
  trans hfirst hsecond := by
    refine ⟨?_, h.trans hfirst.2 hsecond.2⟩
    rw [← hsecond.1, ← hfirst.1]
  reaches_iff hdrifted place := h.reaches_iff hdrifted.2 place
  kept place := Truncated.preservesOn Request.closed_all (h.kept place)
  setPosition place place' := by
    have hmoved : StreamM.Alike (Drifted strayed) (Drifted strayed) (Drifted strayed)
        (moveTo place : StreamM ω (Truncated σ) Unit) (moveTo place') := by
      apply StreamM.alike_update
      intro layer layer' hdrifted
      refine ⟨?_, hdrifted.2⟩
      rw [← hdrifted.1]
    have hbelow := alike_onBase_of_drifted (h.setPosition place place')
    apply (hbelow.bind fun _ => hmoved).of_pre
    intro layer layer' hpre
    obtain ⟨hdrifted, hreaches, hreaches'⟩ := hpre
    exact ⟨hdrifted.1, hdrifted.2, hreaches, hreaches'⟩

end Truncated

end Parts

end LayeredStreams
