import LayeredStreams.Proofs.Buffers
import LayeredStreams.Proofs.DeviceOutcome
import LayeredStreams.Proofs.MachineLayers

/-!
# Streams and layers that read into buffers

The reads of streams, and of the layers without blocks, as a program makes them: into a buffer that
it hands over, of which a layer may lend a part to the layer below.

* `ReadInto ω σ` — a read into a buffer; `ByteStream.Deposited neat into` — it comes to the read of
  the stream that answers its bytes.
* `Zeros.readInto`, `DeviceStream.readInto` — streams of zeros, and streams over devices that read
  into buffers: `Device.Deposits` says what is asked of the device.
* `Passthrough.readInto`, `Rebased.readInto`, `ReadOnly.readInto`, `Truncated.readInto`,
  `Window.readInto` — the layers.

Principal results: `Zeros.deposited`, `DeviceStream.deposited` (interrupted reads that are made
again leave nothing in the buffer), and `deposited` of each layer.
-/

set_option autoImplicit false

namespace LayeredStreams

/-- A read into a buffer, for each way to wait. -/
abbrev ReadInto (ω σ : Type) := Mode → StreamM (Gauged ω) (σ × Bytes) Nat

/-- To read into a buffer comes to the read of the stream. -/
def ByteStream.Deposited {ω σ : Type} [ByteStream ω σ] (neat : Prop) (into : ReadInto ω σ) : Prop :=
  ∀ mode : Mode, Deposits neat (into mode) (ByteStream.read mode : Nat → StreamM ω σ Bytes)

/-! ## Streams of zeros -/

namespace Zeros

variable {ω : Type}

/-- Put zeros in the first places of the buffer, as far as the length goes. -/
def takeInto : StreamM (Gauged ω) (Zeros × Bytes) Nat := do
  let zeros ← StreamM.beside opened
  let room ← StreamM.bufferLength
  let count := min room (zeros.size - zeros.cursor)
  StreamM.put (Bytes.zeros count)
  StreamM.beside (StreamM.update fun z => { z with cursor := z.cursor + count })
  return count

/-- The read of a stream of zeros into a buffer. -/
def readInto [Cancellation ω] : ReadInto ω Zeros := fun mode => do
  StreamM.beside mode.checkToken
  takeInto

theorem deposits_take : Deposits True (takeInto : StreamM (Gauged ω) (Zeros × Bytes) Nat) take := by
  intro zeros buffer g hbuffer
  cases hdisposed : zeros.disposed with
  | true =>
    have htake : (take buffer.length : StreamM ω Zeros Bytes) (zeros, g.surroundings) =
        .error (.refusal .disposed) (zeros, g.surroundings) := by
      simp only [take, StreamM.bind_apply, opened_of_disposed hdisposed]
    refine StreamM.ends_of_eq_error htake ⟨buffer, rfl, fun _ => rfl, ?_⟩
    simp only [takeInto, StreamM.bind_apply, StreamM.beside, StreamM.within,
      opened_of_disposed hdisposed]
    rfl
  | false =>
    refine StreamM.ends_of_eq_ok (take_of_open hdisposed buffer.length g.surroundings) ?_
    have hcount : (Bytes.zeros (min buffer.length (zeros.size - zeros.cursor))).length =
        min buffer.length (zeros.size - zeros.cursor) := List.length_replicate
    have hfits : min buffer.length (zeros.size - zeros.cursor) ≤ buffer.length :=
      Nat.min_le_left _ _
    rw [hcount]
    refine ⟨hfits, ?_⟩
    simp only [takeInto, StreamM.bind_apply, StreamM.beside, StreamM.within,
      opened_of_open hdisposed, StreamM.bufferLength, StreamM.state_apply, StreamM.pure_apply,
      StreamM.put, hcount, StreamM.sliceTo_apply hfits, StreamM.update_apply]
    rfl

/-- **A stream of zeros puts zeros in the buffer**, and nothing if it refuses. -/
theorem deposited [Cancellation ω] : ByteStream.Deposited True (readInto : ReadInto ω Zeros) :=
  fun mode => Deposits.after (StreamM.plain_checkToken mode) fun _ => deposits_take

end Zeros

/-! ## Streams over devices -/

namespace Device

variable {ω δ : Type} [Device ω δ]

/-- Into whatever buffer a device reads, the bytes that it reads are put in the first places, and
every other place stays. After a failure the buffer is as long as before; it is as before if the
read was interrupted, since then no bytes were read, and where the device is neat. -/
def Deposits (neat : Prop) (into : DeviceM ω (δ × Bytes) Nat) : Prop :=
  ∀ (device : δ) (buffer : Bytes) (w : ω), buffer.length ≤ maxWord →
    (operate (.read buffer.length) : DeviceM ω δ Bytes).Ends (device, w)
      (fun bytes s' => bytes.length ≤ buffer.length ∧
        into ((device, buffer), w) = .ok bytes.length ((s'.1, buffer.overlay 0 bytes), s'.2))
      fun e s' => ∃ left, left.length = buffer.length ∧
        (neat ∨ e.isInterrupted = true → left = buffer) ∧
        into ((device, buffer), w) = .error e ((s'.1, left), s'.2)

/-- The read of a device that touches no place of a buffer but those that it puts bytes in. -/
def readPlainly : DeviceM ω (δ × Bytes) Nat := fun ((device, buffer), w) =>
  match (operate (.read buffer.length) : DeviceM ω δ Bytes) (device, w) with
  | .ok bytes (device, w) => .ok bytes.length ((device, buffer.overlay 0 bytes), w)
  | .error e (device, w) => .error e ((device, buffer), w)

theorem deposits_readPlainly
    (h : ∀ {room : Nat} {s s' : δ × ω} {bytes : Bytes},
      (operate (.read room) : DeviceM ω δ Bytes) s = .ok bytes s' → bytes.length ≤ room) :
    Deposits True (readPlainly : DeviceM ω (δ × Bytes) Nat) := by
  intro device buffer w _
  unfold readPlainly
  dsimp only
  cases hread : (operate (.read buffer.length) : DeviceM ω δ Bytes) (device, w) with
  | ok bytes s' => exact DeviceM.ends_of_eq_ok hread ⟨h hread, rfl⟩
  | error e s' => exact DeviceM.ends_of_eq_error hread ⟨buffer, rfl, fun _ => rfl, rfl⟩

/-- Read into a buffer; an interrupted read is made again, at most `retries` times. -/
def readUninterruptedInto (into : DeviceM ω (δ × Bytes) Nat) :
    (retries : Nat) → DeviceM ω (δ × Bytes) Nat
  | 0 => into
  | retries + 1 => fun s =>
    match into s with
    | .ok count s' => .ok count s'
    | .error e s' => if e.isInterrupted then readUninterruptedInto into retries s' else .error e s'

/-- A read into a buffer that is made again while it is interrupted. -/
def readPatientlyInto (into : DeviceM ω (δ × Bytes) Nat) : DeviceM ω (δ × Bytes) Nat := fun s =>
  readUninterruptedInto into (patience s.1.1 s.2) s

variable {neat : Prop} {into : DeviceM ω (δ × Bytes) Nat}

/-- However often a read is interrupted, it starts over with the buffer as it was. The induction is
on the retries that are left. -/
theorem Deposits.ends_readUninterrupted (h : Deposits neat into) {buffer : Bytes}
    (hbuffer : buffer.length ≤ maxWord) : ∀ (retries : Nat) (device : δ) (w : ω),
      (readUninterrupted buffer.length retries : DeviceM ω δ Bytes).Ends (device, w)
        (fun bytes s' => bytes.length ≤ buffer.length ∧
          readUninterruptedInto into retries ((device, buffer), w) =
            .ok bytes.length ((s'.1, buffer.overlay 0 bytes), s'.2))
        fun e s' => ∃ left, left.length = buffer.length ∧ (neat → left = buffer) ∧
          readUninterruptedInto into retries ((device, buffer), w) = .error e ((s'.1, left), s'.2)
  | 0, device, w => by
    refine (h device buffer w hbuffer).mono (fun _ _ hout => hout) ?_
    rintro e s' ⟨left, hleft, hsame, hinto⟩
    exact ⟨left, hleft, fun hneat => hsame (Or.inl hneat), hinto⟩
  | retries + 1, device, w => by
    have honce := h device buffer w hbuffer
    unfold readUninterrupted readUninterruptedInto DeviceM.Ends
    dsimp only
    cases hread : (operate (.read buffer.length) : DeviceM ω δ Bytes) (device, w) with
    | ok bytes s' =>
      obtain ⟨hlength, hinto⟩ := honce.of_eq_ok hread
      dsimp only
      rw [hinto]
      exact ⟨hlength, rfl⟩
    | error e s' =>
      obtain ⟨left, hleft, hsame, hinto⟩ := honce.of_eq_error hread
      dsimp only
      rw [hinto]
      dsimp only
      by_cases hinterrupted : e.isInterrupted = true
      · rw [if_pos hinterrupted, if_pos hinterrupted, hsame (Or.inr hinterrupted)]
        exact h.ends_readUninterrupted hbuffer retries s'.1 s'.2
      · rw [if_neg hinterrupted, if_neg hinterrupted]
        exact ⟨left, hleft, fun hneat => hsame (Or.inl hneat), rfl⟩

end Device

/-- No fault and no chunk lets a transfer move more than was asked for. -/
theorem ScriptedContent.allowance_le (scripted : ScriptedContent) (asked : Nat)
    (bound : Option Nat) :
    scripted.allowance asked bound ≤ asked := by
  unfold allowance
  cases bound <;> cases scripted.chunk <;> dsimp only [Option.map, Option.getD] <;> omega

/-- A scripted device gives no more bytes than are asked for, so it can put them in a buffer. -/
theorem ScriptedDevice.deposits_readPlainly :
    Device.Deposits True
      (Device.readPlainly : DeviceM Surroundings (ScriptedDevice × Bytes) Nat) := by
  refine Device.deposits_readPlainly fun {room s s' bytes} hread => ?_
  obtain ⟨device, w⟩ := s
  have hlength : (Device.operate (.read room) : DeviceM Surroundings ScriptedDevice Bytes).Ends
      (device, w) (fun bytes _ => bytes.length ≤ room) fun _ _ => True := by
    refine ScriptedDevice.ends_operate (fun _ _ _ => trivial) fun bound w' => ?_
    have hallowed := (device.faulted "read").scripted.allowance_le room bound
    show ((device.faulted "read").scripted.content.window
      (device.faulted "read").scripted.cursor
        ((device.faulted "read").scripted.allowance room bound)).length ≤ room
    rw [Bytes.length_window]
    omega
  exact hlength.of_eq_ok hread

namespace DeviceStream

variable {ω δ : Type}

/-- Run a read into a buffer on the device. -/
def onDeviceInto (act : DeviceM ω (δ × Bytes) Nat) :
    StreamM (Gauged ω) (DeviceStream δ × Bytes) Nat := fun ((stream, buffer), g) =>
  match stream.device with
  | .disposed => .error (.refusal .disposed) ((stream, buffer), g)
  | .live device =>
    match act ((device, buffer), g.surroundings) with
    | .ok count ((device, buffer), w) =>
      .ok count (({ stream with device := .live device }, buffer), g.went w)
    | .error e ((device, buffer), w) =>
      .error e.toStreamError (({ stream with device := .live device }, buffer), g.went w)

variable [Device ω δ]

/-- The read of a stream over a device into a buffer. -/
def readInto [Cancellation ω] (into : DeviceM ω (δ × Bytes) Nat) : ReadInto ω (DeviceStream δ) :=
  fun mode => do
    StreamM.beside mode.checkToken
    onDeviceInto (Device.readPatientlyInto into)

variable {neat : Prop} {into : DeviceM ω (δ × Bytes) Nat}

theorem deposits_read (h : Device.Deposits neat into) :
    Deposits neat (onDeviceInto (Device.readPatientlyInto into))
      (read : Nat → StreamM ω (DeviceStream δ) Bytes) := by
  rintro ⟨slot, access⟩ buffer g hbuffer
  cases slot with
  | disposed => exact ⟨buffer, rfl, fun _ => rfl, rfl⟩
  | live device =>
    have hread := h.ends_readUninterrupted hbuffer (Device.patience device g.surroundings) device
      g.surroundings
    unfold read onDevice onDeviceInto Device.readPatiently Device.readPatientlyInto StreamM.Ends
    dsimp only
    cases heq : (Device.readUninterrupted buffer.length (Device.patience device g.surroundings) :
        DeviceM ω δ Bytes) (device, g.surroundings) with
    | ok bytes s' =>
      obtain ⟨hlength, hinto⟩ := hread.of_eq_ok heq
      dsimp only
      rw [hinto]
      exact ⟨hlength, rfl⟩
    | error e s' =>
      obtain ⟨left, hleft, hneat, hinto⟩ := hread.of_eq_error heq
      dsimp only
      rw [hinto]
      exact ⟨left, hleft, hneat, rfl⟩

/-- **A stream over a device puts in the buffer what the device puts there**, however often the
device is interrupted. -/
theorem deposited [Cancellation ω] (h : Device.Deposits neat into) :
    ByteStream.Deposited neat (readInto into : ReadInto ω (DeviceStream δ)) :=
  fun mode => Deposits.after (StreamM.plain_checkToken mode) fun _ => deposits_read h

end DeviceStream

/-! ## Layers -/

section

variable {ω σ : Type} {neat : Prop}

namespace Passthrough

/-- Run a read into a buffer on the stream below, unless the layer was disposed. -/
def forwardInto (act : StreamM (Gauged ω) (σ × Bytes) Nat) :
    StreamM (Gauged ω) (Passthrough σ × Bytes) Nat := fun ((layer, buffer), g) =>
  match layer.slot with
  | .disposed => .error (.refusal .disposed) ((layer, buffer), g)
  | .live stream =>
    match act ((stream, buffer), g) with
    | .ok count ((stream, buffer), g) =>
      .ok count (({ layer with slot := .live stream }, buffer), g)
    | .error e ((stream, buffer), g) => .error e (({ layer with slot := .live stream }, buffer), g)

/-- The read of a layer that changes nothing. -/
def readInto (below : ReadInto ω σ) : ReadInto ω (Passthrough σ) := fun mode =>
  forwardInto (below mode)

theorem deposits_forward {into : StreamM (Gauged ω) (σ × Bytes) Nat} {act : Nat → StreamM ω σ Bytes}
    (h : Deposits neat into act) :
    Deposits neat (forwardInto into) fun room => forward (act room) := by
  rintro ⟨slot, ownership⟩ buffer g hbuffer
  cases slot with
  | disposed => exact ⟨buffer, rfl, fun _ => rfl, rfl⟩
  | live stream =>
    have hread := h stream buffer g hbuffer
    unfold forward forwardInto StreamM.Ends
    dsimp only
    cases heq : act buffer.length (stream, g.surroundings) with
    | ok bytes s' =>
      obtain ⟨hlength, hinto⟩ := hread.of_eq_ok heq
      dsimp only
      rw [hinto]
      exact ⟨hlength, rfl⟩
    | error e s' =>
      obtain ⟨left, hleft, hneat, hinto⟩ := hread.of_eq_error heq
      dsimp only
      rw [hinto]
      exact ⟨left, hleft, hneat, rfl⟩

variable [ByteStream ω σ] {below : ReadInto ω σ}

theorem deposited (h : ByteStream.Deposited neat below) :
    ByteStream.Deposited neat (readInto below) :=
  fun mode => deposits_forward (h mode)

end Passthrough

namespace Rebased

/-- The read of a rebased layer. -/
def readInto (below : ReadInto ω σ) : ReadInto ω (Rebased σ) := fun mode =>
  StreamM.withinBeside Rebased.base (fun base layer => { layer with base := base })
    (Passthrough.readInto below mode)

theorem deposited [ByteStream ω σ] {below : ReadInto ω σ} (h : ByteStream.Deposited neat below) :
    ByteStream.Deposited neat (readInto below) :=
  fun mode => (Passthrough.deposited h mode).within _ _

end Rebased

namespace ReadOnly

/-- The read of a read-only layer. -/
def readInto (below : ReadInto ω σ) : ReadInto ω (ReadOnly σ) := fun mode =>
  StreamM.withinBeside ReadOnly.base (fun base layer => { layer with base := base })
    (Passthrough.readInto below mode)

theorem deposited [ByteStream ω σ] {below : ReadInto ω σ} (h : ByteStream.Deposited neat below) :
    ByteStream.Deposited neat (readInto below) :=
  fun mode => (Passthrough.deposited h mode).within _ _

end ReadOnly

namespace Truncated

/-- Run a read into a buffer on the layer below. -/
def onBaseInto (act : StreamM (Gauged ω) (Passthrough σ × Bytes) Nat) :
    StreamM (Gauged ω) (Truncated σ × Bytes) Nat :=
  StreamM.withinBeside Truncated.base (fun base layer => { layer with base := base }) act

/-- The read of a truncated layer, which lends the layer below no more places than remain. -/
def readInto (below : ReadInto ω σ) : ReadInto ω (Truncated σ) := fun mode => do
  let room ← StreamM.bufferLength
  let (layer, _) ← StreamM.state
  let count ← StreamM.lend 0 (min room layer.remaining)
    (onBaseInto (Passthrough.readInto below mode))
  StreamM.beside (advance count)
  return count

/-- The layer below has as many places as remain, so the places behind them stay. -/
theorem deposited [ByteStream ω σ] {below : ReadInto ω σ} (h : ByteStream.Deposited neat below) :
    ByteStream.Deposited neat (readInto below) := by
  intro mode layer buffer g hbuffer
  have hbelow : Deposits neat (onBaseInto (Passthrough.readInto below mode))
      fun room => onBase (ByteStream.read mode room) := (Passthrough.deposited h mode).within _ _
  have hfits : 0 + min buffer.length layer.remaining ≤ buffer.length := by omega
  show (read mode buffer.length : StreamM ω (Truncated σ) Bytes).Ends _ _ _
  refine StreamM.ends_state_bind ?_
  dsimp only
  refine ((hbelow.ends_lend layer g hbuffer hfits).mono (fun _ _ hout => hout) ?_).bind ?_
  · rintro e s' ⟨left, hleft, hneat, hlent⟩
    refine ⟨left, hleft.1, hneat, ?_⟩
    unfold readInto StreamM.bufferLength
    simp only [StreamM.bind_apply, StreamM.state_apply, StreamM.pure_apply, hlent]
  · rintro bytes s' ⟨hlength, hlent⟩
    refine ⟨by omega, ?_⟩
    unfold readInto StreamM.bufferLength StreamM.beside StreamM.within advance
    simp only [StreamM.bind_apply, StreamM.state_apply, StreamM.pure_apply, hlent,
      StreamM.update_apply]
    rfl

end Truncated

namespace Window

/-- Run a read into a buffer on a part of a window, which stays a window of the same kind. -/
def onLayerInto {τ : Type} (make : τ → Window σ) (layer : τ)
    (act : StreamM (Gauged ω) (τ × Bytes) Nat) : StreamM (Gauged ω) (Window σ × Bytes) Nat :=
  StreamM.withinBeside (fun _ => layer) (fun layer _ => make layer) act

/-- The read of a window: that of its outermost layer. -/
def readInto (below : ReadInto ω σ) : ReadInto ω (Window σ) := fun mode => do
  match (← StreamM.state).1 with
  | .unwrapped stream => onLayerInto unwrapped stream (below mode)
  | .rebased layer => onLayerInto rebased layer (Rebased.readInto below mode)
  | .truncated layer => onLayerInto truncated layer (Truncated.readInto below mode)
  | .rebasedTruncated layer =>
    onLayerInto rebasedTruncated layer (Truncated.readInto (Rebased.readInto below) mode)

theorem deposits_onLayer {τ : Type} {into : StreamM (Gauged ω) (τ × Bytes) Nat}
    {act : Nat → StreamM ω τ Bytes} (h : Deposits neat into act) (make : τ → Window σ) (layer : τ) :
    Deposits neat (onLayerInto make layer into) fun room => onLayer make layer (act room) :=
  h.within _ _

theorem deposited [ByteStream ω σ] {below : ReadInto ω σ} (h : ByteStream.Deposited neat below) :
    ByteStream.Deposited neat (readInto below) := by
  intro mode window buffer g hbuffer
  show (perform (.read mode buffer.length) : StreamM ω (Window σ) Bytes).Ends _ _ _
  refine StreamM.ends_state_bind ?_
  have hrebased := Rebased.deposited h
  cases window with
  | unwrapped stream => exact deposits_onLayer (h mode) unwrapped stream _ buffer g hbuffer
  | rebased layer => exact deposits_onLayer (hrebased mode) rebased layer _ buffer g hbuffer
  | truncated layer =>
    exact deposits_onLayer (Truncated.deposited h mode) truncated layer _ buffer g hbuffer
  | rebasedTruncated layer =>
    exact deposits_onLayer (Truncated.deposited hrebased mode) rebasedTruncated layer _ buffer g
      hbuffer

end Window

end

end LayeredStreams
