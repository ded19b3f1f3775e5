import LayeredStreams.Device.Basic
import LayeredStreams.Proofs.MachineWords
import LayeredStreams.Proofs.OwnCursors
import LayeredStreams.Zeros

/-!
# Streams and layers of the machine

The streams and layers as a machine has them, wherever they add, multiply or take part of a buffer.

* `Zeros.onWords`, `DeviceStream.onWords` — streams of zeros and streams over devices.
* `Device.Dependable` — a device that gives no more bytes than there is room for, and is at places
  that are words.
* `Passthrough.onWords`, `ReadOnly.onWords`, `Rebased.onWords`, `Truncated.onWords` — the layers
  without blocks. `InWords` says of a layer that the numbers it keeps are words.

Principal results: `Zeros.sturdy`, `DeviceStream.sturdy`, and `sturdy` of each layer: it runs into
no trap if the stream below runs into none. A truncated layer owes this to
`Truncated.cursor_add_le`: up to the boundary all places are words.
-/

set_option autoImplicit false

namespace LayeredStreams

/-! ## Streams of zeros -/

namespace Zeros

variable {ω : Type}

/-- At most `room` zeros, as far as the length goes. -/
def takeOnWords (room : Nat) : StreamM (Gauged ω) Zeros Bytes := do
  let zeros ← opened
  let count := min room (zeros.size - zeros.cursor)
  StreamM.sliceTo room count
  let place ← StreamM.sum zeros.cursor count
  StreamM.update fun z => { z with cursor := place }
  return Bytes.zeros count

variable [Cancellation ω]

/-- The answer of a stream of zeros to a request. A write looks at the sum before it is made. -/
def performOnWords : (request : Request) → StreamM (Gauged ω) Zeros request.Answer
  | .seek target => do
    let zeros ← opened
    let place ← target.resolveOnWords zeros.cursor zeros.size
    StreamM.update fun z => { z with cursor := place }
    return place
  | .read mode room => do
    mode.checkToken
    takeOnWords room
  | .readByte => do return (← takeOnWords 1).head?
  | request => (perform request).trapless

/-- A stream of zeros on the machine. -/
@[reducible] def onWords : ByteStream (Gauged ω) Zeros where
  can capability zeros g := ByteStream.can capability zeros g.surroundings
  isDisposed zeros g := ByteStream.isDisposed zeros g.surroundings
  perform := performOnWords

/-- Cursor and length are words. -/
def InWords (zeros : Zeros) : Prop := zeros.cursor ≤ maxWord ∧ zeros.size ≤ maxWord

variable {α : Type} {s : Zeros × Gauged ω}

omit [Cancellation ω] in
theorem untrapped_opened_bind {machine : Zeros → StreamM (Gauged ω) Zeros α}
    {next : Zeros → StreamM ω Zeros α} {good : α → Zeros → Prop} {bad : Zeros → Prop}
    (hbad : bad s.1) (h : StreamM.Untrapped (machine s.1) (next s.1) s good bad) :
    StreamM.Untrapped (opened >>= machine) (opened >>= next) s good bad := by
  unfold opened
  rw [bind_assoc, bind_assoc]
  apply StreamM.untrapped_state_bind
  cases hdisposed : s.1.disposed with
  | true => exact ⟨rfl, hbad⟩
  | false => exact h

omit [Cancellation ω] in
theorem ends_opened_bind {next : Zeros → StreamM ω Zeros α} {s : Zeros × ω}
    {good : α → Zeros × ω → Prop} {bad : StreamError → Zeros × ω → Prop}
    (hbad : bad (.refusal .disposed) s) (h : (next s.1).Ends s good bad) :
    (opened >>= next).Ends s good bad := by
  cases hdisposed : s.1.disposed with
  | true =>
    unfold StreamM.Ends
    rw [StreamM.bind_apply, show s = (s.1, s.2) from rfl, opened_of_disposed hdisposed]
    exact hbad
  | false => exact StreamM.ends_bind_of_eq_ok (opened_of_open hdisposed s.2) h

omit [Cancellation ω] in
theorem untrapped_take (hs : s.1.InWords) (room : Nat) :
    StreamM.Untrapped (takeOnWords room) (take room) s
      (fun bytes zeros' => zeros'.InWords ∧ bytes.length ≤ room) InWords := by
  obtain ⟨hcursor, hsize⟩ := hs
  apply untrapped_opened_bind ⟨hcursor, hsize⟩
  have hcount : min room (s.1.size - s.1.cursor) ≤ room := Nat.min_le_left _ _
  have hsum : s.1.cursor + min room (s.1.size - s.1.cursor) ≤ maxWord := by omega
  apply StreamM.untrapped_bind_of_eq_ok (StreamM.sliceTo_apply hcount s)
  apply StreamM.untrapped_bind_of_eq_ok (StreamM.sum_apply hsum s)
  apply StreamM.untrapped_update_bind
  · rfl
  apply StreamM.untrapped_pure
  refine ⟨⟨hsum, hsize⟩, ?_⟩
  rw [Bytes.zeros, List.length_replicate]
  exact hcount

omit [Cancellation ω] in
theorem ends_cover {s : Zeros × ω} (hs : s.1.InWords) (count : Nat) :
    (cover count : StreamM ω Zeros Unit).Ends s (fun _ s' => s'.1.InWords ∧ True)
      fun _ s' => s'.1.InWords := by
  obtain ⟨hcursor, hsize⟩ := hs
  apply ends_opened_bind ⟨hcursor, hsize⟩
  dsimp only
  split
  · rename_i hreach
    have hreach := le_maxWord hreach
    exact ⟨⟨hreach, Nat.max_le.mpr ⟨hsize, hreach⟩⟩, trivial⟩
  · exact ⟨hcursor, hsize⟩

/-- **A stream of zeros is sturdy**, whatever its length. -/
theorem sturdy : Sturdy (onWords : ByteStream (Gauged ω) Zeros) InWords where
  perform {request} hrequest {zeros} hzeros g := by
    obtain ⟨hcursor, hsize⟩ := hzeros
    have hself : InWords zeros := ⟨hcursor, hsize⟩
    cases request with
    | position =>
      apply StreamM.Ends.untrapped
      exact ends_opened_bind hself ⟨hself, hcursor⟩
    | setPosition target =>
      apply StreamM.Ends.untrapped
      apply ends_opened_bind hself
      split
      · exact ⟨⟨hrequest, hsize⟩, trivial⟩
      · exact hself
    | length =>
      apply StreamM.Ends.untrapped
      exact ends_opened_bind hself ⟨hself, hsize⟩
    | setLength size =>
      apply StreamM.Ends.untrapped
      apply ends_opened_bind hself
      split
      · exact ⟨⟨Nat.le_trans (Nat.min_le_left _ _) hcursor, hrequest⟩, trivial⟩
      · exact hself
    | seek target =>
      apply untrapped_opened_bind hself
      apply StreamM.Untrapped.bind (SeekTarget.untrapped_resolve hrequest hcursor hsize hself)
      intro place s' hout
      obtain ⟨hyields, rfl⟩ := hout
      apply StreamM.untrapped_update_bind rfl
      exact StreamM.untrapped_pure ⟨⟨hyields.1, hsize⟩, hyields⟩
    | read mode room =>
      exact StreamM.untrapped_checkToken_bind mode hself (untrapped_take hself room)
    | readByte =>
      apply StreamM.Untrapped.bind (untrapped_take hself 1)
      intro bytes s' hout
      exact StreamM.untrapped_pure ⟨hout.1, trivial⟩
    | write mode data =>
      apply StreamM.Ends.untrapped
      apply Mode.ends_checkToken_bind
      · intro _
        exact hself
      · intro _
        exact ends_cover hself data.length
    | writeByte byte =>
      apply StreamM.Ends.untrapped
      exact ends_cover hself 1
    | flush mode =>
      apply StreamM.Ends.untrapped
      apply Mode.ends_checkToken_bind
      · intro _
        exact hself
      · intro _
        exact ends_opened_bind hself ⟨hself, trivial⟩
    | timeout direction => exact ⟨rfl, hself⟩
    | setTimeout direction limit => exact ⟨rfl, hself⟩
    | dispose => exact ⟨rfl, hself, trivial⟩

end Zeros

/-! ## Streams over devices -/

/-- A device that gives no more bytes than there is room for, and that is only at words. -/
structure Device.Dependable (ω δ : Type) [Device ω δ] : Prop where
  read : ∀ {room : Nat} {s s' : δ × ω} {bytes : Bytes},
    (Device.operate (.read room) : DeviceM ω δ Bytes) s = .ok bytes s' → bytes.length ≤ room
  seek : ∀ {target : SeekTarget} {s s' : δ × ω} {place : Nat},
    (Device.operate (.seek target) : DeviceM ω δ Nat) s = .ok place s' → place ≤ maxWord

/-- A sequence that gives a value gives it after a value of its first part. -/
theorem DeviceM.exists_of_bind_eq_ok {ω δ α β : Type} {act : DeviceM ω δ α}
    {next : α → DeviceM ω δ β} {s s' : δ × ω} {value : β} (h : (act >>= next) s = .ok value s') :
    ∃ first s₁, act s = .ok first s₁ ∧ next first s₁ = .ok value s' := by
  simp only [bind, EStateM.bind] at h
  cases hact : act s with
  | ok first s₁ =>
    rw [hact] at h
    exact ⟨first, s₁, rfl, h⟩
  | error e s₁ =>
    rw [hact] at h
    cases h

namespace Device.Dependable

variable {ω δ : Type} [Device ω δ]

theorem length_readUninterrupted (h : Dependable ω δ) (room : Nat) :
    ∀ (retries : Nat) {s s' : δ × ω} {bytes : Bytes},
      (readUninterrupted room retries : DeviceM ω δ Bytes) s = .ok bytes s' → bytes.length ≤ room
  -- the induction is on the retries that are left
  | 0, _, _, _, hread => h.read hread
  | retries + 1, s, s', bytes, hread => by
    unfold readUninterrupted at hread
    cases honce : (operate (.read room) : DeviceM ω δ Bytes) s with
    | ok first s₁ =>
      rw [honce] at hread
      cases hread
      exact h.read honce
    | error e s₁ =>
      rw [honce] at hread
      dsimp only at hread
      split at hread
      · exact h.length_readUninterrupted room retries hread
      · cases hread

theorem measure_le (h : Dependable ω δ) {s s' : δ × ω} {size : Nat}
    (hmeasure : (measure : DeviceM ω δ Nat) s = .ok size s') : size ≤ maxWord := by
  obtain ⟨here, s₁, -, hmeasure⟩ := DeviceM.exists_of_bind_eq_ok hmeasure
  obtain ⟨reach, s₂, hreach, hmeasure⟩ := DeviceM.exists_of_bind_eq_ok hmeasure
  have hword := h.seek hreach
  split at hmeasure
  · obtain ⟨_, s₃, -, hmeasure⟩ := DeviceM.exists_of_bind_eq_ok hmeasure
    cases hmeasure
    exact hword
  · cases hmeasure
    exact hword

end Device.Dependable

theorem MemoryDevice.dependable {ω : Type} : Device.Dependable ω MemoryDevice where
  read {room s s' bytes} h := by
    have hread := (MemoryDevice.operate_read s.1 room s.2).symm.trans h
    cases hread
    rw [Bytes.length_window]
    exact Nat.min_le_left _ _
  seek {target s s' place} h := by
    have hseek : (MemoryDevice.operate (.seek target) : DeviceM ω MemoryDevice Nat) (s.1, s.2) =
        .ok place s' := h
    unfold MemoryDevice.operate at hseek
    dsimp only at hseek
    split at hseek
    · cases hseek
      omega
    · cases hseek

namespace DeviceStream

variable {ω δ : Type} [Device ω δ]

/-- Where a seek target leads. -/
def locateOnWords (target : SeekTarget) : StreamM (Gauged ω) (DeviceStream δ) Nat :=
  match target with
  | .fromStart _ => target.resolveOnWords 0 0
  | _ => do
    let here ← (position : StreamM ω (DeviceStream δ) Nat).trapless
    let size ← (onDevice Device.measure : StreamM ω (DeviceStream δ) Nat).trapless
    target.resolveOnWords here size

/-- Move the device's cursor to a seek target. -/
def seekOnWords (target : SeekTarget) : StreamM (Gauged ω) (DeviceStream δ) Nat := do
  let place ← locateOnWords target
  (onDevice (Device.operate (.seek (.fromStart place))) : StreamM ω (DeviceStream δ) Nat).trapless

/-- The answer of a stream over a device to a request. -/
def performOnWords [Cancellation ω] :
    (request : Request) → StreamM (Gauged ω) (DeviceStream δ) request.Answer
  | .setPosition target => do
    let _ ← seekOnWords (.fromStart target)
  | .seek target => seekOnWords target
  | request => (perform request : StreamM ω (DeviceStream δ) request.Answer).trapless

/-- A stream over a device, on the machine. -/
@[reducible] def onWords [Cancellation ω] : ByteStream (Gauged ω) (DeviceStream δ) where
  can capability stream g := ByteStream.can capability stream g.surroundings
  isDisposed stream g := ByteStream.isDisposed stream g.surroundings
  perform := performOnWords

omit [Device ω δ] in
theorem ends_onDevice {α : Type} {act : DeviceM ω δ α} {good : α → Prop}
    (h : ∀ {s s' : δ × ω} {value : α}, act s = .ok value s' → good value)
    (s : DeviceStream δ × ω) :
    (onDevice act).Ends s (fun value _ => good value) fun _ _ => True := by
  obtain ⟨⟨slot, access⟩, w⟩ := s
  cases slot with
  | disposed => trivial
  | live device =>
    unfold StreamM.Ends onDevice
    dsimp only
    cases hact : act (device, w) with
    | ok value s' => exact h hact
    | error e s' => trivial

theorem untrapped_position (h : Device.Dependable ω δ) (s : DeviceStream δ × Gauged ω) :
    StreamM.Untrapped (position : StreamM ω (DeviceStream δ) Nat).trapless position s
      (fun place _ => place ≤ maxWord) fun _ => True :=
  StreamM.Ends.untrapped (ends_onDevice (fun hseek => h.seek hseek) _)

theorem untrapped_measure (h : Device.Dependable ω δ) (s : DeviceStream δ × Gauged ω) :
    StreamM.Untrapped (onDevice Device.measure : StreamM ω (DeviceStream δ) Nat).trapless
      (onDevice Device.measure) s (fun size _ => size ≤ maxWord) fun _ => True :=
  StreamM.Ends.untrapped (ends_onDevice (fun hmeasure => h.measure_le hmeasure) _)

/-- The position and the length are words, so a target is resolved as it is without words. -/
theorem untrapped_locate (h : Device.Dependable ω δ) {target : SeekTarget}
    (htarget : (Request.seek target).InWords) (s : DeviceStream δ × Gauged ω) :
    StreamM.Untrapped (locateOnWords target) (locate target) s
      (fun place _ => (Request.seek target).Yields place) fun _ => True := by
  have hresolved : ∀ {here size : Nat} {s : DeviceStream δ × Gauged ω}, here ≤ maxWord →
      size ≤ maxWord → StreamM.Untrapped (target.resolveOnWords here size)
        (StreamM.ofExcept (target.resolve here size)) s
        (fun place _ => (Request.seek target).Yields place) fun _ => True := by
    intro here size s hhere hsize
    have hresolve : StreamM.Untrapped (target.resolveOnWords here size)
        (StreamM.ofExcept (target.resolve here size)) s _ fun _ => True :=
      SeekTarget.untrapped_resolve htarget hhere hsize trivial
    exact hresolve.mono (fun _ _ hout => hout.1) fun _ hbad => hbad
  have hasked : StreamM.Untrapped
      (do
        let here ← (position : StreamM ω (DeviceStream δ) Nat).trapless
        let size ← (onDevice Device.measure : StreamM ω (DeviceStream δ) Nat).trapless
        target.resolveOnWords here size)
      (do
        let here ← position
        let size ← onDevice Device.measure
        StreamM.ofExcept (target.resolve here size)) s
      (fun place _ => (Request.seek target).Yields place) fun _ => True := by
    apply (untrapped_position h s).bind
    intro here s₁ hhere
    apply (untrapped_measure h s₁).bind
    intro size s₂ hsize
    exact hresolved hhere hsize
  cases target with
  | fromStart offset => exact hresolved (Nat.zero_le _) (Nat.zero_le _)
  | fromCurrent offset => exact hasked
  | fromEnd offset => exact hasked

theorem untrapped_seek (h : Device.Dependable ω δ) {target : SeekTarget}
    (htarget : (Request.seek target).InWords) (s : DeviceStream δ × Gauged ω) :
    StreamM.Untrapped (seekOnWords target) (seek target) s
      (fun place _ => (Request.seek target).Yields place) fun _ => True := by
  apply StreamM.Untrapped.bind (untrapped_locate h htarget s)
  intro place s' hout
  have hseek : (onDevice (Device.operate (.seek (.fromStart place))) :
      StreamM ω (DeviceStream δ) Nat).Ends (s'.1, s'.2.surroundings)
      (fun place _ => place ≤ maxWord) fun _ _ => True :=
    ends_onDevice (fun hseek => h.seek hseek) _
  apply StreamM.Ends.untrapped
  exact hseek.mono (fun _ _ hword => ⟨hword, hout.2⟩) fun _ _ h => h

/-- **A stream over a dependable device is sturdy.** -/
theorem sturdy [Cancellation ω] (h : Device.Dependable ω δ) :
    Sturdy (onWords : ByteStream (Gauged ω) (DeviceStream δ)) fun _ => True where
  perform {request} hrequest {stream} _ g := by
    have hnone : ∀ {α : Type} (act : StreamM ω (DeviceStream δ) α),
        act.Ends (stream, g.surroundings) (fun _ _ => True ∧ True) fun _ _ => True := by
      intro α act
      unfold StreamM.Ends
      split
      · exact ⟨trivial, trivial⟩
      · trivial
    cases request with
    | position =>
      exact (untrapped_position h _).mono (fun _ _ hword => ⟨trivial, hword⟩) fun _ h => h
    | setPosition target =>
      have htarget : (Request.seek (.fromStart target)).InWords := hrequest
      apply StreamM.Untrapped.bind (untrapped_seek h htarget _)
      intro _ _ _
      exact StreamM.untrapped_pure ⟨trivial, trivial⟩
    | length =>
      exact (untrapped_measure h _).mono (fun _ _ hword => ⟨trivial, hword⟩) fun _ h => h
    | seek target =>
      exact (untrapped_seek h hrequest _).mono (fun _ _ hyields => ⟨trivial, hyields⟩) fun _ h => h
    | read mode room =>
      apply StreamM.Ends.untrapped
      apply Mode.ends_checkToken_bind
      · intro _
        trivial
      · intro _
        have hread : (onDevice (Device.readPatiently room) : StreamM ω (DeviceStream δ) Bytes).Ends
            (stream, g.surroundings) (fun bytes _ => bytes.length ≤ room) fun _ _ => True :=
          ends_onDevice (fun hread => h.length_readUninterrupted room _ hread) _
        exact hread.mono (fun _ _ hroom => ⟨trivial, hroom⟩) fun _ _ h => h
    | _ => exact ⟨rfl, hnone _⟩

end DeviceStream

/-! ## Layers that change nothing -/

section Layers

variable {ω σ α : Type} {sound : σ → Prop}

namespace Passthrough

/-- A layer that changes nothing, on the machine. -/
@[reducible] def onWords (below : ByteStream (Gauged ω) σ) :
    ByteStream (Gauged ω) (Passthrough σ) :=
  @Passthrough.instByteStream (Gauged ω) σ below

theorem untrapped_forward {machine : StreamM (Gauged ω) σ α} {act : StreamM ω σ α} {g : Gauged ω}
    {good : α → Prop} {layer : Passthrough σ} (hs : Sound sound layer)
    (h : ∀ {stream : σ}, sound stream → StreamM.Untrapped machine act (stream, g)
      (fun value stream' => sound stream' ∧ good value) sound) :
    StreamM.Untrapped (forward machine) (forward act) (layer, g)
      (fun value layer' => Sound sound layer' ∧ good value) (Sound sound) := by
  obtain ⟨slot, ownership⟩ := layer
  cases slot with
  | disposed => exact ⟨rfl, hs⟩
  | live stream =>
    apply (h (hs stream rfl)).carried (carries_forward ownership _) (carries_forward ownership _)
    · intro value stream' hout
      exact ⟨sound_live hout.1 ownership, hout.2⟩
    · intro stream' hstream'
      exact sound_live hstream' ownership

variable [ByteStream ω σ] {below : ByteStream (Gauged ω) σ}

omit [ByteStream ω σ] in
theorem release_of_owned {ω : Type} [ByteStream ω σ] (stream : σ) (w : ω) :
    (release : StreamM ω (Passthrough σ) Unit) (⟨.live stream, .owns⟩, w) =
      match (ByteStream.dispose : StreamM ω σ Unit) (stream, w) with
      | .ok value s' => .ok value (⟨.disposed, .owns⟩, s'.2)
      | .error e s' => .error e (⟨.disposed, .owns⟩, s'.2) := by
  unfold release
  simp only [Ownership.isOwner, if_true]
  cases (ByteStream.dispose : StreamM ω σ Unit) (stream, w) with
  | ok value s' => rfl
  | error e s' => rfl

theorem untrapped_release {stream : σ} {g : Gauged ω}
    (h : below.perform .dispose (stream, g) =
      (ByteStream.dispose : StreamM ω σ Unit).trapless (stream, g)) :
    StreamM.Untrapped ((onWords below).perform .dispose) ByteStream.dispose
      ((⟨.live stream, .owns⟩ : Passthrough σ), g) (fun _ layer' => Sound sound layer' ∧ True)
      (Sound sound) := by
  have hmachine : (onWords below).perform .dispose
      ((⟨.live stream, .owns⟩ : Passthrough σ), g) = _ :=
    @release_of_owned σ (Gauged ω) below stream g
  have hplain : (ByteStream.dispose : StreamM ω (Passthrough σ) Unit)
      ((⟨.live stream, .owns⟩ : Passthrough σ), g.surroundings) = _ :=
    release_of_owned stream g.surroundings
  have hbelow : (@ByteStream.dispose _ _ below : StreamM (Gauged ω) σ Unit) (stream, g) = _ := h
  unfold StreamM.Untrapped StreamM.Ends StreamM.trapless
  dsimp only
  rw [hmachine, hplain, hbelow]
  unfold StreamM.trapless
  dsimp only
  cases (ByteStream.dispose : StreamM ω σ Unit) (stream, g.surroundings) with
  | ok value s' => exact ⟨rfl, sound_disposed _, trivial⟩
  | error e s' => exact ⟨rfl, sound_disposed _⟩

/-- **A layer that changes nothing is as sturdy as the stream below.** -/
theorem sturdy (h : Sturdy below sound) : Sturdy (onWords below) (Sound sound) where
  perform {request} hrequest {layer} hs g := by
    cases request with
    | dispose =>
      obtain ⟨slot, ownership⟩ := layer
      cases slot with
      | disposed => exact ⟨rfl, hs, trivial⟩
      | live stream =>
        cases ownership with
        | borrows => exact ⟨rfl, sound_disposed _, trivial⟩
        | owns =>
          exact untrapped_release (h.perform hrequest (hs stream rfl) g).1
    | _ => exact untrapped_forward hs fun hstream => h.perform hrequest hstream g

end Passthrough

/-! ## Layers over a part -/

section Parts

variable {part : Passthrough σ → Prop}

theorem Passthrough.untrapped_ensureOpen {s : Passthrough σ × Gauged ω} (hs : part s.1) :
    StreamM.Untrapped ensureOpen ensureOpen s (fun _ base => part base ∧ True) part := by
  obtain ⟨⟨slot, ownership⟩, g⟩ := s
  cases slot with
  | disposed => exact ⟨rfl, hs⟩
  | live stream => exact ⟨rfl, hs, trivial⟩

theorem Passthrough.untrapped_decline (request : Request) {good : α → Passthrough σ → Prop}
    {s : Passthrough σ × Gauged ω} (hs : part s.1) :
    StreamM.Untrapped (decline request) (decline request) s good part := by
  apply StreamM.untrapped_state_bind
  cases s.1.isDisposed with
  | true => exact ⟨rfl, hs⟩
  | false => exact ⟨rfl, hs⟩

theorem Passthrough.untrapped_performUnless [ByteStream ω σ] {below : ByteStream (Gauged ω) σ}
    (h : Sturdy (Passthrough.onWords below) part) (declined : Bool) {request : Request}
    (hrequest : request.InWords) {base : Passthrough σ} (hs : part base) (g : Gauged ω) :
    StreamM.Untrapped (@performUnless (Gauged ω) σ below declined request)
      (performUnless declined request) (base, g)
      (fun answer base => part base ∧ request.Yields answer) part := by
  cases declined with
  | true => exact untrapped_decline request hs
  | false => exact h.perform hrequest hs g

namespace ReadOnly

/-- A read-only layer on the machine. -/
@[reducible] def onWords (below : ByteStream (Gauged ω) σ) : ByteStream (Gauged ω) (ReadOnly σ) :=
  @ReadOnly.instByteStream (Gauged ω) σ below

theorem untrapped_onBase {machine : StreamM (Gauged ω) (Passthrough σ) α}
    {act : StreamM ω (Passthrough σ) α} {s : ReadOnly σ × Gauged ω} {good : α → Prop}
    (h : StreamM.Untrapped machine act (s.1.base, s.2)
      (fun value base => part base ∧ good value) part) :
    StreamM.Untrapped (onBase machine) (onBase act) s
      (fun value layer => part layer.base ∧ good value) fun layer => part layer.base :=
  h.carried (carries_onBase machine) (carries_onBase act) (fun _ _ h => h) fun _ h => h

variable [ByteStream ω σ] {below : ByteStream (Gauged ω) σ}

/-- **A read-only layer is as sturdy as the part below.** -/
theorem sturdy (h : Sturdy (Passthrough.onWords below) part) :
    Sturdy (onWords below) fun layer => part layer.base where
  perform {request} hrequest {layer} hs g := by
    have hdeclined : StreamM.Untrapped (onBase (Passthrough.decline request))
        (onBase (Passthrough.decline request)) (layer, g)
        (fun (answer : request.Answer) layer' => part layer'.base ∧ request.Yields answer)
        fun layer' => part layer'.base :=
      untrapped_onBase (Passthrough.untrapped_decline request hs)
    cases request with
    | setLength size => exact hdeclined
    | write mode data => exact hdeclined
    | writeByte byte => exact hdeclined
    | _ => exact untrapped_onBase (h.perform hrequest hs g)

end ReadOnly

namespace Rebased

/-- The position of the stream below that a position of the layer stands for. The sum is looked at
before it is made. -/
def toBaseOnWords (position : Nat) : StreamM (Gauged ω) (Rebased σ) Nat := do
  let origin := (← StreamM.state).baseOffset
  if position + origin ≤ maxWord then return position + origin
  else StreamM.refuse (.invalidSeek (← StreamM.wideSum position origin))

/-- The position of the layer that a position of the stream below stands for. -/
def fromBaseOnWords (place : Nat) : StreamM (Gauged ω) (Rebased σ) Nat := do
  let origin := (← StreamM.state).baseOffset
  if origin ≤ place then return place - origin
  else StreamM.refuse (.invalidSeek (← StreamM.wideSum place (-origin)))

/-- Decline a seek to a place of the stream below that lies before the origin. -/
def ensureFromOriginOnWords (start : Nat) (offset : Int) : StreamM (Gauged ω) (Rebased σ) Unit := do
  let place ← StreamM.wideSum start offset
  let origin := (← StreamM.state).baseOffset
  if place < origin then StreamM.refuse (.invalidSeek (← StreamM.wideSum place (-origin)))

section

variable [ByteStream (Gauged ω) σ]

/-- The seek target of the stream below that a seek target of the layer stands for. -/
def targetBelowOnWords (target : SeekTarget) : StreamM (Gauged ω) (Rebased σ) SeekTarget :=
  match target with
  | .fromStart offset => return .fromStart (← toBaseOnWords offset)
  | .fromCurrent offset => do
    ensureFromOriginOnWords (← onBase ByteStream.position) offset
    return target
  | .fromEnd offset => do
    ensureFromOriginOnWords (← onBase ByteStream.length) offset
    return target

/-- The answer of a rebased layer to a request. -/
def performOnWords : (request : Request) → StreamM (Gauged ω) (Rebased σ) request.Answer
  | .position => do fromBaseOnWords (← onBase ByteStream.position)
  | .setPosition target => do
    let place ← toBaseOnWords target
    onBase (ByteStream.setPosition place)
  | .setLength size => do
    let place ← toBaseOnWords size
    onBase (ByteStream.setLength place)
  | .seek target => do
    let below ← targetBelowOnWords target
    fromBaseOnWords (← onBase (ByteStream.seek below))
  | request => perform request

end

/-- A rebased layer on the machine. -/
@[reducible] def onWords (below : ByteStream (Gauged ω) σ) : ByteStream (Gauged ω) (Rebased σ) where
  can capability layer g := (Passthrough.onWords below).can capability layer.base g
  isDisposed layer _ := layer.base.isDisposed
  perform := performOnWords

/-- The origin is a word. -/
def InWords (part : Passthrough σ → Prop) (layer : Rebased σ) : Prop :=
  layer.baseOffset ≤ maxWord ∧ part layer.base

theorem untrapped_onBase {machine : StreamM (Gauged ω) (Passthrough σ) α}
    {act : StreamM ω (Passthrough σ) α} {s : Rebased σ × Gauged ω} {good : α → Prop}
    (hs : InWords part s.1)
    (h : StreamM.Untrapped machine act (s.1.base, s.2)
      (fun value base => part base ∧ good value) part) :
    StreamM.Untrapped (onBase machine) (onBase act) s
      (fun value layer => InWords part layer ∧ good value) (InWords part) := by
  apply h.carried (carries_base s.1.baseOffset machine) (carries_base s.1.baseOffset act)
  · intro value base hout
    exact ⟨⟨hs.1, hout.1⟩, hout.2⟩
  · intro base hbase
    exact ⟨hs.1, hbase⟩

variable {s : Rebased σ × Gauged ω}

theorem untrapped_toBase {position : Nat} (hposition : position ≤ maxWord)
    (hs : InWords part s.1) :
    StreamM.Untrapped (toBaseOnWords position) (toBase position) s
      (fun place layer => InWords part layer ∧ position ≤ place ∧ place ≤ maxWord)
      (InWords part) := by
  have horigin := hs.1
  have hword := maxWord_lt
  apply StreamM.untrapped_state_bind
  dsimp only
  by_cases hfits : position + s.1.baseOffset ≤ maxWord
  · rw [if_pos hfits, if_pos hfits]
    exact StreamM.untrapped_pure ⟨hs, Nat.le_add_right _ _, hfits⟩
  · rw [if_neg hfits, if_neg hfits]
    have hwide : IsWide ((position : Int) + s.1.baseOffset) :=
      isWide_sum ⟨by omega, by omega⟩ ⟨by omega, by omega⟩
    apply StreamM.untrapped_bind_of_eq_ok (StreamM.wideSum_apply hwide s)
    rw [← Int.natCast_add]
    exact StreamM.untrapped_refuse _ hs

theorem untrapped_fromBase {place : Nat} (hplace : place ≤ maxWord) (hs : InWords part s.1) :
    StreamM.Untrapped (fromBaseOnWords place) (fromBase place) s
      (fun position layer => InWords part layer ∧ position ≤ place) (InWords part) := by
  have horigin := hs.1
  have hword := maxWord_lt
  apply StreamM.untrapped_state_bind
  dsimp only
  by_cases hfrom : s.1.baseOffset ≤ place
  · rw [if_pos hfrom, if_pos hfrom]
    exact StreamM.untrapped_pure ⟨hs, Nat.sub_le _ _⟩
  · rw [if_neg hfrom, if_neg hfrom]
    have hwide : IsWide ((place : Int) + -s.1.baseOffset) :=
      isWide_sum ⟨by omega, by omega⟩ ⟨by omega, by omega⟩
    exact StreamM.untrapped_bind_of_eq_ok (StreamM.wideSum_apply hwide s)
      (StreamM.untrapped_refuse _ hs)

theorem untrapped_ensureFromOrigin {start : Nat} {offset : Int} (hstart : start ≤ maxWord)
    (hoffset : -2 ^ 63 ≤ offset ∧ offset < 2 ^ 63) (hs : InWords part s.1) :
    StreamM.Untrapped (ensureFromOriginOnWords start offset) (ensureFromOrigin (start + offset)) s
      (fun _ layer => InWords part layer) (InWords part) := by
  have horigin := hs.1
  have hword := maxWord_lt
  apply StreamM.untrapped_bind_of_eq_ok (StreamM.wideSum_apply (isWide_of_words hstart hoffset) s)
  apply StreamM.untrapped_state_bind
  dsimp only
  by_cases hbefore : (start : Int) + offset < s.1.baseOffset
  · rw [if_pos hbefore, if_pos hbefore]
    have hwide : IsWide ((start : Int) + offset + -s.1.baseOffset) :=
      isWide_sum ⟨by omega, by omega⟩ ⟨by omega, by omega⟩
    exact StreamM.untrapped_bind_of_eq_ok (StreamM.wideSum_apply hwide s)
      (StreamM.untrapped_refuse _ hs)
  · rw [if_neg hbefore, if_neg hbefore]
    exact StreamM.untrapped_pure hs

variable [ByteStream ω σ] {below : ByteStream (Gauged ω) σ}

theorem untrapped_ask (h : Sturdy (Passthrough.onWords below) part) (request : Request)
    (hrequest : request.InWords) (hs : InWords part s.1) :
    StreamM.Untrapped (onBase ((Passthrough.onWords below).perform request))
      (onBase (ByteStream.perform request)) s
      (fun answer layer => InWords part layer ∧ request.Yields answer) (InWords part) :=
  untrapped_onBase hs (h.perform hrequest hs.2 _)

/-- What is sought below is a word, and no less than what is sought of the layer. -/
theorem untrapped_targetBelow (h : Sturdy (Passthrough.onWords below) part) {target : SeekTarget}
    (htarget : (Request.seek target).InWords) (hs : InWords part s.1) :
    StreamM.Untrapped (targetBelowOnWords target) (targetBelow target) s
      (fun target' layer => InWords part layer ∧ (Request.seek target').InWords ∧
        ∀ offset, target = .fromStart offset → ∃ place, target' = .fromStart place ∧ offset ≤ place)
      (InWords part) := by
  cases target with
  | fromStart offset =>
    apply StreamM.Untrapped.bind (untrapped_toBase htarget hs)
    intro place s' hout
    obtain ⟨hs', hle, hword⟩ := hout
    apply StreamM.untrapped_pure
    refine ⟨hs', hword, ?_⟩
    intro offset' heq
    cases heq
    exact ⟨place, rfl, hle⟩
  | fromCurrent offset =>
    apply StreamM.Untrapped.bind (untrapped_ask h .position trivial hs)
    intro start s' hout
    obtain ⟨hs', hstart⟩ := hout
    apply StreamM.Untrapped.bind (untrapped_ensureFromOrigin hstart htarget hs')
    intro _ s'' hs''
    apply StreamM.untrapped_pure
    refine ⟨hs'', htarget, ?_⟩
    intro offset' heq
    cases heq
  | fromEnd offset =>
    apply StreamM.Untrapped.bind (untrapped_ask h .length trivial hs)
    intro start s' hout
    obtain ⟨hs', hstart⟩ := hout
    apply StreamM.Untrapped.bind (untrapped_ensureFromOrigin hstart htarget hs')
    intro _ s'' hs''
    apply StreamM.untrapped_pure
    refine ⟨hs'', htarget, ?_⟩
    intro offset' heq
    cases heq

/-- **A rebased layer is as sturdy as the part below**, as long as its origin is a word. -/
theorem sturdy (h : Sturdy (Passthrough.onWords below) part) :
    Sturdy (onWords below) (InWords part) where
  perform {request} hrequest {layer} hs g := by
    cases request with
    | position =>
      apply StreamM.Untrapped.bind (untrapped_ask h .position hrequest hs)
      intro place s' hout
      obtain ⟨hs', hplace⟩ := hout
      apply (untrapped_fromBase hplace hs').mono
      · intro position _ hout
        exact ⟨hout.1, Nat.le_trans hout.2 hplace⟩
      · intro _ hbad
        exact hbad
    | setPosition target =>
      apply StreamM.Untrapped.bind (untrapped_toBase hrequest hs)
      intro place s' hout
      obtain ⟨hs', -, hword⟩ := hout
      exact untrapped_ask h (.setPosition place) hword hs'
    | length =>
      apply StreamM.Untrapped.bind (untrapped_ask h .length hrequest hs)
      intro size s' hout
      obtain ⟨hs', hsize⟩ := hout
      apply StreamM.untrapped_state_bind
      exact StreamM.untrapped_pure ⟨hs', Nat.le_trans (Nat.sub_le _ _) hsize⟩
    | setLength size =>
      apply StreamM.Untrapped.bind (untrapped_toBase hrequest hs)
      intro place s' hout
      obtain ⟨hs', -, hword⟩ := hout
      exact untrapped_ask h (.setLength place) hword hs'
    | seek target =>
      apply StreamM.Untrapped.bind (untrapped_targetBelow h hrequest hs)
      intro target' s' hout
      obtain ⟨hs', htarget', hstart⟩ := hout
      apply StreamM.Untrapped.bind (untrapped_ask h (.seek target') htarget' hs')
      intro place s'' hout
      obtain ⟨hs'', hyields⟩ := hout
      apply (untrapped_fromBase hyields.1 hs'').mono
      · intro position _ hout
        refine ⟨hout.1, Nat.le_trans hout.2 hyields.1, ?_⟩
        intro offset heq
        obtain ⟨start, rfl, hle⟩ := hstart offset heq
        exact Nat.le_trans hle (hyields.2 start rfl)
      · intro _ hbad
        exact hbad
    | _ => exact untrapped_ask h _ hrequest hs

end Rebased

namespace Truncated

/-- Note that the cursor moved on. -/
def advanceOnWords (count : Nat) : StreamM (Gauged ω) (Truncated σ) Unit := do
  let place ← StreamM.sum (← StreamM.state).cursor count
  moveTo place

section

variable [ByteStream (Gauged ω) σ]

/-- The seek target of the stream below that a seek target of the layer stands for. -/
def targetBelowOnWords (target : SeekTarget) : StreamM (Gauged ω) (Truncated σ) SeekTarget :=
  match target with
  | .fromEnd _ => do
    let visible ← visibleLength
    let place ← target.resolveOnWords 0 visible
    return .fromStart (saturatingAdd (← StreamM.state).origin place)
  | _ => return target

/-- Read at most `room` bytes, none of them beyond the boundary, into the first part of the
buffer. -/
def readOnWords (mode : Mode) (room : Nat) : StreamM (Gauged ω) (Truncated σ) Bytes := do
  let remaining := (← StreamM.state).remaining
  let count := min room remaining
  StreamM.sliceTo room count
  let bytes ← onBase (ByteStream.read mode count)
  advanceOnWords bytes.length
  return bytes

/-- Read one byte, unless the cursor is at the boundary. -/
def readByteOnWords : StreamM (Gauged ω) (Truncated σ) (Option UInt8) := do
  onBase Passthrough.ensureOpen
  let layer ← StreamM.state
  if layer.boundary ≤ layer.cursor then return none
  else do
    let byte ← onBase ByteStream.readByte
    if byte.isSome then advanceOnWords 1
    return byte

/-- The answer of a truncated layer to a request. -/
def performOnWords : (request : Request) → StreamM (Gauged ω) (Truncated σ) request.Answer
  | .seek target => do
    let below ← targetBelowOnWords target
    let place ← onBase (ByteStream.seek below)
    moveTo place
    return place
  | .read mode room => readOnWords mode room
  | .readByte => readByteOnWords
  | request => perform request

end

/-- A truncated layer on the machine. -/
@[reducible] def onWords (below : ByteStream (Gauged ω) σ) :
    ByteStream (Gauged ω) (Truncated σ) where
  can := @Truncated.can (Gauged ω) σ below
  isDisposed layer _ := layer.base.isDisposed
  perform := performOnWords

/-- The numbers that a truncated layer keeps are words. -/
def InWords (part : Passthrough σ → Prop) (layer : Truncated σ) : Prop :=
  (layer.origin ≤ maxWord ∧ layer.maxLength ≤ maxWord ∧ layer.cursor ≤ maxWord) ∧ part layer.base

/-- Between the cursor and the boundary all places are words. -/
theorem cursor_add_le {layer : Truncated σ} (h : InWords part layer) {count : Nat}
    (hcount : count ≤ layer.remaining) : layer.cursor + count ≤ maxWord := by
  have hcursor := h.1.2.2
  unfold remaining boundary saturatingAdd at hcount
  omega

variable {s : Truncated σ × Gauged ω}

theorem untrapped_onBase {machine : StreamM (Gauged ω) (Passthrough σ) α}
    {act : StreamM ω (Passthrough σ) α} {good : α → Prop} (hs : InWords part s.1)
    (h : StreamM.Untrapped machine act (s.1.base, s.2)
      (fun value base => part base ∧ good value) part) :
    StreamM.Untrapped (onBase machine) (onBase act) s
      (fun value layer => (InWords part layer ∧ layer.remaining = s.1.remaining) ∧ good value)
      (InWords part) := by
  apply h.carried (carries_base s.1.origin s.1.maxLength s.1.cursor machine)
    (carries_base s.1.origin s.1.maxLength s.1.cursor act)
  · intro value base hout
    exact ⟨⟨⟨hs.1, hout.1⟩, rfl⟩, hout.2⟩
  · intro base hbase
    exact ⟨hs.1, hbase⟩

theorem untrapped_moveTo {place : Nat} (hs : InWords part s.1) (hplace : place ≤ maxWord) :
    StreamM.Untrapped (moveTo place) (moveTo place) s (fun _ layer => InWords part layer)
      (InWords part) :=
  StreamM.untrapped_update rfl ⟨⟨hs.1.1, hs.1.2.1, hplace⟩, hs.2⟩

theorem untrapped_advance {count : Nat} (hs : InWords part s.1) (hcount : count ≤ s.1.remaining) :
    StreamM.Untrapped (advanceOnWords count) (advance count) s
      (fun _ layer => InWords part layer) (InWords part) := by
  have hword := cursor_add_le hs hcount
  have hadvanced : (advanceOnWords count : StreamM (Gauged ω) (Truncated σ) Unit) s =
      (moveTo (s.1.cursor + count) : StreamM (Gauged ω) (Truncated σ) Unit) s := by
    unfold advanceOnWords
    rw [StreamM.bind_apply, StreamM.state_apply]
    dsimp only
    rw [StreamM.bind_apply, StreamM.sum_apply hword]
  obtain ⟨heq, hends⟩ := untrapped_moveTo hs hword
  exact ⟨hadvanced.trans heq, hends⟩

variable [ByteStream ω σ] {below : ByteStream (Gauged ω) σ}

theorem untrapped_ask (h : Sturdy (Passthrough.onWords below) part) (request : Request)
    (hrequest : request.InWords) (hs : InWords part s.1) :
    StreamM.Untrapped (onBase ((Passthrough.onWords below).perform request))
      (onBase (ByteStream.perform request)) s
      (fun answer layer => (InWords part layer ∧ layer.remaining = s.1.remaining) ∧
        request.Yields answer) (InWords part) :=
  untrapped_onBase hs (h.perform hrequest hs.2 _)

theorem untrapped_visibleLength (h : Sturdy (Passthrough.onWords below) part)
    (hs : InWords part s.1) :
    StreamM.Untrapped (@visibleLength (Gauged ω) σ below) visibleLength s
      (fun size layer => InWords part layer ∧ size ≤ maxWord) (InWords part) := by
  apply StreamM.Untrapped.bind (untrapped_ask h .length trivial hs)
  intro size s' hout
  obtain ⟨⟨hs', -⟩, -⟩ := hout
  apply StreamM.untrapped_state_bind
  exact StreamM.untrapped_pure ⟨hs', Nat.le_trans (Nat.min_le_left _ _) hs'.1.2.1⟩

/-- What is sought below is a word: a sum that is none is replaced by the greatest one. -/
theorem untrapped_targetBelow (h : Sturdy (Passthrough.onWords below) part) {target : SeekTarget}
    (htarget : (Request.seek target).InWords) (hs : InWords part s.1) :
    StreamM.Untrapped (@targetBelowOnWords ω σ below target) (targetBelow target) s
      (fun target' layer => InWords part layer ∧ (Request.seek target').InWords ∧
        ∀ offset, target = .fromStart offset → target' = .fromStart offset) (InWords part) := by
  cases target with
  | fromStart offset => exact StreamM.untrapped_pure ⟨hs, htarget, fun _ heq => heq⟩
  | fromCurrent offset => exact StreamM.untrapped_pure ⟨hs, htarget, fun _ heq => heq⟩
  | fromEnd offset =>
    apply StreamM.Untrapped.bind (untrapped_visibleLength h hs)
    intro visible s' hout
    obtain ⟨hs', hvisible⟩ := hout
    apply StreamM.Untrapped.bind
      (SeekTarget.untrapped_resolve htarget (Nat.zero_le _) hvisible hs')
    intro place s'' hout
    obtain ⟨-, heq⟩ := hout
    apply StreamM.untrapped_state_bind
    apply StreamM.untrapped_pure
    rw [heq]
    refine ⟨hs', Nat.min_le_right _ _, ?_⟩
    intro offset' heq'
    cases heq'

theorem untrapped_read (h : Sturdy (Passthrough.onWords below) part) (mode : Mode) (room : Nat)
    (hs : InWords part s.1) :
    StreamM.Untrapped (@readOnWords ω σ below mode room) (read mode room) s
      (fun bytes layer => InWords part layer ∧ bytes.length ≤ room) (InWords part) := by
  apply StreamM.untrapped_state_bind
  apply StreamM.untrapped_bind_of_eq_ok (StreamM.sliceTo_apply (Nat.min_le_left _ _) s)
  apply StreamM.Untrapped.bind (untrapped_ask h (.read mode (min room s.1.remaining)) trivial hs)
  intro bytes s' hout
  obtain ⟨⟨hs', hremaining⟩, hlength⟩ := hout
  have hcount : bytes.length ≤ s'.1.remaining := by
    rw [hremaining]
    exact Nat.le_trans hlength (Nat.min_le_right _ _)
  apply StreamM.Untrapped.bind (untrapped_advance hs' hcount)
  intro _ s'' hs''
  exact StreamM.untrapped_pure ⟨hs'', Nat.le_trans hlength (Nat.min_le_left _ _)⟩

theorem untrapped_readByte (h : Sturdy (Passthrough.onWords below) part) (hs : InWords part s.1) :
    StreamM.Untrapped (@readByteOnWords ω σ below) readByte s
      (fun _ layer => InWords part layer ∧ True) (InWords part) := by
  apply StreamM.Untrapped.bind (untrapped_onBase hs (Passthrough.untrapped_ensureOpen hs.2))
  intro _ s' hout
  obtain ⟨⟨hs', -⟩, -⟩ := hout
  apply StreamM.untrapped_state_bind
  dsimp only
  by_cases hend : s'.1.boundary ≤ s'.1.cursor
  · rw [if_pos hend, if_pos hend]
    exact StreamM.untrapped_pure ⟨hs', trivial⟩
  · rw [if_neg hend, if_neg hend]
    have hone : 1 ≤ s'.1.remaining := Nat.sub_pos_of_lt (Nat.lt_of_not_le hend)
    apply StreamM.Untrapped.bind (untrapped_ask h .readByte trivial hs')
    intro byte s'' hout
    obtain ⟨⟨hs'', hremaining⟩, -⟩ := hout
    cases byte with
    | none => exact StreamM.untrapped_pure ⟨hs'', trivial⟩
    | some byte =>
      rw [← hremaining] at hone
      apply StreamM.Untrapped.bind (untrapped_advance hs'' hone)
      intro _ _ hmoved
      exact StreamM.untrapped_pure ⟨hmoved, trivial⟩

theorem untrapped_performUnless (h : Sturdy (Passthrough.onWords below) part) (declined : Bool)
    {request : Request} (hrequest : request.InWords) (hs : InWords part s.1) :
    StreamM.Untrapped (onBase (@Passthrough.performUnless (Gauged ω) σ below declined request))
      (onBase (Passthrough.performUnless declined request)) s
      (fun answer layer => InWords part layer ∧ request.Yields answer) (InWords part) := by
  have hpart := Passthrough.untrapped_performUnless h declined hrequest hs.2 s.2
  apply (untrapped_onBase hs hpart).mono
  · intro answer _ hout
    exact ⟨hout.1.1, hout.2⟩
  · intro _ hbad
    exact hbad

/-- **A truncated layer is as sturdy as the part below**, as long as its numbers are words. -/
theorem sturdy (h : Sturdy (Passthrough.onWords below) part) :
    Sturdy (onWords below) (InWords part) where
  perform {request} hrequest {layer} hs g := by
    cases request with
    | setPosition target =>
      apply StreamM.Untrapped.bind (untrapped_ask h (.setPosition target) hrequest hs)
      intro _ s' hout
      apply (untrapped_moveTo hout.1.1 hrequest).mono
      · intro _ _ hs''
        exact ⟨hs'', trivial⟩
      · intro _ hbad
        exact hbad
    | length => exact untrapped_visibleLength h hs
    | seek target =>
      apply StreamM.Untrapped.bind (untrapped_targetBelow h hrequest hs)
      intro target' s' hout
      obtain ⟨hs', htarget', hstart⟩ := hout
      apply StreamM.Untrapped.bind (untrapped_ask h (.seek target') htarget' hs')
      intro place s'' hout
      obtain ⟨⟨hs'', -⟩, hyields⟩ := hout
      apply StreamM.Untrapped.bind (untrapped_moveTo hs'' hyields.1)
      intro _ _ hmoved
      apply StreamM.untrapped_pure
      refine ⟨hmoved, hyields.1, ?_⟩
      intro offset heq
      exact hyields.2 offset (hstart offset heq)
    | read mode room => exact untrapped_read h mode room hs
    | readByte => exact untrapped_readByte h hs
    | _ => exact untrapped_performUnless h _ hrequest hs

end Truncated

end Parts

end Layers

end LayeredStreams
