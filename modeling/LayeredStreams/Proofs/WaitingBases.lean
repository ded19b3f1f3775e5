import LayeredStreams.Device.Scripted
import LayeredStreams.Proofs.CalmProbe
import LayeredStreams.Proofs.Waiting
import LayeredStreams.Zeros

/-!
# Bases that wait alike

The streams of zeros, and the streams over devices, look at the token of a suspending transfer and
go on as they do when the caller waits. A device abides if it calls off none of the modes that are
allowed, whatever else becomes of its operations.

* `DeviceM.Keeps keeps act` — what held before a computation on a device holds after it.
* `Device.Leaves ω sound kept` — a sound device stays so, and leaves of the surroundings what is
  kept; `Device.Abides ω allowed sound` — so that no allowed mode is called off.
* `ScriptedContent.Spares allowed` — a script that may fail calls and cut transfers short, and
  cancel tokens of modes that are not allowed.

Principal results: `Zeros.waitsAlike`, `DeviceStream.waitsAlike` (a stream over any device that
abides) and `ScriptedDevice.abides`.
-/

set_option autoImplicit false

namespace LayeredStreams

namespace Zeros

variable {ω : Type} [Cancellation ω]

theorem admitsAndBlocks : AdmitsAndBlocks ω Zeros where
  read _ _ := rfl
  write _ _ := rfl
  flush _ := rfl

/-- A stream of zeros leaves the surroundings as they are. -/
theorem keeps_perform (kept : ω → Prop) (request : Request) :
    StreamM.Keeps (Amid (fun _ => True) kept)
      (ByteStream.perform request : StreamM ω Zeros request.Answer) := by
  have hopened : StreamM.Keeps (Amid (fun _ => True) kept)
      (opened : StreamM ω Zeros Zeros) := by
    refine StreamM.keeps_state_bind fun zeros => ?_
    split
    · exact StreamM.keeps_refuse _
    · exact StreamM.keeps_pure _
  have hupdate : ∀ f : Zeros → Zeros, StreamM.Keeps (Amid (fun _ => True) kept)
      (StreamM.update f : StreamM ω Zeros Unit) :=
    fun f => StreamM.keeps_update fun _ _ hs => ⟨trivial, hs.2⟩
  have htake : ∀ room, StreamM.Keeps (Amid (fun _ => True) kept)
      (take room : StreamM ω Zeros Bytes) := by
    intro room
    exact hopened.bind fun zeros => (hupdate _).bind fun _ => StreamM.keeps_pure _
  have hcover : ∀ count, StreamM.Keeps (Amid (fun _ => True) kept)
      (cover count : StreamM ω Zeros Unit) := by
    intro count
    refine hopened.bind fun zeros => ?_
    dsimp only
    split
    · exact hupdate _
    · exact StreamM.keeps_refuse _
  cases request with
  | position => exact hopened.bind fun _ => StreamM.keeps_pure _
  | setPosition target =>
    refine hopened.bind fun _ => ?_
    split
    · exact hupdate _
    · exact StreamM.keeps_refuse _
  | length => exact hopened.bind fun _ => StreamM.keeps_pure _
  | setLength size =>
    refine hopened.bind fun _ => ?_
    split
    · exact hupdate _
    · exact StreamM.keeps_refuse _
  | seek target =>
    refine hopened.bind fun zeros => (StreamM.keeps_ofExcept _).bind fun place => ?_
    exact (hupdate _).bind fun _ => StreamM.keeps_pure _
  | read mode room => exact (keeps_admission mode).bind fun _ => htake room
  | readByte => exact (htake 1).bind fun _ => StreamM.keeps_pure _
  | write mode data => exact (keeps_admission mode).bind fun _ => hcover data.length
  | writeByte byte => exact hcover 1
  | flush mode =>
    exact (keeps_admission mode).bind fun _ => hopened.bind fun _ => StreamM.keeps_pure _
  | dispose => exact hupdate fun zeros => { zeros with disposed := true }
  | timeout direction => exact StreamM.keeps_refuse _
  | setTimeout direction limit => exact StreamM.keeps_refuse _

theorem waitsAlike (allowed : Mode → Prop) :
    WaitsAlike ω allowed fun _ : Zeros => True :=
  admitsAndBlocks.waitsAlike
    (keeps_perform fun w => ∀ mode, allowed mode → mode.isCancelled w = false)

end Zeros

namespace DeviceM

variable {ω δ α β : Type} {keeps : δ × ω → Prop}

/-- Whatever comes of a computation on a device, what held before holds after it. -/
def Keeps (keeps : δ × ω → Prop) (act : DeviceM ω δ α) : Prop :=
  ∀ s, keeps s →
    match act s with
    | .ok _ s' => keeps s'
    | .error _ s' => keeps s'

theorem keeps_pure (value : α) : Keeps keeps (pure value : DeviceM ω δ α) := fun _ hs => hs

theorem Keeps.bind {act : DeviceM ω δ α} {next : α → DeviceM ω δ β} (h : Keeps keeps act)
    (hnext : ∀ value, Keeps keeps (next value)) : Keeps keeps (act >>= next) := by
  intro s hs
  have hout := h s hs
  show match EStateM.bind act next s with
    | .ok _ s' => keeps s'
    | .error _ s' => keeps s'
  unfold EStateM.bind
  cases heq : act s with
  | ok value s' =>
    rw [heq] at hout
    exact hnext value s' hout
  | error e s' =>
    rw [heq] at hout
    exact hout

end DeviceM

namespace Device

variable {ω δ : Type} [Device ω δ] {sound : δ → Prop} {kept : ω → Prop}

/-- A device that stays sound, and leaves of the surroundings what is kept, whatever it is told to
do. -/
structure Leaves (ω : Type) {δ : Type} [Device ω δ] (sound : δ → Prop) (kept : ω → Prop) :
    Prop where
  operate : ∀ call : DeviceCall, DeviceM.Keeps (Amid sound kept)
    (Device.operate call : DeviceM ω δ call.Answer)
  writeNothing : DeviceM.Keeps (Amid sound kept) (Device.writeNothing : DeviceM ω δ Unit)

namespace Leaves

variable (h : Leaves ω sound kept)
include h

/-- The induction is on the reads that may still be made. -/
theorem readUninterrupted (room : Nat) : ∀ retries : Nat,
    DeviceM.Keeps (Amid sound kept)
      (Device.readUninterrupted room retries : DeviceM ω δ Bytes)
  | 0 => h.operate (.read room)
  | retries + 1 => by
    intro s hs
    have hout := h.operate (.read room) s hs
    unfold Device.readUninterrupted
    cases heq : (Device.operate (.read room) : DeviceM ω δ Bytes) s with
    | ok bytes s' =>
      rw [heq] at hout
      exact hout
    | error e s' =>
      rw [heq] at hout
      dsimp only
      by_cases hinterrupted : e.isInterrupted = true
      · rw [if_pos hinterrupted]
        exact readUninterrupted room retries s' hout
      · rw [if_neg hinterrupted]
        exact hout

/-- The induction is on the writes that may still be made. -/
theorem writeAll : ∀ (attempts : Nat) (data : Bytes),
    DeviceM.Keeps (Amid sound kept) (Device.writeAll attempts data : DeviceM ω δ Unit)
  | 0, [] => DeviceM.keeps_pure ()
  | _ + 1, [] => DeviceM.keeps_pure ()
  | 0, _ :: _ => fun _ hs => hs
  | attempts + 1, byte :: rest => by
    intro s hs
    have hout := h.operate (.write (byte :: rest)) s hs
    unfold Device.writeAll
    cases heq : (Device.operate (.write (byte :: rest)) : DeviceM ω δ Nat) s with
    | ok count s' =>
      rw [heq] at hout
      cases count with
      | zero => exact hout
      | succ count => exact writeAll attempts (rest.drop count) s' hout
    | error e s' =>
      rw [heq] at hout
      dsimp only
      by_cases hinterrupted : e.isInterrupted = true
      · rw [if_pos hinterrupted]
        exact writeAll attempts (byte :: rest) s' hout
      · rw [if_neg hinterrupted]
        exact hout

theorem measure : DeviceM.Keeps (Amid sound kept) (Device.measure : DeviceM ω δ Nat) := by
  refine (h.operate (.seek _)).bind fun here => (h.operate (.seek _)).bind fun reach => ?_
  split
  · exact (h.operate (.seek _)).bind fun _ => DeviceM.keeps_pure _
  · exact DeviceM.keeps_pure _

end Leaves

/-- A device of which no operation calls off an allowed mode. -/
structure Abides (ω : Type) {δ : Type} [Cancellation ω] [Device ω δ] (allowed : Mode → Prop)
    (sound : δ → Prop) : Prop where
  operate : ∀ call : DeviceCall, DeviceM.Keeps (Uncancelled allowed sound)
    (Device.operate call : DeviceM ω δ call.Answer)
  writeNothing : DeviceM.Keeps (Uncancelled allowed sound) (Device.writeNothing : DeviceM ω δ Unit)

theorem Abides.leaves [Cancellation ω] {allowed : Mode → Prop} (h : Abides ω allowed sound) :
    Leaves ω sound fun w => ∀ mode, allowed mode → mode.isCancelled w = false :=
  ⟨h.operate, h.writeNothing⟩

end Device

namespace DeviceStream

variable {ω δ α : Type} [Device ω δ] {sound : δ → Prop} {kept : ω → Prop}

/-- A stream over a sound device, or one that gave it up. -/
def Sound (sound : δ → Prop) (stream : DeviceStream δ) : Prop :=
  ∀ device, stream.device = .live device → sound device

theorem admitsAndBlocks [Cancellation ω] : AdmitsAndBlocks ω (DeviceStream δ) where
  read _ _ := rfl
  write _ _ := rfl
  flush _ := rfl

omit [Device ω δ] in
theorem keeps_onDevice {act : DeviceM ω δ α} (h : DeviceM.Keeps (Amid sound kept) act) :
    StreamM.Keeps (Amid (Sound sound) kept) (onDevice act) := by
  rintro ⟨⟨slot, access⟩, w⟩ hs
  cases slot with
  | disposed => exact hs
  | live device =>
    have hout := h (device, w) ⟨hs.1 device rfl, hs.2⟩
    unfold StreamM.Ends onDevice
    dsimp only
    cases heq : act (device, w) with
    | ok value s' =>
      rw [heq] at hout
      refine ⟨?_, hout.2⟩
      rintro _ ⟨⟩
      exact hout.1
    | error e s' =>
      rw [heq] at hout
      refine ⟨?_, hout.2⟩
      rintro _ ⟨⟩
      exact hout.1

omit [Device ω δ] in
theorem keeps_ensureOpen :
    StreamM.Keeps (Amid (Sound sound) kept)
      (ensureOpen : StreamM ω (DeviceStream δ) Unit) :=
  keeps_onDevice (DeviceM.keeps_pure ())

omit [Device ω δ] in
theorem keeps_accessMode :
    StreamM.Keeps (Amid (Sound sound) kept)
      (accessMode : StreamM ω (DeviceStream δ) Access) :=
  StreamM.keeps_state_bind fun _ => StreamM.keeps_pure _

section Leaving

variable (h : Device.Leaves ω sound kept)
include h

theorem keeps_position :
    StreamM.Keeps (Amid (Sound sound) kept)
      (position : StreamM ω (DeviceStream δ) Nat) :=
  keeps_onDevice (h.operate (.seek (.fromCurrent 0)))

theorem keeps_locate (target : SeekTarget) :
    StreamM.Keeps (Amid (Sound sound) kept)
      (locate target : StreamM ω (DeviceStream δ) Nat) := by
  cases target with
  | fromStart offset => exact StreamM.keeps_ofExcept _
  | fromCurrent | fromEnd =>
    refine (keeps_position h).bind fun here => ?_
    exact (keeps_onDevice h.measure).bind fun size => StreamM.keeps_ofExcept _

theorem keeps_seek (target : SeekTarget) :
    StreamM.Keeps (Amid (Sound sound) kept)
      (seek target : StreamM ω (DeviceStream δ) Nat) :=
  (keeps_locate h target).bind fun place => keeps_onDevice (h.operate (.seek (.fromStart place)))

theorem keeps_read (room : Nat) :
    StreamM.Keeps (Amid (Sound sound) kept)
      (read room : StreamM ω (DeviceStream δ) Bytes) :=
  keeps_onDevice fun s hs => h.readUninterrupted room _ s hs

theorem keeps_write (data : Bytes) :
    StreamM.Keeps (Amid (Sound sound) kept)
      (write data : StreamM ω (DeviceStream δ) Unit) := by
  refine keeps_ensureOpen.bind fun _ => keeps_accessMode.bind fun access => ?_
  split
  · exact StreamM.keeps_refuse _
  refine keeps_onDevice fun s hs => ?_
  unfold Device.writePatiently
  by_cases hempty : data.isEmpty = true
  · rw [if_pos hempty]
    exact h.writeNothing s hs
  · rw [if_neg hempty]
    exact h.writeAll _ data s hs

theorem keeps_setLength (size : Nat) :
    StreamM.Keeps (Amid (Sound sound) kept)
      (setLength size : StreamM ω (DeviceStream δ) Unit) := by
  refine keeps_ensureOpen.bind fun _ => keeps_accessMode.bind fun access => ?_
  by_cases haccess : access ≠ .resizable
  · rw [if_pos haccess]
    exact fun _ hs => hs
  rw [if_neg haccess]
  split
  · exact StreamM.keeps_refuse _
  · exact keeps_onDevice (h.operate (.setLength size))

/-- A stream leaves of the surroundings what the device leaves. -/
theorem keeps_perform [Cancellation ω] (request : Request) :
    StreamM.Keeps (Amid (Sound sound) kept)
      (ByteStream.perform request : StreamM ω (DeviceStream δ) request.Answer) := by
  cases request with
  | position => exact keeps_position h
  | setPosition target =>
    exact (keeps_seek h (.fromStart target)).bind fun _ => StreamM.keeps_pure _
  | length => exact keeps_onDevice h.measure
  | setLength size => exact keeps_setLength h size
  | seek target => exact keeps_seek h target
  | read mode room => exact (keeps_admission mode).bind fun _ => keeps_read h room
  | readByte => exact (keeps_read h 1).bind fun _ => StreamM.keeps_pure _
  | write mode data => exact (keeps_admission mode).bind fun _ => keeps_write h data
  | writeByte byte => exact keeps_write h [byte]
  | flush mode => exact (keeps_admission mode).bind fun _ => keeps_onDevice (h.operate .flush)
  | dispose =>
    have hdisposed : ∀ (stream : DeviceStream δ) (w : ω),
        Amid (Sound sound) kept (stream, w) →
          Amid (Sound sound) kept ({ stream with device := .disposed }, w) :=
      fun _ _ hs => ⟨nofun, hs.2⟩
    exact StreamM.keeps_update hdisposed
  | timeout direction => exact StreamM.keeps_refuse _
  | setTimeout direction limit => exact StreamM.keeps_refuse _

end Leaving

/-- **A stream over a device waits alike**, whatever the device does but call off an allowed
mode. -/
theorem waitsAlike [Cancellation ω] {allowed : Mode → Prop} (h : Device.Abides ω allowed sound) :
    WaitsAlike ω allowed (Sound sound) :=
  admitsAndBlocks.waitsAlike (keeps_perform h.leaves)

end DeviceStream

namespace ScriptedContent

variable {allowed : Mode → Prop}

/-- A content whose script calls off no allowed mode, whatever else it does to the calls. -/
def Spares (allowed : Mode → Prop) (scripted : ScriptedContent) : Prop :=
  ∀ name token, .cancel token ∈ scripted.script.queue name → ¬ allowed (.suspending (.named token))

theorem keeps_receive (call : Call) :
    DeviceM.Keeps (Uncancelled allowed (Spares allowed))
      (receive call : DeviceM Surroundings ScriptedContent Unit) := by
  rintro ⟨scripted, w⟩ ⟨hspares, hw⟩
  refine ⟨hspares, fun mode hmode => ?_⟩
  rw [Mode.isCancelled_record]
  exact hw mode hmode

/-- A mode with another token than the one that is cancelled is as before. -/
theorem isCancelled_of_ne {mode : Mode} {token : String} (w : Surroundings)
    (hne : mode ≠ .suspending (.named token)) :
    mode.isCancelled (w.cancel token) = mode.isCancelled w := by
  cases mode with
  | blocking => rfl
  | suspending other =>
    cases other with
    | never => rfl
    | named name =>
      show Cancellation.isCancelled name (w.cancel token) = _
      have hname : name ≠ token := by
        rintro rfl
        exact hne rfl
      rw [Surroundings.isCancelled_cancel, beq_eq_false_iff_ne.mpr hname, Bool.false_or]
      rfl

theorem keeps_obey (wrong : StreamError → DeviceError) (name : String) :
    DeviceM.Keeps (Uncancelled allowed (Spares allowed))
      (obey wrong name : DeviceM Surroundings ScriptedContent (Option Nat)) := by
  rintro ⟨scripted, w⟩ ⟨hspares, hw⟩
  have hnext : Spares allowed { scripted with script := (scripted.script.next name).2 } :=
    fun other token hmem => hspares other token (Probe.mem_queue_next hmem)
  have hfirst := Probe.fst_next_mem scripted.script name
  unfold obey
  dsimp only
  generalize scripted.script.next name = asked at hnext hfirst
  obtain ⟨fault, script⟩ := asked
  cases fault with
  | none => exact ⟨hnext, hw⟩
  | atMost count => exact ⟨hnext, hw⟩
  | fail e => exact ⟨hnext, hw⟩
  | cancel token =>
    refine ⟨hnext, fun mode hmode => ?_⟩
    have hspared := hspares name token (hfirst nofun)
    rw [isCancelled_of_ne]
    · exact hw mode hmode
    · rintro rfl
      exact hspared hmode

theorem keeps_put (data : Bytes) :
    DeviceM.Keeps (Uncancelled allowed (Spares allowed))
      (put ScriptedDevice.full data : DeviceM Surroundings ScriptedContent Unit) := by
  rintro ⟨scripted, w⟩ hs
  unfold put
  dsimp only
  by_cases hfits : scripted.cursor + data.length ≤ sizeLimit
  · rw [if_pos hfits]
    exact hs
  · rw [if_neg hfits]
    exact hs

theorem keeps_resize (size : Nat) :
    DeviceM.Keeps (Uncancelled allowed (Spares allowed))
      (resize ScriptedDevice.full size : DeviceM Surroundings ScriptedContent Unit) := by
  rintro ⟨scripted, w⟩ hs
  unfold resize
  dsimp only
  by_cases hfits : size ≤ sizeLimit
  · rw [if_pos hfits]
    exact hs
  · rw [if_neg hfits]
    exact hs

end ScriptedContent

namespace ScriptedDevice

variable {allowed : Mode → Prop} {α : Type}

theorem keeps_onContent {act : DeviceM Surroundings ScriptedContent α}
    (h : DeviceM.Keeps (Uncancelled allowed (ScriptedContent.Spares allowed)) act) :
    DeviceM.Keeps (Uncancelled allowed fun device => device.scripted.Spares allowed)
      (onContent act) := by
  rintro ⟨device, w⟩ hs
  have hout := h (device.scripted, w) hs
  unfold onContent
  dsimp only
  cases heq : act (device.scripted, w) with
  | ok value s' =>
    rw [heq] at hout
    exact hout
  | error e s' =>
    rw [heq] at hout
    exact hout

theorem keeps_act (bound : Option Nat) (call : DeviceCall) :
    DeviceM.Keeps (Uncancelled allowed (ScriptedContent.Spares allowed)) (act bound call) := by
  cases call with
  | read room => exact fun _ hs => hs
  | write data =>
    have hlook : DeviceM.Keeps (Uncancelled allowed (ScriptedContent.Spares allowed))
        scriptedContent := fun _ hs => hs
    refine hlook.bind fun scripted => ?_
    exact (ScriptedContent.keeps_put _).bind fun _ => DeviceM.keeps_pure _
  | flush => exact DeviceM.keeps_pure ()
  | seek target =>
    rintro ⟨scripted, w⟩ hs
    unfold act
    dsimp only
    by_cases hword : 0 ≤ target.destination scripted.cursor scripted.content.length ∧
        target.destination scripted.cursor scripted.content.length ≤ maxWord
    · rw [if_pos hword]
      exact hs
    · rw [if_neg hword]
      exact hs
  | setLength size => exact ScriptedContent.keeps_resize size

/-- A scripted device abides if its script does. -/
theorem abides (allowed : Mode → Prop) :
    Device.Abides Surroundings allowed fun device : ScriptedDevice =>
      device.scripted.Spares allowed where
  operate call := by
    refine keeps_onContent ((ScriptedContent.keeps_receive _).bind fun _ => ?_)
    exact (ScriptedContent.keeps_obey _ _).bind fun bound => keeps_act bound call
  writeNothing := DeviceM.keeps_pure ()

end ScriptedDevice

end LayeredStreams
