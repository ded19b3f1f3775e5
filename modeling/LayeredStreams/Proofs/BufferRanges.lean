import LayeredStreams.Proofs.DepositedBlocks
import LayeredStreams.Proofs.Stack

/-!
# Parts of a buffer

A program may have a part of a buffer transferred, told by where it starts and how long it is. The
part is checked before the stream is asked for anything.

* `LayerKind.readInto`, `Stack.readInto` — the reads of layers and of stacks into buffers.
* `checkRangeOnWords` — the check, on words; `outsideBuffer` is what it refuses with.
* `readRangeInto`, `writeRangeFrom` — read into a part of a buffer, and write it.
* `Confines neat into` — a stream that keeps to the part of the buffer that it is asked about.

Principal results: `Stack.deposited` (a stack reads into buffers as its base does),
`Deposits.confines` (a read that puts its bytes in the first places of a buffer keeps to the part it
is lent) and `Stack.ranges_confined` (every stack of layers over zeros and over devices keeps to the
part).
-/

set_option autoImplicit false

namespace LayeredStreams

/-! ## Stacks that read into buffers -/

section

variable {ω σ : Type} [Cancellation ω] [ByteStream ω σ] {neat : Prop}

namespace LayerKind

/-- The read of a layer of a kind. -/
def readInto (below : ReadInto ω σ) : (kind : LayerKind) → ReadInto ω (kind.Over σ)
  | passthrough => Passthrough.readInto below
  | rebased => Rebased.readInto below
  | truncated => Truncated.readInto below
  | readOnly => ReadOnly.readInto below
  | cached => Cached.readInto below
  | window => Window.readInto below

theorem deposited {below : ReadInto ω σ} (h : ByteStream.Deposited neat below) :
    ∀ kind : LayerKind, ByteStream.Deposited neat (kind.readInto below)
  | passthrough => Passthrough.deposited h
  | rebased => Rebased.deposited h
  | truncated => Truncated.deposited h
  | readOnly => ReadOnly.deposited h
  | cached => Cached.deposited h
  | window => Window.deposited h

end LayerKind

namespace Stack

/-- The read of a stack: that of its outermost layer. -/
def readInto (base : ReadInto ω σ) : (kinds : List LayerKind) → ReadInto ω (Stack kinds σ)
  | [] => base
  | kind :: kinds => kind.readInto (readInto base kinds)

/-- **A stack reads into buffers as its base does.** The recursion is on the layers. -/
theorem deposited {base : ReadInto ω σ} (h : ByteStream.Deposited neat base) :
    ∀ kinds : List LayerKind, ByteStream.Deposited neat (readInto base kinds)
  | [] => h
  | kind :: kinds => kind.deposited (deposited h kinds)

end Stack

end

/-! ## The check -/

/-- The refusal of a part that does not lie inside a buffer of `size` places. -/
def outsideBuffer (size offset : Nat) : Refusal :=
  if size < offset then .argumentOutOfRange "offset" offset
  else .invalidArgument "offset and count exceed the buffer length"

section

variable {ω σ : Type}

/-- Check that `count` places from `offset` on lie inside a buffer of `size` places. The difference
is only taken where there is one. -/
def checkRangeOnWords (size offset count : Nat) : StreamM (Gauged ω) σ Unit := do
  if size < offset then StreamM.refuse (.argumentOutOfRange "offset" offset)
  else do
    let rest ← StreamM.difference size offset
    if rest < count then
      StreamM.refuse (.invalidArgument "offset and count exceed the buffer length")

theorem checkRangeOnWords_of_fits {size offset count : Nat} (h : offset + count ≤ size)
    (hsize : size ≤ maxWord) (s : σ × Gauged ω) :
    (checkRangeOnWords size offset count : StreamM (Gauged ω) σ Unit) s = .ok () s := by
  unfold checkRangeOnWords
  rw [if_neg (by omega), StreamM.bind_apply, StreamM.difference_apply (by omega) hsize]
  dsimp only
  rw [if_neg (by omega)]
  rfl

/-- No sum is made, so that parts whose end is no word are refused like any other. -/
theorem checkRangeOnWords_of_exceeds {size offset count : Nat} (h : size < offset + count)
    (hsize : size ≤ maxWord) (s : σ × Gauged ω) :
    (checkRangeOnWords size offset count : StreamM (Gauged ω) σ Unit) s =
      .error (.refusal (outsideBuffer size offset)) s := by
  unfold checkRangeOnWords outsideBuffer
  by_cases hbehind : size < offset
  · rw [if_pos hbehind, if_pos hbehind]
    rfl
  · rw [if_neg hbehind, if_neg hbehind, StreamM.bind_apply,
      StreamM.difference_apply (by omega) hsize]
    dsimp only
    rw [if_pos (by omega)]
    rfl

theorem checkRange_of_exceeds {size offset count : Nat} (h : size < offset + count) :
    checkRange size offset count = .error (outsideBuffer size offset) := by
  unfold checkRange outsideBuffer
  by_cases hbehind : size < offset
  · rw [if_pos hbehind, if_pos hbehind]
  · rw [if_neg hbehind, if_neg hbehind, if_pos (by omega)]

/-! ## Transfers of a part -/

/-- Read into the `count` places of the buffer from `offset` on. -/
def readRangeInto (into : ReadInto ω σ) (offset count : Nat) :
    StreamM (Gauged ω) (σ × Bytes) Nat := do
  checkRangeOnWords (← StreamM.bufferLength) offset count
  StreamM.lend offset count (into .blocking)

variable [ByteStream ω σ]

/-- Write the `count` bytes of the buffer from `offset` on. -/
def writeRangeFrom (offset count : Nat) : StreamM (Gauged ω) (σ × Bytes) Unit := do
  let (_, buffer) ← StreamM.state
  checkRangeOnWords buffer.length offset count
  StreamM.slice buffer.length offset count
  StreamM.beside (ByteStream.write .blocking (buffer.window offset count) :
    StreamM ω σ Unit).trapless

/-- A stream keeps to the part of a buffer that it is asked about. -/
structure Confines (neat : Prop) (into : ReadInto ω σ) : Prop where
  /-- A part that does not lie inside the buffer is refused, and nothing is done. -/
  refused : ∀ (stream : σ) (buffer : Bytes) (g : Gauged ω) (offset count : Nat),
    buffer.length ≤ maxWord → buffer.length < offset + count →
      readRangeInto into offset count ((stream, buffer), g) =
          .error (.refusal (outsideBuffer buffer.length offset)) ((stream, buffer), g) ∧
        writeRangeFrom offset count ((stream, buffer), g) =
          .error (.refusal (outsideBuffer buffer.length offset)) ((stream, buffer), g)
  /-- A part inside the buffer is read as the stream reads, without a trap. The bytes that came
  stand in the part, and all places that no byte was put in are as they were. After a failure they
  are all as they were where the stream is neat, and those outside the part in any case. -/
  read : ∀ (stream : σ) (buffer : Bytes) (g : Gauged ω) (offset count : Nat),
    buffer.length ≤ maxWord → offset + count ≤ buffer.length →
      (ByteStream.read .blocking count : StreamM ω σ Bytes).Ends (stream, g.surroundings)
        (fun bytes s' => bytes.length ≤ count ∧
          ∃ left, left.window offset bytes.length = bytes ∧
            buffer.SameOutside offset bytes.length left ∧
            readRangeInto into offset count ((stream, buffer), g) =
              .ok bytes.length ((s'.1, left), g.went s'.2))
        fun e s' => ∃ left, buffer.SameOutside offset count left ∧ (neat → left = buffer) ∧
          readRangeInto into offset count ((stream, buffer), g) =
            .error e ((s'.1, left), g.went s'.2)
  /-- Of a part inside the buffer the stream is given all bytes to write, and no other. -/
  write : ∀ (stream : σ) (buffer : Bytes) (g : Gauged ω) (offset count : Nat),
    buffer.length ≤ maxWord → offset + count ≤ buffer.length →
      ∃ data : Bytes, data.length = count ∧ (∀ i, i < count → data[i]? = buffer[offset + i]?) ∧
        writeRangeFrom offset count ((stream, buffer), g) =
          StreamM.beside (ByteStream.write .blocking data : StreamM ω σ Unit).trapless
            ((stream, buffer), g)
  /-- Without words, too, a part is refused and nothing is done, or the stream is asked for the
  part. -/
  withoutWords : ∀ (buffer : Bytes) (offset count : Nat),
    (buffer.length < offset + count →
      (readRange buffer.length offset count : StreamM ω σ Bytes) =
          StreamM.refuse (outsideBuffer buffer.length offset) ∧
        (writeRange buffer offset count : StreamM ω σ Unit) =
          StreamM.refuse (outsideBuffer buffer.length offset)) ∧
    (offset + count ≤ buffer.length →
      (readRange buffer.length offset count : StreamM ω σ Bytes) = ByteStream.read .blocking count ∧
        (writeRange buffer offset count : StreamM ω σ Unit) =
          ByteStream.write .blocking (buffer.window offset count))

/-- **A read that puts its bytes in the first places of a buffer keeps to the part that it is
lent.** -/
theorem ByteStream.Deposited.confines {neat : Prop} {into : ReadInto ω σ}
    (h : ByteStream.Deposited neat into) : Confines neat into where
  refused stream buffer g offset count hbuffer hexceeds := by
    unfold readRangeInto writeRangeFrom StreamM.bufferLength
    simp only [StreamM.bind_apply, StreamM.state_apply, StreamM.pure_apply,
      checkRangeOnWords_of_exceeds hexceeds hbuffer, and_self]
  read stream buffer g offset count hbuffer hfits := by
    have hchecked : readRangeInto into offset count ((stream, buffer), g) =
        StreamM.lend offset count (into .blocking) ((stream, buffer), g) := by
      unfold readRangeInto StreamM.bufferLength
      simp only [StreamM.bind_apply, StreamM.state_apply, StreamM.pure_apply,
        checkRangeOnWords_of_fits hfits hbuffer]
    have hoffset : offset ≤ buffer.length := by omega
    rw [hchecked]
    refine ((h .blocking).ends_lend stream g hbuffer hfits).mono ?_ fun _ _ hout => hout
    rintro bytes s' ⟨hlength, hlent⟩
    exact ⟨hlength, _, Bytes.window_overlay (by omega),
      Bytes.sameOutside_overlay hoffset bytes, hlent⟩
  write stream buffer g offset count hbuffer hfits := by
    refine ⟨buffer.window offset count, ?_, ?_, ?_⟩
    · rw [Bytes.length_window]
      omega
    · intro i hi
      rw [Bytes.getElem?_window, if_pos hi]
    · unfold writeRangeFrom
      simp only [StreamM.bind_apply, StreamM.state_apply, checkRangeOnWords_of_fits hfits hbuffer,
        StreamM.slice_apply hfits hbuffer]
  withoutWords buffer offset count := by
    refine ⟨fun hexceeds => ?_, fun hfits => ?_⟩
    · unfold readRange writeRange
      rw [checkRange_of_exceeds hexceeds]
      exact ⟨rfl, rfl⟩
    · unfold readRange writeRange
      rw [checkRange_eq_ok_iff.mpr hfits]
      exact ⟨rfl, rfl⟩

end

namespace Stack

/-- **Every stack keeps to the part of a buffer that it is asked about**, over zeros and over
devices that put what they read in the first places of a buffer. What does not fit is refused before
anything is done; else no place outside the part is touched, and of the places in the part only
those that bytes came for. Over zeros and over neat devices a failure leaves the whole buffer as it
was. -/
theorem ranges_confined {ω : Type} [Cancellation ω] (kinds : List LayerKind) :
    Confines True (readInto Zeros.readInto kinds : ReadInto ω (Stack kinds Zeros)) ∧
      ∀ (δ : Type) [Device ω δ] (neat : Prop) (into : DeviceM ω (δ × Bytes) Nat),
        Device.Deposits neat into →
          Confines neat (readInto (DeviceStream.readInto into) kinds :
            ReadInto ω (Stack kinds (DeviceStream δ))) := by
  refine ⟨(deposited Zeros.deposited kinds).confines, ?_⟩
  intro δ _ neat into hdevice
  exact (deposited (DeviceStream.deposited hdevice) kinds).confines

/-- Two bytes of a device of four, whose next reads suffer the faults. -/
def twoBytes (faults : List Fault) : Stack [.truncated] (DeviceStream ScriptedDevice) :=
  (⟨.ofStream (.ofDevice ⟨⟨[5, 6, 7, 8], 1, none, ⟨[("read", faults)]⟩, 0⟩⟩ .fixedLength) .owns,
    1, 2, 1⟩ : Truncated (DeviceStream ScriptedDevice))

/-- Of three places of a buffer of six two are filled by a device that is interrupted first, and
none by one that fails. A part that reaches as far as a word behind the buffer is refused. -/
theorem ranges_confined_of_six :
    (∃ s' : Stack [.truncated] (DeviceStream ScriptedDevice) × Surroundings,
      ∃ left, left.window 2 2 = [6, 7] ∧ Bytes.SameOutside 2 2 [9, 9, 9, 9, 9, 9] left ∧
        readRangeInto (readInto (DeviceStream.readInto Device.readPlainly) [.truncated]) 2 3
          ((twoBytes [.fail (.device (.reported .interrupted "again"))], [9, 9, 9, 9, 9, 9]),
            ⟨.initial, []⟩) = .ok 2 ((s'.1, left), ⟨s'.2, []⟩)) ∧
    (∃ s' : Stack [.truncated] (DeviceStream ScriptedDevice) × Surroundings,
      readRangeInto (readInto (DeviceStream.readInto Device.readPlainly) [.truncated]) 2 3
        ((twoBytes [.fail (.device (.reported .other "worn"))], [9, 9, 9, 9, 9, 9]),
          ⟨.initial, []⟩) =
        .error (.device (.reported .other "worn")) ((s'.1, [9, 9, 9, 9, 9, 9]), ⟨s'.2, []⟩)) ∧
    writeRangeFrom 2 maxWord ((twoBytes [], [9, 9, 9, 9, 9, 9]),
      (⟨.initial, []⟩ : Gauged Surroundings)) =
      .error (.refusal (.invalidArgument "offset and count exceed the buffer length"))
        ((twoBytes [], [9, 9, 9, 9, 9, 9]), ⟨.initial, []⟩) := by
  have hconfined := (ranges_confined [.truncated]).2 ScriptedDevice True Device.readPlainly
    ScriptedDevice.deposits_readPlainly
  have hword : List.length ([9, 9, 9, 9, 9, 9] : Bytes) ≤ maxWord := by decide
  refine ⟨?_, ?_, ?_⟩
  · have hread := hconfined.read (twoBytes [.fail (.device (.reported .interrupted "again"))])
      [9, 9, 9, 9, 9, 9] ⟨.initial, []⟩ 2 3 hword (by decide)
    obtain ⟨-, left, hleft⟩ := hread.of_eq_ok rfl
    exact ⟨_, left, hleft⟩
  · have hread := hconfined.read (twoBytes [.fail (.device (.reported .other "worn"))])
      [9, 9, 9, 9, 9, 9] ⟨.initial, []⟩ 2 3 hword (by decide)
    obtain ⟨left, -, hneat, hinto⟩ := hread.of_eq_error rfl
    rw [hneat trivial] at hinto
    exact ⟨_, hinto⟩
  · exact (hconfined.refused (twoBytes []) [9, 9, 9, 9, 9, 9] ⟨.initial, []⟩ 2 maxWord hword
      (by decide)).2

end Stack

end LayeredStreams
