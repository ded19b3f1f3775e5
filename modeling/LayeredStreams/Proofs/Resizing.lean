import LayeredStreams.Proofs.Bounded
import LayeredStreams.Proofs.InMemory
import LayeredStreams.Proofs.ZerosView

/-!
# Streams that are resized

* `Resizable calm content cursor settle` — a base in order whose length can be set: `settle q size`
  is where the cursor is then, if it was at `q`.
* `ResizedBase` — the streams of this library that can be resized: zeros, whose cursor does not stay
  behind the end, and memory, whose cursor stays.

Principal results: `Zeros.resizable`, `DeviceStream.resizable` and `ResizedBase.resizable`.
-/

set_option autoImplicit false

namespace LayeredStreams

/-- A base in order whose length can be set, with its cursor at `settle q size` afterwards. -/
structure Resizable {ω σ : Type} [Cancellation ω] [ByteStream ω σ] (calm : σ × ω → Prop)
    (content : σ × ω → Bytes) (cursor : σ × ω → Nat) (settle : Nat → Nat → Nat) : Prop extends
    Bounded 0 [] (Standing calm content cursor) where
  settle_le : ∀ q size, settle q size ≤ q
  tells : ∀ {shown : Bytes} {s : σ × ω} {q : Nat}, Standing calm content cursor shown s q →
    (ByteStream.position : StreamM ω σ Nat).Moves (Standing calm content cursor shown) s
      (fun place q' => place = q ∧ q' = q) fun _ _ => False
  setLength : ∀ {shown : Bytes} {s : σ × ω} {q : Nat}, Standing calm content cursor shown s q →
    ∀ size : Nat, (ByteStream.setLength size : StreamM ω σ Unit).Ends s
      (fun _ s' => Standing calm content cursor (shown.resize size) s' (settle q size))
      fun _ s' => Standing calm content cursor shown s' q

namespace Zeros

variable {ω : Type} [Cancellation ω] {shown : Bytes} {s : Zeros × ω} {q : Nat}

/-- An open stream of zeros, whose length is a position. -/
def Calm (s : Zeros × ω) : Prop := s.1.disposed = false ∧ s.1.size ≤ maxPosition

/-- The zeros of the stream. -/
def content (s : Zeros × ω) : Bytes := Bytes.zeros s.1.size

omit [Cancellation ω] in
/-- A stream of zeros that stands somewhere is open and has its zeros. -/
theorem exists_of_standing
    (h : Standing Calm content (fun s => s.1.cursor) shown s q) :
    ∃ size, s.1 = ⟨q, size, false⟩ ∧ shown = Bytes.zeros size ∧ size ≤ maxPosition := by
  obtain ⟨⟨p, size, disposed⟩, w⟩ := s
  obtain ⟨⟨rfl, hsize⟩, rfl, rfl⟩ := h
  exact ⟨size, rfl, rfl, hsize⟩

omit [Cancellation ω] in
theorem standing_of_eq {size : Nat} (h : s.1 = ⟨q, size, false⟩) (hsize : size ≤ maxPosition) :
    Standing Calm content (fun s => s.1.cursor) (Bytes.zeros size) s q := by
  obtain ⟨zeros, w⟩ := s
  obtain rfl : zeros = ⟨q, size, false⟩ := h
  exact ⟨⟨rfl, hsize⟩, rfl, rfl⟩

theorem resize_zeros (size size' : Nat) :
    (Bytes.zeros size).resize size' = Bytes.zeros size' := by
  unfold Bytes.resize Bytes.zeros
  rw [List.take_replicate, List.length_replicate, List.replicate_append_replicate]
  congr 1
  omega

/-- **A stream of zeros can be resized**, and its cursor does not stay behind the end. -/
theorem resizable : Resizable (ω := ω) Calm content (fun s => s.1.cursor) min where
  fits {shown s q} h := by
    obtain ⟨size, -, rfl, hsize⟩ := exists_of_standing h
    rw [length_zeros]
    exact le_maxWord hsize
  position {shown s q} h := by
    obtain ⟨zeros, w⟩ := s
    obtain ⟨size, rfl, rfl, hsize⟩ := exists_of_standing h
    exact ⟨q, ⟨Nat.zero_add q, rfl⟩, h⟩
  setPosition {shown s q} h target := by
    obtain ⟨zeros, w⟩ := s
    obtain ⟨size, rfl, rfl, hsize⟩ := exists_of_standing h
    refine StreamM.ends_bind_of_eq_ok (opened_of_open rfl w) ?_
    split
    · exact ⟨target, (Nat.zero_add target).symm, standing_of_eq rfl hsize⟩
    · exact ⟨q, rfl, h⟩
  seek {shown s q} h target := by
    obtain ⟨zeros, w⟩ := s
    obtain ⟨size, rfl, rfl, hsize⟩ := exists_of_standing h
    refine StreamM.ends_bind_of_eq_ok (opened_of_open rfl w) ?_
    dsimp only
    cases hplace : target.resolve q size with
    | error cause => exact ⟨q, target.straysTo_self q, h⟩
    | ok place =>
      have hleads := SeekTarget.leadsTo_of_resolve hplace
      exact ⟨place, ⟨hleads, (Nat.zero_add place).symm⟩, standing_of_eq rfl hsize⟩
  read {shown s q} h mode room := by
    obtain ⟨zeros, w⟩ := s
    obtain ⟨size, rfl, rfl, hsize⟩ := exists_of_standing h
    rw [Bytes.take_limit_nil]
    refine Mode.ends_checkToken_bind (fun hcancelled => ⟨q, ⟨hcancelled, rfl⟩, h⟩) fun _ => ?_
    have hstands : Stands size ((⟨q, size, false⟩ : Zeros), w) q := rfl
    refine (ends_take hstands room).mono ?_ fun _ _ => False.elim
    rintro bytes s' ⟨hdelivers, hs'⟩
    exact ⟨_, ⟨hdelivers, rfl⟩, standing_of_eq hs' hsize⟩
  readByte {shown s q} h := by
    obtain ⟨zeros, w⟩ := s
    obtain ⟨size, rfl, rfl, hsize⟩ := exists_of_standing h
    rw [Bytes.take_limit_nil]
    refine StreamM.ends_bind_of_eq_ok (take_of_open rfl 1 w) ?_
    by_cases hend : size ≤ q
    · have hnone : (Bytes.zeros size)[q]? = none := by
        rw [List.getElem?_eq_none_iff, length_zeros]
        exact hend
      have hcount : min 1 (size - q) = 0 := by omega
      dsimp only
      rw [hcount, hnone]
      exact ⟨q, ⟨rfl, rfl⟩, h⟩
    · have hsome : (Bytes.zeros size)[q]? = some 0 :=
        List.getElem?_replicate_of_lt (Nat.lt_of_not_le hend)
      have hcount : min 1 (size - q) = 1 := by omega
      dsimp only
      rw [hcount, hsome]
      exact ⟨q + 1, ⟨rfl, rfl⟩, standing_of_eq rfl hsize⟩
  idle {shown s q} h request hidle := by
    obtain ⟨zeros, w⟩ := s
    obtain ⟨size, rfl, rfl, hsize⟩ := exists_of_standing h
    cases request with
    | length => exact ⟨q, rfl, h⟩
    | flush mode =>
      exact Mode.ends_checkToken_bind (fun _ => ⟨q, rfl, h⟩) fun _ => ⟨q, rfl, h⟩
    | timeout direction => exact ⟨q, rfl, h⟩
    | setTimeout direction limit => exact ⟨q, rfl, h⟩
    | _ => cases hidle
  settle_le := Nat.min_le_left
  tells {shown s q} h := by
    obtain ⟨zeros, w⟩ := s
    obtain ⟨size, rfl, rfl, hsize⟩ := exists_of_standing h
    exact ⟨q, ⟨rfl, rfl⟩, h⟩
  setLength {shown s q} h size' := by
    obtain ⟨zeros, w⟩ := s
    obtain ⟨size, rfl, rfl, hsize⟩ := exists_of_standing h
    refine StreamM.ends_bind_of_eq_ok (opened_of_open rfl w) ?_
    rw [resize_zeros]
    split
    · rename_i hle
      exact standing_of_eq rfl hle
    · exact h

end Zeros

namespace DeviceStream

variable {ω : Type} [Cancellation ω] {shown : Bytes} {s : DeviceStream MemoryDevice × ω} {q : Nat}

/-- An open stream over memory of which the length can be set. -/
def Calm (s : DeviceStream MemoryDevice × ω) : Prop :=
  ∃ memory, s.1 = ofDevice memory .resizable ∧ memory.Words

/-- What the memory holds; nothing once it was given up. -/
def content (s : DeviceStream MemoryDevice × ω) : Bytes :=
  (s.1.device.get?.map MemoryDevice.content).getD []

/-- Where the cursor of the memory is. -/
def cursor (s : DeviceStream MemoryDevice × ω) : Nat :=
  (s.1.device.get?.map MemoryDevice.cursor).getD 0

omit [Cancellation ω] in
theorem standing_ofDevice {memory : MemoryDevice} (hwords : memory.Words) (w : ω) :
    Standing Calm content cursor memory.content (ofDevice memory .resizable, w) memory.cursor :=
  ⟨⟨memory, rfl, hwords⟩, rfl, rfl⟩

omit [Cancellation ω] in
theorem exists_of_standing (h : Standing Calm content cursor shown s q) :
    ∃ memory, s.1 = ofDevice memory .resizable ∧ memory.Words ∧ shown = memory.content ∧
      q = memory.cursor := by
  obtain ⟨stream, w⟩ := s
  obtain ⟨⟨memory, rfl, hwords⟩, rfl, rfl⟩ := h
  exact ⟨memory, rfl, hwords, rfl, rfl⟩

/-- A stream over memory is asked as its memory is. -/
theorem meets_memory {memory : MemoryDevice} (hwords : memory.Words) (w : ω) (request : Request)
    (hserved : request.isServed true = true) :
    (MemoryDevice.behaviour 0 0 w).MetBy (fun s memory => s = (ofDevice memory .resizable, w))
      memory request (ByteStream.perform request) (ofDevice memory .resizable, w) :=
  (follows_memory .resizable w).meets rfl ⟨hwords, hserved⟩

theorem moves_position (h : Standing Calm content cursor shown s q) :
    (ByteStream.position : StreamM ω (DeviceStream MemoryDevice) Nat).Moves
      (Standing Calm content cursor shown) s (fun place q' => place = q ∧ q' = q)
      fun _ _ => False := by
  obtain ⟨stream, w⟩ := s
  obtain ⟨memory, rfl, hwords, rfl, rfl⟩ := exists_of_standing h
  have met := meets_memory hwords w .position rfl
  refine (met.ends_of_near rfl rfl).mono ?_ fun _ _ h => h.elim
  rintro place _ ⟨rfl, rfl⟩
  exact ⟨memory.cursor, ⟨rfl, rfl⟩, h⟩

theorem moves_setPosition (h : Standing Calm content cursor shown s q) (target : Nat) :
    (ByteStream.setPosition target : StreamM ω (DeviceStream MemoryDevice) Unit).Moves
      (Standing Calm content cursor shown) s (fun _ q' => q' = target)
      fun _ q' => maxPosition < target ∧ q' = q := by
  obtain ⟨stream, w⟩ := s
  obtain ⟨memory, rfl, hwords, rfl, rfl⟩ := exists_of_standing h
  have met := meets_memory hwords w (.setPosition target) rfl
  refine (met.ends_of_ok rfl rfl).mono ?_ ?_
  · rintro _ _ ⟨hnear, -, rfl⟩
    have hplace : 0 + target ≤ maxPosition := Nat.le_of_not_lt (of_decide_eq_false hnear)
    have hwords' : (memory.moveTo (0 + target)).Words := ⟨le_maxWord hplace, hwords.length_le⟩
    exact ⟨_, Nat.zero_add target, standing_ofDevice hwords' w⟩
  · rintro _ _ ⟨hfar, rfl⟩
    have hbeyond : maxPosition < 0 + target := of_decide_eq_true hfar
    exact ⟨_, ⟨Nat.zero_add target ▸ hbeyond, rfl⟩, h⟩

theorem moves_seek (h : Standing Calm content cursor shown s q) (target : SeekTarget) :
    (ByteStream.seek target : StreamM ω (DeviceStream MemoryDevice) Nat).Moves
      (Standing Calm content cursor shown) s
      (fun place q' => target.resolve q shown.length = .ok place ∧ q' = place)
      fun e q' => (∃ cause, target.resolve q shown.length = .error cause ∧ e = .refusal cause) ∧
        q' = q := by
  obtain ⟨stream, w⟩ := s
  obtain ⟨memory, rfl, hwords, rfl, rfl⟩ := exists_of_standing h
  refine (ends_seek hwords target).mono ?_ ?_
  · rintro place _ ⟨hplace, rfl⟩
    have hle := (SeekTarget.resolve_eq_ok_iff.mp hplace).2
    have hwords' : (memory.moveTo place).Words := ⟨le_maxWord hle, hwords.length_le⟩
    exact ⟨place, ⟨hplace, rfl⟩, standing_ofDevice hwords' w⟩
  · rintro e _ ⟨cause, hcause, rfl, rfl⟩
    exact ⟨_, ⟨⟨cause, hcause, rfl⟩, rfl⟩, h⟩

/-- A read gives all there is, unless it is called off. -/
theorem ends_read (h : Standing Calm content cursor shown s q) (mode : Mode) (room : Nat) :
    (ByteStream.read mode room : StreamM ω (DeviceStream MemoryDevice) Bytes).Ends s
      (fun bytes s' => Delivers shown q room bytes ∧
        Standing Calm content cursor shown s' (q + bytes.length))
      fun e s' => (mode.isCancelled s.2 = true ∧ e = .refusal .cancelled) ∧ s' = s := by
  obtain ⟨stream, w⟩ := s
  obtain ⟨memory, rfl, hwords, rfl, rfl⟩ := exists_of_standing h
  have met := meets_memory hwords w (.read mode room) rfl
  have hnear : (MemoryDevice.behaviour 0 0 w).leadsTooFar memory (.read mode room) = false := rfl
  by_cases hcancelled : mode.isCancelled w = true
  · refine (met.ends_of_error hnear (if_pos hcancelled)).mono (fun _ _ h => h.elim) ?_
    rintro e _ ⟨hfar | rfl, rfl⟩
    · cases hfar
    · exact ⟨⟨hcancelled, rfl⟩, rfl⟩
  · have hrespond : MemoryDevice.respond 0 w memory (.read mode room) =
        .ok (memory.content.window memory.cursor room, _) := if_neg hcancelled
    have hwords' := hwords.respond rfl hrespond nofun
    refine (met.ends_of_near hnear hrespond).mono ?_ fun _ _ h => h.elim
    rintro bytes _ ⟨rfl, rfl⟩
    refine ⟨?_, standing_ofDevice hwords' w⟩
    exact .window (fun hroom => hroom) (Nat.le_refl _)

/-- **A stream over memory can be resized**, and its cursor stays where it is. -/
theorem resizable : Resizable (ω := ω) Calm content cursor fun q _ => q where
  fits {shown s q} h := by
    obtain ⟨memory, -, hwords, rfl, -⟩ := exists_of_standing h
    exact hwords.length_le
  position {shown s q} h := by
    refine (moves_position h).mono ?_ fun _ _ h => h.elim
    rintro place q' ⟨rfl, rfl⟩
    exact ⟨Nat.zero_add _, rfl⟩
  setPosition {shown s q} h target := by
    refine (moves_setPosition h target).mono ?_ fun _ _ h => h.2
    rintro _ q' rfl
    exact (Nat.zero_add q').symm
  seek {shown s q} h target := by
    refine (moves_seek h target).mono ?_ ?_
    · rintro place q' ⟨hplace, rfl⟩
      exact ⟨SeekTarget.leadsTo_of_resolve hplace, (Nat.zero_add q').symm⟩
    · rintro e q' ⟨-, rfl⟩
      exact target.straysTo_self q'
  read {shown s q} h mode room := by
    rw [Bytes.take_limit_nil]
    refine (ends_read h mode room).mono ?_ ?_
    · rintro bytes s' ⟨hdelivers, hs'⟩
      exact ⟨_, ⟨hdelivers, rfl⟩, hs'⟩
    · rintro e _ ⟨⟨hcancelled, -⟩, rfl⟩
      exact ⟨q, ⟨hcancelled, rfl⟩, h⟩
  readByte {shown s q} h := by
    obtain ⟨stream, w⟩ := s
    obtain ⟨memory, rfl, hwords, rfl, rfl⟩ := exists_of_standing h
    have met := meets_memory hwords w .readByte rfl
    have hrespond : MemoryDevice.respond 0 w memory .readByte = .ok (_, _) :=
      MemoryDevice.respond_readByte rfl
    have hwords' := hwords.respond rfl hrespond nofun
    rw [Bytes.take_limit_nil]
    refine (met.ends_of_near rfl hrespond).mono ?_ fun _ _ h => h.elim
    rintro byte _ ⟨rfl, rfl⟩
    exact ⟨_, ⟨rfl, rfl⟩, standing_ofDevice hwords' w⟩
  idle {shown s q} h request hidle := by
    obtain ⟨stream, w⟩ := s
    obtain ⟨memory, rfl, hwords, rfl, rfl⟩ := exists_of_standing h
    have hserved : request.isServed true = true := by
      cases request <;> first | rfl | cases hidle
    have hsame : (MemoryDevice.behaviour 0 0 w).next memory request = memory := by
      cases request with
      | length => exact Behaviour.next_of_ok rfl rfl
      | flush mode =>
        by_cases hcancelled : mode.isCancelled w = true
        · exact Behaviour.next_of_error (if_pos hcancelled)
        · exact Behaviour.next_of_ok rfl (if_neg hcancelled)
      | timeout | setTimeout => exact Behaviour.next_of_error rfl
      | _ => cases hidle
    have hfinal := (meets_memory hwords w request hserved).final
    rw [hsame] at hfinal
    have hstill : ∀ s' : DeviceStream MemoryDevice × ω, s' = (ofDevice memory .resizable, w) →
        ∃ q', q' = memory.cursor ∧ Standing Calm content cursor memory.content s' q' := by
      rintro _ rfl
      exact ⟨_, rfl, h⟩
    exact StreamM.Ends.mono (StreamM.ends_of_final hfinal) (fun _ s' hs' => hstill s' hs')
      fun _ s' hs' => hstill s' hs'
  settle_le := fun q _ => Nat.le_refl q
  tells := moves_position
  setLength {shown s q} h size := by
    obtain ⟨stream, w⟩ := s
    obtain ⟨memory, rfl, hwords, rfl, rfl⟩ := exists_of_standing h
    refine (ends_setLength size).mono ?_ ?_
    · rintro _ _ ⟨hsize, rfl⟩
      have hwords' : MemoryDevice.Words ⟨memory.content.resize size, memory.cursor⟩ := by
        refine ⟨hwords.cursor_le, ?_⟩
        rw [Bytes.length_resize]
        exact le_maxWord hsize
      exact standing_ofDevice hwords' w
    · rintro _ _ ⟨-, rfl⟩
      exact h

end DeviceStream

/-- The streams that can be resized. -/
inductive ResizedBase
  | zeros
  /-- A stream over memory. -/
  | memory
  deriving DecidableEq, Repr

namespace ResizedBase

variable {ω : Type}

/-- A stream that can be resized. -/
def Over : ResizedBase → Type
  | zeros => Zeros
  | memory => DeviceStream MemoryDevice

instance byteStream [Cancellation ω] : (base : ResizedBase) → ByteStream ω base.Over
  | zeros => inferInstanceAs (ByteStream ω Zeros)
  | memory => inferInstanceAs (ByteStream ω (DeviceStream MemoryDevice))

/-- An open stream, of a length that the machine can tell, that lets its length be set. -/
def Calm : (base : ResizedBase) → base.Over × ω → Prop
  | zeros => Zeros.Calm
  | memory => DeviceStream.Calm

/-- What the stream holds. -/
def content : (base : ResizedBase) → base.Over × ω → Bytes
  | zeros => Zeros.content
  | memory => DeviceStream.content

/-- Where the cursor is. -/
def cursor : (base : ResizedBase) → base.Over × ω → Nat
  | zeros => fun s => (Prod.fst s : Zeros).cursor
  | memory => DeviceStream.cursor

/-- Where a cursor at `q` is after the length was set. -/
def settle : ResizedBase → Nat → Nat → Nat
  | zeros, q, size => min q size
  | memory, q, _ => q

theorem resizable [Cancellation ω] (base : ResizedBase) :
    Resizable (ω := ω) base.Calm base.content base.cursor base.settle := by
  cases base with
  | zeros => exact Zeros.resizable
  | memory => exact DeviceStream.resizable

end ResizedBase

end LayeredStreams
