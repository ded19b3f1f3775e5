import LayeredStreams.Proofs.InMemory
import LayeredStreams.Proofs.Interruptions

/-!
# What a write stores

Writes through a stream over a device in memory, which may take a part of the bytes at a time, be
interrupted, and fail in the end.

* `MemoryDevice.Stores taken before after` — `taken` was put at the cursor of a content in memory,
  and nothing else became of it.
* `Device.StoresInMemory ω memory` — a device whose content and cursor are those of a memory, and
  whose writes put the bytes they take there.

Principal results: `Stores.getElem?_taken`, `getElem?_kept` and `getElem?_gap` (what stands at every
place afterwards), `Device.WritesTo.stores` (the writes of a loop put its bytes one after the
other), `DeviceStream.ends_write_stores` and `DeviceStream.transfers_unaffected` (transfers come to
what they come to without interruptions, and a write stores a part of its bytes from the first on).
-/

set_option autoImplicit false

namespace LayeredStreams

namespace Bytes

theorem resize_of_le {content : Bytes} {length : Nat} (h : length ≤ content.length) :
    content.resize length = content.take length := by
  unfold resize zeros
  rw [Nat.sub_eq_zero_of_le h, List.replicate_zero, List.append_nil]

theorem splice_append (content : Bytes) (start : Nat) (first second : Bytes) :
    (content.splice start first).splice (start + first.length) second =
      content.splice start (first ++ second) := by
  have hlen : (content.resize start ++ first).length = start + first.length := by
    rw [List.length_append, length_resize]
  have hspliced : content.splice start first =
      (content.resize start ++ first) ++ content.drop (start + first.length) := by
    rw [splice, List.append_assoc]
  have hkept : (content.splice start first).resize (start + first.length) =
      content.resize start ++ first := by
    rw [resize_of_le, hspliced, List.take_left' hlen]
    rw [length_splice]
    exact Nat.le_max_right _ _
  have hbehind : (content.splice start first).drop (start + first.length + second.length) =
      content.drop (start + (first ++ second).length) := by
    rw [← List.drop_drop, hspliced, List.drop_left' hlen, List.drop_drop, List.length_append,
      Nat.add_assoc]
  rw [splice, hkept, hbehind, splice, List.append_assoc, List.append_assoc]

end Bytes

namespace MemoryDevice

variable {before between after : MemoryDevice} {taken : Bytes}

theorem put_append (memory : MemoryDevice) (first second : Bytes) :
    (memory.put first).put second = memory.put (first ++ second) := by
  unfold put
  rw [Bytes.splice_append, List.length_append, Nat.add_assoc]

/-- `taken` was put at the cursor of a content in memory, which moved behind it. Where nothing was
taken, the gap before the cursor may have been left as it is. -/
def Stores (taken : Bytes) (before after : MemoryDevice) : Prop :=
  after = before.put taken ∨ taken = [] ∧ after = before

namespace Stores

theorem nothing (memory : MemoryDevice) : Stores [] memory memory := Or.inr ⟨rfl, rfl⟩

theorem append {first second : Bytes} (h : Stores first before between)
    (h' : Stores second between after) : Stores (first ++ second) before after := by
  rcases h with rfl | ⟨rfl, rfl⟩
  · rcases h' with rfl | ⟨rfl, rfl⟩
    · exact Or.inl (put_append before first second)
    · rw [List.append_nil]
      exact Or.inl rfl
  · exact h'

variable (h : Stores taken before after)
include h

theorem cursor_eq : after.cursor = before.cursor + taken.length := by
  rcases h with rfl | ⟨rfl, rfl⟩
  · rfl
  · rfl

theorem getElem?_taken {i : Nat} (hi : i < taken.length) :
    after.content[before.cursor + i]? = taken[i]? := by
  rcases h with rfl | ⟨rfl, rfl⟩
  · show (before.content.splice before.cursor taken)[before.cursor + i]? = _
    rw [Bytes.getElem?_splice, if_neg (by omega), if_pos (by omega), Nat.add_sub_cancel_left]
  · exact absurd hi (Nat.not_lt_zero i)

theorem getElem?_kept {i : Nat}
    (hi : i < before.cursor ∧ i < before.content.length ∨ before.cursor + taken.length ≤ i) :
    after.content[i]? = before.content[i]? := by
  rcases h with rfl | ⟨rfl, rfl⟩
  · show (before.content.splice before.cursor taken)[i]? = _
    rw [Bytes.getElem?_splice]
    rcases hi with ⟨hbefore, hthere⟩ | hbehind
    · rw [if_pos hbefore, Bytes.resize, List.getElem?_append_left, List.getElem?_take,
      if_pos hbefore]
      rw [List.length_take]
      omega
    · rw [if_neg (by omega), if_neg (by omega)]
  · rfl

/-- A gap before the cursor is filled with zeros, or left where nothing was taken. -/
theorem getElem?_gap {i : Nat} (hbehind : before.content.length ≤ i) (hbefore : i < before.cursor) :
    after.content[i]? = some 0 ∨ taken = [] ∧ after.content[i]? = none := by
  rcases h with rfl | ⟨rfl, rfl⟩
  · refine Or.inl ?_
    show (before.content.splice before.cursor taken)[i]? = _
    rw [Bytes.getElem?_splice, if_pos hbefore, Bytes.resize, List.getElem?_append_right]
    · rw [Bytes.zeros, List.getElem?_replicate, if_pos]
      rw [List.length_take]
      omega
    · rw [List.length_take]
      omega
  · exact Or.inr ⟨rfl, List.getElem?_eq_none hbehind⟩

end Stores

end MemoryDevice

namespace Device

variable {ω δ : Type} [Device ω δ] {memory : δ × ω → MemoryDevice}

/-- A device whose content and cursor are those of a memory. A write puts the bytes that it takes at
the cursor, however few they are, and a write that fails takes none. -/
structure StoresInMemory (ω : Type) {δ : Type} [Device ω δ] (memory : δ × ω → MemoryDevice) :
    Prop where
  write : ∀ (data : Bytes) (s : δ × ω), (operate (.write data) : DeviceM ω δ Nat).Ends s
    (fun count s' => count ≤ data.length ∧
      MemoryDevice.Stores (data.take count) (memory s) (memory s'))
    fun _ s' => memory s' = memory s
  writeNothing : ∀ s : δ × ω, (writeNothing : DeviceM ω δ Unit).Ends s
    (fun _ s' => MemoryDevice.Stores [] (memory s) (memory s')) fun _ s' => memory s' = memory s

/-- A part of `data`, from its start on, was stored, and all of it if the outcome is a value. -/
def StoresPart (memory : δ × ω → MemoryDevice) (data : Bytes) (s : δ × ω) :
    EStateM.Result DeviceError (δ × ω) Unit → Prop
  | .ok _ s' => MemoryDevice.Stores data (memory s) (memory s')
  | .error _ s' => ∃ taken, taken <+: data ∧ MemoryDevice.Stores taken (memory s) (memory s')

/-- **The writes of a loop put its bytes one after the other**, up to the one that fails. The
induction is on the calls: each of them stores the next bytes of what is left. -/
theorem WritesTo.stores (h : StoresInMemory ω memory) {data : Bytes} {s : δ × ω}
    {outcome : EStateM.Result DeviceError (δ × ω) Unit} (hwrites : WritesTo data s outcome) :
    StoresPart memory data s outcome := by
  induction hwrites with
  | done => exact .nothing _
  | refused hcall =>
    obtain ⟨-, hstored⟩ := (h.write _ _).of_eq_ok hcall
    exact ⟨[], List.nil_prefix, hstored⟩
  | @taken s s' byte rest count outcome hcall _ ih =>
    obtain ⟨-, hstored⟩ := (h.write _ _).of_eq_ok hcall
    have hparts : (byte :: rest).take (count + 1) ++ rest.drop count = byte :: rest := by
      rw [List.take_succ_cons, List.cons_append, List.take_append_drop]
    cases outcome with
    | ok value t =>
      have hall := hstored.append ih
      rwa [hparts] at hall
    | error e t =>
      obtain ⟨taken, hprefix, hrest⟩ := ih
      refine ⟨(byte :: rest).take (count + 1) ++ taken, ?_, hstored.append hrest⟩
      have hmore := (List.prefix_append_right_inj ((byte :: rest).take (count + 1))).mpr hprefix
      rwa [hparts] at hmore
  | failed hcall _ =>
    have hkept := (h.write _ _).of_eq_error hcall
    exact ⟨[], List.nil_prefix, hkept ▸ .nothing _⟩
  | again hcall _ _ ih =>
    have hkept := (h.write _ _).of_eq_error hcall
    unfold StoresPart at ih ⊢
    rwa [hkept] at ih

theorem StoresInMemory.ends_writePatiently (h : StoresInMemory ω memory) (hpatient : Patient ω δ)
    (data : Bytes) (s : δ × ω) :
    (writePatiently data : DeviceM ω δ Unit).Ends s
      (fun _ s' => MemoryDevice.Stores data (memory s) (memory s'))
      fun _ s' => ∃ taken, taken <+: data ∧ MemoryDevice.Stores taken (memory s) (memory s') := by
  by_cases hdata : data = []
  · subst hdata
    refine DeviceM.Ends.mono (h.writeNothing s) (fun _ _ hstored => hstored) fun _ s' hkept => ?_
    exact ⟨[], List.nil_prefix, hkept ▸ .nothing _⟩
  · have hpart := (hpatient.writesTo hdata s).stores h
    refine (DeviceM.ends_self _ s).mono ?_ ?_
    · intro _ s' hcall
      rwa [hcall] at hpart
    · intro e s' hcall
      rwa [hcall] at hpart

end Device

theorem Delayed.storesInMemory {ω δ : Type} [Device ω δ] {memory : δ × ω → MemoryDevice}
    (h : Device.StoresInMemory ω memory) :
    Device.StoresInMemory ω fun s : Delayed δ × ω => memory (s.1.device, s.2) where
  write data s := by
    refine (DeviceM.ends_self _ s).mono ?_ ?_
    · intro count s' hcall
      exact (h.write data _).of_eq_ok (of_suffer_eq_ok hcall).1
    · intro e s' hcall
      rcases of_suffer_eq_error hcall with ⟨-, hsame, -⟩ | ⟨hact, -⟩
      · rw [hsame]
      · exact (h.write data _).of_eq_error hact
  writeNothing s := by
    refine (DeviceM.ends_self _ s).mono ?_ ?_
    · intro _ s' hcall
      exact (h.writeNothing _).of_eq_ok (below_eq_ok hcall).1
    · intro e s' hcall
      exact (h.writeNothing _).of_eq_error (below_eq_error hcall).1

/-- The content and the cursor of a scripted device. -/
def ScriptedDevice.memory (s : ScriptedDevice × Surroundings) : MemoryDevice :=
  ⟨s.1.scripted.content, s.1.scripted.cursor⟩

/-- **A scripted device stores in memory**, whatever its script says. -/
theorem ScriptedDevice.storesInMemory :
    Device.StoresInMemory Surroundings ScriptedDevice.memory where
  write data s := by
    refine ends_operate (fun _ _ _ => rfl) fun bound w' => ?_
    refine (ends_act_write bound data _ w').mono ?_ ?_
    · rintro count _ ⟨hle, rfl⟩
      exact ⟨hle, Or.inl rfl⟩
    · rintro e _ ⟨-, rfl⟩
      rfl
  writeNothing s := .nothing _

theorem MemoryDevice.storesInMemory {ω : Type} :
    Device.StoresInMemory ω fun s : MemoryDevice × ω => s.1 where
  write data s := by
    refine ⟨Nat.le_refl _, ?_⟩
    rw [List.take_length]
    exact Or.inl rfl
  writeNothing s := Or.inl rfl

theorem MemoryDevice.patient {ω : Type} : Device.Patient ω MemoryDevice where
  read hcall := by cases hcall
  write hcall := by cases hcall
  taken _ := Nat.le_refl _

namespace DeviceStream

variable {ω δ : Type} [Device ω δ] {memory : δ × ω → MemoryDevice}

/-- **A write through a stream stores all of its bytes at the cursor, or the first of them**, and
changes nothing else. -/
theorem ends_write_stores [Cancellation ω] (h : Device.StoresInMemory ω memory)
    (hpatient : Device.Patient ω δ) (access : Access) (device : δ) (w : ω) (mode : Mode)
    (data : Bytes) :
    (ByteStream.write mode data : StreamM ω (DeviceStream δ) Unit).Ends (ofDevice device access, w)
      (fun _ => Over access fun t => MemoryDevice.Stores data (memory (device, w)) (memory t))
      fun _ => Over access fun t =>
        ∃ taken, taken <+: data ∧ MemoryDevice.Stores taken (memory (device, w)) (memory t) := by
  have hkept : Over access (fun t => ∃ taken, taken <+: data ∧
      MemoryDevice.Stores taken (memory (device, w)) (memory t)) (ofDevice device access, w) :=
    over_ofDevice ⟨[], List.nil_prefix, .nothing _⟩
  refine Mode.ends_checkToken_bind (fun _ => hkept) fun _ => ?_
  show (do
    if access = .readOnly then StreamM.refuse (.notSupported "write")
    onDevice (Device.writePatiently data) : StreamM ω (DeviceStream δ) Unit).Ends _ _ _
  by_cases haccess : access = .readOnly
  · rw [if_pos haccess]
    exact hkept
  · rw [if_neg haccess]
    refine (ends_onDevice_live (h.ends_writePatiently hpatient data (device, w))).mono ?_ ?_
    · exact fun _ _ hover => hover
    · rintro _ _ ⟨cause, -, hover⟩
      exact hover

/-- **Interruptions and short transfers do not show.** However often the coming transfers of a
device in memory are interrupted, a read ends, and with the answer and the state that it leads to
without these interruptions; a write that succeeds has stored all of its bytes at the cursor, and
one that fails the first of them, and nothing else has changed. -/
theorem transfers_unaffected [Cancellation ω] (hpatient : Device.Patient ω δ)
    (hmemory : Device.StoresInMemory ω memory) (access : Access) (delayed : Delayed δ) (w : ω)
    (mode : Mode) :
    (∀ room : Nat,
      Device.ReadsTo room (delayed, w) (Device.readPatiently room (delayed, w)) ∧
      seenAs bare ((ByteStream.read mode room : StreamM ω (DeviceStream (Delayed δ)) Bytes)
          (ofDevice delayed access, w)) =
        (ByteStream.read mode room : StreamM ω (DeviceStream δ) Bytes)
          (ofDevice delayed.device access, w)) ∧
    ∀ data : Bytes,
      (ByteStream.write mode data : StreamM ω (DeviceStream (Delayed δ)) Unit).Ends
        (ofDevice delayed access, w)
        (fun _ => Over access fun t => MemoryDevice.Stores data (memory (delayed.device, w))
          (memory (t.1.device, t.2)))
        fun _ => Over access fun t => ∃ taken, taken <+: data ∧
          MemoryDevice.Stores taken (memory (delayed.device, w)) (memory (t.1.device, t.2)) := by
  have hdelayed := Delayed.patient hpatient
  refine ⟨fun room => ⟨hdelayed.readsTo room _, ?_⟩, fun data => ?_⟩
  · exact perform_bare hpatient (.read mode room) (ofDevice delayed access, w)
  · exact ends_write_stores (Delayed.storesInMemory hmemory) hdelayed access delayed w mode data

/-- A device of two bytes, with the cursor behind the first, whose transfers are interrupted before
they reach it, and which takes one byte, is interrupted by itself, and fails. -/
def harried : Delayed ScriptedDevice where
  coming := [some ⟨.reported .interrupted "signal", rfl⟩, none, some ⟨.carried .cancelled, rfl⟩]
  device := ⟨⟨[7, 8], 1, none,
    ⟨[("write", [.atMost 1, .fail (.device (.reported .interrupted "signal")),
      .fail (.device (.reported .storageFull "full"))])]⟩, 0⟩⟩

/-- A read of the harried device, and a write of three bytes that fails with one of them stored. -/
theorem transfers_unaffected_harried :
    Device.Patient Surroundings ScriptedDevice ∧
    Device.StoresInMemory Surroundings ScriptedDevice.memory ∧
    seenAs bare ((ByteStream.read .blocking 4 :
        StreamM Surroundings (DeviceStream (Delayed ScriptedDevice)) Bytes)
        (ofDevice harried .resizable, .initial)) =
      (ByteStream.read .blocking 4 : StreamM Surroundings (DeviceStream ScriptedDevice) Bytes)
        (ofDevice harried.device .resizable, .initial) ∧
    (ByteStream.write .blocking [1, 2, 3] :
        StreamM Surroundings (DeviceStream (Delayed ScriptedDevice)) Unit).Ends
      (ofDevice harried .resizable, .initial) (fun _ _ => False)
      fun _ => Over .resizable fun t => ∃ taken, taken <+: [1, 2, 3] ∧
        MemoryDevice.Stores taken ⟨[7, 8], 1⟩ (ScriptedDevice.memory (t.1.device, t.2)) := by
  have htransfers := transfers_unaffected ScriptedDevice.patient ScriptedDevice.storesInMemory
    .resizable harried .initial .blocking
  refine ⟨ScriptedDevice.patient, ScriptedDevice.storesInMemory, (htransfers.1 4).2, ?_⟩
  exact htransfers.2 [1, 2, 3]

end DeviceStream

end LayeredStreams
