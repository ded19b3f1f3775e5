import LayeredStreams.Proofs.DeviceOutcome
import LayeredStreams.Proofs.ProbeSource

/-!
# Transfers that are made again

A stream reads from its device until a read is not interrupted, and writes until all bytes are
taken. The two loops are told here without a bound on the number of calls, as the least relations
that a call after the other leads through, and compared with the loops that a bound ends.

* `Device.ReadsTo room s outcome` — reads that are made again while they are interrupted come to
  `outcome`.
* `Device.WritesTo data s outcome` — so do writes of what is left of `data`.
* `Device.Patient ω δ` — the number of operations still to be interrupted is told truthfully.

Principal results: `Device.Patient.readsTo` and `Device.Patient.writesTo` (on a patient device both
loops end, and they end as the bounded ones), `ReadsTo.unique` and `WritesTo.unique` (in one way
only) and `ScriptedDevice.patient`.
-/

set_option autoImplicit false

namespace LayeredStreams

namespace Device

variable {ω δ : Type} [Device ω δ]

/-- Reads of at most `room` bytes, made again while they are interrupted, come to an outcome. -/
inductive ReadsTo (room : Nat) : δ × ω → EStateM.Result DeviceError (δ × ω) Bytes → Prop
  | given {s s' : δ × ω} {bytes : Bytes} (hcall : operate (.read room) s = .ok bytes s') :
      ReadsTo room s (.ok bytes s')
  | failed {s s' : δ × ω} {e : DeviceError} (hcall : operate (.read room) s = .error e s')
      (hfinal : e.isInterrupted = false) : ReadsTo room s (.error e s')
  | again {s s' : δ × ω} {e : DeviceError} {outcome : EStateM.Result DeviceError (δ × ω) Bytes}
      (hcall : operate (.read room) s = .error e s') (hinterrupted : e.isInterrupted = true)
      (hrest : ReadsTo room s' outcome) : ReadsTo room s outcome

/-- Writes of what is left of `data`, made until nothing is left, come to an outcome. -/
inductive WritesTo : Bytes → δ × ω → EStateM.Result DeviceError (δ × ω) Unit → Prop
  | done {s : δ × ω} : WritesTo [] s (.ok () s)
  | refused {s s' : δ × ω} {byte : UInt8} {rest : Bytes}
      (hcall : operate (.write (byte :: rest)) s = .ok 0 s') :
      WritesTo (byte :: rest) s (.error .nothingWritten s')
  | taken {s s' : δ × ω} {byte : UInt8} {rest : Bytes} {count : Nat}
      {outcome : EStateM.Result DeviceError (δ × ω) Unit}
      (hcall : operate (.write (byte :: rest)) s = .ok (count + 1) s')
      (hrest : WritesTo (rest.drop count) s' outcome) : WritesTo (byte :: rest) s outcome
  | failed {s s' : δ × ω} {byte : UInt8} {rest : Bytes} {e : DeviceError}
      (hcall : operate (.write (byte :: rest)) s = .error e s') (hfinal : e.isInterrupted = false) :
      WritesTo (byte :: rest) s (.error e s')
  | again {s s' : δ × ω} {byte : UInt8} {rest : Bytes} {e : DeviceError}
      {outcome : EStateM.Result DeviceError (δ × ω) Unit}
      (hcall : operate (.write (byte :: rest)) s = .error e s')
      (hinterrupted : e.isInterrupted = true) (hrest : WritesTo (byte :: rest) s' outcome) :
      WritesTo (byte :: rest) s outcome

/-! ## One outcome -/

theorem ReadsTo.unique {room : Nat} {s : δ × ω}
    {outcome outcome' : EStateM.Result DeviceError (δ × ω) Bytes} (h : ReadsTo room s outcome)
    (h' : ReadsTo room s outcome') : outcome = outcome' := by
  -- on the calls of the first run: each call of the second is the same one, and leads on as it does
  induction h with
  | given hcall =>
    cases h' with
    | given hcall' => exact hcall.symm.trans hcall'
    | failed hcall' => cases hcall.symm.trans hcall'
    | again hcall' => cases hcall.symm.trans hcall'
  | failed hcall hfinal =>
    cases h' with
    | given hcall' => cases hcall.symm.trans hcall'
    | failed hcall' => exact hcall.symm.trans hcall'
    | again hcall' hinterrupted =>
      cases hcall.symm.trans hcall'
      rw [hfinal] at hinterrupted
      cases hinterrupted
  | again hcall hinterrupted _ ih =>
    cases h' with
    | given hcall' => cases hcall.symm.trans hcall'
    | failed hcall' hfinal =>
      cases hcall.symm.trans hcall'
      rw [hfinal] at hinterrupted
      cases hinterrupted
    | again hcall' _ hrest' =>
      cases hcall.symm.trans hcall'
      exact ih hrest'

theorem WritesTo.unique {data : Bytes} {s : δ × ω}
    {outcome outcome' : EStateM.Result DeviceError (δ × ω) Unit} (h : WritesTo data s outcome)
    (h' : WritesTo data s outcome') : outcome = outcome' := by
  induction h with
  | done =>
    cases h'
    rfl
  | refused hcall =>
    cases h' with
    | refused hcall' =>
      cases hcall.symm.trans hcall'
      rfl
    | taken hcall' => cases hcall.symm.trans hcall'
    | failed hcall' => cases hcall.symm.trans hcall'
    | again hcall' => cases hcall.symm.trans hcall'
  | taken hcall _ ih =>
    cases h' with
    | refused hcall' => cases hcall.symm.trans hcall'
    | taken hcall' hrest' =>
      cases hcall.symm.trans hcall'
      exact ih hrest'
    | failed hcall' => cases hcall.symm.trans hcall'
    | again hcall' => cases hcall.symm.trans hcall'
  | failed hcall hfinal =>
    cases h' with
    | refused hcall' => cases hcall.symm.trans hcall'
    | taken hcall' => cases hcall.symm.trans hcall'
    | failed hcall' =>
      cases hcall.symm.trans hcall'
      rfl
    | again hcall' hinterrupted =>
      cases hcall.symm.trans hcall'
      rw [hfinal] at hinterrupted
      cases hinterrupted
  | again hcall hinterrupted _ ih =>
    cases h' with
    | refused hcall' => cases hcall.symm.trans hcall'
    | taken hcall' => cases hcall.symm.trans hcall'
    | failed hcall' hfinal =>
      cases hcall.symm.trans hcall'
      rw [hfinal] at hinterrupted
      cases hinterrupted
    | again hcall' _ hrest' =>
      cases hcall.symm.trans hcall'
      exact ih hrest'

/-! ## The loops end -/

/-- The operations that a device still has interrupted. -/
def pending (s : δ × ω) : Nat := patience s.1 s.2

/-- A device that tells truthfully how many operations are still to be interrupted: each
interruption uses one up, and no write that is taken brings new ones. -/
structure Patient (ω δ : Type) [Device ω δ] : Prop where
  read : ∀ {room : Nat} {s s' : δ × ω} {e : DeviceError},
    operate (.read room) s = .error e s' → e.isInterrupted = true → pending s' < pending s
  write : ∀ {data : Bytes} {s s' : δ × ω} {e : DeviceError},
    operate (.write data) s = .error e s' → e.isInterrupted = true → pending s' < pending s
  taken : ∀ {data : Bytes} {s s' : δ × ω} {count : Nat},
    operate (.write data) s = .ok count s' → pending s' ≤ pending s

namespace Patient

variable (h : Patient ω δ)
include h

/-- A bound that the interruptions do not use up does not end the reads. The induction is on it. -/
theorem readsTo_readUninterrupted (room : Nat) : ∀ (retries : Nat) (s : δ × ω),
    pending s ≤ retries → ReadsTo room s (readUninterrupted room retries s)
  | 0, s, hretries => by
    unfold readUninterrupted
    cases hcall : (operate (.read room) : DeviceM ω δ Bytes) s with
    | ok bytes s' => exact .given hcall
    | error e s' =>
      refine .failed hcall (Bool.eq_false_iff.mpr fun hinterrupted => ?_)
      have hless := h.read hcall hinterrupted
      omega
  | retries + 1, s, hretries => by
    unfold readUninterrupted
    cases hcall : (operate (.read room) : DeviceM ω δ Bytes) s with
    | ok bytes s' => exact .given hcall
    | error e s' =>
      dsimp only
      by_cases hinterrupted : e.isInterrupted = true
      · rw [if_pos hinterrupted]
        have hless := h.read hcall hinterrupted
        exact .again hcall hinterrupted
          (readsTo_readUninterrupted room retries s' (by omega))
      · rw [if_neg hinterrupted]
        exact .failed hcall (Bool.eq_false_iff.mpr hinterrupted)

theorem writesTo_writeAll : ∀ (attempts : Nat) (data : Bytes) (s : δ × ω),
    data.length + pending s ≤ attempts → WritesTo data s (writeAll attempts data s)
  | 0, [], s, _ => .done
  | _ + 1, [], s, _ => .done
  | 0, _ :: _, s, hattempts => by
    rw [List.length_cons] at hattempts
    omega
  | attempts + 1, byte :: rest, s, hattempts => by
    rw [List.length_cons] at hattempts
    unfold writeAll
    cases hcall : (operate (.write (byte :: rest)) : DeviceM ω δ Nat) s with
    | ok count s' =>
      cases count with
      | zero => exact .refused hcall
      | succ count =>
        have hpending := h.taken hcall
        refine .taken hcall (writesTo_writeAll attempts (rest.drop count) s' ?_)
        rw [List.length_drop]
        omega
    | error e s' =>
      dsimp only
      by_cases hinterrupted : e.isInterrupted = true
      · rw [if_pos hinterrupted]
        have hless := h.write hcall hinterrupted
        refine .again hcall hinterrupted (writesTo_writeAll attempts (byte :: rest) s' ?_)
        rw [List.length_cons]
        omega
      · rw [if_neg hinterrupted]
        exact .failed hcall (Bool.eq_false_iff.mpr hinterrupted)

/-- **A read of a patient device ends**, as the one that a bound may end does. -/
theorem readsTo (room : Nat) (s : δ × ω) : ReadsTo room s (readPatiently room s) :=
  h.readsTo_readUninterrupted room (pending s) s (Nat.le_refl _)

/-- **A write of some bytes to a patient device ends**, as the one that a bound may end does. -/
theorem writesTo {data : Bytes} (hdata : data ≠ []) (s : δ × ω) :
    WritesTo data s (writePatiently data s) := by
  unfold writePatiently
  rw [if_neg (mt List.isEmpty_iff.mp hdata)]
  exact h.writesTo_writeAll _ data s (Nat.le_refl _)

end Patient

end Device

namespace Script

theorem queue_next_of_ne (script : Script) {name other : String} (h : other ≠ name) :
    (script.next name).2.queue other = script.queue other := by
  unfold next
  cases script.queue name with
  | nil => rfl
  | cons fault faults => rw [queue_setQueue, if_neg h]

theorem pending_pos_of_next {script : Script} {name : String} (h : (script.next name).1 ≠ .none) :
    0 < script.pending name := by
  unfold next at h
  unfold pending
  cases hqueue : script.queue name with
  | nil =>
    rw [hqueue] at h
    exact absurd rfl h
  | cons fault faults => exact Nat.succ_pos _

end Script

namespace ScriptedDevice

theorem pending_eq (s : ScriptedDevice × Surroundings) :
    Device.pending s =
      s.1.scripted.script.pending "read" + s.1.scripted.script.pending "write" := rfl

theorem pending_faulted {call : DeviceCall} (hcall : call.name = "read" ∨ call.name = "write")
    (device : ScriptedDevice) (w w' : Surroundings) :
    Device.pending (device.faulted call.name, w') ≤ Device.pending (device, w) ∧
      ((device.scripted.script.next call.name).1 ≠ .none →
        Device.pending (device.faulted call.name, w') < Device.pending (device, w)) := by
  rw [pending_eq, pending_eq]
  unfold faulted
  dsimp only
  have hother : ∀ {name other : String}, other ≠ name →
      (device.scripted.script.next name).2.pending other =
        device.scripted.script.pending other := by
    intro name other hne
    unfold Script.pending
    rw [Script.queue_next_of_ne _ hne]
  have hused := device.scripted.script.pending_next call.name
  have hpos : (device.scripted.script.next call.name).1 ≠ .none →
      0 < device.scripted.script.pending call.name := Script.pending_pos_of_next
  rcases hcall with hname | hname
  · rw [hname] at hused hpos ⊢
    rw [hused, hother (by decide : "write" ≠ "read")]
    exact ⟨by omega, fun hfault => by have := hpos hfault; omega⟩
  · rw [hname] at hused hpos ⊢
    rw [hused, hother (by decide : "read" ≠ "write")]
    exact ⟨by omega, fun hfault => by have := hpos hfault; omega⟩

theorem ends_act_write (bound : Option Nat) (data : Bytes) (scripted : ScriptedContent)
    (w : Surroundings) :
    DeviceM.Ends (act bound (.write data)) (scripted, w)
      (fun count s' => count ≤ data.length ∧ s' = ({ scripted with
        content := scripted.content.splice scripted.cursor (data.take count)
        cursor := scripted.cursor + (data.take count).length }, w))
      fun e s' => e = full ∧ s' = (scripted, w) := by
  generalize htaken : data.take (scripted.allowance data.length bound) = taken
  have hle : taken.length ≤ data.length := by
    rw [← htaken, List.length_take]
    exact Nat.min_le_right _ _
  have hagain : data.take taken.length = taken := by
    rw [← htaken, List.length_take, ← List.take_take, List.take_length]
  have hput : DeviceM.Ends (ScriptedContent.put full taken) (scripted, w)
      (fun _ s' => s' = ({ scripted with
        content := scripted.content.splice scripted.cursor taken
        cursor := scripted.cursor + taken.length }, w))
      fun e s' => e = full ∧ s' = (scripted, w) := by
    unfold DeviceM.Ends ScriptedContent.put
    dsimp only
    by_cases hfits : scripted.cursor + taken.length ≤ ScriptedContent.sizeLimit
    · rw [if_pos hfits]
    · rw [if_neg hfits]
      exact ⟨rfl, rfl⟩
  have hanswered : DeviceM.Ends (do ScriptedContent.put full taken; return taken.length)
      (scripted, w) (fun count s' => count ≤ data.length ∧ s' = ({ scripted with
        content := scripted.content.splice scripted.cursor (data.take count)
        cursor := scripted.cursor + (data.take count).length }, w))
      fun e s' => e = full ∧ s' = (scripted, w) := by
    refine hput.bind fun _ s' hs' => DeviceM.ends_pure ⟨hle, ?_⟩
    rw [hagain]
    exact hs'
  subst htaken
  exact hanswered

/-- **A scripted device is patient**: an interruption is a fault of its script. -/
theorem patient : Device.Patient Surroundings ScriptedDevice := by
  have hread : ∀ (room : Nat) (s : ScriptedDevice × Surroundings),
      (Device.operate (.read room) : DeviceM Surroundings ScriptedDevice Bytes).Ends s
        (fun _ _ => True) fun _ s' => Device.pending s' < Device.pending s := by
    intro room s
    refine ends_operate ?_ fun _ _ => trivial
    intro e w' hfail
    exact (pending_faulted (Or.inl rfl) s.1 s.2 w').2 (by rw [hfail]; nofun)
  have hwrite : ∀ (data : Bytes) (s : ScriptedDevice × Surroundings),
      (Device.operate (.write data) : DeviceM Surroundings ScriptedDevice Nat).Ends s
        (fun _ s' => Device.pending s' ≤ Device.pending s)
        fun e s' => e.isInterrupted = true → Device.pending s' < Device.pending s := by
    intro data s
    refine ends_operate ?_ fun bound w' => ?_
    · intro e w' hfail _
      exact (pending_faulted (Or.inr rfl) s.1 s.2 w').2 (by rw [hfail]; nofun)
    · refine (ends_act_write bound data _ w').mono ?_ ?_
      · rintro count _ ⟨-, rfl⟩
        exact (pending_faulted (Or.inr rfl) s.1 s.2 w').1
      · rintro _ _ ⟨rfl, -⟩ hinterrupted
        cases hinterrupted
  exact ⟨fun hcall _ => (hread _ _).of_eq_error hcall, fun hcall => (hwrite _ _).of_eq_error hcall,
    fun hcall => (hwrite _ _).of_eq_ok hcall⟩

end ScriptedDevice

end LayeredStreams
