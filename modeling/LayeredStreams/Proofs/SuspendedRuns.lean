import LayeredStreams.Proofs.WaitingBases

/-!
# Runs of suspended and blocking operations

A run of operations on a stack of layers has the same outcomes and leaves the same states, whichever
of the operations are suspending and whichever are blocking.

* `Task` — an operation on the first of two streams that can wait either way; a copy goes to the
  second.
* `Task.outcomes`, `Task.after` — what comes of tasks done one after the other, each in its mode,
  and the streams afterwards.

Principal results: `Task.same` (a task is the same in every allowed mode), `Task.run_eq` (so is a
run) and `Stack.run_in_any_modes` (over every stack of layers).
-/

set_option autoImplicit false

namespace LayeredStreams

/-- An operation on the first of two streams that can wait either way. -/
inductive Task
  | read (room : Nat)
  | write (data : Bytes)
  | flush
  /-- Any request, as it is. -/
  | ask (request : Request)
  /-- Read on until a buffer is full or the content is at its end. -/
  | fill (room : Nat)
  /-- Fill a buffer; a short fill is a failure. -/
  | fillExactly (room : Nat)
  /-- Write everything from the cursor on to the second stream. -/
  | copy
  deriving DecidableEq, Repr

namespace Task

/-- The type of the result of a task. -/
@[reducible] def Answer : Task → Type
  | read _ => Bytes
  | write _ => Unit
  | flush => Unit
  | ask request => request.Answer
  | fill _ => Filled
  | fillExactly _ => Filled
  | copy => Nat

variable {ω σ τ : Type} [Cancellation ω] [ByteStream ω σ] [ByteStream ω τ]

/-- Do a task in a mode. -/
def perform (mode : Mode) : (task : Task) → StreamM ω (σ × τ) task.Answer
  | read room => onSource (ByteStream.read mode room)
  | write data => onSource (ByteStream.write mode data)
  | flush => onSource (ByteStream.flush mode)
  | ask request => onSource (ByteStream.perform request)
  | fill room => onSource (LayeredStreams.fill mode room)
  | fillExactly room => onSource (LayeredStreams.fillExactly mode room)
  | copy => LayeredStreams.copy mode

/-- The two streams after tasks, one after the other, each in its mode. -/
def after (steps : List (Task × Mode)) (s : (σ × τ) × ω) : (σ × τ) × ω :=
  steps.foldl (fun s step => (step.1.perform step.2).final s) s

/-- What comes of tasks, one after the other, each in its mode. An error does not name the operation
that is not offered. -/
def outcomes :
    List (Task × Mode) → (σ × τ) × ω → List ((task : Task) × Except StreamError task.Answer)
  | [], _ => []
  | (task, mode) :: steps, s =>
    ⟨task, (task.perform mode).unnamed.result s⟩ :: outcomes steps ((task.perform mode).final s)

variable {allowed : Mode → Prop} {sound : σ → Prop} {sound' : τ → Prop} {mode : Mode}

/-- Two streams that are both sound. -/
def Both (sound : σ → Prop) (sound' : τ → Prop) (pair : σ × τ) : Prop :=
  sound pair.1 ∧ sound' pair.2

omit [ByteStream ω σ] [ByteStream ω τ] in
theorem keeps_onSource {α : Type} {act : StreamM ω σ α}
    (h : StreamM.Keeps (Uncancelled allowed sound) act) :
    StreamM.Keeps (Uncancelled allowed (Both sound sound'))
      (onSource act : StreamM ω (σ × τ) α) := by
  have hpart : StreamM.Keeps (fun s => sound' s.1.2 ∧ Uncancelled allowed sound (s.1.1, s.2))
      (onSource act : StreamM ω (σ × τ) α) :=
    h.within_keeping (fun pair : σ × τ => sound' pair.2) (fun _ _ => rfl) fun _ _ hrest => hrest
  rintro s ⟨⟨hsound, hsound'⟩, hw⟩
  refine (hpart s ⟨hsound', hsound, hw⟩).mono ?_ ?_
  · rintro value s' ⟨hrest, hgood⟩
    exact ⟨⟨hgood.1, hrest⟩, hgood.2⟩
  · rintro e s' ⟨hrest, hgood⟩
    exact ⟨⟨hgood.1, hrest⟩, hgood.2⟩

omit [ByteStream ω σ] [ByteStream ω τ] in
theorem keeps_onDestination {α : Type} {act : StreamM ω τ α}
    (h : StreamM.Keeps (Uncancelled allowed sound') act) :
    StreamM.Keeps (Uncancelled allowed (Both sound sound'))
      (onDestination act : StreamM ω (σ × τ) α) := by
  have hpart : StreamM.Keeps (fun s => sound s.1.1 ∧ Uncancelled allowed sound' (s.1.2, s.2))
      (onDestination act : StreamM ω (σ × τ) α) :=
    h.within_keeping (fun pair : σ × τ => sound pair.1) (fun _ _ => rfl) fun _ _ hrest => hrest
  rintro s ⟨⟨hsound, hsound'⟩, hw⟩
  refine (hpart s ⟨hsound, hsound', hw⟩).mono ?_ ?_
  · rintro value s' ⟨hrest, hgood⟩
    exact ⟨⟨hrest, hgood.1⟩, hgood.2⟩
  · rintro e s' ⟨hrest, hgood⟩
    exact ⟨⟨hrest, hgood.1⟩, hgood.2⟩

omit [ByteStream ω σ] [ByteStream ω τ] in
theorem same_onSource {α : Type} (sound' : τ → Prop) {act act' : StreamM ω σ α}
    (h : StreamM.Same (Uncancelled allowed sound) act.unnamed act'.unnamed) :
    StreamM.Same (Uncancelled allowed (Both sound sound'))
      (onSource act : StreamM ω (σ × τ) α).unnamed (onSource act').unnamed :=
  h.unnamed_within.mono fun _ hs => ⟨hs.1.1, hs.2⟩

omit [ByteStream ω σ] [ByteStream ω τ] in
theorem same_onDestination {α : Type} (sound : σ → Prop) {act act' : StreamM ω τ α}
    (h : StreamM.Same (Uncancelled allowed sound') act.unnamed act'.unnamed) :
    StreamM.Same (Uncancelled allowed (Both sound sound'))
      (onDestination act : StreamM ω (σ × τ) α).unnamed (onDestination act').unnamed :=
  h.unnamed_within.mono fun _ hs => ⟨hs.1.2, hs.2⟩

section Copying

variable (source : WaitsAlike ω allowed sound) (destination : WaitsAlike ω allowed sound')
include source destination

theorem keeps_copyWithin (mode : Mode) (reads : Nat) :
    StreamM.Keeps (Uncancelled allowed (Both sound sound'))
      (copyWithin mode reads : StreamM ω (σ × τ) Nat) :=
  LayeredStreams.keeps_copyWithin (keeps_onSource (source.keeps (.read mode copyBufferSize)))
    (fun data => keeps_onDestination (destination.keeps (.write mode data))) reads

/-- The induction is on the reads that are left. -/
theorem same_copyWithin (hmode : allowed mode) : ∀ reads : Nat,
    StreamM.Same (Uncancelled allowed (Both sound sound'))
      (copyWithin mode reads : StreamM ω (σ × τ) Nat).unnamed (copyWithin .blocking reads).unnamed
  | 0 => .refl _
  | reads + 1 => by
    unfold copyWithin
    rw [StreamM.unnamed_bind, StreamM.unnamed_bind]
    have hread := same_onSource sound' (source.read hmode copyBufferSize).unnamed
    refine hread.bind (keeps_onSource (source.keeps (.read mode _))).unnamed fun bytes => ?_
    split
    · exact .refl _
    simp only [StreamM.unnamed_bind]
    have hwrite := same_onDestination sound (destination.write hmode bytes)
    refine hwrite.bind (keeps_onDestination (destination.keeps (.write mode _))).unnamed fun _ => ?_
    refine (same_copyWithin hmode reads).bind ?_ fun _ => .refl _
    exact (keeps_copyWithin source destination mode reads).unnamed

theorem keeps (mode : Mode) (task : Task) :
    StreamM.Keeps (Uncancelled allowed (Both sound sound'))
      (task.perform mode : StreamM ω (σ × τ) task.Answer) := by
  cases task with
  | read room => exact keeps_onSource (source.keeps (.read mode room))
  | write data => exact keeps_onSource (source.keeps (.write mode data))
  | flush => exact keeps_onSource (source.keeps (.flush mode))
  | ask request => exact keeps_onSource (source.keeps request)
  | fill room => exact keeps_onSource (source.keeps_fill mode room)
  | fillExactly room => exact keeps_onSource (source.keeps_fillExactly mode room)
  | copy => exact keeps_copyWithin source destination mode readLimit

/-- **A task is the same in every allowed mode**, up to the name of an operation that is not
offered. -/
theorem same (hmode : allowed mode) (task : Task) :
    StreamM.Same (Uncancelled allowed (Both sound sound'))
      (task.perform mode : StreamM ω (σ × τ) task.Answer).unnamed
      (task.perform .blocking).unnamed := by
  cases task with
  | read room => exact same_onSource sound' (source.read hmode room).unnamed
  | write data => exact same_onSource sound' (source.write hmode data)
  | flush => exact same_onSource sound' (source.flush hmode)
  | ask request => exact .refl _
  | fill room => exact same_onSource sound' (source.same_fill hmode room).unnamed
  | fillExactly room => exact same_onSource sound' (source.same_fillExactly hmode room).unnamed
  | copy => exact same_copyWithin source destination hmode readLimit

/-- **A run of tasks is the same in any allowed modes.** The induction is on the tasks: each leaves
the same streams in its mode and in the blocking one. -/
theorem run_eq {steps : List (Task × Mode)} (hsteps : ∀ step ∈ steps, allowed step.2)
    {s : (σ × τ) × ω} (hs : Uncancelled allowed (Both sound sound') s) :
    outcomes steps s = outcomes (steps.map fun step => (step.1, .blocking)) s ∧
      after steps s = after (steps.map fun step => (step.1, .blocking)) s := by
  induction steps generalizing s with
  | nil => exact ⟨rfl, rfl⟩
  | cons step steps ih =>
    obtain ⟨task, mode⟩ := step
    have hmode : allowed mode := hsteps (task, mode) List.mem_cons_self
    have hsame := same source destination hmode task s hs
    have hresult := StreamM.result_congr hsame
    have hfinal := StreamM.final_congr hsame
    rw [StreamM.final_unnamed, StreamM.final_unnamed] at hfinal
    have hkept := (keeps source destination mode task s hs).final
    obtain ⟨houtcomes, hafter⟩ :=
      ih (fun step hmem => hsteps step (List.mem_cons_of_mem _ hmem)) hkept
    constructor
    · rw [outcomes, List.map_cons, outcomes, houtcomes, hresult, hfinal]
    · show after steps _ = after (steps.map fun step => (step.1, .blocking)) _
      rw [hafter, hfinal]

end Copying

end Task

namespace Stack

variable {ω β γ : Type} [Cancellation ω] [ByteStream ω β] [ByteStream ω γ]

/-- **A run over stacks of layers comes to the same whichever operations are suspending.** Each
operation is done in a mode that no request to the two bases calls off; the other run blocks all
the time. What comes of each operation is the same up to the name of an operation that is not
offered, and so are the states of all layers, their blocks among them, of the bases and of the
surroundings. -/
theorem run_in_any_modes (source : AdmitsAndBlocks ω β) (destination : AdmitsAndBlocks ω γ)
    {allowed : Mode → Prop} {sound : β → Prop} {sound' : γ → Prop}
    (hsource : ∀ request : Request, StreamM.Keeps (Uncancelled allowed sound)
      (ByteStream.perform request : StreamM ω β request.Answer))
    (hdestination : ∀ request : Request, StreamM.Keeps (Uncancelled allowed sound')
      (ByteStream.perform request : StreamM ω γ request.Answer))
    {kinds kinds' : List LayerKind} {s : (Stack kinds β × Stack kinds' γ) × ω}
    (hs : Uncancelled allowed (Task.Both (Sound sound kinds) (Sound sound' kinds')) s)
    {steps : List (Task × Mode)} (hsteps : ∀ step ∈ steps, allowed step.2) :
    Task.outcomes steps s = Task.outcomes (steps.map fun step => (step.1, .blocking)) s ∧
      Task.after steps s = Task.after (steps.map fun step => (step.1, .blocking)) s :=
  Task.run_eq (waitsAlike (source.waitsAlike hsource) kinds)
    (waitsAlike (destination.waitsAlike hdestination) kinds') hsteps hs

/-- A device of six bytes that gives at most four at a time, is interrupted in the first read,
cancels a token in the second and fails the third. -/
def troubledDevice : ScriptedDevice :=
  ⟨⟨[1, 2, 3, 4, 5, 6], 0, some 4, ⟨[("read", [.fail (.device (.reported .interrupted "again")),
    .cancel "other", .fail (.refusal .overflow)])]⟩, 0⟩⟩

/-- A cached layer over a truncated one over a stream over the device, and zeros. -/
def troubledPair : Stack [.cached, .truncated] (DeviceStream ScriptedDevice) × Stack [] Zeros :=
  ((⟨.ofStream (⟨.ofStream (.ofDevice troubledDevice .resizable) .owns, 0, 5, 0⟩ : Truncated _)
    .owns, .empty, 0⟩ : Cached (Truncated (DeviceStream ScriptedDevice))), Zeros.ofSize 0)

def troubledSteps : List (Task × Mode) :=
  [(.fill 3, .suspending (.named "stop")), (.write [7], .suspending .never), (.read 2, .blocking),
    (.copy, .suspending (.named "stop")), (.flush, .suspending (.named "stop")),
    (.ask .dispose, .blocking), (.fillExactly 1, .suspending .never)]

/-- The modes that are not called off when the device cancels its token. -/
def spared (mode : Mode) : Prop := mode ≠ .suspending (.named "other")

theorem spares_troubledDevice : troubledDevice.scripted.Spares spared := by
  intro name token hmem hspared
  unfold Script.queue troubledDevice at hmem
  by_cases hname : name = "read"
  · subst hname
    simp only [List.lookup_cons, beq_self_eq_true, Option.getD_some, List.mem_cons] at hmem
    rcases hmem with hfirst | hsecond | hthird | hmore
    · cases hfirst
    · cases hsecond
      exact hspared rfl
    · cases hthird
    · cases hmore
  · simp [List.lookup_cons, beq_eq_false_iff_ne.mpr hname] at hmem

/-- An interrupted read, a cancelled token and a failure do not tell the two runs apart. -/
theorem run_in_troubled_modes :
    Task.outcomes troubledSteps (troubledPair, Surroundings.initial) =
        Task.outcomes (troubledSteps.map fun step => (step.1, .blocking))
          (troubledPair, Surroundings.initial) ∧
      Task.after troubledSteps (troubledPair, Surroundings.initial) =
        Task.after (troubledSteps.map fun step => (step.1, .blocking))
          (troubledPair, Surroundings.initial) := by
  have hdevice : (DeviceStream.Sound fun device => device.scripted.Spares spared)
      (DeviceStream.ofDevice troubledDevice .resizable) := by
    rintro _ ⟨⟩
    exact spares_troubledDevice
  have hsource : Sound (DeviceStream.Sound fun device => device.scripted.Spares spared)
      [.cached, .truncated] troubledPair.1 := by
    rintro _ ⟨⟩ _ ⟨⟩
    exact hdevice
  have hinitial : ∀ mode, spared mode → mode.isCancelled Surroundings.initial = false := by
    rintro (_ | _ | name) -
    · rfl
    · rfl
    · rfl
  have hboth : Task.Both
      (Sound (DeviceStream.Sound fun device => device.scripted.Spares spared) [.cached, .truncated])
      (Sound (fun _ : Zeros => True) []) troubledPair := ⟨hsource, trivial⟩
  refine run_in_any_modes DeviceStream.admitsAndBlocks Zeros.admitsAndBlocks
    (DeviceStream.waitsAlike (ScriptedDevice.abides spared)).keeps
    (Zeros.waitsAlike spared).keeps ⟨hboth, hinitial⟩ ?_
  unfold spared troubledSteps
  decide

end Stack

end LayeredStreams
