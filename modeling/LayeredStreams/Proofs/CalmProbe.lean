import LayeredStreams.Proofs.Bounded
import LayeredStreams.Proofs.ProbeSource

/-!
# Calm probes

A probe whose script makes no call fail and cuts no transfer to nothing is a base in order: each
read gives some part of the bytes that are there, the part that the script and the chunk size say.

* `Fault.isHarmless` — the faults that neither fail a call nor cut a transfer to nothing.
* `Probe.Calm`, `Probe.Rests` — an open probe that suffers no other faults, and one with a content
  and its cursor at a place.

Principal results: `Probe.Rests.moves_accept` (a calm probe accepts every request) and
`Probe.enduring`.
-/

set_option autoImplicit false

namespace LayeredStreams

/-- Whether a fault neither fails a call nor keeps it from moving a byte. -/
def Fault.isHarmless : Fault → Bool
  | none | cancel _ => true
  | atMost count => count != 0
  | fail _ => false

theorem Mode.isCancelled_record (mode : Mode) (source : Nat) (call : Call) (w : Surroundings) :
    mode.isCancelled (w.record source call) = mode.isCancelled w := by
  cases mode with
  | blocking => rfl
  | suspending token => cases token <;> rfl

namespace Probe

/-- An open probe that never fails and moves a byte at least whenever it moves bytes. -/
structure Calm (s : Probe × Surroundings) : Prop where
  isOpen : s.1.disposed = false
  fits : s.1.scripted.content.length ≤ maxWord
  chunk_ne : s.1.scripted.chunk ≠ some 0
  harmless : ∀ name, ∀ fault ∈ s.1.scripted.script.queue name, fault.isHarmless = true

/-- A calm probe of a content, with its cursor at `q`. -/
def Rests : Bytes → Probe × Surroundings → Nat → Prop :=
  Standing Calm (fun s => s.1.scripted.content) fun s => s.1.scripted.cursor

variable {content : Bytes} {s : Probe × Surroundings} {q : Nat}

theorem Rests.moveTo (h : Rests content s q) (place : Nat) :
    Rests content
      ({ s.1 with scripted := { s.1.scripted with cursor := place } }, s.2) place :=
  ⟨⟨h.1.isOpen, h.1.fits, h.1.chunk_ne, h.1.harmless⟩, h.2.1, rfl⟩

theorem Rests.record (h : Rests content s q) (call : Call) :
    Rests content (s.1, s.2.record s.1.scripted.source call) q :=
  ⟨⟨h.1.isOpen, h.1.fits, h.1.chunk_ne, h.1.harmless⟩, h.2⟩

/-- A calm probe accepts every request, and lets it move a byte at least. -/
theorem Rests.moves_accept (h : Rests content s q) (request : Request) :
    (accept request).Moves (Rests content) s (fun bound q' => bound ≠ some 0 ∧ q' = q)
      fun _ _ => False := by
  obtain ⟨probe, w⟩ := s
  have hnext := fst_next_mem probe.scripted.script request.name
  have hscript : ∀ w', Rests content
      (probe.withScript (probe.scripted.script.next request.name).2, w') q := fun w' =>
    ⟨⟨h.1.isOpen, h.1.fits, h.1.chunk_ne,
      fun name fault hmem => h.1.harmless name fault (mem_queue_next hmem)⟩, h.2⟩
  unfold accept
  refine StreamM.ends_bind_of_eq_ok rfl (StreamM.ends_state_bind ?_)
  dsimp only
  rw [if_neg (by rw [h.1.isOpen]; exact Bool.false_ne_true)]
  unfold StreamM.Ends
  rw [obey_apply]
  generalize probe.scripted.script.next request.name = asked at hnext hscript
  obtain ⟨fault, script⟩ := asked
  cases fault with
  | none => exact ⟨q, ⟨nofun, rfl⟩, hscript _⟩
  | cancel token => exact ⟨q, ⟨nofun, rfl⟩, hscript _⟩
  | atMost count =>
    have hharmless := h.1.harmless request.name _ (hnext nofun)
    refine ⟨q, ⟨?_, rfl⟩, hscript _⟩
    rintro ⟨⟩
    cases hharmless
  | fail e => cases h.1.harmless request.name _ (hnext nofun)

/-- What an accepted request does, it does from where a calm probe stands. -/
theorem Rests.moves_accept_bind {α : Type} (h : Rests content s q) (request : Request)
    {next : Option Nat → StreamM Surroundings Probe α} {good : α → Nat → Prop}
    {bad : StreamError → Nat → Prop}
    (hnext : ∀ bound s', bound ≠ some 0 → Rests content s' q →
      (next bound).Moves (Rests content) s' good bad) :
    (accept request >>= next).Moves (Rests content) s good bad := by
  refine (h.moves_accept request).mono (fun _ _ h => h) (fun _ _ h => h.elim) |>.bind ?_
  rintro bound _ s' ⟨hbound, rfl⟩ hs'
  exact hnext bound s' hbound hs'

/-- A suspending transfer is stopped if its token was cancelled, and otherwise goes ahead. -/
theorem Rests.ends_suspended_bind {α : Type} (h : Rests content s q) (request : Request)
    {act : StreamM Surroundings Probe α} {good : α → Probe × Surroundings → Prop}
    {bad : StreamError → Probe × Surroundings → Prop}
    (hcancelled : request.mode.isCancelled s.2 = true →
      ∀ s', Rests content s' q → bad (.refusal .cancelled) s')
    (hadmitted : ∀ s', Rests content s' q → act.Ends s' good bad) :
    StreamM.Ends (do suspended request; act) s good bad := by
  have hrecorded := h.record (.request request)
  unfold suspended
  rw [bind_assoc]
  refine StreamM.ends_bind_of_eq_ok rfl (Mode.ends_checkToken_bind ?_ ?_)
  · intro hstopped
    have hstopped' := (Mode.isCancelled_record _ _ _ _).symm.trans hstopped
    exact hcancelled hstopped' _ hrecorded
  · intro _
    exact hadmitted _ hrecorded

theorem Rests.moves_actRead (h : Rests content s q) (room : Nat) {bound : Option Nat}
    (hbound : bound ≠ some 0) {bad : StreamError → Nat → Prop} :
    (act bound (.read .blocking room) : StreamM Surroundings Probe Bytes).Moves (Rests content) s
      (fun bytes q' => Delivers (content.take (content.limit [])) q room bytes ∧
        q' = q + bytes.length) bad := by
  obtain ⟨hpos, hle⟩ := allowance_pos hbound h.1.chunk_ne room
  rw [Bytes.take_limit_nil]
  obtain ⟨probe, w⟩ := s
  obtain ⟨hcalm, rfl, rfl⟩ := h
  exact ⟨_, ⟨.window hpos hle, rfl⟩, ⟨hcalm.isOpen, hcalm.fits, hcalm.chunk_ne, hcalm.harmless⟩,
    rfl, rfl⟩

theorem keeps_put (data : Bytes) :
    StreamM.Keeps (Somewhere Rests)
      (onContent (ScriptedContent.put (.refusal .overflow) data)) := by
  rintro ⟨probe, w⟩ ⟨_, _, hcalm, rfl, rfl⟩
  unfold onContent StreamM.within ScriptedContent.put StreamM.Ends
  by_cases hfull : probe.scripted.cursor + data.length ≤ ScriptedContent.sizeLimit
  · simp only [hfull, if_true]
    refine ⟨_, _, ⟨hcalm.isOpen, ?_, hcalm.chunk_ne, hcalm.harmless⟩, rfl, rfl⟩
    have hfits := hcalm.fits
    dsimp only at hfits ⊢
    rw [Bytes.length_splice]
    unfold ScriptedContent.sizeLimit at hfull
    unfold maxWord at hfits ⊢
    omega
  · simp only [hfull, if_false]
    exact ⟨_, _, hcalm, rfl, rfl⟩

theorem keeps_resize (size : Nat) :
    StreamM.Keeps (Somewhere Rests)
      (onContent (ScriptedContent.resize (.refusal .overflow) size)) := by
  rintro ⟨probe, w⟩ ⟨_, _, hcalm, rfl, rfl⟩
  unfold onContent StreamM.within ScriptedContent.resize StreamM.Ends
  by_cases hfull : size ≤ ScriptedContent.sizeLimit
  · simp only [hfull, if_true]
    refine ⟨_, _, ⟨hcalm.isOpen, ?_, hcalm.chunk_ne, hcalm.harmless⟩, rfl, rfl⟩
    dsimp only
    rw [Bytes.length_resize]
    exact Nat.le_trans hfull (by decide)
  · simp only [hfull, if_false]
    exact ⟨_, _, hcalm, rfl, rfl⟩

theorem keeps_accept_bind {α : Type} (request : Request)
    {next : Option Nat → StreamM Surroundings Probe α}
    (hnext : ∀ bound, StreamM.Keeps (Somewhere Rests) (next bound)) :
    StreamM.Keeps (Somewhere Rests) (accept request >>= next) := by
  rintro s ⟨content, q, h⟩
  refine StreamM.Ends.bind (h.moves_accept request).somewhere ?_
  intro bound s' hs'
  exact hnext bound s' hs'

/-- **A calm probe is a base in order**, whatever part of what is there each read gives. -/
theorem enduring : Enduring 0 [] Rests where
  fits := by
    rintro content s q ⟨hcalm, rfl, -⟩
    exact hcalm.fits
  position h := by
    refine h.moves_accept_bind .position fun bound s' _ hs' => ?_
    refine ⟨_, ⟨?_, rfl⟩, hs'⟩
    rw [Nat.zero_add]
    exact hs'.2.2
  setPosition h target := by
    refine h.moves_accept_bind (.setPosition target) fun bound s' _ hs' => ?_
    exact ⟨target, (Nat.zero_add target).symm, hs'.moveTo target⟩
  seek {content s q} h target := by
    refine h.moves_accept_bind (.seek target) fun bound s' _ hs' => ?_
    have hcursor : s'.1.scripted.cursor = q := hs'.2.2
    refine StreamM.ends_state_bind ?_
    rw [hcursor]
    cases hplace : target.resolve q s'.1.reportedLength with
    | error cause => exact ⟨q, target.straysTo_self q, hs'⟩
    | ok place =>
      have hleads := SeekTarget.leadsTo_of_resolve hplace
      exact ⟨place, ⟨hleads, (Nat.zero_add place).symm⟩, hs'.moveTo place⟩
  read {content s q} h mode room := by
    cases mode with
    | blocking =>
      refine h.moves_accept_bind (.read .blocking room) fun bound s' hbound hs' => ?_
      exact hs'.moves_actRead room hbound
    | suspending token =>
      refine h.ends_suspended_bind (.read (.suspending token) room) ?_ ?_
      · intro hcancelled s' hs'
        exact ⟨q, ⟨hcancelled, rfl⟩, hs'⟩
      intro s' hs'
      refine hs'.moves_accept_bind (.read .blocking room) fun bound s'' hbound hs'' => ?_
      exact hs''.moves_actRead room hbound
  readByte {content s q} h := by
    refine h.moves_accept_bind .readByte fun bound s' _ hs' => ?_
    obtain ⟨probe, w⟩ := s'
    obtain ⟨hcalm, rfl, rfl⟩ := hs'
    have hbyte : onContent (ScriptedContent.take 1) (probe, w) =
        .ok (probe.scripted.content.window probe.scripted.cursor 1)
          ({ probe with scripted := { probe.scripted with cursor := probe.scripted.cursor +
            (probe.scripted.content.window probe.scripted.cursor 1).length } }, w) := rfl
    rw [Bytes.window_one] at hbyte
    refine StreamM.ends_bind_of_eq_ok hbyte ⟨_, ⟨?_, ?_⟩, Rests.moveTo ⟨hcalm, rfl, rfl⟩ _⟩
    · rw [Bytes.take_limit_nil, Option.head?_toList]
    · rw [Option.head?_toList]
  idle {content s q} h request hidle := by
    cases request with
    | length => exact h.moves_accept_bind .length fun bound s' _ hs' => ⟨q, rfl, hs'⟩
    | flush mode =>
      cases mode with
      | blocking =>
        exact h.moves_accept_bind (.flush .blocking) fun bound s' _ hs' => ⟨q, rfl, hs'⟩
      | suspending token =>
        refine h.ends_suspended_bind (.flush (.suspending token)) (fun _ s' hs' => ⟨q, rfl, hs'⟩) ?_
        intro s' hs'
        exact hs'.moves_accept_bind (.flush .blocking) fun bound s'' _ hs'' => ⟨q, rfl, hs''⟩
    | timeout direction =>
      refine h.moves_accept_bind (.timeout direction) fun bound s' _ hs' => ?_
      refine StreamM.Moves.bind (moves_ensureTiming hs' _) ?_
      rintro _ _ s'' rfl hs''
      exact ⟨_, rfl, hs''⟩
    | setTimeout direction limit =>
      refine h.moves_accept_bind (.setTimeout direction limit) fun bound s' _ hs' => ?_
      refine StreamM.Moves.bind (moves_ensureTiming hs' _) ?_
      rintro _ _ s'' rfl hs''
      exact ⟨_, rfl, ⟨hs''.1.isOpen, hs''.1.fits, hs''.1.chunk_ne, hs''.1.harmless⟩, hs''.2⟩
    | _ => cases hidle
  mutating request hmutates := by
    cases request with
    | setLength size => exact keeps_accept_bind (.setLength size) fun _ => keeps_resize size
    | write mode data =>
      cases mode with
      | blocking => exact keeps_accept_bind (.write .blocking data) fun _ => keeps_put data
      | suspending token =>
        rintro s ⟨content, q, h⟩
        refine h.ends_suspended_bind (.write (.suspending token) data)
          (fun _ s' hs' => ⟨content, q, hs'⟩) ?_
        intro s' hs'
        exact keeps_accept_bind (.write .blocking data) (fun _ => keeps_put data) s'
          ⟨content, q, hs'⟩
    | writeByte byte => exact keeps_accept_bind (.writeByte byte) fun _ => keeps_put [byte]
    | _ => cases hmutates

end Probe

end LayeredStreams
