import LayeredStreams.Probe
import LayeredStreams.Proofs.Source

/-!
# Probes as sources

A probe whose script never cuts a transfer to nothing is a stream of a fixed content, whatever
faults the script holds: a call may fail, may cancel a token, and may give fewer bytes than asked
for.

* `Probe.Stands content s p` — an open probe of that content, with its cursor at `p`, whose script
  and chunk size leave a byte at least to every transfer.

Principal results: `Probe.moves_accept` (a request that is accepted finds the probe as it was) and
`Probe.steady`.
-/

set_option autoImplicit false

namespace LayeredStreams

namespace Probe

/-- An open probe of a content, at `p`, which gives a byte at least where there is one. -/
structure Stands (content : Bytes) (s : Probe × Surroundings) (p : Nat) : Prop where
  isOpen : s.1.disposed = false
  content_eq : s.1.scripted.content = content
  cursor_eq : s.1.scripted.cursor = p
  honest : s.1.claimedLength = none
  chunk_ne : s.1.scripted.chunk ≠ some 0
  generous : ∀ name, Fault.atMost 0 ∉ s.1.scripted.script.queue name

variable {content : Bytes} {s : Probe × Surroundings} {p : Nat}

/-- The script after a fault holds no fault that it did not hold before. -/
theorem mem_queue_next {script : Script} {name other : String} {fault : Fault}
    (h : fault ∈ (script.next name).2.queue other) : fault ∈ script.queue other := by
  unfold Script.next at h
  cases hqueue : script.queue name with
  | nil => rw [hqueue] at h; exact h
  | cons first rest =>
    rw [hqueue] at h
    dsimp only at h
    rw [Script.queue_setQueue] at h
    split at h
    · rename_i heq
      rw [heq, hqueue]
      exact List.mem_cons_of_mem _ h
    · exact h

theorem fst_next_mem (script : Script) (name : String) (h : (script.next name).1 ≠ .none) :
    (script.next name).1 ∈ script.queue name := by
  unfold Script.next at h ⊢
  cases hqueue : script.queue name with
  | nil => rw [hqueue] at h; exact absurd rfl h
  | cons first rest => exact List.mem_cons_self

theorem Stands.record (h : Stands content s p) (call : Call) :
    Stands content (s.1, s.2.record s.1.scripted.source call) p :=
  ⟨h.isOpen, h.content_eq, h.cursor_eq, h.honest, h.chunk_ne, h.generous⟩

/-- The probe with another script. -/
def withScript (probe : Probe) (script : Script) : Probe :=
  { probe with scripted := { probe.scripted with script := script } }

theorem obey_apply (request : Request) (probe : Probe) (w : Surroundings) :
    obey request (probe, w) =
      match probe.scripted.script.next request.name with
      | (.none, script) => .ok none (probe.withScript script, w)
      | (.cancel token, script) => .ok none (probe.withScript script, w.cancel token)
      | (.atMost count, script) => .ok (some count) (probe.withScript script, w)
      | (.fail e, script) => .error e (probe.withScript script, w) := by
  unfold obey onContent StreamM.within ScriptedContent.obey
  dsimp only
  cases probe.scripted.script.next request.name with
  | mk fault script => cases fault <;> rfl

/-- A fault leaves the probe as it was, with its script shorter, and a byte at least to transfer. -/
theorem moves_obey (h : Stands content s p) (request : Request) :
    (obey request).Moves (Stands content) s (fun bound q => bound ≠ some 0 ∧ q = p)
      (fun _ q => q = p) := by
  obtain ⟨probe, w⟩ := s
  have hnext := fst_next_mem probe.scripted.script request.name
  have hscript : ∀ w', Stands content
      (probe.withScript (probe.scripted.script.next request.name).2, w') p := fun w' =>
    ⟨h.isOpen, h.content_eq, h.cursor_eq, h.honest, h.chunk_ne,
      fun name hmem => h.generous name (mem_queue_next hmem)⟩
  unfold StreamM.Moves StreamM.Ends
  rw [obey_apply]
  generalize probe.scripted.script.next request.name = asked at hnext hscript
  obtain ⟨fault, script⟩ := asked
  cases fault with
  | none => exact ⟨p, ⟨nofun, rfl⟩, hscript w⟩
  | cancel token => exact ⟨p, ⟨nofun, rfl⟩, hscript (w.cancel token)⟩
  | atMost count =>
    refine ⟨p, ⟨?_, rfl⟩, hscript w⟩
    rintro ⟨⟩
    exact h.generous request.name (hnext nofun)
  | fail e => exact ⟨p, rfl, hscript w⟩

/-- **A request that is accepted finds the probe as it was**, and may transfer a byte at least. -/
theorem moves_accept (h : Stands content s p) (request : Request) :
    (accept request).Moves (Stands content) s (fun bound q => bound ≠ some 0 ∧ q = p)
      (fun _ q => q = p) := by
  unfold accept
  refine StreamM.ends_bind_of_eq_ok rfl ?_
  refine StreamM.ends_state_bind ?_
  dsimp only
  rw [if_neg (by rw [h.isOpen]; exact Bool.false_ne_true)]
  exact moves_obey (h.record (.request request)) request

theorem allowance_pos {scripted : ScriptedContent} {bound : Option Nat} (hbound : bound ≠ some 0)
    (hchunk : scripted.chunk ≠ some 0) (room : Nat) :
    (0 < room → 0 < scripted.allowance room bound) ∧ scripted.allowance room bound ≤ room := by
  unfold ScriptedContent.allowance
  cases bound <;> cases hc : scripted.chunk <;> simp_all <;> omega

theorem moves_take (h : Stands content s p) {count room : Nat} (hpos : 0 < room → 0 < count)
    (hle : count ≤ room) {bad : StreamError → Nat → Prop} :
    (onContent (ScriptedContent.take count)).Moves (Stands content) s
      (fun bytes q => Delivers content p room bytes ∧ q = p + bytes.length) bad := by
  obtain ⟨probe, w⟩ := s
  obtain ⟨hopen, rfl, rfl, hhonest, hchunk, hgenerous⟩ := h
  exact ⟨_, ⟨.window hpos hle, rfl⟩, hopen, rfl, rfl, hhonest, hchunk, hgenerous⟩

theorem moves_actRead (h : Stands content s p) (mode : Mode) (room : Nat) {bound : Option Nat}
    (hbound : bound ≠ some 0) {bad : StreamError → Nat → Prop} :
    (act bound (.read mode room) : StreamM Surroundings Probe Bytes).Moves (Stands content) s
      (fun bytes q => Delivers content p room bytes ∧ q = p + bytes.length) bad := by
  refine StreamM.ends_state_bind ?_
  obtain ⟨hpos, hle⟩ := allowance_pos hbound h.chunk_ne room
  exact moves_take h hpos hle

/-- What an accepted request does, it does from where the probe stands. -/
theorem moves_accept_bind {α : Type} (h : Stands content s p) (request : Request)
    {next : Option Nat → StreamM Surroundings Probe α} {good : α → Nat → Prop}
    (hnext : ∀ bound s', bound ≠ some 0 → Stands content s' p →
      (next bound).Moves (Stands content) s' good fun _ q => q = p) :
    (accept request >>= next).Moves (Stands content) s good fun _ q => q = p := by
  refine (moves_accept h request).bind ?_
  rintro bound _ s' ⟨hbound, rfl⟩ hstands
  exact hnext bound s' hbound hstands

theorem moves_suspended_bind {α : Type} (h : Stands content s p) (request : Request)
    {next : Unit → StreamM Surroundings Probe α} {good : α → Nat → Prop}
    (hnext : ∀ s', Stands content s' p →
      (next ()).Moves (Stands content) s' good fun _ q => q = p) :
    (suspended request >>= next).Moves (Stands content) s good fun _ q => q = p := by
  have hrecorded := h.record (.request request)
  have htoken := (request.mode.ends_checkToken
    (s.1, s.2.record s.1.scripted.source (.request request)))
  unfold suspended
  refine StreamM.Ends.bind (StreamM.ends_bind_of_eq_ok rfl (htoken.mono (fun _ _ h => h) ?_)) ?_
  · rintro e _ ⟨rfl, -, -⟩
    exact ⟨p, rfl, hrecorded⟩
  · rintro ⟨⟩ _ rfl
    exact hnext _ hrecorded

theorem moves_read (h : Stands content s p) (mode : Mode) (room : Nat) :
    (ByteStream.read mode room : StreamM Surroundings Probe Bytes).Moves (Stands content) s
      (fun bytes q => Delivers content p room bytes ∧ q = p + bytes.length) fun _ q => q = p := by
  cases mode with
  | blocking =>
    refine moves_accept_bind h (.read .blocking room) ?_
    intro bound s' hbound hstands
    exact moves_actRead hstands .blocking room hbound
  | suspending token =>
    refine moves_suspended_bind h (.read (.suspending token) room) ?_
    intro s' hstands
    refine moves_accept_bind hstands (.read .blocking room) ?_
    intro bound s'' hbound hstands'
    exact moves_actRead hstands' .blocking room hbound

theorem moves_position (h : Stands content s p) :
    (ByteStream.position : StreamM Surroundings Probe Nat).Moves (Stands content) s
      (fun place q => place = p ∧ q = p) fun _ q => q = p := by
  refine moves_accept_bind h .position ?_
  intro bound s' _ hstands
  exact ⟨p, ⟨hstands.cursor_eq, rfl⟩, hstands⟩

theorem moves_setPosition (h : Stands content s p) (target : Nat) :
    (ByteStream.setPosition target : StreamM Surroundings Probe Unit).Moves (Stands content) s
      (fun _ q => q = target) fun _ q => q = p := by
  refine moves_accept_bind h (.setPosition target) ?_
  intro bound s' _ hout
  obtain ⟨hopen, hcontent, -, hhonest, hchunk, hgenerous⟩ := hout
  exact ⟨target, rfl, hopen, hcontent, rfl, hhonest, hchunk, hgenerous⟩

theorem Stands.reportedLength_eq (h : Stands content s p) :
    s.1.reportedLength = content.length := by
  unfold reportedLength
  rw [h.honest, Option.getD_none, h.content_eq]

theorem moves_length (h : Stands content s p) :
    (ByteStream.length : StreamM Surroundings Probe Nat).Moves (Stands content) s
      (fun reach q => reach = content.length ∧ q = p) fun _ q => q = p := by
  refine moves_accept_bind h .length ?_
  intro bound s' _ hstands
  exact ⟨p, ⟨hstands.reportedLength_eq, rfl⟩, hstands⟩

theorem moves_seek (h : Stands content s p) (target : SeekTarget) :
    (ByteStream.seek target : StreamM Surroundings Probe Nat).Moves (Stands content) s
      (fun place q => target.resolve p content.length = .ok place ∧ q = place)
      fun _ q => q = p := by
  refine moves_accept_bind h (.seek target) ?_
  intro bound s' _ hstands
  refine StreamM.ends_state_bind ?_
  rw [hstands.cursor_eq, hstands.reportedLength_eq]
  cases hplace : target.resolve p content.length with
  | error cause => exact ⟨p, rfl, hstands⟩
  | ok place =>
    obtain ⟨hopen, hcontent, -, hhonest, hchunk, hgenerous⟩ := hstands
    exact ⟨place, ⟨rfl, rfl⟩, hopen, hcontent, rfl, hhonest, hchunk, hgenerous⟩

theorem moves_ensureTiming {stands : Probe × Surroundings → Nat → Prop} (h : stands s p)
    (request : Request) :
    (ensureTiming request).Moves stands s (fun _ q => q = p) fun _ q => q = p := by
  refine StreamM.ends_state_bind ?_
  split
  · exact ⟨p, rfl, h⟩
  · exact ⟨p, rfl, h⟩

/-- **A probe is steady**, with any error for a fault. -/
theorem steady (content : Bytes) : Steady content (fun _ => True) (Stands content) where
  read h mode room := by
    refine StreamM.Ends.mono (moves_read h mode room) ?_ ?_
    · rintro bytes s' ⟨_, ⟨hdelivers, rfl⟩, hstands⟩
      exact ⟨hdelivers, hstands⟩
    · rintro e s' ⟨_, rfl, hstands⟩
      exact ⟨Or.inl trivial, hstands⟩
  position h := (moves_position h).mono (fun _ _ h => h) fun _ _ hq => ⟨trivial, hq⟩
  setPosition h target := (moves_setPosition h target).mono (fun _ _ h => h)
    fun _ _ hq => ⟨Or.inl trivial, hq⟩
  length h := (moves_length h).mono (fun _ _ h => h) fun _ _ hq => ⟨trivial, hq⟩
  seek h target := (moves_seek h target).mono (fun _ _ h => h)
    fun _ _ hq => ⟨Or.inl trivial, hq⟩

end Probe

end LayeredStreams
