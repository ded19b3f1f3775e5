import LayeredStreams.Proofs.Outcome
import LayeredStreams.Transfer

/-!
# Sources of a fixed content

* `Delivers content position room bytes` — what one read may give: bytes that stand at the position,
  no more than asked for, and none only at the end of the content.
* `Source content fault stands` — a stream whose reads deliver a content. `stands s p` says that the
  stream stands at `p` in the state `s`; a read may fail with a `fault`, or because its token is
  cancelled, and then leaves the stream where it stands.

* `Located content size fault stands` — a source that also says where it stands and how long it is,
  and goes to every place inside its content.
* `Steady content fault stands` — a stream with a fixed content and a cursor that can be sent
  anywhere.

Principal results: `Source.ends_fill` (a fill collects a stretch of the content, the whole stretch
unless a read fails or the token is cancelled, and leaves the stream behind the bytes it got),
`Source.readToEnd_eq` (a source that does not fail is read to the end of its content) and
`Located.conducted` (a layer that lets quiet requests through is located as the stream below is).
-/

set_option autoImplicit false

namespace LayeredStreams

namespace Bytes

theorem window_window (content : Bytes) (start count start' count' : Nat) :
    (content.window start count).window start' count' =
      content.window (start + start') (min count' (count - start')) := by
  simp [window, List.drop_take, List.take_take]

theorem window_take (content : Bytes) (reach start count : Nat) :
    Bytes.window (content.take reach) start count =
      content.window start (min count (reach - start)) := by
  simp [window, List.drop_take, List.take_take]

theorem window_drop (content : Bytes) (origin start count : Nat) :
    Bytes.window (content.drop origin) start count = content.window (origin + start) count := by
  simp [window]

@[simp] theorem window_zero (content : Bytes) (start : Nat) : content.window start 0 = [] := by
  simp [window]

theorem window_of_le {content : Bytes} {start : Nat} (h : content.length ≤ start) (count : Nat) :
    content.window start count = [] := by
  simp [window, h]

theorem window_of_length_le {content : Bytes} {start count : Nat}
    (h : content.length ≤ start + count) : content.window start count = content.drop start := by
  unfold window
  exact List.take_of_length_le (by simp; omega)

theorem window_one (content : Bytes) (start : Nat) :
    content.window start 1 = content[start]?.toList := by
  unfold window
  rw [List.take_one, List.head?_drop]

/-- A stretch is its first bytes and the stretch behind them. -/
theorem window_add (content : Bytes) (start count count' : Nat) :
    content.window start (count + count') =
      content.window start count ++ content.window (start + count) count' := by
  simp [window, List.take_add]

/-- As many bytes as a stretch has are that stretch. -/
theorem window_length_window (content : Bytes) (start count : Nat) :
    content.window start (content.window start count).length = content.window start count := by
  unfold window
  rw [List.length_take, ← List.take_take, List.take_length]

end Bytes

/-- What a read of `room` bytes at a position may give. -/
structure Delivers (content : Bytes) (position room : Nat) (bytes : Bytes) : Prop where
  /-- The bytes stand at the position. -/
  eq_window : bytes = content.window position bytes.length
  /-- They are no more than asked for. -/
  length_le : bytes.length ≤ room
  /-- There are some, unless none is asked for or the content is at its end. -/
  ne_nil : 0 < room → position < content.length → bytes ≠ []

namespace Delivers

variable {content bytes : Bytes} {position room : Nat}

/-- A stretch is a delivery, if it is no longer than asked for and has a byte at least. -/
theorem window {count : Nat} (hpos : 0 < room → 0 < count) (hle : count ≤ room) :
    Delivers content position room (content.window position count) where
  eq_window := (content.window_length_window position count).symm
  length_le := by
    rw [Bytes.length_window]
    exact Nat.le_trans (Nat.min_le_left _ _) hle
  ne_nil hroom hlt h := by
    have hlength := congrArg List.length h
    rw [Bytes.length_window, List.length_nil] at hlength
    have := hpos hroom
    omega

theorem length_le_sub (h : Delivers content position room bytes) :
    bytes.length ≤ content.length - position := by
  have := congrArg List.length h.eq_window
  rw [Bytes.length_window] at this
  omega

/-- Where nothing is delivered, nothing is left of what was asked for. -/
theorem window_eq_nil (h : Delivers content position room []) :
    content.window position room = [] := by
  rcases Nat.eq_zero_or_pos room with rfl | hroom
  · exact Bytes.window_zero content position
  · rcases Nat.lt_or_ge position content.length with hlt | hge
    · exact absurd rfl (h.ne_nil hroom hlt)
    · exact Bytes.window_of_le hge room

/-- A delivery and the stretch behind it are the stretch from its start on. -/
theorem append_window (h : Delivers content position room bytes) (count : Nat) :
    bytes ++ content.window (position + bytes.length) count =
      content.window position (bytes.length + count) := by
  rw [Bytes.window_add, ← h.eq_window]

end Delivers

/-- The errors that a transfer may end in: a fault of the stream, or `Cancelled` where the token of
the transfer is cancelled in the surroundings. -/
def Mode.Excuses {ω : Type} [Cancellation ω] (mode : Mode) (fault : StreamError → Prop) (w : ω)
    (e : StreamError) : Prop :=
  fault e ∨ mode.isCancelled w = true ∧ e = .refusal .cancelled

/-- A transfer that was not cancelled, such as a blocking one, is excused by nothing but a fault. -/
theorem Mode.Excuses.fault_of_admitted {ω : Type} [Cancellation ω] {mode : Mode}
    {fault : StreamError → Prop} {w : ω} {e : StreamError} (h : mode.Excuses fault w e)
    (hmode : mode.isCancelled w = false) : fault e := by
  rcases h with h | ⟨hcancelled, -⟩
  · exact h
  · rw [hmode] at hcancelled
    cases hcancelled

/-- What came of filling a buffer of `room` places at a position: a stretch of the content, the
whole stretch unless an excused error ended the fill, before it was full. -/
structure Filled.Holds (content : Bytes) (position room : Nat) (excused : StreamError → Prop)
    (filled : Filled) : Prop where
  eq_window : filled.bytes = content.window position filled.bytes.length
  length_le : filled.bytes.length ≤ room
  complete : filled.failure = none → filled.bytes = content.window position room
  excuse : ∀ e, filled.failure = some e → filled.bytes.length < room ∧ excused e

namespace Filled

variable {content : Bytes} {position room : Nat} {excused : StreamError → Prop}

theorem Holds.nothing (h : content.window position room = []) :
    Filled.nothing.Holds content position room excused where
  eq_window := (Bytes.window_zero content position).symm
  length_le := Nat.zero_le room
  complete _ := h.symm
  excuse := nofun

theorem Holds.failed {e : StreamError} (hroom : 0 < room) (h : excused e) :
    (Filled.failed e).Holds content position room excused where
  eq_window := (Bytes.window_zero content position).symm
  length_le := Nat.zero_le room
  complete := nofun
  excuse := by
    rintro _ ⟨⟩
    exact ⟨hroom, h⟩

/-- What came before a fill of the rest is put in front of what came of it. -/
theorem Holds.after {filled : Filled} {bytes : Bytes}
    (hdelivers : Delivers content position room bytes)
    (h : filled.Holds content (position + bytes.length) (room - bytes.length) excused) :
    (filled.after bytes).Holds content position room excused where
  eq_window := by
    show bytes ++ filled.bytes = content.window position (bytes ++ filled.bytes).length
    rw [List.length_append, ← hdelivers.append_window, ← h.eq_window]
  length_le := by
    show (bytes ++ filled.bytes).length ≤ room
    have := hdelivers.length_le
    have := h.length_le
    rw [List.length_append]
    omega
  complete hnone := by
    show bytes ++ filled.bytes = content.window position room
    rw [h.complete hnone, hdelivers.append_window, Nat.add_sub_cancel' hdelivers.length_le]
  excuse e he := by
    obtain ⟨hroom, hexcuse⟩ := h.excuse e he
    refine ⟨?_, hexcuse⟩
    show (bytes ++ filled.bytes).length < room
    rw [List.length_append]
    omega

end Filled

/-- A stream whose reads deliver a content: `stands s p` says that it stands at `p` in the state
`s`. A read that fails leaves the stream where it stands, and fails with `Cancelled` only if its
token is cancelled by then. -/
structure Source {ω σ : Type} [Cancellation ω] [ByteStream ω σ] (content : Bytes)
    (fault : StreamError → Prop) (stands : σ × ω → Nat → Prop) : Prop where
  read : ∀ {s : σ × ω} {p : Nat}, stands s p → ∀ (mode : Mode) (room : Nat),
    (ByteStream.read mode room : StreamM ω σ Bytes).Ends s
      (fun bytes s' => Delivers content p room bytes ∧ stands s' (p + bytes.length))
      fun e s' => mode.Excuses fault s'.2 e ∧ stands s' p

namespace Source

variable {ω σ : Type} [Cancellation ω] [ByteStream ω σ] {content : Bytes}
  {fault : StreamError → Prop} {stands : σ × ω → Nat → Prop}

theorem moves_read (source : Source content fault stands) {s : σ × ω} {p : Nat} (h : stands s p)
    (mode : Mode) (room : Nat) :
    (ByteStream.read mode room : StreamM ω σ Bytes).Moves stands s
      (fun bytes q => Delivers content p room bytes ∧ q = p + bytes.length) fun _ q => q = p := by
  refine (source.read h mode room).mono ?_ ?_
  · intro bytes s' hout
    exact ⟨_, ⟨hout.1, rfl⟩, hout.2⟩
  · intro e s' hout
    exact ⟨p, rfl, hout.2⟩

/-- A read that first looks at its token is a read like any other. -/
theorem ends_readAdmitted (source : Source content fault stands) {s : σ × ω} {p : Nat}
    (h : stands s p) (mode : Mode) (room : Nat) :
    (readAdmitted mode room : StreamM ω σ Bytes).Ends s
      (fun bytes s' => Delivers content p room bytes ∧ stands s' (p + bytes.length))
      fun e s' => mode.Excuses fault s'.2 e ∧ stands s' p :=
  Mode.ends_checkToken_bind (fun hcancelled => ⟨.inr ⟨hcancelled, rfl⟩, h⟩)
    fun _ => source.read h mode room

/-- A fill that may make as many reads as there are places. The induction is on the reads: each that
does not end the fill takes a place at least. -/
theorem ends_fillWithin (source : Source content fault stands) (mode : Mode) :
    ∀ (reads room : Nat) {s : σ × ω} {p : Nat}, room ≤ reads → stands s p →
      (fillWithin mode reads room : StreamM ω σ Filled).Ends s
        (fun filled s' => filled.Holds content p room (mode.Excuses fault s'.2) ∧
          stands s' (p + filled.bytes.length)) fun _ _ => False
  | 0, room, s, p, hroom, h => by
    obtain rfl : room = 0 := Nat.le_zero.mp hroom
    exact StreamM.ends_pure ⟨.nothing (Bytes.window_zero content p), h⟩
  | reads + 1, room, s, p, hroom, h => by
    unfold fillWithin
    split
    · rename_i hzero
      subst hzero
      exact StreamM.ends_pure ⟨.nothing (Bytes.window_zero content p), h⟩
    rename_i hroom'
    refine (source.ends_readAdmitted h mode room).attempt.bind ?_
    rintro (e | bytes) s' hread
    · -- the read failed: nothing came, and the stream stands where it stood
      exact StreamM.ends_pure ⟨.failed (Nat.pos_of_ne_zero hroom') hread.1, hread.2⟩
    obtain ⟨hdelivers, hstands⟩ := hread
    cases bytes with
    | nil => exact StreamM.ends_pure ⟨.nothing hdelivers.window_eq_nil, hstands⟩
    | cons byte rest =>
      -- some bytes came: the fill goes on behind them
      have hfewer : room - (byte :: rest).length ≤ reads := by
        rw [List.length_cons]; omega
      refine (ends_fillWithin source mode reads _ hfewer hstands).bind ?_
      rintro filled s'' ⟨hfilled, hstands'⟩
      refine StreamM.ends_pure ⟨hfilled.after hdelivers, ?_⟩
      rwa [Filled.after, List.length_append, ← Nat.add_assoc]

/-- **A fill collects a stretch of the content**, the whole stretch that fits unless a read fails or
the token is cancelled, and leaves the stream behind the bytes it got. -/
theorem ends_fill (source : Source content fault stands) (mode : Mode) (room : Nat) {s : σ × ω}
    {p : Nat} (h : stands s p) :
    (fill mode room : StreamM ω σ Filled).Ends s
      (fun filled s' => filled.Holds content p room (mode.Excuses fault s'.2) ∧
        stands s' (p + filled.bytes.length)) fun _ _ => False :=
  source.ends_fillWithin mode room room (Nat.le_refl _) h

/-- Reading on to the end in more reads than there are bytes left. The induction is on the reads:
each but the last gives a byte at least. -/
theorem ends_readToEndWithin (source : Source content fault stands) :
    ∀ (reads : Nat) {s : σ × ω} {p : Nat}, content.length - p < reads → stands s p →
      (readToEndWithin reads : StreamM ω σ Bytes).Ends s
        (fun bytes s' => bytes = content.drop p ∧ stands s' (p + bytes.length)) fun e _ => fault e
  | 0, _, _, hreads, _ => absurd hreads (Nat.not_lt_zero _)
  | reads + 1, s, p, hreads, h => by
    unfold readToEndWithin
    refine ((source.read h .blocking chunkSize).mono (fun _ _ h => h) ?_).bind ?_
    · intro e s' hout
      exact hout.1.fault_of_admitted rfl
    rintro bytes s' ⟨hdelivers, hstands⟩
    cases bytes with
    | nil =>
      have hend : content.length ≤ p := by
        rcases Nat.lt_or_ge p content.length with hlt | hge
        · exact absurd rfl (hdelivers.ne_nil (by decide) hlt)
        · exact hge
      exact StreamM.ends_pure ⟨(List.drop_eq_nil_of_le hend).symm, hstands⟩
    | cons byte rest =>
      have hle := hdelivers.length_le_sub
      have hfewer : content.length - (p + (byte :: rest).length) < reads := by
        rw [List.length_cons] at hle ⊢; omega
      refine (ends_readToEndWithin source reads hfewer hstands).bind ?_
      rintro more s'' ⟨rfl, hstands'⟩
      refine StreamM.ends_pure ⟨?_, ?_⟩
      · have hall : content.length ≤ p + (byte :: rest).length + content.length := by omega
        rw [← Bytes.window_of_length_le hall, hdelivers.append_window,
          Bytes.window_of_length_le (by omega)]
      · rwa [List.length_append, ← Nat.add_assoc]

/-- **A source that does not fail is read to the end of its content.** -/
theorem readToEnd_eq (source : Source content (fun _ => False) stands)
    (hsize : content.length < readLimit) {s : σ × ω} {p : Nat} (h : stands s p) :
    ∃ s', (readToEnd : StreamM ω σ Bytes) s = .ok (content.drop p) s' := by
  have hends := source.ends_readToEndWithin readLimit (p := p) (by omega) h
  obtain ⟨bytes, s', heq, rfl, -⟩ := hends.exists_ok
  exact ⟨s', heq⟩

end Source

/-- A source whose blocks can be loaded one by one: it says where it stands and how long it is, and
goes to every place inside its content. The length it reports may be less than that of its content.
-/
structure Located {ω σ : Type} [Cancellation ω] [ByteStream ω σ] (content : Bytes) (size : Nat)
    (fault : StreamError → Prop) (stands : σ × ω → Nat → Prop) : Prop
    extends Source content fault stands where
  size_le : size ≤ content.length
  fits : content.length ≤ maxPosition
  position : ∀ {s : σ × ω} {p : Nat}, stands s p →
    (ByteStream.position : StreamM ω σ Nat).Moves stands s (fun place q => place = p ∧ q = p)
      (fun e q => fault e ∧ q = p)
  length : ∀ {s : σ × ω} {p : Nat}, stands s p →
    (ByteStream.length : StreamM ω σ Nat).Moves stands s (fun reach q => reach = size ∧ q = p)
      (fun e q => fault e ∧ q = p)
  seekStart : ∀ {s : σ × ω} {p : Nat}, stands s p → ∀ {target : Nat}, target < content.length →
    (ByteStream.seek (.fromStart target) : StreamM ω σ Nat).Moves stands s
      (fun place q => place = target ∧ q = target) (fun e q => fault e ∧ q = p)

/-- A stream with a fixed content and a cursor that goes wherever it is sent. Each call may fail
with a `fault`, and then leaves the stream where it stands. -/
structure Steady {ω σ : Type} [Cancellation ω] [ByteStream ω σ] (content : Bytes)
    (fault : StreamError → Prop) (stands : σ × ω → Nat → Prop) : Prop
    extends Source content fault stands where
  position : ∀ {s : σ × ω} {p : Nat}, stands s p →
    (ByteStream.position : StreamM ω σ Nat).Moves stands s (fun place q => place = p ∧ q = p)
      (fun e q => fault e ∧ q = p)
  setPosition : ∀ {s : σ × ω} {p : Nat}, stands s p → ∀ target : Nat,
    (ByteStream.setPosition target : StreamM ω σ Unit).Moves stands s (fun _ q => q = target)
      (fun e q => (fault e ∨ maxPosition < target) ∧ q = p)
  length : ∀ {s : σ × ω} {p : Nat}, stands s p →
    (ByteStream.length : StreamM ω σ Nat).Moves stands s
      (fun reach q => reach = content.length ∧ q = p) (fun e q => fault e ∧ q = p)
  seek : ∀ {s : σ × ω} {p : Nat}, stands s p → ∀ target : SeekTarget,
    (ByteStream.seek target : StreamM ω σ Nat).Moves stands s
      (fun place q => target.resolve p content.length = .ok place ∧ q = place)
      (fun e q => (fault e ∨ ∃ cause, target.resolve p content.length = .error cause ∧
        e = .refusal cause) ∧ q = p)

section

variable {ω σ : Type} [Cancellation ω] [ByteStream ω σ] {content : Bytes} {size : Nat}
  {fault : StreamError → Prop} {stands : σ × ω → Nat → Prop}

theorem Steady.located (steady : Steady content fault stands)
    (hfits : content.length ≤ maxPosition) : Located content content.length fault stands where
  toSource := steady.toSource
  size_le := Nat.le_refl _
  fits := hfits
  position := steady.position
  length := steady.length
  seekStart h target htarget := by
    have hle : target ≤ maxPosition := Nat.le_trans (Nat.le_of_lt htarget) hfits
    refine (steady.seek h (.fromStart target)).mono ?_ ?_
    · intro place q hout
      obtain ⟨hplace, rfl⟩ := hout
      rw [SeekTarget.resolve_fromStart, if_pos hle] at hplace
      cases hplace
      exact ⟨rfl, rfl⟩
    · rintro e q ⟨hfault | ⟨cause, hcause, -⟩, rfl⟩
      · exact ⟨hfault, rfl⟩
      · rw [SeekTarget.resolve_fromStart, if_pos hle] at hcause
        cases hcause

section Conducted

variable {τ : Type} [ByteStream ω τ] {f : σ → τ}

theorem Source.conducted (source : Source content fault stands)
    (hf : ByteStream.Conducts ω f) :
    Source content fault fun (s : τ × ω) q => StreamM.Held f (stands · q) s where
  read {s p} h mode room := by
    refine ((hf (.read mode room) rfl).ends h fun _ ht => source.read ht mode room).mono ?_ ?_
    · rintro bytes s' ⟨part, heq, hdelivers, hstands⟩
      exact ⟨hdelivers, part, heq, hstands⟩
    · rintro e s' ⟨part, heq, hexcuse, hstands⟩
      exact ⟨hexcuse, part, heq, hstands⟩

theorem Located.conducted (located : Located content size fault stands)
    (hf : ByteStream.Conducts ω f) :
    Located content size fault fun (s : τ × ω) q => StreamM.Held f (stands · q) s where
  toSource := located.toSource.conducted hf
  size_le := located.size_le
  fits := located.fits
  position h := (hf .position rfl).moves h fun _ ht => located.position ht
  length h := (hf .length rfl).moves h fun _ ht => located.length ht
  seekStart h target htarget :=
    (hf (.seek (.fromStart target)) rfl).moves h fun _ ht => located.seekStart ht htarget

theorem Steady.conducted (steady : Steady content fault stands)
    (hf : ByteStream.Conducts ω f) :
    Steady content fault fun (s : τ × ω) q => StreamM.Held f (stands · q) s where
  toSource := steady.toSource.conducted hf
  position h := (hf .position rfl).moves h fun _ ht => steady.position ht
  setPosition h target :=
    (hf (.setPosition target) rfl).moves h fun _ ht => steady.setPosition ht target
  length h := (hf .length rfl).moves h fun _ ht => steady.length ht
  seek h target := (hf (.seek target) rfl).moves h fun _ ht => steady.seek ht target

end Conducted

theorem Located.passthrough (located : Located content size fault stands)
    (ownership : Ownership) :
    Located content size fault (Passthrough.Stands ownership stands) :=
  located.conducted (Passthrough.conducts ownership)

theorem Steady.passthrough (steady : Steady content fault stands) (ownership : Ownership) :
    Steady content fault (Passthrough.Stands ownership stands) :=
  steady.conducted (Passthrough.conducts ownership)

end

end LayeredStreams
