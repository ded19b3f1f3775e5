import LayeredStreams.Proofs.FickleBase
import LayeredStreams.Proofs.Source

/-!
# Filling a buffer

A fill reads until its buffer is full, a read gives nothing or one fails. Whatever parts the bytes
come in, and wherever the fill is interrupted, the buffer has in front what the content has from the
place where the stream stood, and the stream stands behind it: so a fill of the rest goes on as if
there had been no interruption.

* `Fronted content buffer start count after` — the buffer with the first `count` bytes of a content
  from `start` on in front, and nothing else changed.
* `Filled.Continues content buffer start count before excused filled` — what a fill is to leave of a
  buffer that has `count` bytes in front already: all of it, unless an excused error interrupted it.

Principal results: `fillWithin_eq_fill` (the bound on the reads of a fill never ends it),
`Source.ends_fill_rest` (a fill continues what earlier ones left, wherever they were interrupted),
`Filled.failure_complete` (when a fill is too short) and `Source.fill_loses_nothing`.
-/

set_option autoImplicit false

namespace LayeredStreams

/-! ## The bound on the reads -/

section Bound

variable {ω σ : Type} [Cancellation ω] [ByteStream ω σ]

theorem fillWithin_eq_fill (mode : Mode) (reads : Nat) :
    ∀ room : Nat, room ≤ reads →
      (fillWithin mode reads room : StreamM ω σ Filled) = fill mode room := by
  -- on the reads: what is left after one that gives something is less, for either bound
  induction reads using Nat.strongRecOn with
  | _ reads ih =>
    intro room hroom
    rcases Nat.eq_zero_or_pos room with rfl | hpos
    · cases reads <;> rfl
    obtain ⟨reads, rfl⟩ := Nat.exists_eq_add_of_lt (Nat.lt_of_lt_of_le hpos hroom)
    obtain ⟨room, rfl⟩ := Nat.exists_eq_add_of_lt hpos
    unfold fill
    simp only [Nat.zero_add] at hroom ih ⊢
    unfold fillWithin
    split
    · rfl
    refine congrArg _ (funext fun outcome => ?_)
    split
    · rfl
    · rfl
    rename_i bytes hne
    have hfewer : room + 1 - bytes.length ≤ room := by
      cases bytes with
      | nil => exact absurd rfl hne
      | cons byte rest => rw [List.length_cons]; omega
    rw [ih reads (Nat.lt_succ_self _) _ (by omega), ih room (by omega) _ hfewer]

end Bound

/-! ## Buffers -/

/-- A buffer with the first `count` bytes of a content from `start` on in front. What lies behind
them in the buffer is as it was. -/
structure Fronted (content buffer : Bytes) (start count : Nat) (after : Bytes) : Prop where
  count_le : count ≤ min buffer.length (content.length - start)
  after_eq : after = content.window start count ++ buffer.drop count

/-- What a fill makes of a buffer that has `count` bytes of a content in front already: there are
more of them, and all that the buffer takes and the content has unless an excused error interrupted
the fill, before the buffer was full. -/
structure Filled.Continues (content buffer : Bytes) (start count : Nat) (before : Bytes)
    (excused : StreamError → Prop) (filled : Filled) : Prop where
  fronted : Fronted content buffer start (count + filled.bytes.length)
    (before.overlay count filled.bytes)
  complete : filled.failure = none →
    count + filled.bytes.length = min buffer.length (content.length - start)
  excuse : ∀ e, filled.failure = some e → count + filled.bytes.length < buffer.length ∧ excused e

section Buffers

variable {content buffer before : Bytes} {start count : Nat}

theorem fronted_zero (content buffer : Bytes) (start : Nat) :
    Fronted content buffer start 0 buffer :=
  ⟨Nat.zero_le _, by simp⟩

theorem Fronted.overlay (h : Fronted content buffer start count before) {bytes : Bytes}
    (hbytes : bytes = content.window (start + count) bytes.length)
    (hroom : count + bytes.length ≤ buffer.length) :
    Fronted content buffer start (count + bytes.length) (before.overlay count bytes) := by
  have hcount := h.count_le
  have hreach : bytes.length ≤ content.length - (start + count) := by
    have hlength := congrArg List.length hbytes
    rw [Bytes.length_window] at hlength
    omega
  have hfront : (content.window start count).length = count := by
    rw [Bytes.length_window]
    omega
  refine ⟨by omega, ?_⟩
  have hbefore : before.length = buffer.length := by
    rw [h.after_eq, List.length_append, hfront, List.length_drop]
    omega
  have htake : before.take count = content.window start count := by
    rw [h.after_eq, List.take_left' hfront]
  have hdrop : before.drop (count + bytes.length) = buffer.drop (count + bytes.length) := by
    rw [h.after_eq, List.drop_append, hfront, Nat.add_sub_cancel_left, List.drop_drop,
      List.drop_eq_nil_of_le (by omega), List.nil_append]
  unfold Bytes.overlay
  rw [hbefore, htake, hdrop, List.take_of_length_le (by omega), Bytes.window_add, ← hbytes]

theorem Filled.Holds.continues {filled : Filled} {excused : StreamError → Prop}
    (h : filled.Holds content (start + count) (buffer.length - count) excused)
    (hfront : Fronted content buffer start count before) :
    filled.Continues content buffer start count before excused := by
  have hcount := hfront.count_le
  have hroom := h.length_le
  refine ⟨hfront.overlay h.eq_window (by omega), fun hnone => ?_, fun e he => ?_⟩
  · have hlength := congrArg List.length (h.complete hnone)
    rw [Bytes.length_window] at hlength
    omega
  · obtain ⟨hshort, hexcuse⟩ := h.excuse e he
    exact ⟨by omega, hexcuse⟩

/-- A fill is too short exactly if it is ended by nothing but the end of the content, before the
buffer is full. -/
theorem Filled.failure_complete (filled : Filled) (room : Nat) :
    (filled.complete room).bytes = filled.bytes ∧
      (filled.complete room).failure = filled.failure.or
        (if filled.bytes.length < room then
          some (.refusal (.endOfStream room filled.bytes.length)) else none) := by
  unfold Filled.complete
  cases hfailure : filled.failure with
  | some e => exact ⟨rfl, hfailure⟩
  | none =>
    dsimp only
    split
    · exact ⟨rfl, rfl⟩
    · exact ⟨rfl, hfailure⟩

end Buffers

/-! ## Fills of a source -/

namespace Source

variable {ω σ : Type} [Cancellation ω] [ByteStream ω σ] {content : Bytes}
  {fault : StreamError → Prop} {stands : σ × ω → Nat → Prop}

/-- **A fill of the rest of a buffer continues what earlier fills left**, wherever they were
interrupted: with nothing in front it is the first fill of the buffer. -/
theorem ends_fill_rest (source : Source content fault stands) (mode : Mode) {buffer before : Bytes}
    {start count : Nat} (hfront : Fronted content buffer start count before) {s : σ × ω}
    (h : stands s (start + count)) :
    (fill mode (buffer.length - count) : StreamM ω σ Filled).Ends s
      (fun filled s' =>
        filled.Continues content buffer start count before (mode.Excuses fault s'.2) ∧
        stands s' (start + (count + filled.bytes.length))) fun _ _ => False := by
  refine (source.ends_fill mode (buffer.length - count) h).mono ?_ fun _ _ h => h
  intro filled s' ⟨hfilled, hstands⟩
  rw [Nat.add_assoc] at hstands
  exact ⟨hfilled.continues hfront, hstands⟩

theorem fill_of_cancelled {mode : Mode} {s : σ × ω} {room : Nat}
    (hcancelled : mode.isCancelled s.2 = true) (hroom : 0 < room) :
    (fill mode room : StreamM ω σ Filled) s = .ok (.failed (.refusal .cancelled)) s := by
  obtain ⟨room, rfl⟩ := Nat.exists_eq_add_of_lt hroom
  have hread : (readAdmitted mode (0 + room + 1) : StreamM ω σ Bytes).attempt s =
      .ok (.error (.refusal .cancelled)) s := by
    unfold StreamM.attempt readAdmitted
    rw [StreamM.bind_apply, Mode.checkToken_apply, if_pos hcancelled]
  unfold fill fillWithin
  rw [if_neg (Nat.succ_ne_zero _), StreamM.bind_apply, hread]
  rfl

/-- **A fill loses nothing.** Of a source at `start` whose reads give some part of what is there,
and may fail, a buffer is filled in either mode. The fill ends: no greater bound on its reads would
change it. It leaves the first bytes of the content from `start` on in front of the buffer, nothing
else changed, and the stream behind them; these are all that the content has and the buffer takes,
unless a read failed or the token is cancelled. With a token that is cancelled from the start
nothing is read. A second fill, of the rest of the buffer from where the stream stands, leaves what
one fill without interruption would have left, unless it is interrupted itself. An exact fill does
as a fill does, and is refused for the end of the stream exactly if it was not interrupted and is
short. -/
theorem fill_loses_nothing (source : Source content fault stands) (mode : Mode) (buffer : Bytes)
    {s : σ × ω} {start : Nat} (h : stands s start) :
    (∀ reads : Nat, buffer.length ≤ reads →
      (fillWithin mode reads buffer.length : StreamM ω σ Filled) = fill mode buffer.length) ∧
    (fill mode buffer.length : StreamM ω σ Filled).Ends s
      (fun filled s' =>
        filled.Continues content buffer start 0 buffer (mode.Excuses fault s'.2) ∧
        stands s' (start + filled.bytes.length) ∧
        ∀ (mode' : Mode) (t : σ × ω), stands t (start + filled.bytes.length) →
          (fill mode' (buffer.length - filled.bytes.length) : StreamM ω σ Filled).Ends t
            (fun second t' => second.Continues content buffer start filled.bytes.length
                (buffer.overlay 0 filled.bytes) (mode'.Excuses fault t'.2) ∧
              stands t' (start + (filled.bytes.length + second.bytes.length)))
            fun _ _ => False)
      (fun _ _ => False) ∧
    (mode.isCancelled s.2 = true → 0 < buffer.length →
      (fill mode buffer.length : StreamM ω σ Filled) s =
        .ok (.failed (.refusal .cancelled)) s) ∧
    (fillExactly mode buffer.length : StreamM ω σ Filled).Ends s
      (fun exact s' => ∃ filled : Filled,
        (fill mode buffer.length : StreamM ω σ Filled) s = .ok filled s' ∧
        filled.Continues content buffer start 0 buffer (mode.Excuses fault s'.2) ∧
        exact.bytes = filled.bytes ∧
        exact.failure = filled.failure.or
          (if min buffer.length (content.length - start) < buffer.length then
            some (.refusal (.endOfStream buffer.length
              (min buffer.length (content.length - start)))) else none))
      fun _ _ => False := by
  have hfirst := source.ends_fill_rest mode (fronted_zero content buffer start) h
  simp only [Nat.sub_zero, Nat.zero_add] at hfirst
  refine ⟨fun reads hreads => fillWithin_eq_fill mode reads _ hreads, ?_, fill_of_cancelled, ?_⟩
  · refine hfirst.mono ?_ fun _ _ h => h
    rintro filled s' ⟨hcontinues, hstands⟩
    refine ⟨hcontinues, hstands, fun mode' t ht => ?_⟩
    have hfront := hcontinues.fronted
    rw [Nat.zero_add] at hfront
    exact source.ends_fill_rest mode' hfront ht
  · obtain ⟨filled, s', heq, hcontinues, -⟩ := hfirst.exists_ok
    refine StreamM.ends_bind_of_eq_ok heq (StreamM.ends_pure ⟨filled, heq, hcontinues, ?_⟩)
    obtain ⟨hbytes, hfailure⟩ := filled.failure_complete buffer.length
    refine ⟨hbytes, ?_⟩
    rw [hfailure]
    cases hnone : filled.failure with
    | some e => rfl
    | none =>
      have hlength := hcontinues.complete hnone
      rw [Nat.zero_add] at hlength
      rw [hlength]

end Source

/-! ## A source whose calls may fail -/

namespace Fickle

/-- An open fickle stream of a content, at `p`, of whose calls to come none is granted no byte, and
those that fail fail with a `fault`. -/
structure Stands (content : Bytes) (fault : StreamError → Prop) (s : Fickle × Fate) (p : Nat) :
    Prop where
  isOpen : s.1.disposed = false
  content_eq : s.1.content = content
  cursor_eq : s.1.cursor = p
  generous : ∀ index, s.2.turns index ≠ .grant (some 0)
  faults : ∀ index e, s.2.turns index = .fail e → fault e

/-- Whatever becomes of the calls, a fickle stream is a source of its content. -/
theorem source (content : Bytes) (fault : StreamError → Prop) :
    Source content fault (Stands content fault) where
  read {s p} h mode room := by
    obtain ⟨⟨content, cursor, disposed⟩, fate⟩ := s
    obtain ⟨hopen, rfl, rfl, hgenerous, hfaults⟩ := h
    cases hopen
    have hlater : ∀ cursor' call, Stands content fault
        (⟨content, cursor', false⟩, fate.after call) cursor' := fun cursor' call =>
      ⟨rfl, rfl, rfl, fun index => hgenerous (index + 1), fun index => hfaults (index + 1)⟩
    show StreamM.Ends (Fickle.perform (.read mode room)) _ _ _
    unfold Fickle.perform
    refine Mode.ends_checkToken_bind ?_ fun _ => StreamM.ends_state_bind ?_
    · intro hcancelled
      exact ⟨.inr ⟨hcancelled, rfl⟩, rfl, rfl, rfl, hgenerous, hfaults⟩
    unfold StreamM.Ends
    dsimp only
    rw [if_neg Bool.false_ne_true, StreamM.bind_apply]
    unfold undergo
    dsimp only
    cases hturn : fate.turns 0 with
    | fail e => exact ⟨.inl (hfaults 0 e hturn), hlater _ _⟩
    | grant bound =>
      refine ⟨Delivers.window ?_ ?_, hlater _ _⟩
      · cases bound with
        | none => exact fun hroom => hroom
        | some count =>
          have hcount : count ≠ 0 := by
            rintro rfl
            exact hgenerous 0 hturn
          intro hroom
          show 0 < min room count
          omega
      · cases bound with
        | none => exact Nat.le_refl room
        | some count => exact Nat.min_le_left room count

/-- Every call is granted two bytes, but the second, which is made to fail. -/
def failingSecond : Fate :=
  ⟨fun index => if index = 1 then .fail (.refusal .overflow) else .grant (some 2), [], ["stop"]⟩

theorem stands_failingSecond :
    Stands [1, 2, 3, 4, 5] (· = .refusal .overflow) (⟨[1, 2, 3, 4, 5], 1, false⟩, failingSecond)
      1 where
  isOpen := rfl
  content_eq := rfl
  cursor_eq := rfl
  generous index := by
    unfold failingSecond
    dsimp only
    split
    · nofun
    · nofun
  faults index e := by
    unfold failingSecond
    dsimp only
    split
    · rintro ⟨⟩
      rfl
    · nofun

end Fickle

/-- Of four bytes that come two at a time into a buffer of six, the first fill brings two and fails;
a suspending fill with a token that is not cancelled brings the others, and leaves the end of the
buffer alone. With a token that is cancelled nothing is read. -/
theorem Source.fill_loses_nothing_failing :
    (fill .blocking 6 : StreamM Fate Fickle Filled).Ends
      (⟨[1, 2, 3, 4, 5], 1, false⟩, Fickle.failingSecond)
      (fun filled s' => filled = ⟨[2, 3], some (.refusal .overflow)⟩ ∧
        (fill (.suspending (.named "go")) (6 - filled.bytes.length) :
          StreamM Fate Fickle Filled).Ends s'
          (fun second t' => second = ⟨[4, 5], none⟩ ∧
            Fickle.Stands [1, 2, 3, 4, 5] (· = .refusal .overflow) t' 5 ∧
            Fronted [1, 2, 3, 4, 5] [9, 9, 9, 9, 9, 9] 1 4 [2, 3, 4, 5, 9, 9])
          fun _ _ => False)
      (fun _ _ => False) ∧
    (fill (.suspending (.named "stop")) 6 : StreamM Fate Fickle Filled)
        (⟨[1, 2, 3, 4, 5], 1, false⟩, Fickle.failingSecond) =
      .ok ⟨[], some (.refusal .cancelled)⟩
        (⟨[1, 2, 3, 4, 5], 1, false⟩, Fickle.failingSecond) := by
  have hsource := Fickle.source [1, 2, 3, 4, 5] (· = .refusal .overflow)
  obtain ⟨-, hfill, -, -⟩ := hsource.fill_loses_nothing .blocking [9, 9, 9, 9, 9, 9]
    Fickle.stands_failingSecond
  obtain ⟨-, -, hcancelled, -⟩ := hsource.fill_loses_nothing (.suspending (.named "stop"))
    [9, 9, 9, 9, 9, 9] Fickle.stands_failingSecond
  refine ⟨StreamM.ends_of_eq_ok rfl ⟨rfl, ?_⟩, hcancelled rfl (by decide)⟩
  obtain ⟨-, hstands, hagain⟩ := hfill.of_eq_ok rfl
  have hsecond := hagain (.suspending (.named "go")) _ hstands
  refine StreamM.ends_of_eq_ok rfl ⟨rfl, ?_⟩
  obtain ⟨hcontinues, hstands'⟩ := hsecond.of_eq_ok rfl
  exact ⟨hstands', hcontinues.fronted⟩

end LayeredStreams
