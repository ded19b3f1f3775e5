import LayeredStreams.Device.Memory
import LayeredStreams.Proofs.Filling

/-!
# Copying from one stream to another

A copy reads some bytes from its source, writes them to its destination, and goes on until a read
gives nothing. The destination receives the content in the chunks it came in: all that was left of
it, or what came before a read or a write failed.

* `Sink fault holds` — a stream that takes all that is written to it, or nothing: `holds s chunks`
  says which chunks it has received.
* `Separate stands holds` — a source and a destination of which neither is disturbed by what is
  asked of the other.
* `Between stands holds s p chunks` — a pair of such streams, with where the one stands and what the
  other received.

Principal results: `ends_copyWithin` (a copy transfers what is left of the content, or a part of it
that ends where a read or a write failed), `copyWithin_eq` (the bound on the reads of a copy never
ends it) and `Source.copy_transfers`.
-/

set_option autoImplicit false

namespace LayeredStreams

theorem StreamM.bind_congr_of_ends {ω σ α β : Type} {act : StreamM ω σ α} {s : σ × ω}
    {good : α → σ × ω → Prop} {bad : StreamError → σ × ω → Prop} {next next' : α → StreamM ω σ β}
    (h : act.Ends s good bad) (hnext : ∀ value s', good value s' → next value s' = next' value s') :
    (act >>= next) s = (act >>= next') s := by
  unfold Ends at h
  rw [bind_apply, bind_apply]
  cases heq : act s with
  | ok value s' =>
    rw [heq] at h
    exact hnext value s' h
  | error e s' => rfl

/-- A stream that takes all of what is written to it, or nothing: `holds s chunks` says that it has
received the chunks in the state `s`, in this order. A write fails with a `fault`, or with
`Cancelled` if its token is cancelled by then. -/
structure Sink {ω τ : Type} [Cancellation ω] [ByteStream ω τ] (fault : StreamError → Prop)
    (holds : τ × ω → List Bytes → Prop) : Prop where
  write : ∀ {s : τ × ω} {chunks : List Bytes}, holds s chunks → ∀ (mode : Mode) (data : Bytes),
    (ByteStream.write mode data : StreamM ω τ Unit).Ends s (fun _ s' => holds s' (chunks ++ [data]))
      fun e s' => mode.Excuses fault s'.2 e ∧ holds s' chunks

/-- A source and a destination that are two streams: what the one is asked by a copy does not move
the other, or write to it. -/
structure Separate {ω σ τ : Type} [ByteStream ω σ] [ByteStream ω τ] (stands : σ × ω → Nat → Prop)
    (holds : τ × ω → List Bytes → Prop) : Prop where
  reading : ∀ {source : σ} {destination : τ} {w : ω} {p : Nat} {chunks : List Bytes},
    stands (source, w) p → holds (destination, w) chunks → ∀ (mode : Mode) (room : Nat),
      (ByteStream.read mode room : StreamM ω σ Bytes).Ends (source, w)
        (fun _ s' => holds (destination, s'.2) chunks) fun _ s' => holds (destination, s'.2) chunks
  writing : ∀ {source : σ} {destination : τ} {w : ω} {p : Nat} {chunks : List Bytes},
    stands (source, w) p → holds (destination, w) chunks → ∀ (mode : Mode) (data : Bytes),
      (ByteStream.write mode data : StreamM ω τ Unit).Ends (destination, w)
        (fun _ s' => stands (source, s'.2) p) fun _ s' => stands (source, s'.2) p

/-- A source that stands somewhere, and a destination that received some chunks. -/
def Between {ω σ τ : Type} (stands : σ × ω → Nat → Prop) (holds : τ × ω → List Bytes → Prop)
    (s : (σ × τ) × ω) (p : Nat) (chunks : List Bytes) : Prop :=
  stands (s.1.1, s.2) p ∧ holds (s.1.2, s.2) chunks

section Copying

variable {ω σ τ : Type} [Cancellation ω] [ByteStream ω σ] [ByteStream ω τ] {content : Bytes}
  {fault fault' : StreamError → Prop} {stands : σ × ω → Nat → Prop}
  {holds : τ × ω → List Bytes → Prop} {s : (σ × τ) × ω} {p : Nat} {chunks : List Bytes}

theorem ends_onSource_read (source : Source content fault stands) (separate : Separate stands holds)
    (h : Between stands holds s p chunks) (mode : Mode) (room : Nat) :
    (onSource (ByteStream.read mode room : StreamM ω σ Bytes) : StreamM ω (σ × τ) Bytes).Ends s
      (fun bytes s' => Delivers content p room bytes ∧
        Between stands holds s' (p + bytes.length) chunks)
      fun e s' => mode.Excuses fault s'.2 e ∧ Between stands holds s' p chunks := by
  have hread := source.read h.1 mode room
  have hseparate := separate.reading h.1 h.2 mode room
  refine (StreamM.Ends.within (StreamM.Ends.and hread hseparate)).mono ?_ ?_
  · rintro bytes ⟨pair, w⟩ ⟨below, ⟨⟨hdelivers, hstands⟩, hholds⟩, rfl⟩
    exact ⟨hdelivers, hstands, hholds⟩
  · rintro e ⟨pair, w⟩ ⟨below, ⟨⟨hexcuse, hstands⟩, hholds⟩, rfl⟩
    exact ⟨hexcuse, hstands, hholds⟩

theorem ends_onDestination_write (sink : Sink fault' holds) (separate : Separate stands holds)
    (h : Between stands holds s p chunks) (mode : Mode) (data : Bytes) :
    (onDestination (ByteStream.write mode data : StreamM ω τ Unit) :
      StreamM ω (σ × τ) Unit).Ends s
      (fun _ s' => Between stands holds s' p (chunks ++ [data]))
      fun e s' => mode.Excuses fault' s'.2 e ∧ Between stands holds s' p chunks := by
  have hwrite := sink.write h.2 mode data
  have hseparate := separate.writing h.1 h.2 mode data
  refine (StreamM.Ends.within (StreamM.Ends.and hwrite hseparate)).mono ?_ ?_
  · rintro _ ⟨pair, w⟩ ⟨below, ⟨hholds, hstands⟩, rfl⟩
    exact ⟨hstands, hholds⟩
  · rintro e ⟨pair, w⟩ ⟨below, ⟨⟨hexcuse, hholds⟩, hstands⟩, rfl⟩
    exact ⟨hexcuse, hstands, hholds⟩

/-- What a copy is to leave that was not interrupted: the destination received the rest of the
content. -/
def Transferred (content : Bytes) (stands : σ × ω → Nat → Prop) (holds : τ × ω → List Bytes → Prop)
    (p : Nat) (chunks : List Bytes) (copied : Nat) (s : (σ × τ) × ω) : Prop :=
  copied = content.length - p ∧ ∃ accepted : List Bytes, accepted.flatten = content.drop p ∧
    Between stands holds s (p + copied) (chunks ++ accepted)

/-- What a copy is to leave that was interrupted: the destination received some chunks, one behind
the other in the content, and the source stands behind these if a read failed, or behind one more
chunk whose write failed. The one that failed did so with a fault, or because the token is
cancelled. -/
def Interrupted (content : Bytes) (mode : Mode) (fault fault' : StreamError → Prop)
    (stands : σ × ω → Nat → Prop) (holds : τ × ω → List Bytes → Prop) (p : Nat)
    (chunks : List Bytes) (e : StreamError) (s : (σ × τ) × ω) : Prop :=
  ∃ accepted : List Bytes, accepted.flatten = content.window p accepted.flatten.length ∧
    (mode.Excuses fault s.2 e ∧
        Between stands holds s (p + accepted.flatten.length) (chunks ++ accepted) ∨
      ∃ chunk : Bytes, chunk ≠ [] ∧
        chunk = content.window (p + accepted.flatten.length) chunk.length ∧
        mode.Excuses fault' s.2 e ∧
        Between stands holds s (p + accepted.flatten.length + chunk.length) (chunks ++ accepted))

omit [Cancellation ω] [ByteStream ω σ] [ByteStream ω τ] in
theorem Transferred.cons {chunk : Bytes} (hchunk : chunk = content.window p chunk.length)
    {copied : Nat}
    (h : Transferred content stands holds (p + chunk.length) (chunks ++ [chunk]) copied s) :
    Transferred content stands holds p chunks (chunk.length + copied) s := by
  obtain ⟨rfl, accepted, haccepted, hbetween⟩ := h
  have hlength := congrArg List.length hchunk
  rw [Bytes.length_window] at hlength
  have hcopied : chunk.length + (content.length - (p + chunk.length)) = content.length - p := by
    omega
  refine ⟨hcopied, chunk :: accepted, ?_, ?_⟩
  · have hdrop :
        content.drop p = content.window p chunk.length ++ content.drop (p + chunk.length) := by
      unfold Bytes.window
      rw [← List.drop_drop, List.take_append_drop]
    rw [List.flatten_cons, haccepted, hdrop, ← hchunk]
  · rwa [List.append_cons, ← Nat.add_assoc]

omit [ByteStream ω σ] [ByteStream ω τ] in
theorem Interrupted.cons {mode : Mode} {chunk : Bytes}
    (hchunk : chunk = content.window p chunk.length) {e : StreamError}
    (h : Interrupted content mode fault fault' stands holds (p + chunk.length) (chunks ++ [chunk])
      e s) : Interrupted content mode fault fault' stands holds p chunks e s := by
  obtain ⟨accepted, haccepted, hout⟩ := h
  have hlength : (chunk :: accepted).flatten.length = chunk.length + accepted.flatten.length := by
    rw [List.flatten_cons, List.length_append]
  refine ⟨chunk :: accepted, ?_, ?_⟩
  · rw [hlength, Bytes.window_add, List.flatten_cons, ← hchunk, ← haccepted]
  · rw [hlength, ← Nat.add_assoc, List.append_cons]
    exact hout

/-- A copy transfers what is left of the content, or a part of it that ends where a read or a write
failed. The induction is on the reads: each but the last gives a byte at least. -/
theorem ends_copyWithin (source : Source content fault stands) (sink : Sink fault' holds)
    (separate : Separate stands holds) (mode : Mode) :
    ∀ (reads : Nat) {s : (σ × τ) × ω} {p : Nat} {chunks : List Bytes}, content.length - p < reads →
      Between stands holds s p chunks →
      (copyWithin mode reads : StreamM ω (σ × τ) Nat).Ends s
        (Transferred content stands holds p chunks)
        (Interrupted content mode fault fault' stands holds p chunks)
  | 0, _, _, _, hreads, _ => absurd hreads (Nat.not_lt_zero _)
  | reads + 1, s, p, chunks, hreads, h => by
    unfold copyWithin
    refine ((ends_onSource_read source separate h mode copyBufferSize).mono
      (fun _ _ h => h) ?_).bind ?_
    · intro e s' hout
      obtain ⟨hexcuse, hbetween⟩ := hout
      refine ⟨[], (Bytes.window_zero content p).symm, Or.inl ⟨hexcuse, ?_⟩⟩
      rwa [List.append_nil]
    rintro chunk s₁ ⟨hdelivers, h₁⟩
    cases chunk with
    | nil =>
      -- nothing was read: the content is at its end
      have hend : content.length ≤ p := by
        rcases Nat.lt_or_ge p content.length with hlt | hge
        · exact absurd rfl (hdelivers.ne_nil (by decide) hlt)
        · exact hge
      refine StreamM.ends_pure ⟨by omega, [], (List.drop_eq_nil_of_le hend).symm, ?_⟩
      rwa [List.append_nil]
    | cons byte rest =>
      have hle := hdelivers.length_le_sub
      refine ((ends_onDestination_write sink separate h₁ mode (byte :: rest)).mono
        (fun _ _ h => h) ?_).bind ?_
      · intro e s' hout
        obtain ⟨hexcuse, hbetween⟩ := hout
        refine ⟨[], (Bytes.window_zero content p).symm, Or.inr ⟨byte :: rest, nofun, ?_⟩⟩
        refine ⟨hdelivers.eq_window, hexcuse, ?_⟩
        rwa [List.append_nil]
      intro _ s₂ h₂
      have hfewer : content.length - (p + (byte :: rest).length) < reads := by
        rw [List.length_cons] at hle ⊢
        omega
      refine ((ends_copyWithin source sink separate mode reads hfewer h₂).mono
        (fun _ _ h => h) ?_).bind ?_
      · exact fun e s' hout => hout.cons hdelivers.eq_window
      · exact fun copied s' hout => StreamM.ends_pure (hout.cons hdelivers.eq_window)

theorem copyWithin_eq (source : Source content fault stands) (sink : Sink fault' holds)
    (separate : Separate stands holds) (mode : Mode) :
    ∀ (reads reads' : Nat) {s : (σ × τ) × ω} {p : Nat} {chunks : List Bytes},
      content.length - p < reads → content.length - p < reads' → Between stands holds s p chunks →
      (copyWithin mode reads : StreamM ω (σ × τ) Nat) s = copyWithin mode reads' s
  | 0, _, _, _, _, hreads, _, _ => absurd hreads (Nat.not_lt_zero _)
  | _ + 1, 0, _, _, _, _, hreads', _ => absurd hreads' (Nat.not_lt_zero _)
  | reads + 1, reads' + 1, s, p, chunks, hreads, hreads', h => by
    unfold copyWithin
    refine StreamM.bind_congr_of_ends (ends_onSource_read source separate h mode copyBufferSize) ?_
    rintro chunk s₁ ⟨hdelivers, h₁⟩
    cases chunk with
    | nil => rfl
    | cons byte rest =>
      have hle := hdelivers.length_le_sub
      rw [List.length_cons] at hle
      refine StreamM.bind_congr_of_ends
        (ends_onDestination_write sink separate h₁ mode (byte :: rest)) ?_
      intro _ s₂ h₂
      have hrest := copyWithin_eq source sink separate mode reads reads'
        (by rw [List.length_cons]; omega) (by rw [List.length_cons]; omega) h₂
      rw [StreamM.bind_apply, StreamM.bind_apply, hrest]

omit [Cancellation ω] in
theorem copy_of_read_eq_error {mode : Mode} {e : StreamError} {s s' : (σ × τ) × ω}
    (h : (onSource (ByteStream.read mode copyBufferSize) : StreamM ω (σ × τ) Bytes) s =
      .error e s') : (copy mode : StreamM ω (σ × τ) Nat) s = .error e s' := by
  show (copyWithin mode (maxWord + 1) : StreamM ω (σ × τ) Nat) s = .error e s'
  unfold copyWithin
  rw [StreamM.bind_apply, h]

/-- **A copy transfers exactly the rest of the source, or a part of it.** The source stands at `p`
and its reads give some part of what is there; the destination is another stream, which takes all of
a write or nothing. Any read or write may fail, and the token may be cancelled. In either mode the
copy ends: no greater bound on its reads would change it. It answers the number of bytes that were
left, which is how many bytes a read to the end gives from the same state, and the destination
received these, in order; unless a read or a write failed with a fault, or with `Cancelled` because
the token is cancelled. Then the destination received the chunks that it accepted, which stand in
the content from `p` on, one behind the other, and the source stands behind these, or behind one
more chunk whose write failed. A first read that fails ends the copy at once with its error, such as
one that is refused for a token that is cancelled from the start. -/
theorem Source.copy_transfers (source : Source content fault stands) (sink : Sink fault' holds)
    (separate : Separate stands holds) (mode : Mode) (hsize : content.length - p < readLimit)
    (h : Between stands holds s p chunks) :
    (∀ reads : Nat, content.length - p < reads →
      (copyWithin mode reads : StreamM ω (σ × τ) Nat) s = copy mode s) ∧
    (copy mode : StreamM ω (σ × τ) Nat).Ends s
      (fun copied s' => Transferred content stands holds p chunks copied s' ∧
        (readToEnd : StreamM ω σ Bytes).Ends (s.1.1, s.2)
          (fun bytes _ => bytes = content.drop p ∧ bytes.length = copied) fun e _ => fault e)
      (Interrupted content mode fault fault' stands holds p chunks) ∧
    ∀ (e : StreamError) (s' : (σ × τ) × ω),
      (onSource (ByteStream.read mode copyBufferSize) : StreamM ω (σ × τ) Bytes) s = .error e s' →
        (copy mode : StreamM ω (σ × τ) Nat) s = .error e s' := by
  refine ⟨fun reads hreads =>
    copyWithin_eq source sink separate mode reads readLimit hreads hsize h, ?_,
    fun _ _ => copy_of_read_eq_error⟩
  refine (ends_copyWithin source sink separate mode readLimit hsize h).mono ?_ fun _ _ h => h
  intro copied s' hout
  have hread := source.ends_readToEndWithin readLimit hsize h.1
  refine ⟨hout, hread.mono ?_ fun _ _ h => h⟩
  rintro bytes t ⟨rfl, -⟩
  refine ⟨rfl, ?_⟩
  rw [List.length_drop, hout.1]

end Copying

/-! ## Memory as a destination -/

theorem Bytes.splice_at_end (content data : Bytes) :
    content.splice content.length data = content ++ data := by
  simp [splice, resize, zeros]

namespace MemoryDevice

variable {ω : Type} [Cancellation ω]

/-- A stream in memory that holds some chunks, with its cursor at the end. -/
def HoldsChunks (s : DeviceStream MemoryDevice × ω) (chunks : List Bytes) : Prop :=
  s.1 = ⟨.live ⟨chunks.flatten, chunks.flatten.length⟩, .resizable⟩

/-- What a stream in memory is written at its end is appended, unless the token was cancelled; the
surroundings stay. -/
theorem ends_write_holdsChunks {s : DeviceStream MemoryDevice × ω} {chunks : List Bytes}
    (h : HoldsChunks s chunks) (mode : Mode) (data : Bytes) :
    (ByteStream.write mode data : StreamM ω (DeviceStream MemoryDevice) Unit).Ends s
      (fun _ s' => HoldsChunks s' (chunks ++ [data]) ∧ s'.2 = s.2)
      fun e s' => (mode.Excuses (fun _ => False) s'.2 e ∧ HoldsChunks s' chunks) ∧ s'.2 = s.2 := by
  obtain ⟨stream, w⟩ := s
  obtain rfl : stream = ⟨.live ⟨chunks.flatten, chunks.flatten.length⟩, .resizable⟩ := h
  refine ((mode.ends_checkToken _).mono (fun _ _ h => h) ?_).bind ?_
  · rintro e s' ⟨rfl, hcancelled, rfl⟩
    exact ⟨⟨.inr ⟨hcancelled, rfl⟩, rfl⟩, rfl⟩
  rintro _ s' rfl
  have happend : Bytes.splice chunks.flatten chunks.flatten.length data =
      (chunks ++ [data]).flatten := by
    rw [Bytes.splice_at_end, List.flatten_append, List.flatten_singleton]
  have hlength : (chunks ++ [data]).flatten.length = chunks.flatten.length + data.length := by
    simp
  refine StreamM.ends_bind_of_eq_ok rfl (StreamM.ends_bind_of_eq_ok rfl ?_)
  dsimp only
  rw [if_neg nofun]
  unfold StreamM.Ends DeviceStream.onDevice
  dsimp only
  rw [writePatiently_eq, happend, ← hlength]
  exact ⟨rfl, rfl⟩

theorem sink : Sink (fun _ => False) (HoldsChunks : DeviceStream MemoryDevice × ω → _) where
  write h mode data := (ends_write_holdsChunks h mode data).mono (fun _ _ h => h.1) fun _ _ h => h.1

end MemoryDevice

theorem Fickle.separate_memory (content : Bytes) (fault : StreamError → Prop) :
    Separate (Stands content fault)
      (MemoryDevice.HoldsChunks : DeviceStream MemoryDevice × Fate → _) where
  reading _ h _ _ := StreamM.ends_of_final h
  writing h h' mode data := by
    refine (MemoryDevice.ends_write_holdsChunks h' mode data).mono ?_ ?_
    · rintro _ ⟨stream, w⟩ ⟨-, rfl⟩
      exact h
    · rintro e ⟨stream, w⟩ ⟨-, rfl⟩
      exact h

/-- Five bytes of which two can be read before a read fails, and an empty destination. -/
def beforeCopy : (Fickle × DeviceStream MemoryDevice) × Fate :=
  ((⟨[1, 2, 3, 4, 5], 1, false⟩, ⟨.live ⟨[], 0⟩, .resizable⟩), Fickle.failingSecond)

/-- Of four bytes that come two at a time, the first copy transfers two, and fails; a suspending
copy with a token that is not cancelled transfers the others. With one that is, nothing is
transferred. -/
theorem Source.copy_transfers_failing :
    (copy .blocking : StreamM Fate (Fickle × DeviceStream MemoryDevice) Nat).Ends beforeCopy
      (fun _ _ => False)
      (fun e s' => s'.1.2.device = .live ⟨[2, 3], 2⟩ ∧
        Interrupted [1, 2, 3, 4, 5] .blocking (· = .refusal .overflow) (fun _ => False)
          (Fickle.Stands [1, 2, 3, 4, 5] (· = .refusal .overflow)) MemoryDevice.HoldsChunks 1
          [] e s' ∧
        (copy (.suspending (.named "go")) :
          StreamM Fate (Fickle × DeviceStream MemoryDevice) Nat).Ends s'
          (fun copied s'' => copied = 2 ∧ s''.1.2.device = .live ⟨[2, 3, 4, 5], 4⟩ ∧
            Transferred [1, 2, 3, 4, 5] (Fickle.Stands [1, 2, 3, 4, 5] (· = .refusal .overflow))
              MemoryDevice.HoldsChunks 3 [[2, 3]] copied s'')
          fun _ _ => False) ∧
    (copy (.suspending (.named "stop")) : StreamM Fate (Fickle × DeviceStream MemoryDevice) Nat)
      beforeCopy = .error (.refusal .cancelled) beforeCopy := by
  have hsource := Fickle.source [1, 2, 3, 4, 5] (· = .refusal .overflow)
  have hseparate := Fickle.separate_memory [1, 2, 3, 4, 5] (· = .refusal .overflow)
  have hbefore : Between (Fickle.Stands [1, 2, 3, 4, 5] (· = .refusal .overflow))
      MemoryDevice.HoldsChunks beforeCopy 1 [] := ⟨Fickle.stands_failingSecond, rfl⟩
  obtain ⟨-, hfirst, -⟩ :=
    hsource.copy_transfers MemoryDevice.sink hseparate .blocking (by decide) hbefore
  obtain ⟨-, -, hcancelled⟩ := hsource.copy_transfers MemoryDevice.sink hseparate
    (.suspending (.named "stop")) (by decide) hbefore
  refine ⟨StreamM.ends_of_eq_error rfl ⟨rfl, hfirst.of_eq_error rfl, ?_⟩, hcancelled _ _ rfl⟩
  have hbetween : Between (Fickle.Stands [1, 2, 3, 4, 5] (· = .refusal .overflow))
      MemoryDevice.HoldsChunks
      ((copy .blocking : StreamM Fate (Fickle × DeviceStream MemoryDevice) Nat).final beforeCopy)
      3 [[2, 3]] :=
    ⟨⟨rfl, rfl, rfl, fun index => Fickle.stands_failingSecond.generous (index + 2),
      fun index => Fickle.stands_failingSecond.faults (index + 2)⟩, rfl⟩
  obtain ⟨-, hsecond, -⟩ := hsource.copy_transfers MemoryDevice.sink hseparate
    (.suspending (.named "go")) (by decide) hbetween
  exact StreamM.ends_of_eq_ok rfl ⟨rfl, rfl, (hsecond.of_eq_ok rfl).1⟩

end LayeredStreams
