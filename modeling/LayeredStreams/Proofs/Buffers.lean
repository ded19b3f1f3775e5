import LayeredStreams.Proofs.MachineWords

/-!
# Reading into a buffer

A read of a stream answers the bytes that it got. A program hands it a buffer instead, or a part of
one: the read puts the bytes there and answers how many they are, and what becomes of the rest of
the part is up to the stream. Reads into buffers are told here on a machine that notes when a part
does not lie inside its buffer, and compared with the reads that answer bytes.

* `StreamM.beside`, `StreamM.withinBeside` — a computation on the stream, and on a part of the
  stream, beside a buffer.
* `StreamM.lend` — a computation is lent a part of the buffer; `StreamM.withBuffer` — it is given a
  buffer of its own.
* `Deposits neat into act` — to read into a buffer comes to what `act` does: its bytes are put in
  the first places of the buffer, and every other place is as it was. If it fails, the places are as
  they were where the read is `neat`.

Principal results: `Bytes.getElem?_overlay` and its like (what stands in a buffer after bytes were
put there), `Deposits.within` and `Deposits.after` (reads into buffers can be put together) and
`Deposits.ends_lend` (a read that is lent a part of a buffer changes that part alone).
-/

set_option autoImplicit false

namespace LayeredStreams

/-! ## Buffers -/

namespace Bytes

variable {buffer : Bytes} {start : Nat}

/-- The places that bytes were put in hold them, and every other place what it held. -/
theorem getElem?_overlay (h : start ≤ buffer.length) (data : Bytes) (i : Nat) :
    (buffer.overlay start data)[i]? =
      if start ≤ i ∧ i < start + data.length ∧ i < buffer.length then data[i - start]?
      else buffer[i]? := by
  have htaken : (buffer.take start).length = start := by
    rw [List.length_take]
    exact Nat.min_eq_left h
  unfold overlay
  rw [List.append_assoc, List.getElem?_append, htaken]
  by_cases hbefore : i < start
  · rw [if_pos hbefore, if_neg (by omega), List.getElem?_take, if_pos hbefore]
  rw [if_neg hbefore, List.getElem?_append, List.length_take]
  by_cases hdata : i - start < min (buffer.length - start) data.length
  · rw [if_pos hdata, if_pos (by omega), List.getElem?_take, if_pos (by omega)]
  · rw [if_neg hdata, List.getElem?_drop]
    by_cases hinside : i < buffer.length
    · rw [if_neg (by omega)]
      congr 1
      omega
    · rw [if_neg (by omega), List.getElem?_eq_none (by omega), List.getElem?_eq_none (by omega)]

/-- What is put in a part of a buffer, and with the part in the buffer, is put in the buffer. -/
theorem overlay_window_overlay {count : Nat} (h : start + count ≤ buffer.length) {data : Bytes}
    (hdata : data.length ≤ count) :
    buffer.overlay start ((buffer.window start count).overlay 0 data) =
      buffer.overlay start data := by
  have hpart : ((buffer.window start count).overlay 0 data).length = count := by
    rw [length_overlay _ _ _ (Nat.zero_le _), length_window]
    omega
  have hstart : start ≤ buffer.length := by omega
  apply List.ext_getElem?
  intro i
  rw [getElem?_overlay hstart ((buffer.window start count).overlay 0 data),
    getElem?_overlay hstart data, hpart]
  by_cases hi : start ≤ i ∧ i < start + count
  · have hinside : start ≤ i ∧ i < start + count ∧ i < buffer.length := ⟨hi.1, hi.2, by omega⟩
    rw [if_pos hinside, getElem?_overlay (Nat.zero_le _), getElem?_window, length_window]
    have hplace : start + (i - start) = i := by omega
    by_cases hput : i < start + data.length
    · have hpart' : 0 ≤ i - start ∧ i - start < 0 + data.length ∧
          i - start < min count (buffer.length - start) := by omega
      rw [if_pos hpart', if_pos ⟨hi.1, hput, hinside.2.2⟩]
      rfl
    · have hbehind : ¬ (0 ≤ i - start ∧ i - start < 0 + data.length ∧
          i - start < min count (buffer.length - start)) := by omega
      rw [if_neg hbehind, if_pos (show i - start < count by omega), hplace,
        if_neg (fun hall => hput hall.2.1)]
  · have houtside : ¬ (start ≤ i ∧ i < start + data.length ∧ i < buffer.length) := by omega
    rw [if_neg houtside, if_neg (fun hall => hi ⟨hall.1, hall.2.1⟩)]

theorem overlay_window {count : Nat} (h : start + count ≤ buffer.length) :
    buffer.overlay start (buffer.window start count) = buffer := by
  apply List.ext_getElem?
  intro i
  rw [getElem?_overlay (by omega), getElem?_window, length_window]
  split
  · rw [if_pos (by omega)]
    congr 1
    omega
  · rfl

theorem overlay_append {first second : Bytes}
    (h : start + first.length + second.length ≤ buffer.length) :
    (buffer.overlay start first).overlay (start + first.length) second =
      buffer.overlay start (first ++ second) := by
  have hlength : (buffer.overlay start first).length = buffer.length :=
    length_overlay _ _ _ (by omega)
  apply List.ext_getElem?
  intro i
  rw [getElem?_overlay (by omega), getElem?_overlay (by omega),
    getElem?_overlay (by omega), hlength,
    List.length_append, List.getElem?_append]
  by_cases hi : start ≤ i ∧ i < start + (first.length + second.length)
  · by_cases hfirst : i < start + first.length
    · rw [if_neg (by omega), if_pos (by omega), if_pos (by omega), if_pos (by omega)]
    · rw [if_pos (by omega), if_pos (by omega), if_neg (by omega)]
      congr 1
      omega
  · rw [if_neg (by omega), if_neg (by omega), if_neg (by omega)]

theorem overlay_nil (h : start ≤ buffer.length) : buffer.overlay start [] = buffer := by
  apply List.ext_getElem?
  intro i
  rw [getElem?_overlay h, if_neg]
  rw [List.length_nil]
  omega

theorem window_overlay {data : Bytes} (h : start + data.length ≤ buffer.length) :
    (buffer.overlay start data).window start data.length = data := by
  apply List.ext_getElem?
  intro i
  rw [getElem?_window, getElem?_overlay (by omega)]
  split
  · rw [if_pos (by omega)]
    congr 1
    omega
  · exact (List.getElem?_eq_none (by omega)).symm

/-- A buffer of the same length that differs in the `count` places from `start` on alone. -/
def SameOutside (start count : Nat) (buffer left : Bytes) : Prop :=
  left.length = buffer.length ∧
    ∀ i, i < start ∨ start + count ≤ i → left[i]? = buffer[i]?

theorem sameOutside_overlay (h : start ≤ buffer.length) (data : Bytes) :
    SameOutside start data.length buffer (buffer.overlay start data) := by
  refine ⟨length_overlay _ _ _ h, fun i hi => ?_⟩
  rw [getElem?_overlay h, if_neg (by omega)]

end Bytes

/-! ## Computations beside a buffer -/

namespace StreamM

variable {ω σ τ α : Type}

/-- A computation on the stream, beside a buffer. -/
def beside (act : StreamM (Gauged ω) σ α) : StreamM (Gauged ω) (σ × Bytes) α :=
  within Prod.fst (fun stream pair => (stream, pair.2)) act

/-- A computation on a part of the stream, beside a buffer. -/
def withinBeside (get : σ → τ) (put : τ → σ → σ) (act : StreamM (Gauged ω) (τ × Bytes) α) :
    StreamM (Gauged ω) (σ × Bytes) α :=
  within (fun pair => (get pair.1, pair.2)) (fun part pair => (put part.1 pair.1, part.2)) act

/-- The length of the buffer. -/
def bufferLength : StreamM (Gauged ω) (σ × Bytes) Nat := do return (← state).2.length

/-- Put bytes in the first places of the buffer. -/
def put (bytes : Bytes) : StreamM (Gauged ω) (σ × Bytes) Unit := do
  sliceTo (← bufferLength) bytes.length
  update fun pair => (pair.1, pair.2.overlay 0 bytes)

/-- Lend `count` places of the buffer, from `start` on, to a computation. -/
def lend (start count : Nat) (act : StreamM (Gauged ω) (σ × Bytes) α) :
    StreamM (Gauged ω) (σ × Bytes) α := do
  slice (← bufferLength) start count
  within (fun pair => (pair.1, pair.2.window start count))
    (fun part pair => (part.1, pair.2.overlay start part.2)) act

/-- Give a computation a buffer of its own, and answer what became of it. -/
def withBuffer (buffer : Bytes) (act : StreamM (Gauged ω) (σ × Bytes) α) :
    StreamM (Gauged ω) σ (α × Bytes) := fun (stream, g) =>
  match act ((stream, buffer), g) with
  | .ok value ((stream, buffer), g) => .ok (value, buffer) (stream, g)
  | .error e ((stream, _), g) => .error e (stream, g)

/-- A computation of the machine does what `act` does, which is not made of steps of the machine. -/
def Plain (machine : StreamM (Gauged ω) σ α) (act : StreamM ω σ α) : Prop :=
  ∀ s, machine s = act.trapless s

variable {β : Type} {machine : StreamM (Gauged ω) σ α} {act : StreamM ω σ α}

theorem plain_trapless : Plain act.trapless act := fun _ => rfl

theorem plain_pure (value : α) : Plain (pure value : StreamM (Gauged ω) σ α) (pure value) :=
  fun _ => rfl

theorem plain_update (f : σ → σ) : Plain (update f : StreamM (Gauged ω) σ Unit) (update f) :=
  fun _ => rfl

theorem Plain.bind {machine' : α → StreamM (Gauged ω) σ β} {next : α → StreamM ω σ β}
    (h : Plain machine act) (hnext : ∀ value, Plain (machine' value) (next value)) :
    Plain (machine >>= machine') (act >>= next) := by
  intro s
  rw [trapless_bind_apply, bind_apply, bind_apply, h]
  cases act.trapless s with
  | ok value s' => exact hnext value s'
  | error e s' => rfl

theorem plain_state_bind {machine : σ → StreamM (Gauged ω) σ α} {next : σ → StreamM ω σ α}
    (h : ∀ stream, Plain (machine stream) (next stream)) :
    Plain (state >>= machine) (state >>= next) :=
  fun s => h s.1 s

theorem plain_checkToken [Cancellation ω] (mode : Mode) :
    Plain (mode.checkToken : StreamM (Gauged ω) σ Unit) mode.checkToken := by
  intro s
  have hpure : Untrapped (pure ()) (pure ()) s (fun _ _ => True) fun _ => True :=
    untrapped_pure trivial
  have hcheck := (untrapped_checkToken_bind mode trivial hpure).1
  rwa [bind_pure_unit, bind_pure_unit] at hcheck

end StreamM

/-- The surroundings of a machine that went on without a trap. -/
def Gauged.went {ω : Type} (g : Gauged ω) (w : ω) : Gauged ω := { g with surroundings := w }

theorem StreamM.Plain.beside {ω σ α : Type} {machine : StreamM (Gauged ω) σ α} {act : StreamM ω σ α}
    (h : Plain machine act) (stream : σ) (buffer : Bytes) (g : Gauged ω) :
    StreamM.beside machine ((stream, buffer), g) =
      match act (stream, g.surroundings) with
      | .ok value s' => .ok value ((s'.1, buffer), g.went s'.2)
      | .error e s' => .error e ((s'.1, buffer), g.went s'.2) := by
  unfold StreamM.beside StreamM.within
  dsimp only
  rw [h]
  unfold StreamM.trapless
  dsimp only
  cases act (stream, g.surroundings) <;> rfl

/-- Into whatever buffer is read, what comes of it is what comes of `act`, which is told how many
places the buffer has: the bytes of `act` are put in the first places, every other place stays, and
no trap is run into. After a failure the buffer is as long as before, and where the read is neat it
is as before. -/
def Deposits {ω σ : Type} (neat : Prop) (into : StreamM (Gauged ω) (σ × Bytes) Nat)
    (act : Nat → StreamM ω σ Bytes) : Prop :=
  ∀ (stream : σ) (buffer : Bytes) (g : Gauged ω), buffer.length ≤ maxWord →
    (act buffer.length).Ends (stream, g.surroundings)
      (fun bytes s' => bytes.length ≤ buffer.length ∧
        into ((stream, buffer), g) =
          .ok bytes.length ((s'.1, buffer.overlay 0 bytes), g.went s'.2))
      fun e s' => ∃ left, left.length = buffer.length ∧ (neat → left = buffer) ∧
        into ((stream, buffer), g) = .error e ((s'.1, left), g.went s'.2)

namespace Deposits

variable {ω σ τ : Type} {neat : Prop}

/-- To read into a buffer through a layer comes to what the read below comes to. -/
theorem within {into : StreamM (Gauged ω) (τ × Bytes) Nat} {act : Nat → StreamM ω τ Bytes}
    (h : Deposits neat into act) (get : σ → τ) (put : τ → σ → σ) :
    Deposits neat (StreamM.withinBeside get put into) fun room =>
      StreamM.within get put (act room) := by
  intro stream buffer g hbuffer
  refine (h (get stream) buffer g hbuffer).within.mono ?_ ?_
  · rintro bytes ⟨stream', w⟩ ⟨part, ⟨hlength, hinto⟩, rfl⟩
    refine ⟨hlength, ?_⟩
    unfold StreamM.withinBeside StreamM.within
    dsimp only
    rw [hinto]
  · rintro e ⟨stream', w⟩ ⟨part, ⟨left, hleft, hneat, hinto⟩, rfl⟩
    refine ⟨left, hleft, hneat, ?_⟩
    unfold StreamM.withinBeside StreamM.within
    dsimp only
    rw [hinto]

/-- A step that the stream makes before the read comes before it. -/
theorem after {α : Type} {step : StreamM (Gauged ω) σ α} {before : StreamM ω σ α}
    (hstep : StreamM.Plain step before) {into : α → StreamM (Gauged ω) (σ × Bytes) Nat}
    {act : α → Nat → StreamM ω σ Bytes} (h : ∀ value, Deposits neat (into value) (act value)) :
    Deposits neat (StreamM.beside step >>= into)
      fun room => before >>= fun value => act value room := by
  intro stream buffer g hbuffer
  unfold StreamM.Ends
  simp only [StreamM.bind_apply, hstep.beside]
  cases hbefore : before (stream, g.surroundings) with
  | ok value s' => exact h value s'.1 buffer (g.went s'.2) hbuffer
  | error e s' => exact ⟨buffer, rfl, fun _ => rfl, rfl⟩

/-- A read that is lent a part of a buffer puts its bytes there, and leaves every other place. -/
theorem ends_lend {into : StreamM (Gauged ω) (σ × Bytes) Nat} {act : Nat → StreamM ω σ Bytes}
    (h : Deposits neat into act) {start count : Nat} (stream : σ) {buffer : Bytes} (g : Gauged ω)
    (hbuffer : buffer.length ≤ maxWord) (hfits : start + count ≤ buffer.length) :
    (act count).Ends (stream, g.surroundings)
      (fun bytes s' => bytes.length ≤ count ∧
        StreamM.lend start count into ((stream, buffer), g) =
          .ok bytes.length ((s'.1, buffer.overlay start bytes), g.went s'.2))
      fun e s' => ∃ left, Bytes.SameOutside start count buffer left ∧ (neat → left = buffer) ∧
        StreamM.lend start count into ((stream, buffer), g) =
          .error e ((s'.1, left), g.went s'.2) := by
  have hpart : (buffer.window start count).length = count := by
    rw [Bytes.length_window]
    omega
  have hlend : StreamM.lend start count into ((stream, buffer), g) =
      StreamM.within (fun pair : σ × Bytes => (pair.1, pair.2.window start count))
        (fun part pair => (part.1, pair.2.overlay start part.2)) into ((stream, buffer), g) := by
    unfold StreamM.lend StreamM.bufferLength
    simp only [StreamM.bind_apply, StreamM.state_apply, StreamM.pure_apply,
      StreamM.slice_apply hfits hbuffer]
  have hread := h stream (buffer.window start count) g (by omega)
  rw [hpart] at hread
  rw [hlend]
  unfold StreamM.within
  dsimp only
  refine hread.mono ?_ ?_
  · rintro bytes s' ⟨hlength, hinto⟩
    refine ⟨hlength, ?_⟩
    rw [hinto]
    dsimp only
    rw [Bytes.overlay_window_overlay hfits hlength]
  · rintro e s' ⟨left, hleft, hneat, hinto⟩
    refine ⟨buffer.overlay start left, ?_, ?_, ?_⟩
    · have hsame := Bytes.sameOutside_overlay (show start ≤ buffer.length by omega) left
      rwa [hleft] at hsame
    · intro hquiet
      rw [hneat hquiet, Bytes.overlay_window hfits]
    · rw [hinto]

end Deposits

end LayeredStreams
