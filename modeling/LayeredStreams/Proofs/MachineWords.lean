import LayeredStreams.Proofs.InMemory
import LayeredStreams.Proofs.Preserved
import Mathlib.Algebra.Group.Int.Defs
import Mathlib.Algebra.Group.Nat.Defs

/-!
# Machine arithmetic

Positions are natural numbers in the definitions of the streams, and a part of a buffer is as long
as the buffer allows. A machine has words: a sum that is no word wraps around, and to reach past the
end of a buffer is a fault. Here the steps of the machine are counted as such, and it is told what
it takes for a computation to do the same on the machine.

* `Trap`, `Gauged ω` — what can go wrong, and surroundings that note it. A computation goes on after
  a trap, with the value that the machine has.
* `StreamM.sum`, `StreamM.difference`, `StreamM.product`, `StreamM.wideSum` — the machine's sums.
* `StreamM.element`, `StreamM.sliceTo`, `StreamM.slice` — its looks at a part of a buffer.
* `StreamM.trapless` — a computation that is not made of such steps.
* `StreamM.Untrapped` — a computation of the machine that does what another one does that knows no
  words, and runs into no trap.
* `Sturdy` — a stream of the machine that does so whatever it is asked, as long as numbers in the
  request are of their type.

Principal results: `Untrapped.bind` and its like (computations that run into no trap can be put
together) and `untrapped_resolve` (a seek sums up numbers that are wide enough).
-/

set_option autoImplicit false

namespace LayeredStreams

/-- What can go wrong on a machine. -/
inductive Trap
  /-- A sum or a product is none of its type. -/
  | overflow
  /-- A part of a buffer does not lie inside it. -/
  | outOfBounds
  deriving DecidableEq, Repr

/-- Surroundings that note what went wrong. -/
structure Gauged (ω : Type) where
  surroundings : ω
  /-- What went wrong, the latest first. -/
  traps : List Trap

instance {ω : Type} [Cancellation ω] : Cancellation (Gauged ω) where
  isCancelled name g := Cancellation.isCancelled name g.surroundings

/-- A number of twice the width of a word, with a sign. -/
def IsWide (n : Int) : Prop := -2 ^ 127 ≤ n ∧ n < 2 ^ 127

instance (n : Int) : Decidable (IsWide n) := inferInstanceAs (Decidable (_ ∧ _))

namespace StreamM

variable {ω σ τ α β : Type}

/-! ## Steps of the machine -/

/-- Note a trap, unless all is well. -/
def demand (trap : Trap) (holds : Prop) [Decidable holds] : StreamM (Gauged ω) σ Unit :=
  StreamM.updateSurroundings fun g => if holds then g else { g with traps := trap :: g.traps }

/-- The sum of two words; it wraps around. -/
def sum (a b : Nat) : StreamM (Gauged ω) σ Nat := do
  demand .overflow (a + b ≤ maxWord)
  return (a + b) % (maxWord + 1)

/-- The difference of two words; it wraps around. -/
def difference (a b : Nat) : StreamM (Gauged ω) σ Nat := do
  demand .overflow (b ≤ a)
  return (a + (maxWord + 1) - b) % (maxWord + 1)

/-- The product of two words; it wraps around. -/
def product (a b : Nat) : StreamM (Gauged ω) σ Nat := do
  demand .overflow (a * b ≤ maxWord)
  return a * b % (maxWord + 1)

/-- The sum of two wide numbers; it wraps around. -/
def wideSum (a b : Int) : StreamM (Gauged ω) σ Int := do
  demand .overflow (IsWide (a + b))
  return (a + b).bmod (2 ^ 128)

/-- One place of a buffer of `size` places. -/
def element (size place : Nat) : StreamM (Gauged ω) σ Unit := demand .outOfBounds (place < size)

/-- The first `count` places of a buffer of `size` places. -/
def sliceTo (size count : Nat) : StreamM (Gauged ω) σ Unit := demand .outOfBounds (count ≤ size)

/-- `count` places of a buffer of `size` places, from `start` on. -/
def slice (size start count : Nat) : StreamM (Gauged ω) σ Unit := do
  let reach ← sum start count
  demand .outOfBounds (start ≤ reach ∧ reach ≤ size)

theorem demand_apply {trap : Trap} {holds : Prop} [Decidable holds] (h : holds)
    (s : σ × Gauged ω) : (demand trap holds : StreamM (Gauged ω) σ Unit) s = .ok () s := by
  unfold demand
  simp [updateSurroundings, h]

theorem sum_apply {a b : Nat} (h : a + b ≤ maxWord) (s : σ × Gauged ω) :
    (sum a b : StreamM (Gauged ω) σ Nat) s = .ok (a + b) s := by
  have hmod : (a + b) % (maxWord + 1) = a + b := Nat.mod_eq_of_lt (Nat.lt_succ_of_le h)
  unfold sum
  rw [bind_apply, demand_apply h, hmod]
  rfl

/-- A sum that is no word is noted. -/
example : (sum maxWord 1 : StreamM (Gauged Unit) Unit Nat) ((), ⟨(), []⟩) =
    .ok 0 ((), ⟨(), [.overflow]⟩) := rfl

theorem difference_apply {a b : Nat} (h : b ≤ a) (hword : a ≤ maxWord) (s : σ × Gauged ω) :
    (difference a b : StreamM (Gauged ω) σ Nat) s = .ok (a - b) s := by
  have hmod : (a + (maxWord + 1) - b) % (maxWord + 1) = a - b := by
    rw [Nat.sub_add_comm h, Nat.add_mod_right]
    exact Nat.mod_eq_of_lt (by omega)
  unfold difference
  rw [bind_apply, demand_apply h, hmod]
  rfl

theorem product_apply {a b : Nat} (h : a * b ≤ maxWord) (s : σ × Gauged ω) :
    (product a b : StreamM (Gauged ω) σ Nat) s = .ok (a * b) s := by
  have hmod : a * b % (maxWord + 1) = a * b := Nat.mod_eq_of_lt (Nat.lt_succ_of_le h)
  unfold product
  rw [bind_apply, demand_apply h, hmod]
  rfl

theorem wideSum_apply {a b : Int} (h : IsWide (a + b)) (s : σ × Gauged ω) :
    (wideSum a b : StreamM (Gauged ω) σ Int) s = .ok (a + b) s := by
  have hmod : (a + b).bmod (2 ^ 128) = a + b := by
    obtain ⟨hlow, hhigh⟩ := h
    apply Int.bmod_eq_of_le
    · omega
    · omega
  unfold wideSum
  rw [bind_apply, demand_apply h, hmod]
  rfl

theorem element_apply {size place : Nat} (h : place < size) (s : σ × Gauged ω) :
    (element size place : StreamM (Gauged ω) σ Unit) s = .ok () s := demand_apply h s

theorem sliceTo_apply {size count : Nat} (h : count ≤ size) (s : σ × Gauged ω) :
    (sliceTo size count : StreamM (Gauged ω) σ Unit) s = .ok () s := demand_apply h s

theorem slice_apply {size start count : Nat} (h : start + count ≤ size) (hsize : size ≤ maxWord)
    (s : σ × Gauged ω) : (slice size start count : StreamM (Gauged ω) σ Unit) s = .ok () s := by
  unfold slice
  rw [bind_apply, sum_apply (Nat.le_trans h hsize)]
  exact demand_apply ⟨Nat.le_add_right _ _, h⟩ s

/-! ## Computations that run into no trap -/

/-- A computation that is not made of steps of the machine. -/
def trapless (act : StreamM ω σ α) : StreamM (Gauged ω) σ α := fun (stream, g) =>
  match act (stream, g.surroundings) with
  | .ok value (stream, w) => .ok value (stream, { g with surroundings := w })
  | .error e (stream, w) => .error e (stream, { g with surroundings := w })

/-- A computation of the machine runs into no trap and does what `act` does, and what holds of the
value and of the stream after it. -/
def Untrapped (machine : StreamM (Gauged ω) σ α) (act : StreamM ω σ α) (s : σ × Gauged ω)
    (good : α → σ → Prop) (bad : σ → Prop) : Prop :=
  machine s = act.trapless s ∧
    act.Ends (s.1, s.2.surroundings) (fun value s' => good value s'.1) fun _ s' => bad s'.1

variable {machine : StreamM (Gauged ω) σ α} {act : StreamM ω σ α} {s : σ × Gauged ω}
  {good good' : α → σ → Prop} {bad bad' : σ → Prop}

theorem Untrapped.mono (h : Untrapped machine act s good bad)
    (hgood : ∀ value stream, good value stream → good' value stream)
    (hbad : ∀ stream, bad stream → bad' stream) : Untrapped machine act s good' bad' :=
  ⟨h.1, h.2.mono (fun value s' => hgood value s'.1) fun _ s' => hbad s'.1⟩

/-- What is not made of steps of the machine leaves the traps as they are. -/
theorem traps_final_trapless (act : StreamM ω σ α) (s : σ × Gauged ω) :
    (act.trapless.final s).2.traps = s.2.traps := by
  unfold final trapless
  dsimp only
  cases act (s.1, s.2.surroundings) with
  | ok value s' => rfl
  | error e s' => rfl

theorem Untrapped.ends_traps (h : Untrapped machine act s good bad) :
    machine.Ends s (fun _ s' => s'.2.traps = s.2.traps) fun _ s' => s'.2.traps = s.2.traps := by
  have hfinal : machine.final s = act.trapless.final s := by
    unfold final
    rw [h.1]
  apply ends_of_final
  rw [hfinal, traps_final_trapless]

/-- The machine ends as `act` does. -/
theorem Untrapped.ends (h : Untrapped machine act s good bad) :
    machine.Ends s (fun value s' => good value s'.1) fun _ s' => bad s'.1 := by
  obtain ⟨heq, hends⟩ := h
  unfold Ends at hends ⊢
  rw [heq]
  unfold trapless
  dsimp only
  cases hact : act (s.1, s.2.surroundings) with
  | ok value s' =>
    rw [hact] at hends
    exact hends
  | error e s' =>
    rw [hact] at hends
    exact hends

theorem trapless_bind_apply (act : StreamM ω σ α) (next : α → StreamM ω σ β) (s : σ × Gauged ω) :
    (act >>= next).trapless s = (act.trapless >>= fun value => (next value).trapless) s := by
  obtain ⟨stream, g⟩ := s
  rw [bind_apply]
  unfold trapless
  dsimp only
  rw [bind_apply]
  cases act (stream, g.surroundings) with
  | ok value s' => rfl
  | error e s' => rfl

/-- **Computations that run into no trap can be put together.** -/
theorem Untrapped.bind {machine' : α → StreamM (Gauged ω) σ β} {next : α → StreamM ω σ β}
    {good' : β → σ → Prop} (h : Untrapped machine act s good bad)
    (hnext : ∀ value s', good value s'.1 → Untrapped (machine' value) (next value) s' good' bad) :
    Untrapped (machine >>= machine') (act >>= next) s good' bad := by
  obtain ⟨heq, hends⟩ := h
  unfold Untrapped
  rw [trapless_bind_apply, bind_apply, bind_apply, heq]
  unfold trapless
  dsimp only
  unfold Ends at hends ⊢
  rw [bind_apply]
  cases hact : act (s.1, s.2.surroundings) with
  | ok value s' =>
    rw [hact] at hends
    exact hnext value (s'.1, { s.2 with surroundings := s'.2 }) hends
  | error e s' =>
    rw [hact] at hends
    exact ⟨rfl, hends⟩

/-- A step that only the machine makes goes before. -/
theorem untrapped_bind_of_eq_ok {step : StreamM (Gauged ω) σ β} {value : β}
    {machine' : β → StreamM (Gauged ω) σ α} (hstep : step s = .ok value s)
    (h : Untrapped (machine' value) act s good bad) :
    Untrapped (step >>= machine') act s good bad := by
  refine ⟨?_, h.2⟩
  rw [bind_apply, hstep]
  exact h.1

theorem untrapped_pure {value : α} (h : good value s.1) :
    Untrapped (pure value) (pure value) s good bad := ⟨rfl, h⟩

theorem untrapped_refuse (cause : Refusal) (h : bad s.1) :
    Untrapped (refuse cause) (refuse cause) s good bad := ⟨rfl, h⟩

theorem untrapped_settle {outcome : Except StreamError α}
    (hgood : ∀ value, outcome = .ok value → good value s.1) (hbad : bad s.1) :
    Untrapped (settle outcome) (settle outcome) s good bad := by
  cases outcome with
  | ok value => exact ⟨rfl, hgood value rfl⟩
  | error e => exact ⟨rfl, hbad⟩

/-- After a look at the state a computation goes on from where it stands. -/
theorem untrapped_state_bind {machine' : σ → StreamM (Gauged ω) σ α} {next : σ → StreamM ω σ α}
    (h : Untrapped (machine' s.1) (next s.1) s good bad) :
    Untrapped (state >>= machine') (state >>= next) s good bad :=
  ⟨h.1, ends_state_bind h.2⟩

/-- The state is changed to the same one, which the machine may have computed before. -/
theorem untrapped_update {f f' : σ → σ} {good : Unit → σ → Prop} (hsame : f' s.1 = f s.1)
    (h : good () (f s.1)) : Untrapped (update f') (update f) s good bad := by
  refine ⟨?_, h⟩
  rw [update_apply, hsame]
  rfl

theorem untrapped_update_bind {f f' : σ → σ} {machine' : Unit → StreamM (Gauged ω) σ α}
    {next : Unit → StreamM ω σ α} (hsame : f' s.1 = f s.1)
    (h : Untrapped (machine' ()) (next ()) (f s.1, s.2) good bad) :
    Untrapped (update f' >>= machine') (update f >>= next) s good bad := by
  refine ⟨?_, ends_update_bind h.2⟩
  rw [bind_apply, update_apply, hsame]
  exact h.1

/-- What is not made of steps of the machine runs into no trap. -/
theorem Ends.untrapped
    (h : act.Ends (s.1, s.2.surroundings) (fun value s' => good value s'.1) fun _ s' => bad s'.1) :
    Untrapped act.trapless act s good bad := ⟨rfl, h⟩

theorem Untrapped.attempt (h : Untrapped machine act s good bad) :
    Untrapped machine.attempt act.attempt s (fun outcome stream =>
      match outcome with
      | .ok value => good value stream
      | .error _ => bad stream) fun _ => False := by
  obtain ⟨heq, hends⟩ := h
  constructor
  · unfold StreamM.attempt trapless
    dsimp only
    rw [heq]
    unfold trapless
    dsimp only
    cases act (s.1, s.2.surroundings) with
    | ok value s' => rfl
    | error e s' => rfl
  · apply (Ends.attempt hends).mono
    · intro outcome s' hout
      cases outcome with
      | ok value => exact hout
      | error e => exact hout
    · intro _ _ hfalse
      exact hfalse

/-- Computations that are carried run into no trap if they run into none alone. -/
theorem Untrapped.carried {f : σ → τ} {part : σ} {g : Gauged ω}
    {carried : StreamM (Gauged ω) τ α} {carried' : StreamM ω τ α} {good' : α → τ → Prop}
    {bad' : τ → Prop} (h : Untrapped machine act (part, g) good bad)
    (hmachine : Carries f machine carried) (hact : Carries f act carried')
    (hgood : ∀ value part', good value part' → good' value (f part'))
    (hbad : ∀ part', bad part' → bad' (f part')) :
    Untrapped carried carried' (f part, g) good' bad' := by
  obtain ⟨heq, hends⟩ := h
  constructor
  · rw [hmachine, heq]
    unfold trapless
    dsimp only
    rw [hact]
    cases act (part, g.surroundings) with
    | ok value s' => rfl
    | error e s' => rfl
  · apply (hact.ends_of hends).mono
    · intro value s' hout
      obtain ⟨part', heq', hpart⟩ := hout
      rw [heq']
      exact hgood value part' hpart
    · intro e s' hout
      obtain ⟨part', heq', hpart⟩ := hout
      rw [heq']
      exact hbad part' hpart

/-- A computation on a part runs into no trap if it runs into none alone. -/
theorem Untrapped.within {get : τ → σ} {put : σ → τ → τ} {s : τ × Gauged ω} {good' : α → τ → Prop}
    {bad' : τ → Prop} (h : Untrapped machine act (get s.1, s.2) good bad)
    (hgood : ∀ value part, good value part → good' value (put part s.1))
    (hbad : ∀ part, bad part → bad' (put part s.1)) :
    Untrapped (StreamM.within get put machine) (StreamM.within get put act) s good' bad' := by
  obtain ⟨heq, hends⟩ := h
  unfold Untrapped Ends StreamM.within trapless
  unfold Ends at hends
  dsimp only at hends ⊢
  rw [heq]
  unfold trapless
  dsimp only
  cases hact : act (get s.1, s.2.surroundings) with
  | ok value s' =>
    rw [hact] at hends
    exact ⟨rfl, hgood value s'.1 hends⟩
  | error e s' =>
    rw [hact] at hends
    exact ⟨rfl, hbad s'.1 hends⟩

/-- Whether a transfer is admitted is no matter of arithmetic. -/
theorem untrapped_checkToken_bind [Cancellation ω] (mode : Mode) (hbad : bad s.1)
    (h : Untrapped machine act s good bad) :
    Untrapped (do mode.checkToken; machine) (do mode.checkToken; act) s good bad := by
  have hcancelled : mode.isCancelled s.2 = mode.isCancelled s.2.surroundings := by
    cases mode with
    | blocking => rfl
    | suspending token => cases token <;> rfl
  obtain ⟨heq, hends⟩ := h
  unfold Untrapped Ends trapless
  dsimp only
  rw [bind_apply, bind_apply, Mode.checkToken_apply, Mode.checkToken_apply, hcancelled]
  cases mode.isCancelled s.2.surroundings with
  | true => exact ⟨rfl, hbad⟩
  | false => exact ⟨heq, hends⟩

end StreamM

/-! ## Requests of words -/

namespace Request

/-- The numbers in a request are of their type. -/
def InWords : Request → Prop
  | setPosition target => target ≤ maxWord
  | setLength size => size ≤ maxWord
  | seek (.fromStart offset) => offset ≤ maxWord
  | seek (.fromCurrent offset) | seek (.fromEnd offset) => -2 ^ 63 ≤ offset ∧ offset < 2 ^ 63
  | _ => True

/-- An answer is a word where it is a number, and a read gives no more than there is room for. A
place is only sought if it is a position. -/
def Yields : (request : Request) → request.Answer → Prop
  | position, place => place ≤ maxWord
  | length, size => size ≤ maxWord
  | seek target, place =>
    place ≤ maxWord ∧ ∀ offset, target = .fromStart offset → offset ≤ maxPosition
  | read _ room, bytes => bytes.length ≤ room
  | _, _ => True

end Request

theorem maxWord_lt : maxWord < 2 ^ 64 := by decide

/-- There is room in a wide number for the sum of two words, whatever their signs. -/
theorem isWide_sum {a b : Int} (ha : -2 ^ 65 ≤ a ∧ a < 2 ^ 65) (hb : -2 ^ 65 ≤ b ∧ b < 2 ^ 65) :
    IsWide (a + b) := by
  constructor
  · omega
  · omega

/-- A seek sums up a word and an offset. -/
theorem isWide_of_words {place : Nat} {offset : Int} (hplace : place ≤ maxWord)
    (hoffset : -2 ^ 63 ≤ offset ∧ offset < 2 ^ 63) : IsWide (place + offset) := by
  have hword := maxWord_lt
  apply isWide_sum
  · constructor
    · omega
    · omega
  · constructor
    · omega
    · omega

/-- A stream of the machine that runs into no trap, does what the stream does that knows no words,
and stays sound. -/
structure Sturdy {ω σ : Type} (machine : ByteStream (Gauged ω) σ) [ByteStream ω σ]
    (sound : σ → Prop) : Prop where
  perform : ∀ {request : Request}, request.InWords → ∀ {stream : σ}, sound stream →
    ∀ g : Gauged ω, StreamM.Untrapped (machine.perform request) (ByteStream.perform request)
      (stream, g) (fun answer stream' => sound stream' ∧ request.Yields answer) sound

namespace SeekTarget

variable {ω σ : Type}

/-- The position a target stands for, when the cursor is at `position` and the end at `length`. -/
def resolveOnWords (target : SeekTarget) (position length : Nat) : StreamM (Gauged ω) σ Nat := do
  let place ← match target with
    | fromStart offset => pure (offset : Int)
    | fromCurrent offset => StreamM.wideSum position offset
    | fromEnd offset => StreamM.wideSum length offset
  if 0 ≤ place ∧ place ≤ maxPosition then return place.toNat
  else StreamM.refuse (.invalidSeek place)

/-- A target is resolved as it is without words. -/
theorem untrapped_resolve {target : SeekTarget} (htarget : (Request.seek target).InWords)
    {position length : Nat} (hposition : position ≤ maxWord) (hlength : length ≤ maxWord)
    {s : σ × Gauged ω} {bad : σ → Prop} (hbad : bad s.1) :
    StreamM.Untrapped (target.resolveOnWords position length)
      (StreamM.ofExcept (target.resolve position length)) s
      (fun place stream => (Request.seek target).Yields place ∧ stream = s.1) bad := by
  have hplace : ∀ place : Int, target.destination position length = place → StreamM.Untrapped
      (if 0 ≤ place ∧ place ≤ maxPosition then pure place.toNat
        else StreamM.refuse (.invalidSeek place))
      (StreamM.ofExcept (target.resolve position length)) s
      (fun place stream => (Request.seek target).Yields place ∧ stream = s.1) bad := by
    intro place hplace
    unfold resolve
    rw [hplace]
    dsimp only
    by_cases hfits : 0 ≤ place ∧ place ≤ maxPosition
    · rw [if_pos hfits, if_pos hfits]
      apply StreamM.untrapped_pure
      refine ⟨⟨le_maxWord (by omega), ?_⟩, rfl⟩
      intro offset heq
      rw [heq] at hplace
      have hoffset : (offset : Int) = place := hplace
      omega
    · rw [if_neg hfits, if_neg hfits]
      exact StreamM.untrapped_refuse _ hbad
  unfold resolveOnWords
  cases target with
  | fromStart offset => exact hplace offset rfl
  | fromCurrent offset =>
    have hwide := isWide_of_words hposition htarget
    exact StreamM.untrapped_bind_of_eq_ok (StreamM.wideSum_apply hwide s) (hplace _ rfl)
  | fromEnd offset =>
    have hwide := isWide_of_words hlength htarget
    exact StreamM.untrapped_bind_of_eq_ok (StreamM.wideSum_apply hwide s) (hplace _ rfl)

end SeekTarget

end LayeredStreams
