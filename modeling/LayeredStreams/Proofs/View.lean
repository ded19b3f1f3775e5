import LayeredStreams.Proofs.Source
import LayeredStreams.Proofs.Stack

/-!
# Views

What a stack of layers shows of the content of its base, as long as nothing fails.

* `Request.landing` — where a granted request leaves a stream.
* `View content size stands` — a located stream without faults, of which every granted request says
  where it leaves the stream. The length it reports is `size`.
* `Rebased.Stands`, `Truncated.Stands` — an open layer, told by the stream below it.

Principal results: `View.rebased` (a rebased layer shows what lies behind its origin),
`View.truncated` (a truncated layer shows what lies before its boundary, in the positions of the
stream below, and reports the length from its origin on) and `Stack.Reached.viewed` (every stack
without caches is a view).
-/

set_option autoImplicit false

namespace LayeredStreams

/-- Where a granted request leaves a stream that stood at a position. -/
def Request.landing : (request : Request) → request.Answer → Nat → Nat
  | .setPosition target, _, _ => target
  | .seek _, place, _ => place
  | .read _ _, bytes, p => p + bytes.length
  | .readByte, byte, p => p + byte.toList.length
  | _, _, p => p

/-- A located stream without faults that is where its answers say. -/
structure View {ω σ : Type} [Cancellation ω] [ByteStream ω σ] (content : Bytes) (size : Nat)
    (stands : σ × ω → Nat → Prop) : Prop extends
    Located content size (fun _ => False) stands where
  granted : ∀ {s : σ × ω} {p : Nat}, stands s p → ∀ request : Request,
    request.isQuiet = true →
    (ByteStream.perform request : StreamM ω σ request.Answer).Ends s
      (fun answer s' => stands s' (request.landing answer p)) fun _ _ => True

namespace Located

variable {ω σ : Type} [Cancellation ω] [ByteStream ω σ] {content : Bytes} {size : Nat}
  {stands : σ × ω → Nat → Prop} {s : σ × ω} {p : Nat}

theorem ends_position (located : Located content size (fun _ => False) stands) (h : stands s p) :
    (ByteStream.position : StreamM ω σ Nat).Ends s (fun place s' => place = p ∧ stands s' p)
      fun _ _ => False := by
  refine StreamM.Ends.mono (located.position h) ?_ fun _ _ ⟨_, hfalse, _⟩ => hfalse.1
  intro place s' hout
  obtain ⟨q, ⟨hplace, rfl⟩, hstands⟩ := hout
  exact ⟨hplace, hstands⟩

theorem ends_length (located : Located content size (fun _ => False) stands) (h : stands s p) :
    (ByteStream.length : StreamM ω σ Nat).Ends s (fun reach s' => reach = size ∧ stands s' p)
      fun _ _ => False := by
  refine StreamM.Ends.mono (located.length h) ?_ fun _ _ ⟨_, hfalse, _⟩ => hfalse.1
  intro reach s' hout
  obtain ⟨q, ⟨hreach, rfl⟩, hstands⟩ := hout
  exact ⟨hreach, hstands⟩

theorem ends_seekStart (located : Located content size (fun _ => False) stands) (h : stands s p)
    {target : Nat} (htarget : target < content.length) :
    (ByteStream.seek (.fromStart target) : StreamM ω σ Nat).Ends s
      (fun place s' => place = target ∧ stands s' target) fun _ _ => False := by
  refine StreamM.Ends.mono (located.seekStart h htarget) ?_ fun _ _ ⟨_, hfalse, _⟩ => hfalse.1
  intro place s' hout
  obtain ⟨q, ⟨hplace, rfl⟩, hstands⟩ := hout
  exact ⟨hplace, hstands⟩

end Located

namespace Delivers

variable {content bytes : Bytes} {position room : Nat}

theorem drop {origin : Nat} (h : Delivers content (origin + position) room bytes) :
    Delivers (content.drop origin) position room bytes where
  eq_window := by
    rw [Bytes.window_drop]
    exact h.eq_window
  length_le := h.length_le
  ne_nil hroom hlt := by
    rw [List.length_drop] at hlt
    exact h.ne_nil hroom (by omega)

theorem take {reach : Nat} (h : Delivers content position (min room (reach - position)) bytes) :
    Delivers (content.take reach) position room bytes where
  eq_window := by
    have hle := h.length_le
    rw [Bytes.window_take, Nat.min_eq_left (by omega)]
    exact h.eq_window
  length_le := Nat.le_trans h.length_le (Nat.min_le_left _ _)
  ne_nil hroom hlt := by
    rw [List.length_take] at hlt
    exact h.ne_nil (by omega) (by omega)

end Delivers

/-! ## Layers that let quiet requests through -/

section

variable {ω σ : Type} [ByteStream ω σ]

theorem ReadOnly.conducts (ownership : Ownership) :
    ByteStream.Conducts ω fun stream : σ => (⟨⟨.live stream, ownership⟩⟩ : ReadOnly σ) := by
  intro request hquiet
  refine (Passthrough.conducts ownership request hquiet).trans ?_
  cases request with
  | setLength | write | writeByte | dispose => cases hquiet
  | _ => exact fun _ _ => rfl

theorem Window.conducts_unwrapped :
    ByteStream.Conducts ω (Window.unwrapped : σ → Window σ) := fun _ _ _ _ => rfl

theorem Window.conducts_rebased :
    ByteStream.Conducts ω (Window.rebased : Rebased σ → Window σ) := fun _ _ _ _ => rfl

theorem Window.conducts_truncated :
    ByteStream.Conducts ω (Window.truncated : Truncated σ → Window σ) := fun _ _ _ _ => rfl

theorem Window.conducts_rebasedTruncated :
    ByteStream.Conducts ω (Window.rebasedTruncated : Truncated (Rebased σ) → Window σ) :=
  fun _ _ _ _ => rfl

end

theorem View.conducted {ω σ τ : Type} [Cancellation ω] [ByteStream ω σ] [ByteStream ω τ]
    {content : Bytes} {size : Nat} {stands : σ × ω → Nat → Prop} (view : View content size stands)
    {f : σ → τ} (hf : ByteStream.Conducts ω f) :
    View content size fun (s : τ × ω) q => StreamM.Held f (stands · q) s where
  toLocated := view.toLocated.conducted hf
  granted h request hquiet :=
    ((hf request hquiet).ends h fun _ ht => view.granted ht request hquiet).mono
      (fun _ _ h => h) fun _ _ _ => trivial

/-- A request that is declined is not granted, and changes nothing. -/
theorem Passthrough.ends_decline {ω σ α : Type} (request : Request) (s : Passthrough σ × ω) :
    (decline request : StreamM ω (Passthrough σ) α).Ends s (fun _ _ => False)
      fun _ s' => s' = s := by
  refine StreamM.ends_state_bind ?_
  split
  · exact rfl
  · exact rfl

/-! ## Rebased layers -/

namespace Rebased

variable {ω σ α : Type} {content : Bytes} {size : Nat} {stands : σ × ω → Nat → Prop}
  {origin : Nat} {ownership : Ownership} {s : Rebased σ × ω} {p : Nat}

/-- An open layer with a given origin over a stream that stands at `place`. -/
def Below (origin : Nat) (ownership : Ownership) (stands : σ × ω → Nat → Prop)
    (s : Rebased σ × ω) (place : Nat) : Prop :=
  s.1.baseOffset = origin ∧ Passthrough.Stands ownership stands (s.1.base, s.2) place

/-- An open layer with a given origin that stands at `p`, counted from there. -/
def Stands (origin : Nat) (ownership : Ownership) (stands : σ × ω → Nat → Prop)
    (s : Rebased σ × ω) (p : Nat) : Prop :=
  Below origin ownership stands s (origin + p)

/-- What is done on the part is carried by the layer. -/
theorem carries_base (start : Nat) (act : StreamM ω (Passthrough σ) α) :
    StreamM.Carries (fun base => (⟨base, start⟩ : Rebased σ)) act (onBase act) := fun _ _ => rfl

theorem ends_onBase (h : s.1.baseOffset = origin) {act : StreamM ω (Passthrough σ) α}
    {good : α → Passthrough σ × ω → Prop} {bad : StreamError → Passthrough σ × ω → Prop}
    (hact : act.Ends (s.1.base, s.2) good bad) :
    (onBase act).Ends s (fun value s' => s'.1.baseOffset = origin ∧ good value (s'.1.base, s'.2))
      (fun e s' => s'.1.baseOffset = origin ∧ bad e (s'.1.base, s'.2)) := by
  unfold onBase
  refine StreamM.Ends.within_keeping (fun layer : Rebased σ => layer.baseOffset = origin)
    ?_ ?_ h hact
  · intro _ _; rfl
  · intro _ _ hrest; exact hrest

theorem ends_toBase (h : s.1.baseOffset = origin) (position : Nat) :
    (toBase position).Ends s (fun place s' => place = position + origin ∧ s' = s)
      fun _ s' => maxWord < position + origin ∧ s' = s := by
  refine StreamM.ends_state_bind ?_
  dsimp only
  rw [h]
  split
  · exact ⟨rfl, rfl⟩
  · rename_i hgt
    exact ⟨Nat.lt_of_not_le hgt, rfl⟩

theorem ends_fromBase (h : s.1.baseOffset = origin) (place : Nat) :
    (fromBase place).Ends s (fun position s' => origin + position = place ∧ s' = s)
      fun _ s' => place < origin ∧ s' = s := by
  refine StreamM.ends_state_bind ?_
  dsimp only
  rw [h]
  split
  · rename_i hle
    exact ⟨by omega, rfl⟩
  · rename_i hgt
    exact ⟨Nat.lt_of_not_le hgt, rfl⟩

theorem ends_targetBelow_fromStart [ByteStream ω σ] (h : s.1.baseOffset = origin)
    (target : Nat) :
    (targetBelow (.fromStart target)).Ends s
      (fun below s' => below = .fromStart (target + origin) ∧ s' = s)
      fun _ s' => maxWord < target + origin ∧ s' = s := by
  refine (ends_toBase h target).bind ?_
  intro place _ hout
  obtain ⟨rfl, rfl⟩ := hout
  exact StreamM.ends_pure ⟨rfl, rfl⟩

theorem ends_ensureFromOrigin (h : s.1.baseOffset = origin) (place : Int) :
    (ensureFromOrigin place).Ends s (fun _ s' => (origin : Int) ≤ place ∧ s' = s)
      fun e s' => place < origin ∧ e = .refusal (.invalidSeek (place - origin)) ∧ s' = s := by
  refine StreamM.ends_state_bind ?_
  dsimp only
  rw [h]
  split
  · rename_i hlt
    exact ⟨hlt, rfl, rfl⟩
  · rename_i hge
    exact ⟨Int.not_lt.mp hge, rfl⟩

/-! The same of a layer that is written out. -/

section

variable {base : Passthrough σ} {start : Nat} {w : ω}

theorem ends_toBase_mk (position : Nat) :
    (toBase position : StreamM ω (Rebased σ) Nat).Ends (⟨base, start⟩, w)
      (fun place s' => place = position + start ∧ s' = (⟨base, start⟩, w))
      fun _ s' => maxWord < position + start ∧ s' = (⟨base, start⟩, w) :=
  ends_toBase rfl position

theorem ends_fromBase_mk (place : Nat) :
    (fromBase place : StreamM ω (Rebased σ) Nat).Ends (⟨base, start⟩, w)
      (fun position s' => start + position = place ∧ s' = (⟨base, start⟩, w))
      fun _ s' => place < start ∧ s' = (⟨base, start⟩, w) :=
  ends_fromBase rfl place

theorem ends_ensureFromOrigin_mk (place : Int) :
    (ensureFromOrigin place : StreamM ω (Rebased σ) Unit).Ends (⟨base, start⟩, w)
      (fun _ s' => (start : Int) ≤ place ∧ s' = (⟨base, start⟩, w))
      fun _ s' => place < start ∧ s' = (⟨base, start⟩, w) := by
  apply (ends_ensureFromOrigin rfl place).mono
  · intro _ _ hout
    exact hout
  · intro _ _ hout
    exact ⟨hout.1, hout.2.2⟩

end

variable [Cancellation ω] [ByteStream ω σ]

/-- What the stream below grants leaves it where the answer says. -/
theorem ends_granted (view : View content size stands) {place : Nat}
    (h : Below origin ownership stands s place) (request : Request)
    (hquiet : request.isQuiet = true) :
    (onBase (ByteStream.perform request) : StreamM ω (Rebased σ) request.Answer).Ends s
      (fun answer s' => Below origin ownership stands s' (request.landing answer place))
      fun _ _ => True := by
  have base := view.conducted (Passthrough.conducts ownership)
  exact (ends_onBase h.1 (base.granted h.2 request hquiet)).of_value

/-- Whatever is asked of the stream below to place a seek, it stays where it stands. -/
theorem ends_targetBelow (view : View content size stands)
    (h : Stands origin ownership stands s p) (target : SeekTarget) :
    (targetBelow target).Ends s (fun _ s' => Stands origin ownership stands s' p)
      fun _ _ => True := by
  cases target with
  | fromStart offset =>
    refine (ends_toBase h.1 offset).of_value.bind ?_
    intro place _ hout
    obtain ⟨-, rfl⟩ := hout
    exact StreamM.ends_pure h
  | fromCurrent offset =>
    refine (ends_granted view h .position rfl).bind ?_
    rintro place s₁ h₁
    refine (ends_ensureFromOrigin h₁.1 _).of_value.bind ?_
    rintro _ _ ⟨-, rfl⟩
    exact StreamM.ends_pure h₁
  | fromEnd offset =>
    refine (ends_granted view h .length rfl).bind ?_
    rintro reach s₁ h₁
    refine (ends_ensureFromOrigin h₁.1 _).of_value.bind ?_
    rintro _ _ ⟨-, rfl⟩
    exact StreamM.ends_pure h₁

/-- What is granted leaves the layer where its answer says. -/
theorem ends_perform (view : View content size stands)
    (h : Stands origin ownership stands s p) (request : Request) (hquiet : request.isQuiet = true) :
    (ByteStream.perform request : StreamM ω (Rebased σ) request.Answer).Ends s
      (fun answer s' => Stands origin ownership stands s' (request.landing answer p))
      fun _ _ => True := by
  cases request with
  | setPosition target =>
    refine (ends_toBase h.1 target).of_value.bind ?_
    intro _ _ hout
    obtain ⟨rfl, rfl⟩ := hout
    refine (ends_granted view h (.setPosition _) rfl).mono ?_ fun _ _ h => h
    intro _ s' hs'
    rw [Request.landing, Nat.add_comm] at hs'
    exact hs'
  | seek target =>
    refine (ends_targetBelow view h target).bind ?_
    intro below s₁ h₁
    refine (ends_granted view h₁ (.seek below) rfl).bind ?_
    intro place s₂ h₂
    refine (ends_fromBase h₂.1 place).mono ?_ fun _ _ _ => trivial
    intro position _ hout
    obtain ⟨hposition, rfl⟩ := hout
    rw [Request.landing, ← hposition] at h₂
    exact h₂
  | position =>
    refine (ends_granted view h .position rfl).bind ?_
    intro place s₁ h₁
    refine (ends_fromBase h₁.1 place).mono ?_ fun _ _ _ => trivial
    intro position _ hout
    obtain ⟨-, rfl⟩ := hout
    exact h₁
  | length =>
    refine (ends_granted view h .length rfl).bind ?_
    intro reach s₁ h₁
    exact StreamM.ends_state_bind (StreamM.ends_pure h₁)
  | read mode room =>
    refine (ends_granted view h (.read mode room) rfl).mono ?_ fun _ _ h => h
    intro bytes s' hs'
    rw [Request.landing, Nat.add_assoc] at hs'
    exact hs'
  | readByte =>
    refine (ends_granted view h .readByte rfl).mono ?_ fun _ _ h => h
    intro byte s' hs'
    rw [Request.landing, Nat.add_assoc] at hs'
    exact hs'
  | flush mode => exact ends_granted view h (.flush mode) rfl
  | timeout direction => exact ends_granted view h (.timeout direction) rfl
  | setTimeout direction limit =>
    exact ends_granted view h (.setTimeout direction limit) rfl
  | setLength | write | writeByte | dispose => cases hquiet

end Rebased

variable {ω σ : Type} [Cancellation ω] [ByteStream ω σ] {content : Bytes} {size : Nat}
  {stands : σ × ω → Nat → Prop}

/-- **A rebased layer shows what lies behind its origin.** -/
theorem View.rebased (view : View content size stands) (origin : Nat) (ownership : Ownership) :
    View (content.drop origin) (size - origin) (Rebased.Stands origin ownership stands) where
  size_le := by
    rw [List.length_drop]
    exact Nat.sub_le_sub_right view.size_le origin
  fits := by
    rw [List.length_drop]
    exact Nat.le_trans (Nat.sub_le _ _) view.fits
  read {s p} h mode room := by
    have base := view.toLocated.passthrough ownership
    refine (Rebased.ends_onBase h.1 (base.read h.2 mode room)).mono ?_ ?_
    · intro bytes s' hout
      obtain ⟨horigin, hdelivers, hstands⟩ := hout
      refine ⟨hdelivers.drop, horigin, ?_⟩
      rw [← Nat.add_assoc]; exact hstands
    · intro e s' hout
      obtain ⟨horigin, hexcuse, hstands⟩ := hout
      exact ⟨hexcuse, horigin, hstands⟩
  position {s p} h := by
    have base := view.toLocated.passthrough ownership
    refine ((Rebased.ends_onBase h.1 (base.ends_position h.2)).mono (fun _ _ h => h)
      fun _ _ h => h.2.elim).bind ?_
    intro place s' hout
    obtain ⟨horigin, rfl, hstands⟩ := hout
    refine (Rebased.ends_fromBase horigin _).mono ?_ ?_
    · intro position _ hout
      obtain ⟨hposition, rfl⟩ := hout
      exact ⟨p, ⟨Nat.add_left_cancel hposition, rfl⟩, horigin, hstands⟩
    · intro e _ hout
      obtain ⟨hlt, -⟩ := hout
      omega
  length {s p} h := by
    have base := view.toLocated.passthrough ownership
    refine ((Rebased.ends_onBase h.1 (base.ends_length h.2)).mono (fun _ _ h => h)
      fun _ _ h => h.2.elim).bind ?_
    intro reach s' hout
    obtain ⟨horigin, rfl, hstands⟩ := hout
    refine StreamM.ends_state_bind ⟨p, ⟨?_, rfl⟩, horigin, hstands⟩
    rw [horigin]
  seekStart {s p} h target htarget := by
    have base := view.toLocated.passthrough ownership
    rw [List.length_drop] at htarget
    refine ((Rebased.ends_targetBelow_fromStart h.1 target).mono (fun _ _ h => h) ?_).bind ?_
    · intro e _ hout
      obtain ⟨hword, rfl⟩ := hout
      have hfits := view.fits
      unfold maxPosition at hfits
      unfold maxWord at hword
      omega
    intro _ _ hout
    obtain ⟨rfl, rfl⟩ := hout
    refine ((Rebased.ends_onBase h.1 (base.ends_seekStart h.2 (by omega))).mono (fun _ _ h => h)
      fun _ _ h => h.2.elim).bind ?_
    intro place s' hout
    obtain ⟨horigin, rfl, hstands⟩ := hout
    refine (Rebased.ends_fromBase horigin _).mono ?_ ?_
    · intro position _ hout
      obtain ⟨hposition, rfl⟩ := hout
      have : position = target := by omega
      subst this
      exact ⟨position, ⟨rfl, rfl⟩, horigin, hposition ▸ hstands⟩
    · intro e _ hout
      obtain ⟨hlt, -⟩ := hout
      omega
  granted h request hquiet := Rebased.ends_perform view h request hquiet

/-- A rebased layer that was just made stands at its origin. -/
theorem Rebased.ends_wrap (view : View content size stands) {s : σ × ω} {p : Nat} (h : stands s p)
    (ownership : Ownership) :
    (Rebased.wrap ownership : StreamM ω σ (Rebased σ)).Ends s
      (fun layer s' => Rebased.Stands p ownership stands (layer, s'.2) 0) fun _ _ => False := by
  refine (view.ends_position h).bind ?_
  intro place s' hout
  obtain ⟨rfl, hstands⟩ := hout
  exact StreamM.ends_state_bind (StreamM.ends_pure ⟨rfl, s'.1, rfl, hstands⟩)

/-! ## Truncated layers -/

namespace Truncated

variable {α : Type} {origin maxLength cursor : Nat} {ownership : Ownership} {s : Truncated σ × ω}
  {p : Nat}

/-- An open layer with given origin, length and cursor over a stream that stands at `place`. -/
def Below (origin maxLength cursor : Nat) (ownership : Ownership) (stands : σ × ω → Nat → Prop)
    (s : Truncated σ × ω) (place : Nat) : Prop :=
  (s.1.origin = origin ∧ s.1.maxLength = maxLength ∧ s.1.cursor = cursor) ∧
    Passthrough.Stands ownership stands (s.1.base, s.2) place

/-- An open layer with given origin and length, whose cursor is where the stream below stands. -/
def Stands (origin maxLength : Nat) (ownership : Ownership) (stands : σ × ω → Nat → Prop)
    (s : Truncated σ × ω) (p : Nat) : Prop :=
  Below origin maxLength p ownership stands s p

omit [Cancellation ω] [ByteStream ω σ] in
theorem ends_onBase (h : s.1.origin = origin ∧ s.1.maxLength = maxLength ∧ s.1.cursor = cursor)
    {act : StreamM ω (Passthrough σ) α} {good : α → Passthrough σ × ω → Prop}
    {bad : StreamError → Passthrough σ × ω → Prop} (hact : act.Ends (s.1.base, s.2) good bad) :
    (onBase act).Ends s
      (fun value s' => (s'.1.origin = origin ∧ s'.1.maxLength = maxLength ∧ s'.1.cursor = cursor) ∧
        good value (s'.1.base, s'.2))
      (fun e s' => (s'.1.origin = origin ∧ s'.1.maxLength = maxLength ∧ s'.1.cursor = cursor) ∧
        bad e (s'.1.base, s'.2)) := by
  unfold onBase
  refine StreamM.Ends.within_keeping (fun layer : Truncated σ =>
    layer.origin = origin ∧ layer.maxLength = maxLength ∧ layer.cursor = cursor) ?_ ?_ h hact
  · intro _ _; rfl
  · intro _ _ hrest; exact hrest

/-- What the stream below grants leaves it where the answer says. -/
theorem ends_granted (view : View content size stands) {place : Nat}
    (h : Below origin maxLength cursor ownership stands s place) (request : Request)
    (hquiet : request.isQuiet = true) :
    (onBase (ByteStream.perform request) : StreamM ω (Truncated σ) request.Answer).Ends s
      (fun answer s' =>
        Below origin maxLength cursor ownership stands s' (request.landing answer place))
      fun _ _ => True := by
  have base := view.conducted (Passthrough.conducts ownership)
  exact (ends_onBase h.1 (base.granted h.2 request hquiet)).of_value

omit [Cancellation ω] [ByteStream ω σ] in
theorem onBase_ensureOpen {place : Nat}
    (h : Below origin maxLength cursor ownership stands s place) :
    (onBase Passthrough.ensureOpen : StreamM ω (Truncated σ) Unit) s = .ok () s := by
  unfold onBase StreamM.within
  rw [Passthrough.ensureOpen_of_held h.2]

theorem ends_visibleLength (view : View content size stands)
    (h : Stands origin maxLength ownership stands s p) :
    (visibleLength : StreamM ω (Truncated σ) Nat).Ends s
      (fun visible s' => visible = min maxLength (size - origin) ∧
        Stands origin maxLength ownership stands s' p) fun _ _ => False := by
  have base := view.toLocated.passthrough ownership
  refine ((ends_onBase h.1 (base.ends_length h.2)).mono (fun _ _ h => h) fun _ _ h => h.2).bind ?_
  intro reach s' hout
  obtain ⟨hfields, rfl, hstands⟩ := hout
  refine StreamM.ends_state_bind (StreamM.ends_pure ⟨?_, hfields, hstands⟩)
  rw [hfields.1, hfields.2.1]

/-- Whatever is asked of the stream below to place a seek, it stays where it stands. -/
theorem ends_targetBelow (view : View content size stands)
    (h : Stands origin maxLength ownership stands s p) (target : SeekTarget) :
    (targetBelow target).Ends s (fun _ s' => Stands origin maxLength ownership stands s' p)
      fun _ _ => True := by
  cases target with
  | fromStart offset => exact StreamM.ends_pure h
  | fromCurrent offset => exact StreamM.ends_pure h
  | fromEnd offset =>
    refine (ends_visibleLength view h).of_never.bind ?_
    intro visible s₁ hout
    obtain ⟨-, h₁⟩ := hout
    cases hplace : (SeekTarget.fromEnd offset).resolve 0 visible with
    | error cause => exact trivial
    | ok place => exact h₁

/-- What is granted leaves the layer, and its cursor, where the answer says. -/
theorem ends_perform (view : View content size stands)
    (h : Stands origin maxLength ownership stands s p) (request : Request)
    (hquiet : request.isQuiet = true) :
    (ByteStream.perform request : StreamM ω (Truncated σ) request.Answer).Ends s
      (fun answer s' => Stands origin maxLength ownership stands s' (request.landing answer p))
      fun _ _ => True := by
  cases request with
  | setPosition target =>
    refine (ends_granted view h (.setPosition target) rfl).bind ?_
    intro _ s' hout
    obtain ⟨⟨horigin, hmaxLength, -⟩, hstands⟩ := hout
    exact StreamM.ends_update ⟨⟨horigin, hmaxLength, rfl⟩, hstands⟩
  | seek target =>
    refine (ends_targetBelow view h target).bind ?_
    intro below s₁ h₁
    refine (ends_granted view h₁ (.seek below) rfl).bind ?_
    intro place s₂ hout
    obtain ⟨⟨horigin, hmaxLength, -⟩, hstands⟩ := hout
    refine StreamM.ends_update_bind (StreamM.ends_pure ?_)
    exact ⟨⟨horigin, hmaxLength, rfl⟩, hstands⟩
  | position => exact ends_granted view h .position rfl
  | length =>
    exact (ends_visibleLength view h).mono (fun _ _ h => h.2) fun _ _ _ => trivial
  | read mode room =>
    show StreamM.Ends (Truncated.read mode room) s _ _
    unfold Truncated.read
    refine StreamM.ends_state_bind ?_
    refine (ends_granted view h (.read mode _) rfl).bind ?_
    intro bytes s' hout
    obtain ⟨⟨horigin, hmaxLength, rfl⟩, hstands⟩ := hout
    refine StreamM.ends_update_bind (StreamM.ends_pure ?_)
    exact ⟨⟨horigin, hmaxLength, rfl⟩, hstands⟩
  | readByte =>
    show StreamM.Ends Truncated.readByte s _ _
    unfold Truncated.readByte
    refine StreamM.ends_bind_of_eq_ok (onBase_ensureOpen h) ?_
    refine StreamM.ends_state_bind ?_
    split
    · exact StreamM.ends_pure h
    refine (ends_granted view h .readByte rfl).bind ?_
    intro byte s' hout
    obtain ⟨⟨horigin, hmaxLength, rfl⟩, hstands⟩ := hout
    cases byte with
    | none => exact StreamM.ends_pure ⟨⟨horigin, hmaxLength, rfl⟩, hstands⟩
    | some byte =>
      refine StreamM.ends_update_bind (StreamM.ends_pure ?_)
      exact ⟨⟨horigin, hmaxLength, rfl⟩, hstands⟩
  | flush mode =>
    refine (ends_onBase h.1 (Passthrough.ends_decline (.flush mode) _)).mono ?_
      fun _ _ _ => trivial
    intro _ s' hout
    obtain ⟨-, hfalse⟩ := hout
    exact hfalse.elim
  | timeout direction => exact ends_granted view h (.timeout direction) rfl
  | setTimeout direction limit =>
    exact ends_granted view h (.setTimeout direction limit) rfl
  | setLength | write | writeByte | dispose => cases hquiet

end Truncated

/-- **A truncated layer shows what lies before its boundary**, in the positions of the stream below.
The length it reports counts from its origin. -/
theorem View.truncated (view : View content size stands) (origin : Nat) {maxLength : Nat}
    (hmax : maxLength ≤ maxPosition) (ownership : Ownership) :
    View (content.take (saturatingAdd origin maxLength)) (min maxLength (size - origin))
      (Truncated.Stands origin maxLength ownership stands) where
  size_le := by
    have hsize := view.size_le
    rw [List.length_take]
    unfold saturatingAdd maxWord
    unfold maxPosition at hmax
    omega
  fits := by
    have hfits := view.fits
    rw [List.length_take]
    omega
  read {s p} h mode room := by
    have base := view.toLocated.passthrough ownership
    show (Truncated.read mode room).Ends s _ _
    unfold Truncated.read
    refine StreamM.ends_state_bind ?_
    have hremaining : s.1.remaining = saturatingAdd origin maxLength - p := by
      unfold Truncated.remaining Truncated.boundary
      rw [h.1.1, h.1.2.1, h.1.2.2]
    rw [hremaining]
    refine ((Truncated.ends_onBase h.1 (base.read h.2 mode _)).mono (fun _ _ h => h) ?_).bind ?_
    · intro e s' hout
      obtain ⟨hfields, hexcuse, hstands⟩ := hout
      exact ⟨hexcuse, hfields, hstands⟩
    intro bytes s' hout
    obtain ⟨⟨horigin, hmaxLength, rfl⟩, hdelivers, hstands⟩ := hout
    refine StreamM.ends_update_bind (StreamM.ends_pure ⟨hdelivers.take, ?_, hstands⟩)
    exact ⟨horigin, hmaxLength, rfl⟩
  position {s p} h := by
    have base := view.toLocated.passthrough ownership
    refine (Truncated.ends_onBase h.1 (base.ends_position h.2)).mono ?_ fun _ _ h => h.2.elim
    intro place s' hout
    obtain ⟨hfields, hplace, hstands⟩ := hout
    exact ⟨p, ⟨hplace, rfl⟩, hfields, hstands⟩
  length {s p} h := by
    refine (Truncated.ends_visibleLength view h).mono ?_ fun _ _ h => h.elim
    intro visible s' hout
    obtain ⟨hvisible, hstands⟩ := hout
    exact ⟨p, ⟨hvisible, rfl⟩, hstands⟩
  seekStart {s p} h target htarget := by
    have base := view.toLocated.passthrough ownership
    rw [List.length_take] at htarget
    have hreach : target < content.length := by omega
    refine ((Truncated.ends_onBase h.1 (base.ends_seekStart h.2 hreach)).mono (fun _ _ h => h)
      fun _ _ h => h.2.elim).bind ?_
    intro place s' hout
    obtain ⟨⟨horigin, hmaxLength, -⟩, rfl, hstands⟩ := hout
    refine StreamM.ends_update_bind (StreamM.ends_pure ⟨_, ⟨rfl, rfl⟩, ?_, hstands⟩)
    exact ⟨horigin, hmaxLength, rfl⟩
  granted h request hquiet := Truncated.ends_perform view h request hquiet

theorem Truncated.ends_wrap (view : View content size stands) {s : σ × ω} {p : Nat}
    (h : stands s p) (maxLength : Nat) (ownership : Ownership) :
    (Truncated.wrap maxLength ownership : StreamM ω σ (Truncated σ)).Ends s
      (fun layer s' => maxLength ≤ maxPosition ∧
        Truncated.Stands p maxLength ownership stands (layer, s'.2) p) fun _ _ => True := by
  unfold Truncated.wrap
  split
  · exact trivial
  rename_i hle
  refine (view.ends_position h).of_never.bind ?_
  intro place s' hout
  obtain ⟨rfl, hstands⟩ := hout
  refine StreamM.ends_state_bind (StreamM.ends_pure ⟨Nat.le_of_not_lt hle, ?_⟩)
  exact ⟨⟨rfl, rfl, rfl⟩, s'.1, rfl, hstands⟩

/-! ## Windows and stacks -/

/-- A stream that stands somewhere in a view; one that is `whole` reports the length of what it
shows. -/
def Viewed (whole : Prop) (s : σ × ω) : Prop :=
  ∃ content size stands p, View content size stands ∧ stands s p ∧ (whole → size = content.length)

namespace Viewed

variable {whole : Prop} {s : σ × ω}

theorem rebased (h : Viewed whole s) (ownership : Ownership) :
    (Rebased.wrap ownership : StreamM ω σ (Rebased σ)).Ends s
      (fun layer s' => Viewed whole (layer, s'.2)) fun _ _ => False := by
  obtain ⟨content, size, stands, p, view, hstands, hsize⟩ := h
  refine (Rebased.ends_wrap view hstands ownership).mono ?_ fun _ _ h => h
  intro layer s' hlayer
  refine ⟨_, _, _, 0, view.rebased p ownership, hlayer, fun hwhole => ?_⟩
  rw [List.length_drop, hsize hwhole]

theorem truncated (h : Viewed whole s) (maxLength : Nat) (ownership : Ownership) :
    (Truncated.wrap maxLength ownership : StreamM ω σ (Truncated σ)).Ends s
      (fun layer s' => Viewed False (layer, s'.2)) fun _ _ => True := by
  obtain ⟨content, size, stands, p, view, hstands, -⟩ := h
  refine (Truncated.ends_wrap view hstands maxLength ownership).mono ?_ fun _ _ h => h
  intro layer s' hout
  obtain ⟨hmax, hlayer⟩ := hout
  exact ⟨_, _, _, p, view.truncated p hmax ownership, hlayer, False.elim⟩

/-- A stream that is embedded so that quiet requests get through is viewed as before. -/
theorem conducted {τ : Type} [ByteStream ω τ] {f : σ → τ} (h : Viewed whole s)
    (hf : ByteStream.Conducts ω f) : Viewed whole (f s.1, s.2) := by
  obtain ⟨content, size, stands, p, view, hstands, hsize⟩ := h
  exact ⟨content, size, _, p, view.conducted hf, ⟨s.1, rfl, hstands⟩, hsize⟩

theorem granted (h : Viewed whole s) (request : Request) (hquiet : request.isQuiet = true) :
    (ByteStream.perform request : StreamM ω σ request.Answer).Ends s
      (fun _ s' => Viewed whole s') fun _ _ => True := by
  obtain ⟨content, size, stands, p, view, hstands, hsize⟩ := h
  exact (view.granted hstands request hquiet).mono
    (fun _ _ hs' => ⟨content, size, stands, _, view, hs', hsize⟩) fun _ _ h => h

theorem mono {whole' : Prop} (h : Viewed whole s) (himp : whole' → whole) : Viewed whole' s := by
  obtain ⟨content, size, stands, p, view, hstands, hsize⟩ := h
  exact ⟨content, size, stands, p, view, hstands, fun hwhole => hsize (himp hwhole)⟩

theorem ends_truncate {layer : Rebased σ} (h : Viewed whole (layer, s.2)) (size : Nat) :
    (Window.truncate layer size : StreamM ω σ (Truncated (Rebased σ))).Ends s
      (fun layer' s' => Viewed False (layer', s'.2)) fun _ _ => True := by
  unfold Window.truncate
  refine StreamM.Ends.mono (StreamM.Ends.within (h.truncated size .owns)) ?_ fun _ _ _ => trivial
  intro layer' s' hout
  obtain ⟨part, hlayer', -⟩ := hout
  exact hlayer'

theorem window (h : Viewed whole s) (offset : Nat) (size : Option Nat) (ownership : Ownership) :
    (Window.ofPart offset size ownership : StreamM ω σ (Window σ)).Ends s
      (fun window s' => Viewed False (window, s'.2)) fun _ _ => True := by
  cases offset with
  | zero =>
    cases size with
    | none =>
      have hwindow := (h.mono False.elim).conducted Window.conducts_unwrapped
      exact StreamM.ends_state_bind (StreamM.ends_pure hwindow)
    | some size =>
      refine (h.truncated size ownership).bind ?_
      intro layer s' hlayer
      exact StreamM.ends_pure (hlayer.conducted Window.conducts_truncated)
  | succ offset =>
    refine (h.granted (.seek (.fromStart (offset + 1))) rfl).bind ?_
    intro place s₁ h₁
    refine ((h₁.rebased ownership).mono (fun _ _ h => h) fun _ _ h => h.elim).bind ?_
    intro layer s₂ hlayer
    cases size with
    | none =>
      exact StreamM.ends_pure ((hlayer.mono False.elim).conducted Window.conducts_rebased)
    | some size =>
      refine (ends_truncate hlayer size).bind ?_
      intro layer' s₃ hlayer'
      exact StreamM.ends_pure (hlayer'.conducted Window.conducts_rebasedTruncated)

end Viewed

/-- A layer that is no cache, put over a viewed stream, is viewed. -/
theorem Wrapping.ends_wrap {whole : Prop} {s : σ × ω} (h : Viewed whole s)
    (wrapping : Wrapping) (hcached : wrapping.kind ≠ .cached) :
    (wrapping.wrap : StreamM ω σ (wrapping.kind.Over σ)).Ends s
      (fun layer s' =>
        Viewed (whole ∧ wrapping.kind ≠ .truncated ∧ wrapping.kind ≠ .window) (layer, s'.2))
      fun _ _ => True := by
  cases wrapping with
  | passthrough ownership =>
    have hlayer := h.conducted (Passthrough.conducts ownership)
    exact StreamM.ends_state_bind (StreamM.ends_pure (hlayer.mono And.left))
  | rebased ownership =>
    exact (h.rebased ownership).mono (fun _ _ hlayer => hlayer.mono And.left) fun _ _ h => h.elim
  | truncated maxLength ownership =>
    refine (h.truncated maxLength ownership).mono (fun _ _ hlayer => hlayer.mono ?_) fun _ _ h => h
    rintro ⟨-, htruncated, -⟩
    exact htruncated rfl
  | readOnly =>
    have hlayer := h.conducted (ReadOnly.conducts .borrows)
    exact StreamM.ends_state_bind (StreamM.ends_pure (hlayer.mono And.left))
  | cached ownership => exact absurd rfl hcached
  | window offset size ownership =>
    refine (h.window offset size ownership).mono (fun _ _ hlayer => hlayer.mono ?_) fun _ _ h => h
    rintro ⟨-, -, hwindow⟩
    exact hwindow rfl

/-- **Every stack without caches is a view**, wherever each of its layers was put over the one
below. Without truncated layers and windows it reports the length of what it shows. -/
theorem Stack.Reached.viewed {β : Type} [ByteStream ω β] {content : Bytes}
    {stands : β × ω → Nat → Prop} (base : View content content.length stands)
    {kinds : List LayerKind} {s : Stack kinds β × ω}
    (h : Stack.Reached .granted (fun s => ∃ p, stands s p) kinds s) (hcached : .cached ∉ kinds) :
    Viewed (.truncated ∉ kinds ∧ .window ∉ kinds) s := by
  have hkeeps : Rules.granted.Keeps fun kinds (s : Stack kinds β × ω) =>
      .cached ∉ kinds → Viewed (.truncated ∉ kinds ∧ .window ∉ kinds) s := {
    ask := fun hviewed ⟨hquiet, hgranted⟩ => StreamM.ends_of_final fun hcached =>
      (((hviewed hcached).granted _ hquiet).of_succeeds hgranted).final
    change := fun _ hpermits => hpermits.elim
    wrap := by
      intro kinds s wrapping hviewed hmade
      obtain ⟨layer, s', heq, -⟩ := hmade.exists_ok
      refine StreamM.ends_of_eq_ok heq fun hcached => ?_
      rw [List.mem_cons, not_or] at hcached
      have hwrapped := Wrapping.ends_wrap (hviewed hcached.2) wrapping (Ne.symm hcached.1)
      refine (hwrapped.of_eq_ok heq).mono ?_
      rintro ⟨htruncated, hwindow⟩
      rw [List.mem_cons, not_or] at htruncated hwindow
      exact ⟨⟨htruncated.2, hwindow.2⟩, Ne.symm htruncated.1, Ne.symm hwindow.1⟩
    unwrap := fun _ hpermits _ => hpermits.elim }
  refine h.keeps hkeeps ?_ hcached
  rintro s ⟨p, hstands⟩ -
  exact ⟨content, content.length, stands, p, base, hstands, fun _ => rfl⟩

end LayeredStreams
