import LayeredStreams.Proofs.Preserved
import LayeredStreams.Proofs.View

/-!
# Bounded streams

A layer over a stream may lie over other layers, each with an origin and perhaps a boundary of its
own. What it does is told here of the base below all of them: of the content and the cursor of the
base, the place of the base that counts as zero, and the places of the base at which layers end.

* `Bytes.limit bounds content` — where reading ends: at the least of the bounds and the length.
* `Bounded origin bounds stands` — a stream that counts positions from the place `origin` of its
  base and reads to the limit and no further. `stands content s q` says that in the state `s` the
  base holds `content` and its cursor is at `q`.
* `Enduring origin bounds stands` — a bounded stream that is one still after every change that is
  asked of it.

Principal results: `Enduring.rebased` (a rebased layer moves the origin and keeps the bounds),
`Truncated.ends_read` (what a truncated layer reads, whatever it believes of the cursor) and
`Bounded.truncated` (a truncated layer that knows the cursor adds its boundary to the bounds).
-/

set_option autoImplicit false

namespace LayeredStreams

namespace Bytes

/-- Where reading ends: at the least of the bounds and the length. -/
def limit (bounds : List Nat) (content : Bytes) : Nat := bounds.foldr min content.length

theorem limit_cons (bound : Nat) (bounds : List Nat) (content : Bytes) :
    content.limit (bound :: bounds) = min bound (content.limit bounds) := rfl

/-- Without bounds, reading ends with the content. -/
@[simp] theorem take_limit_nil (content : Bytes) : content.take (content.limit []) = content :=
  List.take_length

theorem limit_le_length (bounds : List Nat) (content : Bytes) :
    content.limit bounds ≤ content.length := by
  induction bounds with
  | nil => exact Nat.le_refl _
  | cons bound bounds ih =>
    rw [limit_cons]
    omega

theorem take_limit_saturating {content : Bytes} (hfits : content.length ≤ maxWord)
    (bounds : List Nat) (origin start count : Nat) :
    (content.take (content.limit bounds)).take (origin + saturatingAdd start count) =
      content.take (content.limit ((origin + (start + count)) :: bounds)) := by
  have hle := limit_le_length bounds content
  rw [limit_cons, List.take_take]
  unfold saturatingAdd
  congr 1
  omega

end Bytes

/-- Whether a request neither moves the cursor nor changes the content. -/
def Request.isIdle : Request → Bool
  | length | flush _ | timeout _ | setTimeout _ _ => true
  | _ => false

theorem Request.isQuiet_of_isIdle {request : Request} (h : request.isIdle = true) :
    request.isQuiet = true := by
  cases request <;> first | rfl | cases h

namespace SeekTarget

/-- What is known of the place to which a seek leads a stream that counts from the place `origin` of
its base, where the cursor of the base was at `q`. -/
def LeadsTo (origin q place : Nat) : SeekTarget → Prop
  | fromStart offset => place = offset
  | fromCurrent offset => ((origin + place : Nat) : Int) = q + offset
  | fromEnd _ => True

/-- Where a seek that failed may have left the cursor of the base: a layer finds out only afterwards
that a place counted from the end lies before its origin. -/
def StraysTo (q q' : Nat) : SeekTarget → Prop
  | fromEnd _ => True
  | _ => q' = q

theorem straysTo_self (target : SeekTarget) (q : Nat) : target.StraysTo q q := by
  cases target with
  | fromEnd => exact trivial
  | fromStart | fromCurrent => exact rfl

/-- A base goes to the place that its seek target stands for. -/
theorem leadsTo_of_resolve {target : SeekTarget} {q size place : Nat}
    (h : target.resolve q size = .ok place) : target.LeadsTo 0 q place := by
  obtain ⟨hplace, -⟩ := resolve_eq_ok_iff.mp h
  cases target with
  | fromStart offset => exact (Int.ofNat.inj hplace).symm
  | fromCurrent offset =>
    show ((0 + place : Nat) : Int) = q + offset
    rw [Nat.zero_add]
    exact hplace.symm
  | fromEnd offset => exact trivial

end SeekTarget

section

variable {ω σ : Type} [Cancellation ω] [ByteStream ω σ]

/-- A stream that counts positions from a place of its base, and whose reads end at the least of
some bounds and the length of the base. Only a read that is called off may fail. -/
structure Bounded (origin : Nat) (bounds : List Nat) (stands : Bytes → σ × ω → Nat → Prop) :
    Prop where
  fits : ∀ {content : Bytes} {s : σ × ω} {q : Nat}, stands content s q → content.length ≤ maxWord
  position : ∀ {content : Bytes} {s : σ × ω} {q : Nat}, stands content s q →
    (ByteStream.position : StreamM ω σ Nat).Moves (stands content) s
      (fun place q' => origin + place = q ∧ q' = q) fun _ q' => q' = q
  setPosition : ∀ {content : Bytes} {s : σ × ω} {q : Nat}, stands content s q → ∀ target : Nat,
    (ByteStream.setPosition target : StreamM ω σ Unit).Moves (stands content) s
      (fun _ q' => q' = origin + target) fun _ q' => q' = q
  seek : ∀ {content : Bytes} {s : σ × ω} {q : Nat}, stands content s q → ∀ target : SeekTarget,
    (ByteStream.seek target : StreamM ω σ Nat).Moves (stands content) s
      (fun place q' => target.LeadsTo origin q place ∧ q' = origin + place)
      fun _ q' => target.StraysTo q q'
  read : ∀ {content : Bytes} {s : σ × ω} {q : Nat}, stands content s q →
    ∀ (mode : Mode) (room : Nat),
    (ByteStream.read mode room : StreamM ω σ Bytes).Moves (stands content) s
      (fun bytes q' => Delivers (content.take (content.limit bounds)) q room bytes ∧
        q' = q + bytes.length)
      fun _ q' => mode.isCancelled s.2 = true ∧ q' = q
  readByte : ∀ {content : Bytes} {s : σ × ω} {q : Nat}, stands content s q →
    (ByteStream.readByte : StreamM ω σ (Option UInt8)).Moves (stands content) s
      (fun byte q' => byte = (content.take (content.limit bounds))[q]? ∧
        q' = q + byte.toList.length) fun _ _ => False
  idle : ∀ {content : Bytes} {s : σ × ω} {q : Nat}, stands content s q → ∀ request : Request,
    request.isIdle = true →
    (ByteStream.perform request : StreamM ω σ request.Answer).Moves (stands content) s
      (fun _ q' => q' = q) fun _ q' => q' = q

/-- A base in order, told by the functions that give its content and its cursor. -/
def Standing (calm : σ × ω → Prop) (content : σ × ω → Bytes) (cursor : σ × ω → Nat)
    (shown : Bytes) (s : σ × ω) (q : Nat) : Prop :=
  calm s ∧ content s = shown ∧ cursor s = q

/-- A stream whose base holds some content, with its cursor somewhere. -/
def Somewhere (stands : Bytes → σ × ω → Nat → Prop) (s : σ × ω) : Prop :=
  ∃ content q, stands content s q

/-- A bounded stream that is one still after every change that is asked of it. -/
structure Enduring (origin : Nat) (bounds : List Nat) (stands : Bytes → σ × ω → Nat → Prop) :
    Prop extends Bounded origin bounds stands where
  mutating : ∀ request : Request, request.mutates = true →
    StreamM.Keeps (Somewhere stands) (ByteStream.perform request : StreamM ω σ request.Answer)

omit [Cancellation ω] [ByteStream ω σ] in
theorem StreamM.Moves.somewhere {α : Type} {stands : Bytes → σ × ω → Nat → Prop} {content : Bytes}
    {act : StreamM ω σ α} {s : σ × ω} {good : α → Nat → Prop} {bad : StreamError → Nat → Prop}
    (h : act.Moves (stands content) s good bad) :
    act.Ends s (fun _ => Somewhere stands) fun _ => Somewhere stands :=
  Ends.mono h (fun _ _ ⟨q, _, hs⟩ => ⟨content, q, hs⟩) fun _ _ ⟨q, _, hs⟩ => ⟨content, q, hs⟩

variable {origin : Nat} {bounds : List Nat} {stands : Bytes → σ × ω → Nat → Prop}

/-- **Whatever is asked of a stream that is not given up**, its base has a content and a cursor
afterwards. -/
theorem Enduring.preserves (enduring : Enduring origin bounds stands) :
    ByteStream.Preserves ω (Somewhere stands) := by
  intro request hne s hs
  obtain ⟨content, q, h⟩ := hs
  cases request with
  | position => exact (enduring.position h).somewhere
  | setPosition target => exact (enduring.setPosition h target).somewhere
  | seek target => exact (enduring.seek h target).somewhere
  | read mode room => exact (enduring.read h mode room).somewhere
  | readByte => exact (enduring.readByte h).somewhere
  | length => exact (enduring.idle h .length rfl).somewhere
  | flush mode => exact (enduring.idle h (.flush mode) rfl).somewhere
  | timeout direction => exact (enduring.idle h (.timeout direction) rfl).somewhere
  | setTimeout direction limit =>
    exact (enduring.idle h (.setTimeout direction limit) rfl).somewhere
  | setLength size => exact enduring.mutating (.setLength size) rfl s ⟨content, q, h⟩
  | write mode data => exact enduring.mutating (.write mode data) rfl s ⟨content, q, h⟩
  | writeByte byte => exact enduring.mutating (.writeByte byte) rfl s ⟨content, q, h⟩
  | dispose => exact absurd rfl hne

/-! ## Layers that change nothing -/

theorem Bounded.conducted {τ : Type} [ByteStream ω τ] {f : σ → τ}
    (bounded : Bounded origin bounds stands) (hf : ByteStream.Conducts ω f) :
    Bounded origin bounds fun content (s : τ × ω) q =>
      StreamM.Held f (stands content · q) s where
  fits := by
    rintro content s q ⟨part, -, h⟩
    exact bounded.fits h
  position h := (hf .position rfl).moves h fun _ ht => bounded.position ht
  setPosition h target :=
    (hf (.setPosition target) rfl).moves h fun _ ht => bounded.setPosition ht target
  seek h target := (hf (.seek target) rfl).moves h fun _ ht => bounded.seek ht target
  read {content s q} h mode room := by
    obtain ⟨layer, w⟩ := s
    obtain ⟨part, rfl, hpart⟩ := h
    exact (hf (.read mode room) rfl).moves_of (bounded.read hpart mode room)
  readByte h := (hf .readByte rfl).moves h fun _ ht => bounded.readByte ht
  idle h request hidle :=
    (hf request (Request.isQuiet_of_isIdle hidle)).moves h fun _ ht => bounded.idle ht request hidle

theorem Bounded.passthrough (bounded : Bounded origin bounds stands) (ownership : Ownership) :
    Bounded origin bounds fun content => Passthrough.Stands ownership (stands content) :=
  bounded.conducted (Passthrough.conducts ownership)

omit [Cancellation ω] [ByteStream ω σ] in
theorem Passthrough.somewhere_of_holds {ownership : Ownership} {s : Passthrough σ × ω}
    (h : Passthrough.Holds ownership (Somewhere stands) s) :
    Somewhere (fun content => Passthrough.Stands ownership (stands content)) s := by
  obtain ⟨part, heq, content, q, hpart⟩ := h
  exact ⟨content, q, part, heq, hpart⟩

omit [Cancellation ω] [ByteStream ω σ] in
theorem Passthrough.holds_of_somewhere {ownership : Ownership} {s : Passthrough σ × ω}
    (h : Somewhere (fun content => Passthrough.Stands ownership (stands content)) s) :
    Passthrough.Holds ownership (Somewhere stands) s := by
  obtain ⟨content, q, part, heq, hpart⟩ := h
  exact ⟨part, heq, content, q, hpart⟩

/-- **A layer that changes nothing** is bounded as the stream below is, and hands changes on. -/
theorem Enduring.passthrough (enduring : Enduring origin bounds stands) (ownership : Ownership) :
    Enduring origin bounds fun content => Passthrough.Stands ownership (stands content) where
  toBounded := enduring.toBounded.passthrough ownership
  mutating request hmutates s hs := by
    have hne : request ≠ .dispose := by
      rintro rfl
      cases hmutates
    have hkeeps := Passthrough.preserves enduring.preserves request hne s
      (Passthrough.holds_of_somewhere hs)
    exact hkeeps.mono (fun _ _ h => Passthrough.somewhere_of_holds h)
      fun _ _ h => Passthrough.somewhere_of_holds h

/-- **A read-only layer** is bounded as the stream below is, and declines changes. -/
theorem Enduring.readOnly (enduring : Enduring origin bounds stands) (ownership : Ownership) :
    Enduring origin bounds fun content (s : ReadOnly σ × ω) q =>
      StreamM.Held (fun stream => ⟨⟨.live stream, ownership⟩⟩) (stands content · q) s where
  toBounded := enduring.toBounded.conducted (ReadOnly.conducts ownership)
  mutating request hmutates s hs := by
    obtain ⟨layer, w⟩ := s
    obtain ⟨content, q, part, rfl, hpart⟩ := hs
    have hdeclined : (ByteStream.perform request : StreamM ω (ReadOnly σ) request.Answer) =
        ReadOnly.onBase (Passthrough.decline request) := ReadOnly.perform_of_mutates hmutates
    rw [hdeclined]
    exact ⟨content, q, part, rfl, hpart⟩

/-! ## Rebased layers -/

namespace Rebased

variable {α : Type} {offset : Nat} {ownership : Ownership} {s : Rebased σ × ω}

omit [Cancellation ω] [ByteStream ω σ] in
theorem moves_onBase {stands : Passthrough σ × ω → Nat → Prop} (h : s.1.baseOffset = offset)
    {act : StreamM ω (Passthrough σ) α} {good : α → Nat → Prop} {bad : StreamError → Nat → Prop}
    (hact : act.Moves stands (s.1.base, s.2) good bad) :
    (onBase act).Moves (fun s q => s.1.baseOffset = offset ∧ stands (s.1.base, s.2) q) s
      good bad := by
  unfold onBase
  apply StreamM.Moves.within (fun layer : Rebased σ => layer.baseOffset = offset) _ _ h hact
  · intro _ _
    rfl
  · intro _ _ hrest
    exact hrest

omit [Cancellation ω] [ByteStream ω σ] in
theorem keeps_onBase_below {act : StreamM ω (Passthrough σ) α}
    (hact : StreamM.Keeps (Somewhere fun content => Passthrough.Stands ownership (stands content))
      act) :
    StreamM.Keeps (Somewhere fun content => Below offset ownership (stands content))
      (onBase act) := by
  rintro s ⟨content, q, horigin, hbase⟩
  refine (ends_onBase horigin (hact _ ⟨content, q, hbase⟩)).mono ?_ ?_
  · rintro _ s' ⟨horigin', content', q', hbase'⟩
    exact ⟨content', q', horigin', hbase'⟩
  · rintro _ s' ⟨horigin', content', q', hbase'⟩
    exact ⟨content', q', horigin', hbase'⟩

/-- A relative seek that is passed on leads to no place before the origin. -/
theorem moves_targetBelow_fromCurrent (bounded : Bounded origin bounds stands) {content : Bytes}
    {q : Nat} (h : Below offset ownership (stands content) s q) (distance : Int) :
    (targetBelow (.fromCurrent distance) : StreamM ω (Rebased σ) SeekTarget).Moves
      (Below offset ownership (stands content)) s
      (fun below q' => below = .fromCurrent distance ∧
        ((origin + offset : Nat) : Int) ≤ q + distance ∧ q' = q) fun _ q' => q' = q := by
  refine (moves_onBase h.1 ((bounded.passthrough ownership).position h.2)).bind ?_
  rintro place q' s' ⟨hplace, rfl⟩ hs'
  refine ((ends_ensureFromOrigin hs'.1 _).mono (fun _ _ h => h) ?_).bind ?_
  · rintro _ _ ⟨-, -, rfl⟩
    exact ⟨q', rfl, hs'⟩
  rintro _ _ ⟨hle, rfl⟩
  have hle' : (offset : Int) ≤ place + distance := hle
  exact StreamM.moves_pure hs' ⟨rfl, by omega, rfl⟩

theorem moves_targetBelow_fromEnd (bounded : Bounded origin bounds stands) {content : Bytes}
    {q : Nat} (h : Below offset ownership (stands content) s q) (distance : Int) :
    (targetBelow (.fromEnd distance) : StreamM ω (Rebased σ) SeekTarget).Moves
      (Below offset ownership (stands content)) s
      (fun below q' => below = .fromEnd distance ∧ q' = q) fun _ q' => q' = q := by
  refine (moves_onBase h.1 ((bounded.passthrough ownership).idle h.2 .length rfl)).bind ?_
  rintro reach q' s' rfl hs'
  refine ((ends_ensureFromOrigin hs'.1 _).mono (fun _ _ h => h) ?_).bind ?_
  · rintro _ _ ⟨-, -, rfl⟩
    exact ⟨q', rfl, hs'⟩
  rintro _ _ ⟨-, rfl⟩
  exact StreamM.moves_pure hs' ⟨rfl, rfl⟩

end Rebased

/-- A rebased layer moves the origin, and keeps the bounds. -/
theorem Bounded.rebased (bounded : Bounded origin bounds stands) (offset : Nat)
    (ownership : Ownership) :
    Bounded (origin + offset) bounds fun content =>
      Rebased.Below offset ownership (stands content) where
  fits {content s q} h := (bounded.passthrough ownership).fits h.2
  position {content s q} h := by
    have below := bounded.passthrough ownership
    refine (Rebased.moves_onBase h.1 (below.position h.2)).bind ?_
    rintro place q' s' ⟨hplace, rfl⟩ hs'
    refine (Rebased.ends_fromBase hs'.1 place).mono ?_ ?_
    · rintro position _ ⟨hposition, rfl⟩
      exact ⟨q', ⟨by omega, rfl⟩, hs'⟩
    · rintro _ _ ⟨-, rfl⟩
      exact ⟨q', rfl, hs'⟩
  setPosition {content s q} h target := by
    have below := bounded.passthrough ownership
    refine ((Rebased.ends_toBase h.1 target).mono (fun _ _ h => h) ?_).bind ?_
    · rintro _ _ ⟨-, rfl⟩
      exact ⟨q, rfl, h⟩
    rintro place _ ⟨rfl, rfl⟩
    refine (Rebased.moves_onBase h.1 (below.setPosition h.2 _)).mono ?_ fun _ _ h => h
    rintro _ q' hq'
    omega
  seek {content s q} h target := by
    have below := bounded.passthrough ownership
    cases target with
    | fromStart place =>
      refine ((Rebased.ends_targetBelow_fromStart h.1 place).mono (fun _ _ h => h) ?_).bind ?_
      · rintro _ _ ⟨-, rfl⟩
        exact ⟨q, rfl, h⟩
      rintro _ _ ⟨rfl, rfl⟩
      refine (Rebased.moves_onBase h.1 (below.seek h.2 _)).bind ?_
      rintro _ q' s' ⟨rfl, rfl⟩ hs'
      refine (Rebased.ends_fromBase hs'.1 _).mono ?_ ?_
      · rintro position _ ⟨hposition, rfl⟩
        exact ⟨_, ⟨by show position = place; omega, by omega⟩, hs'⟩
      · rintro _ _ ⟨hlt, -⟩
        omega
    | fromCurrent distance =>
      refine (Rebased.moves_targetBelow_fromCurrent bounded h distance).bind ?_
      rintro _ q₁ s₁ ⟨rfl, hle, rfl⟩ h₁
      refine (Rebased.moves_onBase h₁.1 (below.seek h₁.2 _)).bind ?_
      rintro place q₂ s₂ ⟨hplace, rfl⟩ h₂
      have hplace' : ((origin + place : Nat) : Int) = q₁ + distance := hplace
      refine (Rebased.ends_fromBase h₂.1 place).mono ?_ ?_
      · rintro position _ ⟨hposition, rfl⟩
        refine ⟨_, ⟨?_, by omega⟩, h₂⟩
        show ((origin + offset + position : Nat) : Int) = q₁ + distance
        omega
      · rintro _ _ ⟨hlt, -⟩
        omega
    | fromEnd distance =>
      refine ((Rebased.moves_targetBelow_fromEnd bounded h distance).mono (fun _ _ h => h)
        fun _ _ _ => trivial).bind ?_
      rintro _ q₁ s₁ ⟨rfl, rfl⟩ h₁
      refine (Rebased.moves_onBase h₁.1 (below.seek h₁.2 _)).bind ?_
      rintro place q₂ s₂ ⟨-, rfl⟩ h₂
      refine (Rebased.ends_fromBase h₂.1 place).mono ?_ ?_
      · rintro position _ ⟨hposition, rfl⟩
        exact ⟨_, ⟨trivial, by omega⟩, h₂⟩
      · rintro _ _ ⟨-, rfl⟩
        exact ⟨_, trivial, h₂⟩
  read {content s q} h mode room :=
    Rebased.moves_onBase h.1 ((bounded.passthrough ownership).read h.2 mode room)
  readByte {content s q} h :=
    Rebased.moves_onBase h.1 ((bounded.passthrough ownership).readByte h.2)
  idle {content s q} h request hidle := by
    have below := bounded.passthrough ownership
    have hbelow := Rebased.moves_onBase h.1 (below.idle h.2 request hidle)
    cases request with
    | length =>
      refine hbelow.bind ?_
      rintro reach q' s' rfl hs'
      exact StreamM.ends_state_bind (StreamM.moves_pure hs' rfl)
    | flush | timeout | setTimeout => exact hbelow
    | _ => cases hidle

/-- **A rebased layer moves the origin** and keeps the bounds, whatever is changed through it. -/
theorem Enduring.rebased (enduring : Enduring origin bounds stands) (offset : Nat)
    (ownership : Ownership) :
    Enduring (origin + offset) bounds fun content =>
      Rebased.Below offset ownership (stands content) where
  toBounded := enduring.toBounded.rebased offset ownership
  mutating request hmutates := by
    have below := (enduring.passthrough ownership).mutating
    cases request with
    | setLength size =>
      rintro s ⟨content, q, h⟩
      refine ((Rebased.ends_toBase h.1 size).mono (fun _ _ h => h) ?_).bind ?_
      · rintro _ _ ⟨-, rfl⟩
        exact ⟨content, q, h⟩
      rintro place _ ⟨-, rfl⟩
      exact Rebased.keeps_onBase_below (below (.setLength place) rfl) _ ⟨content, q, h⟩
    | write mode data => exact Rebased.keeps_onBase_below (below (.write mode data) rfl)
    | writeByte byte => exact Rebased.keeps_onBase_below (below (.writeByte byte) rfl)
    | _ => cases hmutates

/-! ## Truncated layers -/

namespace Truncated

variable {α : Type} {start maxLength cursor q : Nat} {ownership : Ownership}
  {s : Truncated σ × ω} {content : Bytes}

omit [Cancellation ω] [ByteStream ω σ] in
theorem moves_onBase {stands : Passthrough σ × ω → Nat → Prop}
    (h : s.1.origin = start ∧ s.1.maxLength = maxLength ∧ s.1.cursor = cursor)
    {act : StreamM ω (Passthrough σ) α} {good : α → Nat → Prop} {bad : StreamError → Nat → Prop}
    (hact : act.Moves stands (s.1.base, s.2) good bad) :
    (onBase act).Moves (fun s q =>
      (s.1.origin = start ∧ s.1.maxLength = maxLength ∧ s.1.cursor = cursor) ∧
        stands (s.1.base, s.2) q) s good bad := by
  unfold onBase
  apply StreamM.Moves.within (fun layer : Truncated σ =>
    layer.origin = start ∧ layer.maxLength = maxLength ∧ layer.cursor = cursor) _ _ h hact
  · intro _ _
    rfl
  · intro _ _ hrest
    exact hrest

/-- **What a truncated layer reads**, whatever it believes of the cursor: what the stream below
gives, but no more than there are places from where it believes the cursor to its boundary. It
believes the cursor as much further as it read. -/
theorem ends_read (bounded : Bounded origin bounds stands)
    (h : Below start maxLength cursor ownership (stands content) s q) (mode : Mode) (room : Nat) :
    (read mode room : StreamM ω (Truncated σ) Bytes).Ends s
      (fun bytes s' => Delivers (content.take (content.limit bounds)) q
          (min room (saturatingAdd start maxLength - cursor)) bytes ∧
        Below start maxLength (cursor + bytes.length) ownership (stands content) s'
          (q + bytes.length))
      fun _ s' => mode.isCancelled s.2 = true ∧
        Below start maxLength cursor ownership (stands content) s' q := by
  unfold read
  refine StreamM.ends_state_bind ?_
  have hremaining : s.1.remaining = saturatingAdd start maxLength - cursor := by
    unfold remaining boundary
    rw [h.1.1, h.1.2.1, h.1.2.2]
  rw [hremaining]
  have hread := moves_onBase h.1 ((bounded.passthrough ownership).read h.2 mode
    (min room (saturatingAdd start maxLength - cursor)))
  refine StreamM.Ends.bind (StreamM.Ends.mono hread (fun _ _ h => h) ?_) ?_
  · rintro e s' ⟨q', ⟨hcancelled, rfl⟩, hs'⟩
    exact ⟨hcancelled, hs'⟩
  · rintro bytes s' ⟨_, ⟨hdelivers, rfl⟩, ⟨hstart, hmaxLength, rfl⟩, hs'⟩
    refine StreamM.ends_update_bind (StreamM.ends_pure ⟨hdelivers, ?_, hs'⟩)
    exact ⟨hstart, hmaxLength, rfl⟩

theorem ends_readByte (bounded : Bounded origin bounds stands)
    (h : Below start maxLength cursor ownership (stands content) s q) :
    (readByte : StreamM ω (Truncated σ) (Option UInt8)).Ends s
      (fun byte s' =>
        byte = (if saturatingAdd start maxLength ≤ cursor then none
          else (content.take (content.limit bounds))[q]?) ∧
        Below start maxLength (cursor + byte.toList.length) ownership (stands content) s'
          (q + byte.toList.length)) fun _ _ => False := by
  have hboundary : s.1.boundary = saturatingAdd start maxLength := by
    unfold boundary
    rw [h.1.1, h.1.2.1]
  unfold readByte
  refine StreamM.ends_bind_of_eq_ok (onBase_ensureOpen h) (StreamM.ends_state_bind ?_)
  rw [hboundary, h.1.2.2]
  split
  · exact StreamM.ends_pure ⟨rfl, h⟩
  have hbyte := moves_onBase h.1 ((bounded.passthrough ownership).readByte h.2)
  refine StreamM.Ends.bind
    (StreamM.Ends.mono hbyte (fun _ _ h => h) fun _ _ ⟨_, hfalse, _⟩ => hfalse) ?_
  rintro byte s' ⟨_, ⟨heq, rfl⟩, ⟨hstart, hmaxLength, rfl⟩, hs'⟩
  cases byte with
  | none => exact StreamM.ends_pure ⟨heq, ⟨hstart, hmaxLength, rfl⟩, hs'⟩
  | some byte =>
    exact StreamM.ends_update_bind (StreamM.ends_pure ⟨heq, ⟨hstart, hmaxLength, rfl⟩, hs'⟩)

theorem ends_setPosition (bounded : Bounded origin bounds stands)
    (h : Below start maxLength cursor ownership (stands content) s q) (target : Nat) :
    (ByteStream.setPosition target : StreamM ω (Truncated σ) Unit).Ends s
      (fun _ s' => Below start maxLength target ownership (stands content) s' (origin + target))
      fun _ s' => Below start maxLength cursor ownership (stands content) s' q := by
  have hset := moves_onBase h.1 ((bounded.passthrough ownership).setPosition h.2 target)
  refine StreamM.Ends.bind (StreamM.Ends.mono hset (fun _ _ h => h) ?_) ?_
  · rintro e s' ⟨_, rfl, hs'⟩
    exact hs'
  · rintro _ s' ⟨_, rfl, ⟨hstart, hmaxLength, -⟩, hs'⟩
    exact StreamM.ends_update ⟨⟨hstart, hmaxLength, rfl⟩, hs'⟩

theorem moves_visibleLength (bounded : Bounded origin bounds stands)
    (h : Below start maxLength cursor ownership (stands content) s q) :
    (visibleLength : StreamM ω (Truncated σ) Nat).Moves
      (Below start maxLength cursor ownership (stands content)) s (fun _ q' => q' = q)
      fun _ q' => q' = q := by
  refine (moves_onBase h.1 ((bounded.passthrough ownership).idle h.2 .length rfl)).bind ?_
  rintro reach q' s' rfl hs'
  exact StreamM.ends_state_bind (StreamM.moves_pure hs' rfl)

theorem moves_targetBelow (bounded : Bounded origin bounds stands)
    (h : Below start maxLength cursor ownership (stands content) s q) (target : SeekTarget) :
    (targetBelow target : StreamM ω (Truncated σ) SeekTarget).Moves
      (Below start maxLength cursor ownership (stands content)) s
      (fun below q' => (∀ place, below.LeadsTo origin q place → target.LeadsTo origin q place) ∧
        (∀ q', below.StraysTo q q' → q' = q) ∧ q' = q) fun _ q' => q' = q := by
  cases target with
  | fromStart place => exact StreamM.moves_pure h ⟨fun _ hplace => hplace, fun _ hq => hq, rfl⟩
  | fromCurrent distance =>
    exact StreamM.moves_pure h ⟨fun _ hplace => hplace, fun _ hq => hq, rfl⟩
  | fromEnd distance =>
    refine (moves_visibleLength bounded h).bind ?_
    rintro visible q' s' rfl hs'
    refine StreamM.Ends.bind (StreamM.Ends.mono (StreamM.ends_ofExcept _) (fun _ _ h => h) ?_) ?_
    · rintro e _ ⟨-, -, -, rfl⟩
      exact ⟨q', rfl, hs'⟩
    · rintro place _ ⟨-, rfl⟩
      refine StreamM.ends_state_bind (StreamM.moves_pure hs' ⟨?_, ?_, rfl⟩)
      · exact fun _ _ => trivial
      · exact fun _ hq => hq

theorem ends_seek (bounded : Bounded origin bounds stands)
    (h : Below start maxLength cursor ownership (stands content) s q) (target : SeekTarget) :
    (ByteStream.seek target : StreamM ω (Truncated σ) Nat).Ends s
      (fun place s' => target.LeadsTo origin q place ∧
        Below start maxLength place ownership (stands content) s' (origin + place))
      fun _ s' => Below start maxLength cursor ownership (stands content) s' q := by
  refine StreamM.Ends.bind (StreamM.Ends.mono (moves_targetBelow bounded h target)
    (fun _ _ h => h) ?_) ?_
  · rintro e s' ⟨_, rfl, hs'⟩
    exact hs'
  rintro below s₁ ⟨q', ⟨hleads, hstrays, rfl⟩, h₁⟩
  have hseek := moves_onBase h₁.1 ((bounded.passthrough ownership).seek h₁.2 below)
  refine StreamM.Ends.bind (StreamM.Ends.mono hseek (fun _ _ h => h) ?_) ?_
  · rintro e s₂ ⟨q₂, hq₂, h₂⟩
    rwa [hstrays q₂ hq₂] at h₂
  · rintro place s₂ ⟨_, ⟨hplace, rfl⟩, ⟨hstart, hmaxLength, -⟩, h₂⟩
    refine StreamM.ends_update_bind (StreamM.ends_pure ⟨hleads place hplace, ?_, h₂⟩)
    exact ⟨hstart, hmaxLength, rfl⟩

omit [Cancellation ω] in
theorem ends_declined {place : Nat} {stands : σ × ω → Nat → Prop}
    (h : Below start maxLength cursor ownership stands s place) {request : Request}
    (hdeclines : declines request = true) :
    (ByteStream.perform request : StreamM ω (Truncated σ) request.Answer).Ends s
      (fun _ _ => False) fun _ s' => Below start maxLength cursor ownership stands s' place := by
  have hdeclined : (ByteStream.perform request : StreamM ω (Truncated σ) request.Answer) =
      onBase (Passthrough.decline request) := perform_of_declined hdeclines
  rw [hdeclined]
  refine (ends_onBase h.1 (Passthrough.ends_decline request _)).mono (fun _ _ h => h.2) ?_
  rintro _ s' ⟨hfields, hsame⟩
  have hbase := h.2
  rw [← hsame] at hbase
  exact ⟨hfields, hbase⟩

theorem moves_idle (bounded : Bounded origin bounds stands)
    (h : Below start maxLength cursor ownership (stands content) s q) {request : Request}
    (hidle : request.isIdle = true) :
    (ByteStream.perform request : StreamM ω (Truncated σ) request.Answer).Moves
      (Below start maxLength cursor ownership (stands content)) s (fun _ q' => q' = q)
      fun _ q' => q' = q := by
  have below := bounded.passthrough ownership
  cases request with
  | length => exact moves_visibleLength bounded h
  | flush mode =>
    have hdeclines : declines (.flush mode) = true := rfl
    exact (ends_declined h hdeclines).mono (fun _ _ h => h.elim) fun _ _ hs' => ⟨q, rfl, hs'⟩
  | timeout direction => exact moves_onBase h.1 (below.idle h.2 (.timeout direction) rfl)
  | setTimeout direction limit =>
    exact moves_onBase h.1 (below.idle h.2 (.setTimeout direction limit) rfl)
  | _ => cases hidle

/-- An open layer that knows where the cursor is, over a stream that counts from `origin`. -/
def Knows (origin start maxLength : Nat) (ownership : Ownership) (stands : σ × ω → Nat → Prop)
    (s : Truncated σ × ω) (q : Nat) : Prop :=
  ∃ cursor, origin + cursor = q ∧ Below start maxLength cursor ownership stands s q

end Truncated

/-- **A truncated layer that knows the cursor adds its boundary to the bounds**, and knows the
cursor after every request. -/
theorem Bounded.truncated (bounded : Bounded origin bounds stands) (start maxLength : Nat)
    (ownership : Ownership) :
    Enduring origin ((origin + (start + maxLength)) :: bounds) fun content =>
      Truncated.Knows origin start maxLength ownership (stands content) where
  fits := by
    rintro content s q ⟨cursor, -, h⟩
    exact (bounded.passthrough ownership).fits h.2
  position := by
    rintro content s q ⟨cursor, hcursor, h⟩
    refine StreamM.Ends.mono
      (Truncated.moves_onBase h.1 ((bounded.passthrough ownership).position h.2)) ?_ ?_
    · rintro place s' ⟨_, ⟨hplace, rfl⟩, hs'⟩
      exact ⟨_, ⟨hplace, rfl⟩, cursor, hcursor, hs'⟩
    · rintro _ s' ⟨_, rfl, hs'⟩
      exact ⟨_, rfl, cursor, hcursor, hs'⟩
  setPosition := by
    rintro content s q ⟨cursor, hcursor, h⟩ target
    refine (Truncated.ends_setPosition bounded h target).mono ?_ ?_
    · intro _ s' hs'
      exact ⟨_, rfl, target, rfl, hs'⟩
    · intro _ s' hs'
      exact ⟨q, rfl, cursor, hcursor, hs'⟩
  seek := by
    rintro content s q ⟨cursor, hcursor, h⟩ target
    refine (Truncated.ends_seek bounded h target).mono ?_ ?_
    · rintro place s' ⟨hplace, hs'⟩
      exact ⟨_, ⟨hplace, rfl⟩, place, rfl, hs'⟩
    · intro _ s' hs'
      exact ⟨q, target.straysTo_self q, cursor, hcursor, hs'⟩
  read := by
    rintro content s q ⟨cursor, rfl, h⟩ mode room
    refine (Truncated.ends_read bounded h mode room).mono ?_ ?_
    · rintro bytes s' ⟨hdelivers, hs'⟩
      have hleft : saturatingAdd start maxLength - cursor =
          origin + saturatingAdd start maxLength - (origin + cursor) := by omega
      rw [hleft] at hdelivers
      have htaken := hdelivers.take
      rw [Bytes.take_limit_saturating ((bounded.passthrough ownership).fits h.2)] at htaken
      exact ⟨_, ⟨htaken, rfl⟩, cursor + bytes.length, (Nat.add_assoc _ _ _).symm, hs'⟩
    · rintro e s' ⟨hcancelled, hs'⟩
      exact ⟨_, ⟨hcancelled, rfl⟩, cursor, rfl, hs'⟩
  readByte := by
    rintro content s q ⟨cursor, rfl, h⟩
    refine (Truncated.ends_readByte bounded h).mono ?_ fun _ _ h => h.elim
    rintro byte s' ⟨hbyte, hs'⟩
    refine ⟨_, ⟨?_, rfl⟩, cursor + byte.toList.length, (Nat.add_assoc _ _ _).symm, hs'⟩
    have hshown : ((content.take (content.limit bounds)).take
        (origin + saturatingAdd start maxLength))[origin + cursor]? =
          if origin + cursor < origin + saturatingAdd start maxLength then
            (content.take (content.limit bounds))[origin + cursor]? else none :=
      List.getElem?_take
    rw [← Bytes.take_limit_saturating ((bounded.passthrough ownership).fits h.2), hshown, hbyte]
    by_cases hend : saturatingAdd start maxLength ≤ cursor
    · rw [if_pos hend, if_neg (by omega)]
    · rw [if_neg hend, if_pos (by omega)]
  idle := by
    rintro content s q ⟨cursor, hcursor, h⟩ request hidle
    refine StreamM.Ends.mono (Truncated.moves_idle bounded h hidle) ?_ ?_
    · rintro _ s' ⟨_, rfl, hs'⟩
      exact ⟨_, rfl, cursor, hcursor, hs'⟩
    · rintro _ s' ⟨_, rfl, hs'⟩
      exact ⟨_, rfl, cursor, hcursor, hs'⟩
  mutating request hmutates := by
    rintro s ⟨content, q, cursor, hcursor, h⟩
    have hdeclines : Truncated.declines request = true := by
      unfold Truncated.declines
      rw [hmutates]
      rfl
    exact (Truncated.ends_declined h hdeclines).mono (fun _ _ h => h.elim)
      fun _ s' hs' => ⟨content, q, cursor, hcursor, hs'⟩

end

end LayeredStreams
