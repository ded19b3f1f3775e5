import LayeredStreams.Proofs.Rebasing
import LayeredStreams.Proofs.Resizing

/-!
# Seeks from the end of a tower

A rebased layer reports what is left of the length below behind its origin, and nothing if the
stream below ends before. A seek that is told from the end is looked at against that reported
length, layer by layer, and only then led by the end of the base.

* `Measured calm cursor size` — a base that does not fail: it says where its cursor is and how long
  it is, and grants exactly the seeks that lead to a position.
* `Rebased.Admits size offset layers` — the layers let a seek told from the end through to a base of
  that size.

Principal results: `Rebased.length_tower`, `Rebased.ends_seek_tower` (what comes of a seek from the
end, and where a refused one leaves the base), `Rebased.after_tower` (whatever is asked of a tower,
it is one over its base) and `Rebased.seek_from_end`.
-/

set_option autoImplicit false

namespace LayeredStreams

/-- A base that does not fail: it says where its cursor is and how long it is, and grants exactly
the seeks that lead to a position. -/
structure Measured (ω : Type) {β : Type} [ByteStream ω β] (calm : β × ω → Prop)
    (cursor size : β × ω → Nat) : Prop where
  position : ∀ {s : β × ω}, calm s → (ByteStream.position : StreamM ω β Nat) s = .ok (cursor s) s
  length : ∀ {s : β × ω}, calm s → (ByteStream.length : StreamM ω β Nat) s = .ok (size s) s
  seek : ∀ {s : β × ω}, calm s → ∀ target : SeekTarget,
    (ByteStream.seek target : StreamM ω β Nat).Ends s
      (fun place s' => target.resolve (cursor s) (size s) = .ok place ∧ calm s' ∧
        cursor s' = place ∧ size s' = size s)
      fun _ s' => (∃ cause, target.resolve (cursor s) (size s) = .error cause) ∧ s' = s

namespace Rebased

/-! ## One layer -/

section Layer

variable {ω σ : Type} [ByteStream ω σ] {stream : σ} {w : ω} {origin start q size : Nat}
  {ownership : Ownership}

theorem carries_onBase (origin : Nat) (ownership : Ownership) (request : Request)
    (hquiet : request.isQuiet = true) :
    StreamM.Carries (fun stream => (⟨.ofStream stream ownership, origin⟩ : Rebased σ))
      (ByteStream.perform request : StreamM ω σ request.Answer)
      (onBase (ByteStream.perform request)) :=
  (Passthrough.conducts ownership request hquiet).trans (carries_base origin _)

theorem ends_position_over
    (h : (ByteStream.position : StreamM ω σ Nat).Ends (stream, w)
      (fun place s' => start + place = q ∧ s' = (stream, w))
      fun _ s' => q < start ∧ s' = (stream, w)) :
    (ByteStream.position : StreamM ω (Rebased σ) Nat).Ends (⟨.ofStream stream ownership, origin⟩, w)
      (fun place s' => start + origin + place = q ∧ s' = (⟨.ofStream stream ownership, origin⟩, w))
      fun _ s' => q < start + origin ∧ s' = (⟨.ofStream stream ownership, origin⟩, w) := by
  have hbelow := (carries_onBase origin ownership .position rfl).ends_of h
  apply StreamM.Ends.bind (hbelow.mono (fun _ _ h => h) ?_)
  · intro place s' hout
    obtain ⟨_, w'⟩ := s'
    obtain ⟨stream', rfl, hplace, heq⟩ := hout
    cases heq
    apply (ends_fromBase_mk place).mono
    · intro position s' hout
      obtain ⟨hposition, rfl⟩ := hout
      exact ⟨by omega, rfl⟩
    · intro e s' hout
      obtain ⟨hlt, rfl⟩ := hout
      exact ⟨by omega, rfl⟩
  · intro e s' hout
    obtain ⟨_, w'⟩ := s'
    obtain ⟨stream', rfl, hlt, heq⟩ := hout
    cases heq
    exact ⟨by omega, rfl⟩

theorem length_over (h : (ByteStream.length : StreamM ω σ Nat) (stream, w) = .ok size (stream, w)) :
    (ByteStream.length : StreamM ω (Rebased σ) Nat) (⟨.ofStream stream ownership, origin⟩, w) =
      .ok (size - origin) (⟨.ofStream stream ownership, origin⟩, w) := by
  have hbelow := (carries_onBase origin ownership .length rfl).eq_ok h
  show (onBase ByteStream.length >>= fun size => StreamM.state >>= fun layer =>
    pure (size - layer.baseOffset)) _ = _
  rw [StreamM.bind_apply]
  unfold ByteStream.length
  rw [hbelow]
  rfl

theorem ends_targetBelow_over
    (h : (ByteStream.length : StreamM ω σ Nat) (stream, w) = .ok size (stream, w)) (offset : Int) :
    (targetBelow (.fromEnd offset) : StreamM ω (Rebased σ) SeekTarget).Ends
      (⟨.ofStream stream ownership, origin⟩, w)
      (fun below s' => below = .fromEnd offset ∧ (origin : Int) ≤ size + offset ∧
        s' = (⟨.ofStream stream ownership, origin⟩, w))
      fun _ s' => size + offset < origin ∧ s' = (⟨.ofStream stream ownership, origin⟩, w) := by
  have hbelow := (carries_onBase origin ownership .length rfl).eq_ok h
  apply StreamM.ends_bind_of_eq_ok hbelow
  apply StreamM.Ends.bind ((ends_ensureFromOrigin_mk _).mono (fun _ _ h => h) ?_)
  · intro _ s' hout
    obtain ⟨hle, rfl⟩ := hout
    exact ⟨rfl, hle, rfl⟩
  · intro e s' hout
    obtain ⟨hlt, rfl⟩ := hout
    exact ⟨hlt, rfl⟩

end Layer

/-! ## Towers -/

open MemoryDevice (totalOrigin totalOrigin_cons)

/-- The layers, the outermost first, let a seek told from the end through to a base of that size:
each of them finds it not before its origin, by the length that is reported below. -/
def Admits (size : Nat) (offset : Int) : List (Nat × Ownership) → Prop
  | [] => True
  | layer :: layers =>
    (layer.1 : Int) ≤ (size - totalOrigin layers : Nat) + offset ∧ Admits size offset layers

instance decidableAdmits (size : Nat) (offset : Int) : (layers : List (Nat × Ownership)) →
    Decidable (Admits size offset layers)
  | [] => instDecidableTrue
  | _ :: layers =>
    haveI := decidableAdmits size offset layers
    instDecidableAnd

theorem admits_of_le {size : Nat} {offset : Int} : ∀ {layers : List (Nat × Ownership)},
    (totalOrigin layers : Int) ≤ size + offset → Admits size offset layers
  | [], _ => trivial
  | layer :: layers, h => by
    rw [totalOrigin_cons] at h
    refine ⟨by omega, admits_of_le (by omega)⟩

/-- As long as all layers but the outermost begin inside the base, nothing is let through that leads
before the origin of the tower. -/
theorem le_of_admits {size : Nat} {offset : Int} {layers : List (Nat × Ownership)}
    (h : Admits size offset layers) (hinside : totalOrigin layers.tail ≤ size)
    (hreach : 0 ≤ size + offset) : (totalOrigin layers : Int) ≤ size + offset := by
  cases layers with
  | nil => exact hreach
  | cons layer layers =>
    have hinside : totalOrigin layers ≤ size := hinside
    have houter := h.1
    rw [totalOrigin_cons]
    omega

variable {ω β : Type} [Cancellation ω] [ByteStream ω β] {calm : β × ω → Prop}
  {cursor size : β × ω → Nat} {base : β} {w : ω}

omit [Cancellation ω] [ByteStream ω β] in
/-- A tower over a base that is in order, with its cursor at `q`. -/
def Towers (calm : β × ω → Prop) (cursor size : β × ω → Nat) (layers : List (Nat × Ownership))
    (extent q : Nat) (s : Stack (layers.map fun _ => .rebased) β × ω) : Prop :=
  ∃ base, s.1 = tower layers base ∧ calm (base, s.2) ∧ size (base, s.2) = extent ∧
    cursor (base, s.2) = q

theorem ends_position_tower (h : Measured ω calm cursor size) (hcalm : calm (base, w)) :
    ∀ layers : List (Nat × Ownership),
      (ByteStream.position : StreamM ω (Stack (layers.map fun _ => .rebased) β) Nat).Ends
        (tower layers base, w)
        (fun place s' => totalOrigin layers + place = cursor (base, w) ∧
          s' = (tower layers base, w))
        fun _ s' => cursor (base, w) < totalOrigin layers ∧ s' = (tower layers base, w)
  | [] => by
    apply StreamM.ends_of_eq_ok (h.position hcalm)
    exact ⟨Nat.zero_add _, rfl⟩
  | (origin, ownership) :: layers => by
    rw [totalOrigin_cons]
    exact ends_position_over (ends_position_tower h hcalm layers)

/-- A tower reports what is left of the base behind its origin. -/
theorem length_tower (h : Measured ω calm cursor size) (hcalm : calm (base, w)) :
    ∀ layers : List (Nat × Ownership),
      (ByteStream.length : StreamM ω (Stack (layers.map fun _ => .rebased) β) Nat)
        (tower layers base, w) =
          .ok (size (base, w) - totalOrigin layers) (tower layers base, w)
  | [] => h.length hcalm
  | (origin, ownership) :: layers => by
    rw [totalOrigin_cons, ← Nat.sub_sub]
    exact length_over (length_tower h hcalm layers)

/-- **A seek from the end of a tower leads where the end of its base does.** It is granted exactly
if that is a position not before the origin of the tower. Where it is refused, the base is led there
all the same if all layers let the seek through and it is a position; otherwise nothing is moved.
The recursion is on the layers. -/
theorem ends_seek_tower (h : Measured ω calm cursor size) (hcalm : calm (base, w)) (offset : Int) :
    ∀ layers : List (Nat × Ownership),
      (ByteStream.seek (.fromEnd offset) :
          StreamM ω (Stack (layers.map fun _ => .rebased) β) Nat).Ends (tower layers base, w)
        (fun place s' =>
          ((totalOrigin layers + place : Nat) : Int) = size (base, w) + offset ∧
          totalOrigin layers + place ≤ maxPosition ∧
          Towers calm cursor size layers (size (base, w)) (totalOrigin layers + place) s')
        fun _ s' =>
          ¬ ((totalOrigin layers : Int) ≤ size (base, w) + offset ∧
              size (base, w) + offset ≤ maxPosition) ∧
          if Admits (size (base, w)) offset layers ∧ 0 ≤ size (base, w) + offset ∧
              size (base, w) + offset ≤ maxPosition then
            Towers calm cursor size layers (size (base, w)) (size (base, w) + offset).toNat s'
          else s' = (tower layers base, w)
  | [] => by
    apply (h.seek hcalm (.fromEnd offset)).mono
    · intro place s' hout
      obtain ⟨hresolve, hcalm', hcursor, hsize⟩ := hout
      obtain ⟨hplace, hle⟩ := SeekTarget.resolve_eq_ok_iff.mp hresolve
      have hplace : (size (base, w) : Int) + offset = place := hplace
      rw [show totalOrigin [] = 0 from rfl, Nat.zero_add]
      exact ⟨hplace.symm, hle, s'.1, rfl, hcalm', hsize, hcursor⟩
    · intro e s' hout
      obtain ⟨⟨cause, hresolve⟩, rfl⟩ := hout
      have hfar : (size (base, w) : Int) + offset < 0 ∨ maxPosition < size (base, w) + offset :=
        (SeekTarget.resolve_eq_error_iff.mp hresolve).2
      have hnone : ¬ (0 ≤ size (base, w) + offset ∧ size (base, w) + offset ≤ maxPosition) := by
        omega
      exact ⟨hnone, (if_neg fun hall => hnone hall.2).mpr rfl⟩
  | (origin, ownership) :: layers => by
    have hlength := length_tower h hcalm layers
    have ih := ends_seek_tower h hcalm offset layers
    rw [totalOrigin_cons]
    apply StreamM.Ends.bind ((ends_targetBelow_over hlength offset).mono (fun _ _ h => h) ?_)
    · intro below s' hout
      obtain ⟨rfl, hle, rfl⟩ := hout
      have hbelow := (carries_onBase origin ownership (.seek (.fromEnd offset)) rfl).ends_of ih
      apply StreamM.Ends.bind (hbelow.mono (fun _ _ h => h) ?_)
      · intro place s' hout
        obtain ⟨_, w'⟩ := s'
        obtain ⟨_, rfl, hplace, hmax, base', rfl, hbase'⟩ := hout
        apply (ends_fromBase_mk place).mono
        · intro position s' hout
          obtain ⟨rfl, rfl⟩ := hout
          rw [← Nat.add_assoc] at hplace hmax hbase'
          exact ⟨hplace, hmax, base', rfl, hbase'⟩
        · -- the place that was granted below lies before the origin of this layer
          intro e s' hout
          obtain ⟨hlt, rfl⟩ := hout
          have hadmits : Admits (size (base, w)) offset ((origin, ownership) :: layers) :=
            ⟨hle, admits_of_le (by omega)⟩
          have hreach : (size (base, w) + offset).toNat = totalOrigin layers + place := by omega
          refine ⟨by omega, ?_⟩
          rw [if_pos ⟨hadmits, by omega, by omega⟩, hreach]
          exact ⟨base', rfl, hbase'⟩
      · intro e s' hout
        obtain ⟨_, w'⟩ := s'
        obtain ⟨stack, rfl, hrefused, hleft⟩ := hout
        refine ⟨by omega, ?_⟩
        have hadmits : Admits (size (base, w)) offset ((origin, ownership) :: layers) ↔
            Admits (size (base, w)) offset layers := and_iff_right hle
        split at hleft
        · rename_i hall
          obtain ⟨base', rfl, hbase'⟩ := hleft
          rw [if_pos ⟨hadmits.mpr hall.1, hall.2⟩]
          exact ⟨base', rfl, hbase'⟩
        · rename_i hnot
          cases hleft
          exact (if_neg fun hall => hnot ⟨hadmits.mp hall.1, hall.2⟩).mpr rfl
    · intro e s' hout
      obtain ⟨hlt, rfl⟩ := hout
      have hdeclined : ¬ Admits (size (base, w)) offset ((origin, ownership) :: layers) :=
        fun hadmits => absurd hadmits.1 (Int.not_le.mpr hlt)
      refine ⟨by omega, ?_⟩
      rw [if_neg fun hall => hdeclined hall.1]
      rfl

/-! ## Runs of requests -/

/-- An open tower over some base. -/
def IsTower (layers : List (Nat × Ownership))
    (s : Stack (layers.map fun _ => .rebased) β × ω) : Prop :=
  ∃ base, s.1 = tower layers base

omit [Cancellation ω] [ByteStream ω β] in
theorem isTower_cons {origin : Nat} {ownership : Ownership} {layers : List (Nat × Ownership)}
    (s : Rebased (Stack (layers.map fun _ => .rebased) β) × ω) :
    IsTower ((origin, ownership) :: layers) s ↔
      CountsFrom origin (Passthrough.Holds ownership (IsTower layers)) s := by
  obtain ⟨⟨part, baseOffset⟩, w⟩ := s
  constructor
  · intro h
    obtain ⟨base, heq⟩ := h
    cases heq
    exact ⟨rfl, tower layers base, rfl, base, rfl⟩
  · intro h
    obtain ⟨horigin, stack, hpart, base, hstack⟩ := h
    cases horigin
    cases hpart
    cases hstack
    exact ⟨base, rfl⟩

theorem preserves_tower : ∀ layers : List (Nat × Ownership),
    ByteStream.Preserves ω (IsTower (ω := ω) (β := β) layers)
  | [] => by
    intro request _ s _
    exact StreamM.ends_of_final ⟨_, rfl⟩
  | (origin, ownership) :: layers => by
    have hbelow := @Passthrough.preserves ω _ ownership _ _ (preserves_tower layers)
    have hlayer := preservesOn_countsFrom Request.closed_ne_dispose hbelow origin
    intro request hne s hs
    apply (hlayer request hne s ((isTower_cons s).mp hs)).mono
    · intro _ s' hs'
      exact (isTower_cons s').mpr hs'
    · intro _ s' hs'
      exact (isTower_cons s').mpr hs'

theorem after_tower (layers : List (Nat × Ownership)) (base : β) (w : ω) {requests : List Request}
    (hopen : ∀ request ∈ requests, request ≠ .dispose) :
    IsTower layers (ByteStream.after requests
      ((tower layers base, w) : Stack (layers.map fun _ => .rebased) β × ω)) :=
  ByteStream.after_induction
    (fun request hmem s hs => preserves_tower layers request (hopen request hmem) s hs)
    ⟨base, rfl⟩

end Rebased

/-! ## Bases that do not fail -/

/-- **A stream of zeros is measured**, whatever its length. -/
theorem Zeros.measured {ω : Type} [Cancellation ω] :
    Measured ω (fun s : Zeros × ω => s.1.disposed = false) (fun s => s.1.cursor)
      fun s => s.1.size where
  position {s} hopen := by
    show (opened >>= fun zeros => pure zeros.cursor) (s.1, s.2) = _
    rw [StreamM.bind_apply, opened_of_open hopen]
    rfl
  length {s} hopen := by
    show (opened >>= fun zeros => pure zeros.size) (s.1, s.2) = _
    rw [StreamM.bind_apply, opened_of_open hopen]
    rfl
  seek {s} hopen target := by
    apply StreamM.ends_bind_of_eq_ok (opened_of_open hopen s.2)
    cases hplace : target.resolve s.1.cursor s.1.size with
    | error cause => exact ⟨⟨cause, rfl⟩, rfl⟩
    | ok place => exact ⟨rfl, hopen, rfl, rfl⟩

/-- The content and the cursor of a stream over memory, if it was not disposed. -/
def DeviceStream.held (s : DeviceStream MemoryDevice) : MemoryDevice :=
  s.device.get?.getD (.ofContent [])

/-- **A stream over memory is measured** as long as cursor and end are machine words. -/
theorem DeviceStream.measured {ω : Type} [Cancellation ω] :
    Measured ω (fun s : DeviceStream MemoryDevice × ω => s.1.device.isDisposed = false ∧
        s.1.held.Words)
      (fun s => s.1.held.cursor) fun s => s.1.held.content.length where
  position {s} hcalm := by
    obtain ⟨⟨slot, access⟩, w⟩ := s
    obtain ⟨hopen, hwords⟩ := hcalm
    cases slot with
    | disposed => cases hopen
    | live memory => exact onDevice_of_eq_ok (operate_here hwords) access
  length {s} hcalm := by
    obtain ⟨⟨slot, access⟩, w⟩ := s
    obtain ⟨hopen, hwords⟩ := hcalm
    cases slot with
    | disposed => cases hopen
    | live memory => exact onDevice_of_eq_ok (measure_apply hwords) access
  seek {s} hcalm target := by
    obtain ⟨⟨slot, access⟩, w⟩ := s
    obtain ⟨hopen, hwords⟩ := hcalm
    cases slot with
    | disposed => cases hopen
    | live memory =>
      have hseek : (seek target : StreamM ω (DeviceStream MemoryDevice) Nat).Ends
          (ofDevice memory access, w) _ _ := ends_seek hwords target
      apply hseek.mono
      · intro place s' hout
        obtain ⟨hresolve, rfl⟩ := hout
        have hmax := (SeekTarget.resolve_eq_ok_iff.mp hresolve).2
        exact ⟨hresolve, ⟨rfl, le_maxWord hmax, hwords.length_le⟩, rfl, rfl⟩
      · intro e s' hout
        obtain ⟨cause, hresolve, -, rfl⟩ := hout
        exact ⟨⟨cause, hresolve⟩, rfl⟩

/-! ## The length and the end -/

open Rebased MemoryDevice in
/-- **A seek from the end leads from the end of the base, wherever the layers begin.** After any
requests that do not give it up, a tower over a base of `n` bytes that begins `b` bytes after the
start of the base has the length `n - b`, or none if it begins behind the end. A seek to `offset`
from its end is granted exactly if `n + offset` is a position not before `b`; it answers how far
behind `b` that is, as a question for the position does then. Where the tower begins inside its base
this is what its length says. A seek that is refused leaves the base alone, unless every layer lets
it through by the length it finds below; that takes a layer under the outermost one that begins
behind the end, and then the base has moved. -/
theorem Rebased.seek_from_end {ω β : Type} [Cancellation ω] [ByteStream ω β]
    {calm : β × ω → Prop} {cursor size : β × ω → Nat} (h : Measured ω calm cursor size)
    (layers : List (Nat × Ownership)) (base : β) (w : ω) (requests : List Request)
    (hopen : ∀ request ∈ requests, request ≠ .dispose) :
    ∃ base' w', ByteStream.after requests
          ((tower layers base, w) : Stack (layers.map fun _ => .rebased) β × ω) =
        (tower layers base', w') ∧
      (calm (base', w') → ∀ n : Nat, size (base', w') = n → ∀ offset : Int,
        (ByteStream.length : StreamM ω (Stack (layers.map fun _ => .rebased) β) Nat)
            (tower layers base', w') =
          .ok (n - totalOrigin layers) (tower layers base', w') ∧
        if (totalOrigin layers : Int) ≤ n + offset ∧ n + offset ≤ maxPosition then
          ∃ (place : Nat) (s' : _),
            (ByteStream.seek (.fromEnd offset) :
                StreamM ω (Stack (layers.map fun _ => .rebased) β) Nat) (tower layers base', w') =
              .ok place s' ∧
            (place : Int) = n + offset - totalOrigin layers ∧
            (totalOrigin layers ≤ n → (place : Int) = (n - totalOrigin layers : Nat) + offset) ∧
            (ByteStream.position : StreamM ω (Stack (layers.map fun _ => .rebased) β) Nat) s' =
              .ok place s' ∧
            Towers calm cursor size layers n (totalOrigin layers + place) s'
        else
          ∃ e s',
            (ByteStream.seek (.fromEnd offset) :
                StreamM ω (Stack (layers.map fun _ => .rebased) β) Nat) (tower layers base', w') =
              .error e s' ∧
            (totalOrigin layers.tail ≤ n → s' = (tower layers base', w')) ∧
            if Admits n offset layers ∧ 0 ≤ n + offset ∧ n + offset ≤ maxPosition then
              Towers calm cursor size layers n (n + offset).toNat s'
            else s' = (tower layers base', w')) := by
  obtain ⟨base', heq⟩ := after_tower layers base w hopen
  refine ⟨base', _, Prod.ext heq rfl, ?_⟩
  intro hcalm n hn offset
  subst hn
  refine ⟨length_tower h hcalm layers, ?_⟩
  have hseek := ends_seek_tower h hcalm offset layers
  cases hresult : (ByteStream.seek (.fromEnd offset) :
      StreamM ω (Stack (layers.map fun _ => .rebased) β) Nat) (tower layers base', _) with
  | ok place s' =>
    obtain ⟨hplace, hmax, htowers⟩ := hseek.of_eq_ok hresult
    rw [if_pos (by omega)]
    refine ⟨place, s', rfl, by omega, by omega, ?_, htowers⟩
    -- the base stands where the seek led, so its place is told
    obtain ⟨stack, w'⟩ := s'
    obtain ⟨base'', hstack, hcalm', -, hcursor⟩ := htowers
    obtain rfl : stack = tower layers base'' := hstack
    have hposition := ends_position_tower h hcalm' layers
    have hnever : ∀ (_ : StreamError) s', cursor (base'', w') < totalOrigin layers ∧
        s' = (tower layers base'', w') → False := by
      intro _ _ hout
      have hcursor : cursor (base'', w') = totalOrigin layers + place := hcursor
      omega
    obtain ⟨place', s'', heq, hplace', rfl⟩ := (hposition.mono (fun _ _ h => h) hnever).exists_ok
    have hcursor : cursor (base'', w') = totalOrigin layers + place := hcursor
    obtain rfl : place' = place := by omega
    exact heq
  | error e s' =>
    obtain ⟨hrefused, hleft⟩ := hseek.of_eq_error hresult
    rw [if_neg hrefused]
    refine ⟨e, s', rfl, ?_, hleft⟩
    intro hinside
    have hnot : ¬ (Admits (size (base', _)) offset layers ∧ 0 ≤ (size (base', _) : Int) + offset ∧
        (size (base', _) : Int) + offset ≤ maxPosition) :=
      fun hall => hrefused ⟨le_of_admits hall.1 hinside hall.2.1, hall.2.2⟩
    rwa [if_neg hnot] at hleft

/-- Two layers over ten bytes, the lower one behind their end. -/
def behindEnd : List (Nat × Ownership) := [(5, .borrows), (20, .borrows)]

/-- The upper of two layers finds no length, and a seek to twelve bytes behind its end is refused.
The base, whose end is the tenth place, is at the place 22 then. -/
theorem Rebased.seek_from_end_behind_end :
    ∃ base w e s',
      (ByteStream.length : StreamM Surroundings (Stack (behindEnd.map fun _ => .rebased) _) Nat)
          (tower behindEnd base, w) = .ok 0 (tower behindEnd base, w) ∧
      (ByteStream.seek (.fromEnd 12) :
          StreamM Surroundings (Stack (behindEnd.map fun _ => .rebased) _) Nat)
          (tower behindEnd base, w) = .error e s' ∧
      Towers (fun s : DeviceStream MemoryDevice × Surroundings =>
          s.1.device.isDisposed = false ∧ s.1.held.Words)
        (fun s => s.1.held.cursor) (fun s => s.1.held.content.length) behindEnd 10 22 s' := by
  obtain ⟨base, w, hafter, hrun⟩ := Rebased.seek_from_end DeviceStream.measured behindEnd
    (MemoryDevice.mk [0, 1, 2, 3, 4, 5, 6, 7, 8, 9] 20).resizable Surroundings.initial []
    (List.forall_mem_nil _)
  cases hafter
  obtain ⟨hlength, hseek⟩ := hrun ⟨rfl, by decide, by decide⟩ 10 rfl 12
  rw [if_neg (by decide)] at hseek
  obtain ⟨e, s', hrefused, -, hleft⟩ := hseek
  rw [if_pos (by decide)] at hleft
  exact ⟨_, _, e, s', hlength, hrefused, hleft⟩

end LayeredStreams
