import LayeredStreams.Proofs.AlignedStacks
import LayeredStreams.Proofs.RangedStacks

/-!
# Seeks to where a stream stands

A caller who asks a stream where it stands, and one who seeks to where it stands, should be told the
same, and should not be able to tell afterwards which of the two was asked.

* `Returns` — a stream that is aligned with what it was when it is sought to where it stands.

Principal results: `Stack.returns` (a stack does return, however many cached layers it has) and
`Stack.tells_place` (what both callers are told in every open state, and that they are told the same
position and told apart by no later request in every state that is reached without leading a cursor
out of range).
-/

set_option autoImplicit false

namespace LayeredStreams

/-- What holds of a part and of what becomes of it holds of what they are embedded in. -/
theorem StreamM.Carries.ends_related {ω σ τ α : Type} {f : σ → τ} {act : StreamM ω σ α}
    {act' : StreamM ω τ α} (hcarries : StreamM.Carries f act act') {related : σ → σ → Prop}
    {related' : τ → τ → Prop} {part : σ} {w : ω}
    (hrelated : ∀ {part'}, related part part' → related' (f part) (f part'))
    (h : act.Ends (part, w) (fun _ s' => related part s'.1 ∧ s'.2 = w) fun _ _ => True) :
    act'.Ends (f part, w) (fun _ s' => related' (f part) s'.1 ∧ s'.2 = w) fun _ _ => True := by
  apply (hcarries.ends_of h).mono
  · intro _ s' hout
    obtain ⟨part', heq, hpart, hw⟩ := hout
    rw [heq]
    exact ⟨hrelated hpart, hw⟩
  · intro _ _ _
    trivial

/-- A stream that strays no further than its cursors when it is moved, and is aligned with what it
was when it is sought to where it stands. -/
structure Returns (ω : Type) {σ : Type} [ByteStream ω σ] (bearing : σ × ω → Bearing → Prop)
    (reaches : σ → Nat → Prop) (strayed aligned : σ → σ → Prop) : Prop where
  reaches_of : ∀ {stream : σ} {w : ω} {x : Bearing}, bearing (stream, w) x → ∀ {place : Nat},
    x.origin + place ≤ maxPosition → reaches stream place
  setPosition : ∀ {stream : σ} {w : ω} {x : Bearing}, bearing (stream, w) x → x.ranged →
    ∀ {target : Nat}, x.origin + target ≤ maxPosition →
      (ByteStream.setPosition target : StreamM ω σ Unit).Ends (stream, w)
        (fun _ s' => strayed stream s'.1 ∧ s'.2 = w) fun _ _ => True
  seek : ∀ {stream : σ} {w : ω} {x : Bearing}, bearing (stream, w) x → x.ranged →
    (ByteStream.seek (.fromCurrent 0) : StreamM ω σ Nat).Ends (stream, w)
      (fun _ s' => aligned stream s'.1 ∧ s'.2 = w) fun _ _ => True

/-! ## Bases -/

section Bases

variable {ω : Type} [Cancellation ω]

theorem Zeros.returns : Returns ω HasBearing (fun _ place => place ≤ maxPosition) Zeros.Strayed
    fun zeros zeros' => zeros = zeros' where
  reaches_of hs place hle := by
    obtain ⟨-, rfl⟩ := hs
    exact Nat.le_trans (Nat.le_add_left _ _) hle
  setPosition {zeros w x} hs _ target _ := by
    obtain ⟨hopen, -⟩ := hs
    apply StreamM.ends_bind_of_eq_ok (opened_of_open hopen w)
    split
    · exact ⟨⟨target, rfl⟩, rfl⟩
    · trivial
  seek {zeros w x} hs _ := by
    obtain ⟨hopen, -⟩ := hs
    apply StreamM.ends_bind_of_eq_ok (opened_of_open hopen w)
    cases hplace : (SeekTarget.fromCurrent 0).resolve zeros.cursor zeros.size with
    | error cause => trivial
    | ok place =>
      have hdestination := (SeekTarget.resolve_eq_ok_iff.mp hplace).1
      have hdestination : (zeros.cursor : Int) + 0 = place := hdestination
      obtain rfl : zeros.cursor = place := by omega
      exact ⟨rfl, rfl⟩

theorem DeviceStream.returns :
    Returns ω HasBearing (fun _ place => place ≤ maxPosition) DeviceStream.Strayed
      fun stream stream' => stream = stream' where
  reaches_of hs place hle := by
    obtain ⟨_, _, -, -, rfl⟩ := hs
    exact Nat.le_trans (Nat.le_add_left _ _) hle
  setPosition {stream w x} hs _ target _ := by
    obtain ⟨memory, access, hstream, hwords, -⟩ := hs
    obtain rfl : stream = ofDevice memory access := hstream
    apply StreamM.Ends.bind ((ends_seek hwords (.fromStart target)).mono (fun _ _ h => h) ?_)
    · intro place s' hout
      obtain ⟨hplace, rfl⟩ := hout
      have hword := le_maxWord (SeekTarget.resolve_eq_ok_iff.mp hplace).2
      exact ⟨.moved hwords.cursor_le hword access, rfl⟩
    · intro _ _ _
      trivial
  seek {stream w x} hs _ := by
    obtain ⟨memory, access, hstream, hwords, -⟩ := hs
    obtain rfl : stream = ofDevice memory access := hstream
    apply (ends_seek hwords (.fromCurrent 0)).mono
    · intro place s' hout
      obtain ⟨hplace, rfl⟩ := hout
      have hdestination := (SeekTarget.resolve_eq_ok_iff.mp hplace).1
      have hdestination : (memory.cursor : Int) + 0 = place := hdestination
      obtain rfl : memory.cursor = place := by omega
      exact ⟨rfl, rfl⟩
    · intro _ _ _
      trivial

theorem ResizedBase.returns (base : ResizedBase) :
    Returns ω (base.HasBearing : base.Over × ω → Bearing → Prop)
      (fun _ place => place ≤ maxPosition)
      base.Strayed fun stream stream' => stream = stream' := by
  cases base with
  | zeros => exact Zeros.returns
  | memory => exact DeviceStream.returns

end Bases

/-! ## Layers -/

section Layers

variable {ω σ : Type} [ByteStream ω σ] {bearing : σ × ω → Bearing → Prop}
  {reaches : σ → Nat → Prop} {strayed aligned : σ → σ → Prop}

namespace Passthrough

theorem returns (h : Returns ω bearing reaches strayed aligned) :
    Returns ω (HasBearing bearing) (Reaches reaches) (Beside strayed) (Beside aligned) where
  reaches_of hs place hle := by
    obtain ⟨ownership, stream, heq, hstream⟩ := hs
    obtain rfl := heq
    apply sound_live
    exact h.reaches_of hstream hle
  setPosition hs hranged target hle := by
    obtain ⟨ownership, stream, heq, hstream⟩ := hs
    obtain rfl := heq
    exact (carries_forward ownership _).ends_related (fun hrelated => ⟨rfl, .live hrelated⟩)
      (h.setPosition hstream hranged hle)
  seek hs hranged := by
    obtain ⟨ownership, stream, heq, hstream⟩ := hs
    obtain rfl := heq
    exact (carries_forward ownership _).ends_related (fun hrelated => ⟨rfl, .live hrelated⟩)
      (h.seek hstream hranged)

end Passthrough

end Layers

section Parts

variable {ω σ : Type} [ByteStream ω σ] {bearing : Passthrough σ × ω → Bearing → Prop}
  {reaches : Passthrough σ → Nat → Prop} {strayed aligned : Passthrough σ → Passthrough σ → Prop}

namespace Rebased

theorem returns (hfollows : FollowsBearing ω bearing)
    (h : Returns ω bearing reaches strayed aligned) :
    Returns ω (HasBearing bearing) (Reaches reaches) (Beside strayed) (Beside aligned) where
  reaches_of {layer w x} hs place hle := by
    obtain ⟨base, start⟩ := layer
    obtain ⟨y, hy, rfl⟩ : ∃ y, bearing (base, w) y ∧ x = y.rebase start := hs
    have hle : y.origin + start + place ≤ maxPosition := hle
    have hword : maxPosition ≤ maxWord := by decide
    refine ⟨?_, h.reaches_of hy ?_⟩
    · show place + start ≤ maxWord
      omega
    · show y.origin + (place + start) ≤ maxPosition
      omega
  setPosition {layer w x} hs hranged target hle := by
    obtain ⟨base, start⟩ := layer
    obtain ⟨y, hy, rfl⟩ : ∃ y, bearing (base, w) y ∧ x = y.rebase start := hs
    have hle : y.origin + start + target ≤ maxPosition := hle
    have hwords : maxPosition ≤ maxWord := by decide
    have hword : target + start ≤ maxWord := by omega
    have hplace : y.origin + (target + start) ≤ maxPosition := by omega
    have hset : (onBase (ByteStream.setPosition (target + start)) :
        StreamM ω (Rebased σ) Unit).Ends (⟨base, start⟩, w)
        (fun _ s' => Beside strayed ⟨base, start⟩ s'.1 ∧ s'.2 = w) fun _ _ => True :=
      (carries_base start _).ends_related (fun hrelated => ⟨rfl, hrelated⟩)
        (h.setPosition hy hranged.1 hplace)
    have heq :
        (ByteStream.setPosition target : StreamM ω (Rebased σ) Unit) (⟨base, start⟩, w) = _ :=
      setPosition_apply hword w
    unfold StreamM.Ends at hset ⊢
    rw [heq]
    exact hset
  seek {layer w x} hs hranged := by
    obtain ⟨base, start⟩ := layer
    obtain ⟨y, hy, rfl⟩ : ∃ y, bearing (base, w) y ∧ x = y.rebase start := hs
    apply StreamM.Ends.bind ((ends_targetBelow_hasBearing hfollows hy _).mono (fun _ _ h => h)
      fun _ _ _ => trivial)
    intro below s' hout
    obtain ⟨htranslates, rfl⟩ := hout
    obtain rfl := htranslates.fromCurrent rfl
    have hseek : (onBase (ByteStream.seek (.fromCurrent 0)) : StreamM ω (Rebased σ) Nat).Ends
        (⟨base, start⟩, w)
        (fun _ s' => Beside aligned ⟨base, start⟩ s'.1 ∧ s'.2 = w) fun _ _ => True :=
      (carries_base start _).ends_related (fun hrelated => ⟨rfl, hrelated⟩) (h.seek hy hranged.1)
    apply StreamM.Ends.bind hseek
    intro place s' hout
    obtain ⟨layer', w'⟩ := s'
    apply (ends_fromBase_mk place).mono
    · intro position s' hout'
      obtain ⟨-, rfl⟩ := hout'
      exact hout
    · intro _ _ _
      trivial

end Rebased

namespace ReadOnly

theorem returns (h : Returns ω bearing reaches strayed aligned) :
    Returns ω (HasBearing bearing) (fun (layer : ReadOnly σ) place => reaches layer.base place)
      (Beside strayed) (Beside aligned) where
  reaches_of hs _ hle := h.reaches_of hs hle
  setPosition hs hranged _ hle :=
    (carries_onBase _).ends_related id (h.setPosition hs hranged hle)
  seek hs hranged := (carries_onBase _).ends_related id (h.seek hs hranged)

end ReadOnly

/-- A part that is sought to where it stands says where that is, and is aligned with what it was. -/
theorem Returns.ends_seek (h : Returns ω bearing reaches strayed aligned)
    (hfollows : FollowsBearing ω bearing)
    {base : Passthrough σ} {w : ω} {y : Bearing} (hy : bearing (base, w) y) (hranged : y.ranged) :
    (ByteStream.seek (.fromCurrent 0) : StreamM ω (Passthrough σ) Nat).Ends (base, w)
      (fun place s' => y.origin + place = y.mark ∧ aligned base s'.1 ∧ s'.2 = w)
      fun _ _ => True := by
  apply ((hfollows.seek hy (.fromCurrent 0)).and (h.seek hy hranged)).mono
  · intro place s' hout
    obtain ⟨⟨_, ⟨hleads, -⟩, -⟩, hrelated⟩ := hout
    have hleads : ((y.origin + place : Nat) : Int) = y.mark + 0 := hleads
    exact ⟨by omega, hrelated⟩
  · intro _ _ _
    trivial

namespace Truncated

theorem returns (hfollows : FollowsBearing ω bearing)
    (h : Returns ω bearing reaches strayed aligned) :
    Returns ω (HasBearing bearing) (fun (layer : Truncated σ) place => reaches layer.base place)
      (Drifted strayed) (Beside aligned) where
  reaches_of hs place hle := by
    obtain ⟨y, hy, rfl⟩ := hs
    exact h.reaches_of hy hle
  setPosition {layer w x} hs hranged target hle := by
    obtain ⟨base, start, maxLength, cursor⟩ := layer
    obtain ⟨y, hy, rfl⟩ : ∃ y, bearing (base, w) y ∧ x = y.cut start maxLength cursor := hs
    have hset := (carries_base start maxLength cursor _).ends_of
      (h.setPosition hy hranged.1 hle)
    apply StreamM.Ends.bind (hset.mono (fun _ _ h => h) fun _ _ _ => trivial)
    intro _ s' hout
    obtain ⟨_, w'⟩ := s'
    obtain ⟨base', rfl, hstrayed, hw⟩ := hout
    exact ⟨⟨rfl, hstrayed⟩, hw⟩
  seek {layer w x} hs hranged := by
    obtain ⟨base, start, maxLength, cursor⟩ := layer
    obtain ⟨y, hy, rfl⟩ : ∃ y, bearing (base, w) y ∧ x = y.cut start maxLength cursor := hs
    have hsync : y.origin + cursor = y.mark := hranged.2
    have hseek := (carries_base start maxLength cursor _).ends_of
      (h.ends_seek hfollows hy hranged.1)
    show StreamM.Ends (onBase (ByteStream.seek (.fromCurrent 0)) >>= fun place =>
      moveTo place >>= fun _ => pure place) _ _ _
    apply StreamM.Ends.bind (hseek.mono (fun _ _ h => h) fun _ _ _ => trivial)
    intro place s' hout
    obtain ⟨_, w'⟩ := s'
    obtain ⟨base', rfl, hplace, haligned, hw⟩ := hout
    obtain rfl : place = cursor := by omega
    exact ⟨⟨rfl, haligned⟩, hw⟩

end Truncated

namespace Cached

variable [Cancellation ω]

theorem returns (hfollows : FollowsBearing ω bearing)
    (hopen : ∀ {s : Passthrough σ × ω} {x : Bearing}, bearing s x →
      (Passthrough.ensureOpen : StreamM ω (Passthrough σ) Unit) s = .ok () s)
    (hsettles : Settles ω strayed aligned) (hreaching : Reaching ω reaches strayed)
    (h : Returns ω bearing reaches strayed aligned) :
    Returns ω (HasBearing bearing) (fun (layer : Cached σ) place => reaches layer.base place)
      (Strayed reaches strayed) (Beside strayed) where
  reaches_of hs place hle := by
    obtain ⟨y, hy, rfl⟩ := hs
    exact h.reaches_of hy hle
  setPosition {layer w x} hs hranged target hle := by
    obtain ⟨base, cache, cursor⟩ := layer
    obtain ⟨y, hy, rfl⟩ : ∃ y, bearing (base, w) y ∧ x = y.cached cache cursor := hs
    have hcursor : y.origin + cursor ≤ maxPosition := hranged.2.1
    apply StreamM.ends_bind_of_eq_ok ((carries_layer cache cursor _).eq_ok (hopen hy))
    refine ⟨⟨fun _ => rfl, hsettles.drifted_self base, .inr ⟨?_, ?_⟩⟩, rfl⟩
    · exact h.reaches_of hy hcursor
    · exact h.reaches_of hy hle
  seek {layer w x} hs hranged := by
    obtain ⟨base, cache, cursor⟩ := layer
    obtain ⟨y, hy, rfl⟩ : ∃ y, bearing (base, w) y ∧ x = y.cached cache cursor := hs
    obtain ⟨hbelow, hcursor, -⟩ : y.ranged ∧ y.origin + cursor ≤ maxPosition ∧ _ := hranged
    show StreamM.Ends (Cached.seek (.fromCurrent 0)) _ _ _
    apply StreamM.ends_state_bind
    -- the stream below strays when it is taken to the cursor, and is found there
    have hset := (carries_layer cache cursor _).ends_of
      ((hfollows.setPosition hy cursor).and (h.setPosition hy hbelow hcursor))
    apply StreamM.Ends.bind (hset.mono (fun _ _ h => h) fun _ _ _ => trivial)
    intro _ s₁ hout
    obtain ⟨_, w₁⟩ := s₁
    obtain ⟨base₁, rfl, ⟨y₁, hmoved, hy₁⟩, hstrayed, rfl⟩ := hout
    have hseek := (carries_layer cache cursor _).ends_of
      (h.ends_seek hfollows hy₁ (hmoved.ranged hbelow hcursor))
    apply StreamM.Ends.bind (hseek.mono (fun _ _ h => h) fun _ _ _ => trivial)
    intro place s₂ hout
    obtain ⟨_, w₂⟩ := s₂
    obtain ⟨base₂, rfl, hplace, haligned, rfl⟩ := hout
    rw [hmoved.origin_eq, hmoved.mark_eq] at hplace
    obtain rfl : place = cursor := by omega
    have hall := hreaching.trans hstrayed (hsettles.drifted_of_agreed haligned)
    exact ⟨⟨⟨rfl, fun _ => rfl⟩, hall⟩, rfl⟩

end Cached

end Parts

/-! ## Layers of any kind, and stacks -/

section Kinds

variable {ω σ : Type} [ByteStream ω σ] {bearing : σ × ω → Bearing → Prop}
  {reaches : σ → Nat → Prop} {strayed aligned : σ → σ → Prop}

/-- A window returns as what it consists of does. -/
theorem Window.returns (hfollows : FollowsBearing ω bearing)
    (h : Returns ω bearing reaches strayed aligned) :
    Returns ω (HasBearing bearing) (LayerKind.Reaches reaches .window)
      (LayerKind.Strayed reaches strayed .window) (LayerKind.Aligned strayed aligned .window) := by
  have hbase := Passthrough.returns h
  have hlayer := Passthrough.followsBearing hfollows
  have hrebased := Rebased.returns hlayer hbase
  have htruncated := Truncated.returns hlayer hbase
  have hboth := Truncated.returns (Passthrough.followsBearing (Rebased.followsBearing hlayer))
    (Passthrough.returns hrebased)
  constructor
  case reaches_of =>
    intro window w x hs place hle
    cases window with
    | unwrapped stream => exact h.reaches_of hs hle
    | rebased layer => exact hrebased.reaches_of hs hle
    | truncated layer => exact htruncated.reaches_of hs hle
    | rebasedTruncated layer => exact hboth.reaches_of hs hle
  case setPosition =>
    intro window w x hs hranged target hle
    cases window with
    | unwrapped stream =>
      exact StreamM.Carries.ends_related (fun _ _ => rfl) .unwrapped (h.setPosition hs hranged hle)
    | rebased layer =>
      exact StreamM.Carries.ends_related (fun _ _ => rfl) .rebased
        (hrebased.setPosition hs hranged hle)
    | truncated layer =>
      exact StreamM.Carries.ends_related (fun _ _ => rfl) .truncated
        (htruncated.setPosition hs hranged hle)
    | rebasedTruncated layer =>
      exact StreamM.Carries.ends_related (fun _ _ => rfl) .rebasedTruncated
        (hboth.setPosition hs hranged hle)
  case seek =>
    intro window w x hs hranged
    cases window with
    | unwrapped stream =>
      exact StreamM.Carries.ends_related (fun _ _ => rfl) .unwrapped (h.seek hs hranged)
    | rebased layer =>
      exact StreamM.Carries.ends_related (fun _ _ => rfl) .rebased (hrebased.seek hs hranged)
    | truncated layer =>
      exact StreamM.Carries.ends_related (fun _ _ => rfl) .truncated (htruncated.seek hs hranged)
    | rebasedTruncated layer =>
      exact StreamM.Carries.ends_related (fun _ _ => rfl) .rebasedTruncated (hboth.seek hs hranged)

/-- **A layer of any kind returns, if the stream below does.** -/
theorem LayerKind.returns [Cancellation ω] (hfollows : FollowsBearing ω bearing)
    (hsettles : Settles ω strayed aligned) (hreaching : Reaching ω reaches strayed)
    (h : Returns ω bearing reaches strayed aligned) (kind : LayerKind) :
    Returns ω (kind.HasBearing bearing) (kind.Reaches reaches) (kind.Strayed reaches strayed)
      (kind.Aligned strayed aligned) := by
  have hbase := Passthrough.returns h
  have hlayer := Passthrough.followsBearing hfollows
  cases kind with
  | passthrough => exact hbase
  | rebased => exact Rebased.returns hlayer hbase
  | truncated => exact Truncated.returns hlayer hbase
  | readOnly => exact ReadOnly.returns hbase
  | cached =>
    exact Cached.returns hlayer Passthrough.ensureOpen_of_hasBearing (Passthrough.settles hsettles)
      (Passthrough.reaching hreaching) hbase
  | window => exact Window.returns hfollows h

end Kinds

namespace Stack

variable {ω : Type} [Cancellation ω]

/-- **A stack that is sought to where it stands is aligned with what it was.** The recursion is on
the layers. -/
theorem returns (base : ResizedBase) : ∀ kinds : List LayerKind,
    Returns ω (HasBearing (base.HasBearing : base.Over × ω → Bearing → Prop) kinds) (Reaches kinds)
      (Strayed base.Strayed kinds) (Aligned base.Strayed kinds)
  | [] => base.returns
  | kind :: kinds => kind.returns (followsBearing base.followsBearing kinds)
    (settles_strayed base.settles base.reaching kinds) (reaching_strayed base.reaching kinds)
    (returns base kinds)

end Stack

/-! ## What is told of a place -/

section Told

variable {ω σ : Type} [ByteStream ω σ] {bearing : σ × ω → Bearing → Prop} {s : σ × ω} {x : Bearing}

/-- A stream that stands before its origin has no position. -/
theorem FollowsBearing.position_eq_ok_iff (h : FollowsBearing ω bearing) (hs : bearing s x)
    (place : Nat) :
    (ByteStream.position : StreamM ω σ Nat).result s = .ok place ↔ x.origin + place = x.mark := by
  have hends := h.position hs
  unfold StreamM.Ends at hends
  unfold StreamM.result
  split at hends
  · simp only [Except.ok.injEq]
    omega
  · constructor
    · intro hok
      cases hok
    · intro hplace
      omega

/-- A stream can be sought to where it stands unless that is before its origin or out of range. -/
theorem FollowsBearing.seek_eq_ok_iff (h : FollowsBearing ω bearing) (hs : bearing s x)
    (place : Nat) :
    (ByteStream.seek (.fromCurrent 0) : StreamM ω σ Nat).result s = .ok place ↔
      x.origin + place = x.mark ∧ x.mark ≤ maxPosition := by
  have hends := h.seek hs (.fromCurrent 0)
  unfold StreamM.MovesBearing StreamM.Ends at hends
  unfold StreamM.result
  split at hends
  · rename_i there s' _
    obtain ⟨_, ⟨hleads, hle, -⟩, -⟩ := hends
    have hleads : ((x.origin + there : Nat) : Int) = x.mark + 0 := hleads
    simp only [Except.ok.injEq]
    omega
  · obtain ⟨_, ⟨hout, -⟩, -⟩ := hends
    have hout := hout rfl
    constructor
    · intro hok
      cases hok
    · intro hplace
      omega

end Told

/-- **Where a stack stands.** A stack over zeros or memory, in any open state, tells its position
exactly if it stands behind its origin, and can be sought there exactly if that is a place up to the
greatest position, too. A stack that was asked for nothing out of range tells its position, and a
seek there tells the same, and no later request tells whether there was such a seek. -/
theorem Stack.tells_place {ω : Type} [Cancellation ω] (base : ResizedBase) {kinds : List LayerKind}
    (s : Stack kinds base.Over × ω) :
    (∀ x, HasBearing base.HasBearing kinds s x → ∀ place,
      ((ByteStream.position : StreamM ω (Stack kinds base.Over) Nat).result s = .ok place ↔
        x.origin + place = x.mark) ∧
      ((ByteStream.seek (.fromCurrent 0) : StreamM ω (Stack kinds base.Over) Nat).result s =
        .ok place ↔ x.origin + place = x.mark ∧ x.mark ≤ maxPosition)) ∧
    (Reached (.inRange base.HasBearing) (Ranged base.HasBearing) kinds s →
      ∃ place s', place ≤ maxPosition ∧
      (ByteStream.position : StreamM ω (Stack kinds base.Over) Nat) s = .ok place s ∧
      (ByteStream.seek (.fromCurrent 0) : StreamM ω (Stack kinds base.Over) Nat) s = .ok place s' ∧
      ∀ requests : List Request,
        (∀ request : Request,
          (ByteStream.perform request : StreamM ω (Stack kinds base.Over) _).outcome
              (ByteStream.after requests s) =
            (ByteStream.perform request : StreamM ω (Stack kinds base.Over) _).outcome
              (ByteStream.after requests s')) ∧
        ByteStream.LooksAlike (ByteStream.after requests s).1 (ByteStream.after requests s').1
          (ByteStream.after requests s).2) := by
  have hfollows := followsBearing (ω := ω) base.followsBearing kinds
  constructor
  · intro x hs place
    exact ⟨hfollows.position_eq_ok_iff hs place, hfollows.seek_eq_ok_iff hs place⟩
  intro hreached
  obtain ⟨x, hs, hranged⟩ := hreached.ranged base.followsBearing
  obtain ⟨horigin, hmark⟩ := hfollows.range hs hranged
  obtain ⟨stack, w⟩ := s
  have htold : (ByteStream.position : StreamM ω (Stack kinds base.Over) Nat).Ends (stack, w)
      (fun place s' => x.origin + place = x.mark ∧ s' = (stack, w)) fun _ _ => False :=
    (hfollows.position hs).mono (fun _ _ h => h) fun _ _ hout => absurd hout.1 (by omega)
  obtain ⟨place, _, hposition, hplace, rfl⟩ := htold.exists_ok
  have hsought : (ByteStream.seek (.fromCurrent 0) : StreamM ω (Stack kinds base.Over) Nat).Ends
      (stack, w) (fun there s' => there = place ∧ Aligned base.Strayed kinds stack s'.1 ∧ s'.2 = w)
      fun _ _ => False := by
    apply ((hfollows.seek hs _).and ((returns base kinds).seek hs hranged)).mono
    · intro there s' hout
      obtain ⟨⟨_, ⟨hleads, -⟩, -⟩, haligned⟩ := hout
      have hleads : ((x.origin + there : Nat) : Int) = x.mark + 0 := hleads
      exact ⟨by omega, haligned⟩
    · intro _ _ hout
      obtain ⟨⟨_, ⟨hrefused, -⟩, -⟩, -⟩ := hout
      have hrefused := hrefused rfl
      omega
  obtain ⟨there, s', hseek, hthere, haligned, rfl⟩ := hsought.exists_ok
  subst hthere
  obtain ⟨stack', w⟩ := s'
  have hagrees := agrees_aligned (ω := ω) base kinds
  refine ⟨there, (stack', w), by omega, hposition, hseek, ?_⟩
  intro requests
  exact ⟨fun request => hagrees.outcome_after haligned requests request w,
    hagrees.looks_after haligned requests w⟩

/-- Two bytes in memory, a cached layer over them and one that counts from the second of them, which
stands at `place`. -/
def rebasedCached (place : Nat) : Stack [.rebased, .cached] ResizedBase.memory.Over :=
  let memory : DeviceStream MemoryDevice := .ofDevice ⟨[0, 1], 1⟩ .fixedLength
  let cached : Cached (DeviceStream MemoryDevice) := ⟨.ofStream memory .borrows, .empty, place + 1⟩
  (⟨.ofStream cached .borrows, 1⟩ : Rebased (Cached (DeviceStream MemoryDevice)))

theorem hasBearing_rebasedCached (place : Nat) (w : Surroundings) :
    Stack.HasBearing ResizedBase.memory.HasBearing [.rebased, .cached] (rebasedCached place, w)
      (((Bearing.ofBase 1 2 False).cached .empty (place + 1)).rebase 1) := by
  have hmemory : DeviceStream.HasBearing (.ofDevice ⟨[0, 1], 1⟩ .fixedLength, w)
      (.ofBase 1 2 False) :=
    DeviceStream.hasBearing_ofDevice ⟨by decide, by decide⟩
  have hcached : Cached.HasBearing (Passthrough.HasBearing DeviceStream.HasBearing)
      (⟨.ofStream (.ofDevice ⟨[0, 1], 1⟩ .fixedLength) .borrows, .empty, place + 1⟩, w)
      ((Bearing.ofBase 1 2 False).cached .empty (place + 1)) :=
    ⟨_, Passthrough.hasBearing_live hmemory .borrows, rfl⟩
  exact ⟨_, Passthrough.hasBearing_live hcached .borrows, rfl⟩

theorem reached_rebasedCached (w : Surroundings) :
    Stack.Reached (.inRange ResizedBase.memory.HasBearing) (Ranged ResizedBase.memory.HasBearing)
      [.rebased, .cached] (rebasedCached 0, w) := by
  have hmemory : Ranged ResizedBase.memory.HasBearing
      ((.ofDevice ⟨[0, 1], 1⟩ .fixedLength : DeviceStream MemoryDevice), w) :=
    ⟨.ofBase 1 2 False, DeviceStream.hasBearing_ofDevice ⟨by decide, by decide⟩, by decide,
      by decide⟩
  have hbase : Stack.Reached (.inRange ResizedBase.memory.HasBearing)
      (Ranged ResizedBase.memory.HasBearing) [] _ := .base hmemory
  have hcached := hbase.wrapped (.cached .borrows) trivial rfl
  exact hcached.wrapped (.rebased .borrows) trivial rfl

/-- Taken to the greatest position, the layer says that it is there and cannot be sought there,
since the place of the base is one further. Where it is made it can be sought to where it stands. -/
theorem Stack.tells_place_of_far :
    ((ByteStream.position : StreamM Surroundings _ Nat).result
        (rebasedCached maxPosition, .initial) = .ok maxPosition ∧
      ∀ place, (ByteStream.seek (.fromCurrent 0) : StreamM Surroundings _ Nat).result
        (rebasedCached maxPosition, .initial) ≠ .ok place) ∧
    ∃ s', (ByteStream.seek (.fromCurrent 0) : StreamM Surroundings _ Nat)
        (rebasedCached 0, .initial) = .ok 0 s' ∧
      (ByteStream.read .blocking 5 : StreamM Surroundings _ Bytes).outcome
          (rebasedCached 0, .initial) =
        (ByteStream.read .blocking 5 : StreamM Surroundings _ Bytes).outcome s' := by
  constructor
  · have htold := (Stack.tells_place .memory (rebasedCached maxPosition, Surroundings.initial)).1 _
      (hasBearing_rebasedCached maxPosition .initial)
    refine ⟨(htold maxPosition).1.mpr (by decide), ?_⟩
    intro place hseek
    have hfar := ((htold place).2.mp hseek).2
    exact absurd hfar (by decide)
  · have htold := (Stack.tells_place .memory (rebasedCached 0, Surroundings.initial)).2
      (reached_rebasedCached .initial)
    obtain ⟨place, s', -, hposition, hseek, hsame⟩ := htold
    have hzero := ((Stack.tells_place .memory (rebasedCached 0, Surroundings.initial)).1 _
      (hasBearing_rebasedCached 0 .initial) place).1.mp (StreamM.result_of_eq_ok hposition)
    have hzero : 1 + place = 1 := hzero
    obtain rfl : place = 0 := by omega
    exact ⟨s', hseek, (hsame []).1 (.read .blocking 5)⟩

end LayeredStreams
