import LayeredStreams.Proofs.HiddenCursors
import LayeredStreams.Proofs.Resizing

/-!
# Windows that are refused

A window is made by a seek, a question where the stream stands, and the layers that are put over it.
Each of these steps may be refused, and the earlier ones are not taken back.

* `Seeks kept` — a stream that is at the target once a seek from the start is granted, and that is
  `kept` where the seek is refused.
* `LayerKind.Kept`, `Stack.Kept` — the same layers, where nothing is told of what lies below a
  cached layer.

Principal results: `LayerKind.seeks` (a layer over a stream that seeks does so as well),
`Stack.eq_of_kept` (without a cached layer nothing at all is changed) and `Stack.refused_part` (what
is left of a stream on which no window could be made).
-/

set_option autoImplicit false

namespace LayeredStreams

/-- A stream that says it is at the target once a seek from the start is granted, and that is left
`kept` by one that is refused. -/
structure Seeks (ω : Type) {σ : Type} [ByteStream ω σ] (kept : σ → σ → Prop) : Prop where
  kept_self : ∀ stream, kept stream stream
  seek : ∀ (s : σ × ω) (target : Nat),
    (ByteStream.seek (.fromStart target) : StreamM ω σ Nat).Ends s
      (fun place s' => place = target ∧ (ByteStream.position : StreamM ω σ Nat) s' = .ok target s')
      fun _ s' => kept s.1 s'.1

theorem Seeks.ends_conducted {ω σ τ : Type} [ByteStream ω σ] [ByteStream ω τ]
    {kept : σ → σ → Prop} (h : Seeks ω kept) (f : σ → τ) (hf : ByteStream.Conducts ω f) (part : σ)
    (w : ω) (target : Nat) :
    (ByteStream.seek (.fromStart target) : StreamM ω τ Nat).Ends (f part, w)
      (fun place s' => place = target ∧ (ByteStream.position : StreamM ω τ Nat) s' = .ok target s')
      fun _ s' => ∃ part', s'.1 = f part' ∧ kept part part' := by
  refine ((hf _ rfl).ends_of (h.seek (part, w) target)).mono ?_ fun _ _ h => h
  intro place s' hout
  obtain ⟨part', heq, hplace, hposition⟩ := hout
  obtain ⟨_, w'⟩ := s'
  obtain rfl := heq
  exact ⟨hplace, (hf .position rfl).eq_ok hposition⟩

/-! ## Bases -/

section Bases

variable {ω : Type} [Cancellation ω]

theorem Zeros.seeks : Seeks ω fun zeros zeros' : Zeros => zeros = zeros' where
  kept_self _ := rfl
  seek := by
    rintro ⟨⟨cursor, size, disposed⟩, w⟩ target
    cases disposed with
    | true => exact StreamM.ends_of_eq_error (by rfl) rfl
    | false =>
      refine StreamM.ends_bind_of_eq_ok (opened_of_open rfl w) ?_
      rw [SeekTarget.resolve_fromStart]
      split
      · exact ⟨rfl, rfl⟩
      · exact rfl

/-- A device is not asked about a place beyond the greatest position. -/
theorem DeviceStream.seeks :
    Seeks ω fun stream stream' : DeviceStream MemoryDevice => stream = stream' where
  kept_self _ := rfl
  seek := by
    rintro ⟨⟨device, access⟩, w⟩ target
    refine StreamM.Ends.bind ((StreamM.ends_ofExcept _).mono (fun _ _ h => h) ?_) ?_
    · rintro _ _ ⟨-, -, -, rfl⟩
      exact rfl
    rintro place _ ⟨hplace, rfl⟩
    obtain ⟨hdestination, hle⟩ := SeekTarget.resolve_eq_ok_iff.mp hplace
    obtain rfl : target = place := Int.ofNat_inj.mp hdestination
    have hword := le_maxWord hle
    cases device with
    | disposed => exact rfl
    | live memory =>
      refine StreamM.ends_of_eq_ok (onDevice_of_eq_ok (operate_seek rfl hword) access) ⟨rfl, ?_⟩
      exact onDevice_of_eq_ok (operate_seek (Int.add_zero _) hword) access

theorem ResizedBase.seeks (base : ResizedBase) :
    Seeks ω fun stream stream' : base.Over => stream = stream' := by
  cases base with
  | zeros => exact Zeros.seeks
  | memory => exact DeviceStream.seeks

end Bases

/-! ## Layers -/

section Layers

variable {ω σ : Type} [ByteStream ω σ]

theorem Passthrough.seeks {kept : σ → σ → Prop} (h : Seeks ω kept) :
    Seeks ω (Beside kept) where
  kept_self := beside_self h.kept_self
  seek := by
    rintro ⟨⟨slot, ownership⟩, w⟩ target
    cases slot with
    | disposed => exact ⟨rfl, .disposed⟩
    | live stream =>
      refine (h.ends_conducted _ (Passthrough.conducts ownership) stream w target).mono
        (fun _ _ h => h) ?_
      rintro e ⟨_, w'⟩ ⟨stream', rfl, hkept⟩
      exact ⟨rfl, .live hkept⟩

variable {kept : Passthrough σ → Passthrough σ → Prop}

/-- A place that the layer below is taken to is one of the layer. -/
theorem Rebased.seeks (h : Seeks ω kept) : Seeks ω (Beside kept) where
  kept_self layer := ⟨rfl, h.kept_self layer.base⟩
  seek := by
    rintro ⟨layer, w⟩ target
    refine ((ends_targetBelow_fromStart rfl target).mono (fun _ _ h => h) ?_).bind ?_
    · rintro _ _ ⟨-, rfl⟩
      exact ⟨rfl, h.kept_self layer.base⟩
    rintro _ _ ⟨rfl, rfl⟩
    refine ((h.seek (layer.base, w) (target + layer.baseOffset)).within.mono
      (fun _ _ h => h) ?_).bind ?_
    · rintro e ⟨_, w'⟩ ⟨base, hkept, rfl⟩
      exact ⟨rfl, hkept⟩
    rintro place ⟨_, w'⟩ ⟨base, ⟨rfl, hposition⟩, rfl⟩
    have hback : fromBase (target + layer.baseOffset) ({ layer with base := base }, w') =
        .ok target ({ layer with base := base }, w') := by
      simp [fromBase, StreamM.bind_apply]
    refine StreamM.ends_of_eq_ok hback ⟨rfl, ?_⟩
    show (onBase ByteStream.position >>= fromBase) _ = _
    rw [StreamM.bind_apply, onBase, StreamM.within_eq_ok hposition]
    exact hback

theorem Truncated.seeks (h : Seeks ω kept) : Seeks ω (Beside kept) where
  kept_self layer := ⟨rfl, h.kept_self layer.base⟩
  seek := by
    rintro ⟨layer, w⟩ target
    refine ((h.seek (layer.base, w) target).within.mono (fun _ _ h => h) ?_).bind ?_
    · rintro e ⟨_, w'⟩ ⟨base, hkept, rfl⟩
      exact ⟨rfl, hkept⟩
    rintro place ⟨_, w'⟩ ⟨base, ⟨rfl, hposition⟩, rfl⟩
    refine StreamM.ends_update_bind (StreamM.ends_pure ⟨rfl, ?_⟩)
    show onBase ByteStream.position ({ layer with base := base, cursor := place }, w') = _
    exact StreamM.within_eq_ok hposition

theorem ReadOnly.seeks (h : Seeks ω kept) : Seeks ω (Beside kept) where
  kept_self layer := h.kept_self layer.base
  seek := by
    rintro ⟨layer, w⟩ target
    show (onBase (ByteStream.seek (.fromStart target))).Ends (layer, w) _ _
    refine (h.seek (layer.base, w) target).within.mono ?_ ?_
    · rintro place ⟨_, w'⟩ ⟨base, ⟨rfl, hposition⟩, rfl⟩
      refine ⟨rfl, ?_⟩
      show onBase ByteStream.position (({ layer with base := base } : ReadOnly σ), w') = _
      exact StreamM.within_eq_ok hposition
    · rintro e ⟨_, w'⟩ ⟨base, hkept, rfl⟩
      exact hkept

/-- A refused seek leaves the cursor and the blocks, wherever it has moved the stream below. -/
theorem Cached.seeks [Cancellation ω] (h : Seeks ω kept) :
    Seeks ω (Beside fun _ _ : Passthrough σ => True) where
  kept_self := beside_self fun _ => trivial
  seek := by
    rintro ⟨layer, w⟩ target
    show (Cached.seek (.fromStart target)).Ends (layer, w) _ _
    have hbad : ∀ layer' : Cached σ, layer'.cache = layer.cache ∧ layer'.cursor = layer.cursor →
        Beside (fun _ _ => True) layer layer' := by
      rintro ⟨base, cache, cursor⟩ ⟨rfl, rfl⟩
      exact ⟨⟨rfl, fun _ => rfl⟩, trivial⟩
    have hmoved : (ByteStream.setPosition layer.cursor : StreamM ω (Passthrough σ) Unit).Ends
        (layer.base, w) (fun _ _ => True) fun _ _ => True :=
      StreamM.ends_of_final trivial
    refine StreamM.ends_state_bind (((ends_onBase ⟨rfl, rfl⟩ hmoved).mono (fun _ _ h => h.1)
      fun _ s' h => hbad s'.1 h.1).bind ?_)
    rintro _ s₁ hrest
    refine ((ends_onBase hrest (h.seek (s₁.1.base, s₁.2) target)).mono (fun _ _ h => h)
      fun _ s' h => hbad s'.1 h.1).bind ?_
    rintro place ⟨⟨⟨slot, ownership⟩, cache, cursor⟩, w'⟩ ⟨-, rfl, hposition⟩
    refine StreamM.ends_update_bind (StreamM.ends_pure ⟨rfl, ?_⟩)
    -- the layer says where its own cursor is, as long as there is a stream below
    cases slot with
    | disposed => cases hposition
    | live stream => rfl

end Layers

/-- Windows of one kind, over streams of which `beside` holds. -/
inductive Window.Beside {σ : Type} (beside : σ → σ → Prop) : Window σ → Window σ → Prop
  | unwrapped {stream stream' : σ} (h : beside stream stream') :
    Beside beside (.unwrapped stream) (.unwrapped stream')
  | rebased {layer layer' : Rebased σ}
    (h : Rebased.Beside (Passthrough.Beside beside) layer layer') :
    Beside beside (.rebased layer) (.rebased layer')
  | truncated {layer layer' : Truncated σ}
    (h : Truncated.Beside (Passthrough.Beside beside) layer layer') :
    Beside beside (.truncated layer) (.truncated layer')
  | rebasedTruncated {layer layer' : Truncated (Rebased σ)}
    (h : Truncated.Beside
      (Passthrough.Beside (Rebased.Beside (Passthrough.Beside beside))) layer layer') :
    Beside beside (.rebasedTruncated layer) (.rebasedTruncated layer')

theorem Window.seeks {ω σ : Type} [ByteStream ω σ] {kept : σ → σ → Prop} (h : Seeks ω kept) :
    Seeks ω (Beside kept) := by
  have hrebased := Rebased.seeks (Passthrough.seeks h)
  have htruncated := Truncated.seeks (Passthrough.seeks h)
  have hboth := Truncated.seeks (Passthrough.seeks hrebased)
  constructor
  · intro window
    cases window with
    | unwrapped stream => exact .unwrapped (h.kept_self stream)
    | rebased layer => exact .rebased (hrebased.kept_self layer)
    | truncated layer => exact .truncated (htruncated.kept_self layer)
    | rebasedTruncated layer => exact .rebasedTruncated (hboth.kept_self layer)
  · rintro ⟨window, w⟩ target
    cases window with
    | unwrapped stream =>
      refine (h.ends_conducted unwrapped (fun _ _ _ _ => rfl) stream w target).mono
        (fun _ _ h => h) ?_
      rintro e ⟨_, w'⟩ ⟨stream', rfl, hkept⟩
      exact .unwrapped hkept
    | rebased layer =>
      refine (hrebased.ends_conducted rebased (fun _ _ _ _ => rfl) layer w target).mono
        (fun _ _ h => h) ?_
      rintro e ⟨_, w'⟩ ⟨layer', rfl, hkept⟩
      exact .rebased hkept
    | truncated layer =>
      refine (htruncated.ends_conducted truncated (fun _ _ _ _ => rfl) layer w target).mono
        (fun _ _ h => h) ?_
      rintro e ⟨_, w'⟩ ⟨layer', rfl, hkept⟩
      exact .truncated hkept
    | rebasedTruncated layer =>
      refine (hboth.ends_conducted rebasedTruncated (fun _ _ _ _ => rfl) layer w
        target).mono (fun _ _ h => h) ?_
      rintro e ⟨_, w'⟩ ⟨layer', rfl, hkept⟩
      exact .rebasedTruncated hkept

namespace LayerKind

variable {σ : Type}

/-- Two layers of a kind that are the same, over streams of which `kept` holds. Nothing is told of
what lies below a cached layer. -/
def Kept (kept : σ → σ → Prop) : (kind : LayerKind) → kind.Over σ → kind.Over σ → Prop
  | passthrough => Passthrough.Beside kept
  | rebased => Rebased.Beside (Passthrough.Beside kept)
  | truncated => Truncated.Beside (Passthrough.Beside kept)
  | readOnly => ReadOnly.Beside (Passthrough.Beside kept)
  | cached => Cached.Beside fun _ _ => True
  | window => Window.Beside kept

/-- **A layer over a stream that seeks does so as well.** -/
theorem seeks {ω : Type} [Cancellation ω] [ByteStream ω σ] {kept : σ → σ → Prop}
    (h : Seeks ω kept) : ∀ kind : LayerKind, Seeks ω (kind.Kept kept)
  | passthrough => Passthrough.seeks h
  | rebased => Rebased.seeks (Passthrough.seeks h)
  | truncated => Truncated.seeks (Passthrough.seeks h)
  | readOnly => ReadOnly.seeks (Passthrough.seeks h)
  | cached => Cached.seeks (Passthrough.seeks h)
  | window => Window.seeks h

/-- A layer that is no cache is the same where the stream below is. -/
theorem eq_of_kept {kept : σ → σ → Prop} (h : ∀ {stream stream'}, kept stream stream' →
    stream = stream') {kind : LayerKind} (hcached : kind ≠ .cached) {layer layer' : kind.Over σ}
    (hkept : kind.Kept kept layer layer') : layer = layer' := by
  have hbase : ∀ {base base' : Passthrough σ}, Passthrough.Beside kept base base' → base = base' :=
    fun hbase => Passthrough.eq_of_beside (hbase.mono h)
  cases kind with
  | passthrough => exact hbase hkept
  | rebased => exact Rebased.eq_of_beside ⟨hkept.1, hbase hkept.2⟩
  | truncated => exact Truncated.eq_of_beside ⟨hkept.1, hbase hkept.2⟩
  | readOnly => exact congrArg ReadOnly.mk (hbase hkept)
  | cached => exact absurd rfl hcached
  | window =>
    cases hkept with
    | unwrapped hstream => rw [h hstream]
    | rebased hlayer => rw [Rebased.eq_of_beside ⟨hlayer.1, hbase hlayer.2⟩]
    | truncated hlayer => rw [Truncated.eq_of_beside ⟨hlayer.1, hbase hlayer.2⟩]
    | rebasedTruncated hlayer =>
      have hinner := hlayer.2.mono fun hrebased =>
        Rebased.eq_of_beside ⟨hrebased.1, hbase hrebased.2⟩
      rw [Truncated.eq_of_beside ⟨hlayer.1, Passthrough.eq_of_beside hinner⟩]

end LayerKind

namespace Stack

variable {β : Type}

/-- Two stacks that are the same down to the outermost cached layers, their blocks and cursors. -/
def Kept : (kinds : List LayerKind) → Stack kinds β → Stack kinds β → Prop
  | [] => fun base base' : β => base = base'
  | kind :: kinds => kind.Kept (Kept kinds)

/-- **Without a cached layer nothing at all is changed.** -/
theorem eq_of_kept : ∀ {kinds : List LayerKind} {stack stack' : Stack kinds β},
    .cached ∉ kinds → Kept kinds stack stack' → stack = stack'
  | [], _, _, _, hkept => hkept
  | _ :: _, _, _, hcached, hkept =>
    LayerKind.eq_of_kept (eq_of_kept fun hmem => hcached (List.mem_cons_of_mem _ hmem))
      (fun hkind => hcached (hkind ▸ List.mem_cons_self)) hkept

/-- The recursion is on the layers. -/
theorem seeks {ω : Type} [Cancellation ω] [ByteStream ω β]
    (h : Seeks ω fun base base' : β => base = base') :
    ∀ kinds : List LayerKind, Seeks ω (Kept kinds : Stack kinds β → Stack kinds β → Prop)
  | [] => h
  | kind :: kinds => kind.seeks (seeks h kinds)

end Stack

/-! ## Windows that are made -/

namespace Window

variable {ω σ : Type} [ByteStream ω σ] {s s' : σ × ω} {offset : Nat}

/-- A length that is none is looked at before anything else is asked of the stream. -/
theorem ofPart_zero_of_long {size : Nat} (hsize : maxPosition < size) (ownership : Ownership) :
    (ofPart 0 (some size) ownership : StreamM ω σ _) s =
      .error (.refusal (.argumentOutOfRange "max_length" size)) s := by
  show (Truncated.wrap size ownership >>= fun layer => pure (truncated layer)) s = _
  rw [StreamM.bind_apply, Truncated.wrap, if_pos hsize]
  rfl

theorem ofPart_of_seek_error {e : StreamError} (hoffset : 0 < offset)
    (hseek : (ByteStream.seek (.fromStart offset) : StreamM ω σ Nat) s = .error e s')
    (size : Option Nat) (ownership : Ownership) :
    (ofPart offset size ownership : StreamM ω σ _) s = .error e s' := by
  obtain ⟨offset, rfl⟩ := Nat.exists_eq_succ_of_ne_zero (Nat.ne_of_gt hoffset)
  show (ByteStream.seek (.fromStart (offset + 1)) >>= fun _ => _) s = _
  rw [StreamM.bind_apply, hseek]

theorem truncate_of_position {place : Nat}
    (hposition : (ByteStream.position : StreamM ω σ Nat) s = .ok place s) (size : Nat)
    (ownership : Ownership) :
    (truncate ⟨.ofStream s.1 ownership, place⟩ size : StreamM ω σ _) s =
      if maxPosition < size then .error (.refusal (.argumentOutOfRange "max_length" size)) s
      else .ok ⟨.ofStream ⟨.ofStream s.1 ownership, place⟩ .owns, 0, size, 0⟩ s := by
  have hstart : (ByteStream.position : StreamM ω (Rebased σ) Nat)
      (⟨.ofStream s.1 ownership, place⟩, s.2) = .ok 0 (⟨.ofStream s.1 ownership, place⟩, s.2) := by
    show (Rebased.onBase ByteStream.position >>= Rebased.fromBase) _ = _
    have hbase := (Passthrough.carries_forward ownership ByteStream.position).eq_ok hposition
    rw [StreamM.bind_apply, Rebased.onBase, StreamM.within_eq_ok hbase]
    simp [Rebased.fromBase, StreamM.bind_apply]
    rfl
  unfold truncate StreamM.within Truncated.wrap
  by_cases hsize : maxPosition < size
  · rw [if_pos hsize, if_pos hsize]
    rfl
  · rw [if_neg hsize, if_neg hsize]
    simp only [StreamM.bind_apply, StreamM.pure_apply, StreamM.state_apply, hstart]
    rfl

theorem ofPart_of_seek_ok {place : Nat} (hoffset : 0 < offset)
    (hseek : (ByteStream.seek (.fromStart offset) : StreamM ω σ Nat) s = .ok place s')
    (hposition : (ByteStream.position : StreamM ω σ Nat) s' = .ok offset s') (size : Option Nat)
    (ownership : Ownership) :
    (ofPart offset size ownership : StreamM ω σ _) s =
      let layer : Rebased σ := ⟨.ofStream s'.1 ownership, offset⟩
      match size with
      | none => .ok (.rebased layer) s'
      | some size =>
        if maxPosition < size then .error (.refusal (.argumentOutOfRange "max_length" size)) s'
        else .ok (.rebasedTruncated ⟨.ofStream layer .owns, 0, size, 0⟩) s' := by
  obtain ⟨offset, rfl⟩ := Nat.exists_eq_succ_of_ne_zero (Nat.ne_of_gt hoffset)
  have hwrap : (Rebased.wrap ownership : StreamM ω σ _) s' =
      .ok ⟨.ofStream s'.1 ownership, offset + 1⟩ s' := by
    unfold Rebased.wrap
    rw [StreamM.bind_apply, hposition]
    rfl
  unfold ofPart
  cases size with
  | none => simp only [StreamM.bind_apply, StreamM.pure_apply, hseek, hwrap]
  | some size =>
    simp only [StreamM.bind_apply, StreamM.pure_apply, hseek, hwrap, truncate_of_position hposition]
    by_cases hsize : maxPosition < size
    · simp only [if_pos hsize]
    · simp only [if_neg hsize]

end Window

/-- **What is left of a stream on which no window could be made.** Of any stack over zeros or
memory, in whatever state it is, a length that is none is refused before anything else is asked, as
long as there is no offset. A refused offset leaves the stream where it was; only what lies below a
cached layer may have been moved. Once the offset is granted the stream stands there, and it goes on
standing there if the length is refused then. Nothing else is refused. -/
theorem Stack.refused_part {ω : Type} [Cancellation ω] (base : ResizedBase)
    {kinds : List LayerKind} (s : Stack kinds base.Over × ω) (ownership : Ownership) :
    (∀ size, maxPosition < size →
      (Window.ofPart 0 (some size) ownership : StreamM ω (Stack kinds base.Over) _) s =
        .error (.refusal (.argumentOutOfRange "max_length" size)) s) ∧
    ∀ offset, 0 < offset →
      match (ByteStream.seek (.fromStart offset) : StreamM ω (Stack kinds base.Over) Nat) s with
      | .error e s' =>
        (∀ size, Window.ofPart offset size ownership s = .error e s') ∧ Kept kinds s.1 s'.1 ∧
          (.cached ∉ kinds → s'.1 = s.1)
      | .ok _ s' =>
        (ByteStream.position : StreamM ω (Stack kinds base.Over) Nat) s' = .ok offset s' ∧
          (∀ size, maxPosition < size → Window.ofPart offset (some size) ownership s =
            .error (.refusal (.argumentOutOfRange "max_length" size)) s') ∧
          ∀ size : Option Nat, (∀ count ∈ size, count ≤ maxPosition) →
            ∃ window, Window.ofPart offset size ownership s = .ok window s' := by
  refine ⟨fun size hsize => Window.ofPart_zero_of_long hsize ownership, fun offset hoffset => ?_⟩
  have hends := (seeks base.seeks kinds).seek s offset
  unfold StreamM.Ends at hends
  cases hseek : (ByteStream.seek (.fromStart offset) : StreamM ω (Stack kinds base.Over) Nat) s with
  | error e s' =>
    rw [hseek] at hends
    refine ⟨fun size => Window.ofPart_of_seek_error hoffset hseek size ownership, hends, ?_⟩
    exact fun hcached => (eq_of_kept hcached hends).symm
  | ok place s' =>
    rw [hseek] at hends
    obtain ⟨-, hposition⟩ := hends
    have hpart := Window.ofPart_of_seek_ok hoffset hseek hposition
    refine ⟨hposition, fun size hsize => ?_, fun size hsize => ?_⟩
    · rw [hpart]
      exact if_pos hsize
    · rw [hpart]
      cases size with
      | none => exact ⟨_, rfl⟩
      | some count => exact ⟨_, if_neg (Nat.not_lt.mpr (hsize count rfl))⟩

/-- A cached layer at the end of six bytes in memory. -/
def cachedAtEnd : Stack [.cached] (ResizedBase.memory.Over) :=
  let memory : DeviceStream MemoryDevice := .ofDevice (.ofContent [0, 1, 2, 3, 4, 5]) .fixedLength
  (⟨.ofStream memory .borrows, .empty, 5⟩ : Cached (DeviceStream MemoryDevice))

/-- A hundred zeros are left at the place 30 by a length that is refused. An offset that is refused
leaves a cached layer at its cursor, and takes the memory below there. -/
theorem Stack.refused_part_moved :
    (Window.ofPart 30 (some (maxPosition + 1)) .borrows :
        StreamM Surroundings (Stack [] ResizedBase.zeros.Over) _) (Zeros.ofSize 100, .initial) =
      .error (.refusal (.argumentOutOfRange "max_length" (maxPosition + 1 : Nat)))
        ((⟨30, 100, false⟩ : Zeros), .initial) ∧
    (Window.ofPart (maxPosition + 1) none .borrows :
        StreamM Surroundings (Stack [.cached] ResizedBase.memory.Over) _) (cachedAtEnd, .initial) =
      .error (.refusal (.invalidSeek (maxPosition + 1 : Nat)))
        ((⟨.ofStream (.ofDevice ⟨[0, 1, 2, 3, 4, 5], 5⟩ .fixedLength) .borrows, .empty, 5⟩ :
          Cached (DeviceStream MemoryDevice)), .initial) := by
  refine ⟨?_, ?_⟩
  · have hzeros := Stack.refused_part .zeros
      (show Stack [] ResizedBase.zeros.Over × Surroundings from (Zeros.ofSize 100, .initial))
        .borrows
    exact (hzeros.2 30 (by decide)).2.1 _ (by decide)
  · have hcached := Stack.refused_part .memory
      (show Stack [.cached] ResizedBase.memory.Over × Surroundings from (cachedAtEnd, .initial))
      .borrows
    exact (hcached.2 (maxPosition + 1) (by decide)).1 none

end LayeredStreams
