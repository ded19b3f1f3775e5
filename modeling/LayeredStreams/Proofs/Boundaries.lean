import LayeredStreams.Proofs.CalmProbe
import LayeredStreams.Proofs.Cascade

/-!
# The boundaries of a stack

Every truncated layer of a stack ends its reads with a count of its own. Told of the base, they all
end at one place: the least of the boundaries and of the length of the base.

* `Stack.origin`, `Stack.boundaries` — the place of the base that a stack counts as zero, and the
  places of the base at which its layers end.
* `Stack.WithinBoundaries` — a stack that is bounded by its boundaries, over a base that is in
  order.
* `ReadsWithin content limit q room bytes` — what one read gives that ends at the limit.

Principal results: `Wrapping.ends_wrap_withinBoundaries` (a layer that is no cache and no window
leaves a stack within its boundaries), `Stack.Reached.withinBoundaries` (and so does every request)
and `Stack.Reached.reads_within` (no stack reads past any of its boundaries or stops short of them).
-/

set_option autoImplicit false

namespace LayeredStreams

/-! ## Where the layers of a stack end -/

namespace LayerKind

variable {σ : Type}

/-- How far a layer moves the place that counts as zero. -/
def offset : (kind : LayerKind) → kind.Over σ → Nat
  | rebased, layer => Rebased.baseOffset layer
  | _, _ => 0

/-- The position of the stream below at which a layer ends, if it has a boundary. -/
def boundary? : (kind : LayerKind) → kind.Over σ → Option Nat
  | truncated, layer => some (Truncated.origin layer + Truncated.maxLength layer)
  | _, _ => none

end LayerKind

namespace Stack

variable {ω β : Type}

/-- The place of the base that a stack counts as zero: the base offsets of its rebased layers,
together. -/
def origin : (kinds : List LayerKind) → Stack kinds β → Nat
  | [], _ => 0
  | kind :: kinds, layer => ((kind.below? layer).map (origin kinds)).getD 0 + kind.offset layer

/-- The places of the base at which the layers of a stack end: each boundary, shifted by the base
offsets of the rebased layers below it. -/
def boundaries : (kinds : List LayerKind) → Stack kinds β → List Nat
  | [], _ => []
  | kind :: kinds, layer =>
    match kind.below? layer with
    | some below =>
      ((kind.boundary? layer).map (origin kinds below + ·)).toList ++ boundaries kinds below
    | none => []

/-- A stack with an origin and boundaries, over a base that stands at `q`. -/
def Tells (stands : Bytes → β × ω → Nat → Prop) (kinds : List LayerKind) (start : Nat)
    (bounds : List Nat) (content : Bytes) (s : Stack kinds β × ω) (q : Nat) : Prop :=
  ∃ bottom, base? kinds s.1 = some bottom ∧ stands content (bottom, s.2) q ∧
    origin kinds s.1 = start ∧ boundaries kinds s.1 = bounds

/-- One more layer moves the origin by its offset, and adds its boundary. -/
theorem Tells.cons {stands : Bytes → β × ω → Nat → Prop} (kind : LayerKind)
    {kinds : List LayerKind} {start : Nat} {bounds : List Nat} {content : Bytes}
    {layer : kind.Over (Stack kinds β)} {below : Stack kinds β} {w : ω} {q : Nat}
    (hbelow : kind.below? layer = some below)
    (h : Tells stands kinds start bounds content (below, w) q) :
    Tells stands (kind :: kinds) (start + kind.offset layer)
      (((kind.boundary? layer).map (start + ·)).toList ++ bounds) content (layer, w) q := by
  obtain ⟨bottom, hbase, hstands, rfl, rfl⟩ := h
  refine ⟨bottom, ?_, hstands, ?_, ?_⟩
  · show (kind.below? layer).bind (base? kinds) = some bottom
    rw [hbelow]
    exact hbase
  · show ((kind.below? layer).map (origin kinds)).getD 0 + kind.offset layer = _
    rw [hbelow]
    rfl
  · show (match kind.below? layer with
      | some below =>
        ((kind.boundary? layer).map (origin kinds below + ·)).toList ++ boundaries kinds below
      | none => []) = _
    rw [hbelow]

variable [Cancellation ω] [ByteStream ω β]

/-- A stack that is bounded by its boundaries, over a base that is in order. -/
def WithinBoundaries (stands : Bytes → β × ω → Nat → Prop) (kinds : List LayerKind)
    (s : Stack kinds β × ω) : Prop :=
  ∃ start bounds shows, Enduring (ω := ω) (σ := Stack kinds β) start bounds shows ∧
    Somewhere shows s ∧
    ∀ content s q, shows content s q → Tells stands kinds start bounds content s q

end Stack

section Layers

variable {ω β : Type} [Cancellation ω] [ByteStream ω β] {stands : Bytes → β × ω → Nat → Prop}
  {kinds : List LayerKind} {s : Stack kinds β × ω}

namespace Stack.WithinBoundaries

theorem passthrough (h : WithinBoundaries stands kinds s) (ownership : Ownership) :
    WithinBoundaries stands (.passthrough :: kinds) (Passthrough.ofStream s.1 ownership, s.2) := by
  obtain ⟨start, bounds, shows, enduring, ⟨content, q, hs⟩, htells⟩ := h
  refine ⟨_, _, _, enduring.passthrough ownership, ⟨content, q, s.1, rfl, hs⟩, ?_⟩
  rintro content ⟨layer, w⟩ q ⟨below, rfl, hshows⟩
  exact Stack.Tells.cons .passthrough rfl (htells _ _ _ hshows)

theorem readOnly (h : WithinBoundaries stands kinds s) :
    WithinBoundaries stands (.readOnly :: kinds) (ReadOnly.ofStream s.1, s.2) := by
  obtain ⟨start, bounds, shows, enduring, ⟨content, q, hs⟩, htells⟩ := h
  refine ⟨_, _, _, enduring.readOnly .borrows, ⟨content, q, s.1, rfl, hs⟩, ?_⟩
  rintro content ⟨layer, w⟩ q ⟨below, rfl, hshows⟩
  exact Stack.Tells.cons .readOnly rfl (htells _ _ _ hshows)

theorem rebased (h : WithinBoundaries stands kinds s) (ownership : Ownership) :
    (Rebased.wrap ownership : StreamM ω (Stack kinds β) _).Ends s
      (fun layer s' => WithinBoundaries stands (.rebased :: kinds) (layer, s'.2))
      fun _ _ => True := by
  obtain ⟨start, bounds, shows, enduring, ⟨content, q, hs⟩, htells⟩ := h
  refine StreamM.Ends.bind (StreamM.Ends.mono (enduring.position hs) (fun _ _ h => h)
    fun _ _ _ => trivial) ?_
  rintro place s' ⟨_, ⟨-, rfl⟩, hs'⟩
  refine StreamM.ends_state_bind (StreamM.ends_pure ?_)
  refine ⟨_, _, _, enduring.rebased place ownership, ⟨content, _, rfl, s'.1, rfl, hs'⟩, ?_⟩
  rintro content ⟨⟨base, offset⟩, w⟩ q ⟨rfl, below, rfl, hshows⟩
  exact Stack.Tells.cons .rebased rfl (htells _ _ _ hshows)

theorem truncated (h : WithinBoundaries stands kinds s) (maxLength : Nat) (ownership : Ownership) :
    (Truncated.wrap maxLength ownership : StreamM ω (Stack kinds β) _).Ends s
      (fun layer s' => WithinBoundaries stands (.truncated :: kinds) (layer, s'.2))
      fun _ _ => True := by
  obtain ⟨start, bounds, shows, enduring, ⟨content, q, hs⟩, htells⟩ := h
  unfold Truncated.wrap
  split
  · exact trivial
  refine StreamM.Ends.bind (StreamM.Ends.mono (enduring.position hs) (fun _ _ h => h)
    fun _ _ _ => trivial) ?_
  rintro place s' ⟨_, ⟨hplace, rfl⟩, hs'⟩
  refine StreamM.ends_state_bind (StreamM.ends_pure ?_)
  refine ⟨_, _, _, enduring.toBounded.truncated place maxLength ownership,
    ⟨content, _, place, hplace, ⟨rfl, rfl, rfl⟩, s'.1, rfl, hs'⟩, ?_⟩
  rintro content ⟨⟨base, origin, length, cursor⟩, w⟩ q ⟨_, -, ⟨rfl, rfl, -⟩, below, rfl, hshows⟩
  exact Stack.Tells.cons .truncated rfl (htells _ _ _ hshows)

end Stack.WithinBoundaries

/-- **A layer that is no cache and no window leaves a stack within its boundaries.** -/
theorem Wrapping.ends_wrap_withinBoundaries (h : Stack.WithinBoundaries stands kinds s)
    {wrapping : Wrapping}
    (hcached : wrapping.kind ≠ .cached) (hwindow : wrapping.kind ≠ .window) :
    (wrapping.wrap : StreamM ω (Stack kinds β) _).Ends s
      (fun layer s' => Stack.WithinBoundaries stands (wrapping.kind :: kinds) (layer, s'.2))
      fun _ _ => True := by
  cases wrapping with
  | passthrough ownership => exact h.passthrough ownership
  | rebased ownership => exact h.rebased ownership
  | truncated maxLength ownership => exact h.truncated maxLength ownership
  | readOnly => exact h.readOnly
  | cached => exact absurd rfl hcached
  | window => exact absurd rfl hwindow

/-- Whatever a stack without caches and windows was asked, it is within its boundaries. -/
theorem Stack.Reached.withinBoundaries (base : Enduring 0 [] stands)
    (h : Stack.Reached .undisposed (Somewhere stands) kinds s) (hcached : .cached ∉ kinds)
    (hwindow : .window ∉ kinds) : Stack.WithinBoundaries stands kinds s := by
  have hkeeps : Rules.undisposed.Keeps fun kinds (s : Stack kinds β × ω) =>
      .cached ∉ kinds → .window ∉ kinds → Stack.WithinBoundaries stands kinds s := {
    ask := by
      intro kinds s request hwithin hne
      refine StreamM.ends_of_final fun hcached hwindow => ?_
      obtain ⟨start, bounds, shows, enduring, hsomewhere, htells⟩ := hwithin hcached hwindow
      have hkept := (enduring.preserves request hne _ hsomewhere).final
      exact ⟨start, bounds, shows, enduring, hkept, htells⟩
    change := fun _ hpermits => hpermits.elim
    wrap := by
      intro kinds s wrapping hwithin hmade
      obtain ⟨layer, s', heq, -⟩ := hmade.exists_ok
      refine StreamM.ends_of_eq_ok heq fun hcached hwindow => ?_
      rw [List.mem_cons, not_or] at hcached hwindow
      have hwrapped := Wrapping.ends_wrap_withinBoundaries (hwithin hcached.2 hwindow.2)
        (Ne.symm hcached.1) (Ne.symm hwindow.1)
      exact hwrapped.of_eq_ok heq
    unwrap := fun _ hpermits _ => hpermits.elim }
  refine h.keeps hkeeps ?_ hcached hwindow
  exact fun s hs _ _ => ⟨0, [], stands, base, hs, fun _ s _ h => ⟨s.1, rfl, h, rfl, rfl⟩⟩

/-- What one read gives that ends at the limit: bytes that stand at the cursor, none of them behind
the limit, and none at all only at the limit or behind it. -/
structure ReadsWithin (content : Bytes) (limit q room : Nat) (bytes : Bytes) : Prop where
  eq_window : bytes = content.window q bytes.length
  length_le : bytes.length ≤ room
  le_limit : bytes ≠ [] → q + bytes.length ≤ limit
  eq_nil_iff : bytes = [] ↔ limit ≤ q

theorem Delivers.readsWithin {content bytes : Bytes} {limit q room : Nat}
    (h : Delivers (content.take limit) q room bytes) (hlimit : limit ≤ content.length)
    (hroom : 0 < room) : ReadsWithin content limit q room bytes := by
  have hcut : (content.take limit).length = limit := List.length_take_of_le hlimit
  have hle : bytes.length ≤ limit - q := hcut ▸ h.length_le_sub
  refine ⟨?_, h.length_le, ?_, ?_, ?_⟩
  · have heq := h.eq_window
    rwa [Bytes.window_take, Nat.min_eq_left hle] at heq
  · intro hne
    have hpos := List.length_pos_iff.mpr hne
    omega
  · intro hnil
    exact Nat.le_of_not_lt fun hlt => h.ne_nil hroom (by omega) hnil
  · intro hend
    exact List.eq_nil_of_length_eq_zero (by omega)

end Layers

/-- **No stack reads past any of its boundaries or stops short of them.** -/
theorem Stack.Reached.reads_within {ω β : Type} [Cancellation ω] [ByteStream ω β]
    {content : β × ω → Bytes} {cursor : β × ω → Nat} {calm : β × ω → Prop}
    (base : Enduring 0 [] (Standing calm content cursor))
    {kinds : List LayerKind} (hcached : .cached ∉ kinds) (hwindow : .window ∉ kinds)
    {s : Stack kinds β × ω} (h : Stack.Reached .undisposed calm kinds s) :
    ∃ bottom, Stack.base? kinds s.1 = some bottom ∧ calm (bottom, s.2) ∧
      ∀ (mode : Mode) (room : Nat), mode.isCancelled s.2 = false → 0 < room →
        ∃ bytes s', (ByteStream.read mode room : StreamM ω (Stack kinds β) Bytes) s = .ok bytes s' ∧
          ReadsWithin (content (bottom, s.2))
            ((content (bottom, s.2)).limit (Stack.boundaries kinds s.1)) (cursor (bottom, s.2))
            room bytes := by
  have hcalm : Somewhere (Standing calm content cursor) = calm := by
    funext s
    apply propext
    constructor
    · rintro ⟨_, _, hs, -, -⟩
      exact hs
    · intro hs
      exact ⟨_, _, hs, rfl, rfl⟩
  rw [← hcalm] at h
  obtain ⟨start, bounds, shows, enduring, ⟨D, q, hshows⟩, htells⟩ :=
    h.withinBoundaries base hcached hwindow
  obtain ⟨bottom, hbase, ⟨hbottom, rfl, rfl⟩, -, hbounds⟩ := htells D s q hshows
  refine ⟨bottom, hbase, hbottom, ?_⟩
  intro mode room hmode hroom
  have hnever : ∀ (_ : StreamError) (q' : Nat),
      mode.isCancelled s.2 = true ∧ q' = cursor (bottom, s.2) → False := by
    rintro _ _ ⟨hcancelled, -⟩
    rw [hmode] at hcancelled
    cases hcancelled
  have hread := (enduring.read hshows mode room).mono (fun _ _ h => h) hnever
  obtain ⟨bytes, _, s', heq, ⟨hdelivers, -⟩, -⟩ := hread.exists_ok
  rw [← hbounds] at hdelivers
  exact ⟨bytes, s', heq, hdelivers.readsWithin (Bytes.limit_le_length _ _) hroom⟩

/-- A probe of ten bytes that gives at most two of them at a time, and only one the second time. -/
def chunkedProbe : Probe where
  scripted := .ofContent [0, 1, 2, 3, 4, 5, 6, 7, 8, 9] (some 2)
    ⟨[("read", [.none, .atMost 1])]⟩ 0
  claimedLength := none
  offers _ := true
  limits _ := none
  disposed := false

theorem chunkedProbe_calm : Probe.Calm (chunkedProbe, .initial) where
  isOpen := rfl
  fits := by decide
  chunk_ne := by decide
  harmless name fault hmem := by
    by_cases hname : name = "read"
    · subst hname
      have hfaults : fault = .none ∨ fault = .atMost 1 := by
        simpa using show fault ∈ [Fault.none, .atMost 1] from hmem
      rcases hfaults with rfl | rfl
      · rfl
      · rfl
    · have hempty : chunkedProbe.scripted.script.queue name = [] := by
        simp [chunkedProbe, ScriptedContent.ofContent, Script.queue, List.lookup_cons,
          beq_false_of_ne hname]
      rw [hempty] at hmem
      cases hmem

/-- A truncated view of a rebased view of a truncated view of that probe ends at the place 7, one
byte behind its cursor after a read. -/
theorem Stack.Reached.reads_within_nested :
    ∃ s, Stack.Reached .undisposed Probe.Calm [.truncated, .rebased, .truncated] s ∧
      Stack.boundaries [.truncated, .rebased, .truncated] s.1 = [7, 8] ∧
      ∃ bytes s', (ByteStream.read .blocking 5 :
          StreamM Surroundings (Stack [.truncated, .rebased, .truncated] Probe) Bytes) s =
        .ok bytes s' ∧ ReadsWithin [0, 1, 2, 3, 4, 5, 6, 7, 8, 9] 7 6 5 bytes := by
  have h₀ : Stack.Reached .undisposed Probe.Calm [] (chunkedProbe, .initial) :=
    .base chunkedProbe_calm
  have h₁ := (h₀.asked (.setPosition 2) nofun).wrapped (.truncated 6 .owns) trivial rfl
  have h₂ := (h₁.asked (.setPosition 3) nofun).wrapped (.rebased .borrows) trivial rfl
  have h₃ := (h₂.asked (.seek (.fromCurrent 1)) nofun).wrapped (.truncated 3 .owns) trivial rfl
  have h₄ := h₃.asked (.read .blocking 5) nofun
  obtain ⟨bottom, hbase, -, hreads⟩ :=
    Stack.Reached.reads_within Probe.enduring (by decide) (by decide) h₄
  obtain ⟨bytes, s', heq, hwithin⟩ := hreads .blocking 5 rfl (by decide)
  cases hbase
  exact ⟨_, h₄, rfl, bytes, s', heq, hwithin⟩

end LayeredStreams
