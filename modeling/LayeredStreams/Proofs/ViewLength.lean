import LayeredStreams.Proofs.CacheOverView

/-!
# Lengths of views

Whether the length that a stream reports is the number of bytes that are read from where it stands.
A rebased or truncated layer measures its length from that of the stream below and from where that
stands, so it counts right exactly where the stream below does, as far as the layer shows it.

* `ByteStream.Counts` — the length that a stream reports is the number of bytes read from where it
  stands.
* `Wrapping.shown` — how many bytes a layer shows of those that are left below.

Principal results: `View.result_length` and its like (what a view answers), `View.ends_wrap_shown`
(what a layer that was just made reports and what is read from it) and `Stack.counts_iff` (when the
two agree, for every stack without caches).
-/

set_option autoImplicit false

namespace LayeredStreams

/-- The length that a stream reports is the number of bytes that are read from where it stands. -/
def ByteStream.Counts {ω σ : Type} [ByteStream ω σ] (s : σ × ω) : Prop :=
  ∃ bytes, (readToEnd : StreamM ω σ Bytes).result s = .ok bytes ∧
    (ByteStream.length : StreamM ω σ Nat).result s = .ok bytes.length

/-- How many bytes a layer shows of those that are left below where it was put. -/
def Wrapping.shown (wrapping : Wrapping) (count : Nat) : Nat :=
  match wrapping with
  | truncated maxLength _ => min maxLength count
  | _ => count

namespace View

variable {ω σ : Type} [Cancellation ω] [ByteStream ω σ] {content : Bytes} {size : Nat}
  {stands : σ × ω → Nat → Prop} {s : σ × ω} {p : Nat}

theorem result_position (view : View content size stands) (h : stands s p) :
    (ByteStream.position : StreamM ω σ Nat).result s = .ok p := by
  obtain ⟨_, s', hposition, rfl, -⟩ := (view.ends_position h).exists_ok
  exact StreamM.result_of_eq_ok hposition

theorem result_length (view : View content size stands) (h : stands s p) :
    (ByteStream.length : StreamM ω σ Nat).result s = .ok size := by
  obtain ⟨_, s', hlength, rfl, -⟩ := (view.ends_length h).exists_ok
  exact StreamM.result_of_eq_ok hlength

theorem result_readToEnd (view : View content size stands) (h : stands s p) :
    (readToEnd : StreamM ω σ Bytes).result s = .ok (content.drop p) := by
  obtain ⟨s', hread⟩ := view.readToEnd_eq (length_lt_readLimit view.fits) h
  exact StreamM.result_of_eq_ok hread

theorem drop_take_boundary (view : View content size stands) (p maxLength : Nat) :
    (content.take (saturatingAdd p maxLength)).drop p = (content.drop p).take maxLength := by
  have hfits := view.fits
  rw [List.drop_take]
  unfold saturatingAdd
  by_cases hword : p + maxLength ≤ maxWord
  · rw [Nat.min_eq_left hword, Nat.add_sub_cancel_left]
  · -- a boundary beyond the machine words cuts nothing off
    have hlength : (content.drop p).length ≤ maxPosition - p := by
      rw [List.length_drop]
      exact Nat.sub_le_sub_right hfits p
    rw [Nat.min_eq_right (Nat.le_of_not_le hword)]
    unfold maxPosition at hlength
    unfold maxWord at *
    rw [List.take_of_length_le (by omega), List.take_of_length_le (by omega)]

/-- A rebased or truncated layer that was just put over a view reports what the view reports behind
where it stands, as far as the layer shows it; as much is read from it of what is left to read. -/
theorem ends_wrap_shown (view : View content size stands) (h : stands s p)
    {wrapping : Wrapping} (hkind : wrapping.kind = .rebased ∨ wrapping.kind = .truncated) :
    (wrapping.wrap : StreamM ω σ (wrapping.kind.Over σ)).Ends s
      (fun layer s' =>
        (ByteStream.length : StreamM ω (wrapping.kind.Over σ) Nat).result (layer, s'.2) =
          .ok (wrapping.shown (size - p)) ∧
        (readToEnd : StreamM ω (wrapping.kind.Over σ) Bytes).result (layer, s'.2) =
          .ok ((content.drop p).take (wrapping.shown (content.drop p).length)))
      fun _ _ => True := by
  cases wrapping with
  | rebased ownership =>
    refine (Rebased.ends_wrap view h ownership).mono ?_ fun _ _ _ => trivial
    intro layer s' hlayer
    have rebased := view.rebased p ownership
    refine ⟨rebased.result_length hlayer, (rebased.result_readToEnd hlayer).trans ?_⟩
    show _ = Except.ok ((content.drop p).take (content.drop p).length)
    rw [List.take_length, List.drop_zero]
  | truncated maxLength ownership =>
    refine (Truncated.ends_wrap view h maxLength ownership).mono ?_ fun _ _ _ => trivial
    intro layer s' hout
    obtain ⟨hmax, hlayer⟩ := hout
    have truncated := view.truncated p hmax ownership
    refine ⟨truncated.result_length hlayer, (truncated.result_readToEnd hlayer).trans ?_⟩
    rw [view.drop_take_boundary, Wrapping.shown, ← List.take_eq_take_min]
  | passthrough | readOnly | cached | window => rcases hkind with hkind | hkind <;> cases hkind

end View

/-- A layer cuts two counts to the same, the one no more than the other, exactly if the lesser one
still covers what it shows. -/
theorem Wrapping.shown_eq_iff (wrapping : Wrapping) {count count' : Nat} (h : count ≤ count') :
    wrapping.shown count = wrapping.shown count' ↔ wrapping.shown count' ≤ count := by
  unfold shown
  split
  · omega
  · omega

theorem Wrapping.shown_le (wrapping : Wrapping) (count : Nat) : wrapping.shown count ≤ count := by
  cases wrapping with
  | truncated maxLength ownership => exact Nat.min_le_right _ _
  | _ => exact Nat.le_refl _

namespace Stack

variable {ω β : Type} [Cancellation ω] [ByteStream ω β] {content : Bytes}
  {stands : β × ω → Nat → Prop} {kinds : List LayerKind} {s : Stack kinds β × ω}

/-- **When the length of a view counts what can be read.** Over a base that does not fail, a stack
without caches that stands at `p` and reports the length `size` has some bytes left to read. A
rebased or truncated layer that is put over it shows as many of them as it may, and reports no more
than lies between `p` and `size`. The two agree exactly if what it shows is no more than that, and
they always do over a stack without truncated layers. -/
theorem counts_iff (base : View content content.length stands)
    (h : Stack.Reached .granted (fun s => ∃ p, stands s p) kinds s) (hcached : .cached ∉ kinds)
    {wrapping : Wrapping} (hkind : wrapping.kind = .rebased ∨ wrapping.kind = .truncated)
    {layer : wrapping.kind.Over (Stack kinds β)} {s' : Stack kinds β × ω}
    (hmade : (wrapping.wrap : StreamM ω (Stack kinds β) _) s = .ok layer s') :
    ∃ (p size : Nat) (bytes : Bytes),
      (ByteStream.position : StreamM ω (Stack kinds β) Nat).result s = .ok p ∧
      (ByteStream.length : StreamM ω (Stack kinds β) Nat).result s = .ok size ∧
      (readToEnd : StreamM ω (Stack kinds β) Bytes).result s = .ok bytes ∧
      (ByteStream.length : StreamM ω (wrapping.kind.Over (Stack kinds β)) Nat).result
        (layer, s'.2) = .ok (wrapping.shown (size - p)) ∧
      (readToEnd : StreamM ω (wrapping.kind.Over (Stack kinds β)) Bytes).result (layer, s'.2) =
        .ok (bytes.take (wrapping.shown bytes.length)) ∧
      (ByteStream.Counts (ω := ω) (layer, s'.2) ↔ wrapping.shown bytes.length ≤ size - p) ∧
      (.truncated ∉ kinds → .window ∉ kinds → ByteStream.Counts (layer, s'.2)) := by
  obtain ⟨content', size, stands', p, view, hstands, hsize⟩ := Reached.viewed base h hcached
  obtain ⟨hlength, hread⟩ := (view.ends_wrap_shown hstands hkind).of_eq_ok hmade
  have hcounts : ByteStream.Counts (ω := ω) (layer, s'.2) ↔
      wrapping.shown (content'.drop p).length ≤ size - p := by
    have hle : size - p ≤ (content'.drop p).length := by
      rw [List.length_drop]
      exact Nat.sub_le_sub_right view.size_le p
    unfold ByteStream.Counts
    rw [hlength, hread, ← wrapping.shown_eq_iff hle]
    simp [wrapping.shown_le]
  refine ⟨p, size, content'.drop p, view.result_position hstands, view.result_length hstands,
    view.result_readToEnd hstands, hlength, hread, hcounts, fun htruncated hwindow => ?_⟩
  rw [hcounts, hsize ⟨htruncated, hwindow⟩, ← List.length_drop]
  exact wrapping.shown_le _

/-- A rebased layer over the last four of 4100 zeros, which a truncated layer shows. -/
def rebasedLastZeros : Rebased (Stack [.truncated] Zeros) × Surroundings :=
  (⟨.ofStream lastZeros.1 .borrows, 4096⟩, .initial)

/-- Four zeros are read from the layer, and the length that it reports is zero. -/
theorem rebasedLastZeros_not_counts :
    (readToEnd : StreamM Surroundings (Rebased (Stack [.truncated] Zeros)) Bytes).result
        rebasedLastZeros = .ok (Bytes.zeros 4) ∧
      (ByteStream.length : StreamM Surroundings (Rebased (Stack [.truncated] Zeros)) Nat).result
        rebasedLastZeros = .ok 0 ∧
      ¬ ByteStream.Counts rebasedLastZeros := by
  have hmade : ((Wrapping.rebased .borrows).wrap :
      StreamM Surroundings (Stack [.truncated] Zeros) _) lastZeros =
        .ok rebasedLastZeros.1 lastZeros := rfl
  obtain ⟨p, size, bytes, hposition, hlength, hread, hlayerLength, hlayerRead, hcounts, -⟩ :=
    counts_iff (Zeros.view 4100 (by decide)) reached_lastZeros (by decide) (.inl rfl) hmade
  obtain rfl : 4096 = p := Except.ok.inj hposition
  obtain rfl : 4 = size := Except.ok.inj hlength
  obtain rfl : Bytes.zeros 4 = bytes := Except.ok.inj hread
  refine ⟨hlayerRead, hlayerLength, fun h => ?_⟩
  exact absurd (hcounts.mp h) (by decide)

end Stack

end LayeredStreams
