import LayeredStreams.Proofs.Cascade

/-!
# Disposal of windows

A window is disposed as the layers are that it is made of. Where a part of the stream is shown, the
stream below is disposed once if it is owned, and never otherwise. A window on the whole stream is
the stream itself, and so is every dispose that it receives.

* `Window.DisposesOnce` — a window that disposes the stream below once if it owns it, and otherwise
  never.
* `watchedZeros` — four zeros whose requests are entered in a journal.

Principal results: `Stack.count_after` (how often the base of a stack of open layers is disposed)
and `Window.disposals_of_part` (how often the stream below a window is).
-/

set_option autoImplicit false

namespace LayeredStreams

theorem Watched.calls_after {ω β : Type} [ByteStream ω β] (requests : List Request)
    (s : Watched β × Journal ω) :
    (ByteStream.after requests s).2.calls = requests.reverse ++ s.2.calls := by
  induction requests generalizing s with
  | nil => rfl
  | cons request requests ih =>
    rw [ByteStream.after_cons, ih, calls_final, List.reverse_cons, List.append_assoc]
    rfl

/-- The base of a stack of open layers is disposed once if the stack is and every layer owns what is
below, and otherwise never. -/
theorem Stack.count_after {ω β : Type} [Cancellation ω] [ByteStream ω β] {kind : LayerKind}
    {kinds : List LayerKind} {flags : List Ownership} {count : Nat}
    {s : Stack (kind :: kinds) (Watched β) × Journal ω}
    (h : Holds (Watched.Counts count) (kind :: kinds) flags s) (requests : List Request) :
    (ByteStream.after requests s).2.calls.count .dispose =
      count + if .dispose ∈ requests ∧ allOwn flags = true then 1 else 0 := by
  by_cases hmem : .dispose ∈ requests
  · obtain ⟨before, hbefore, heq⟩ := exists_after_eq h.ne_window s hmem
    have hcount := count_final_dispose (h.after (Watched.preserves_counts count) hbefore)
    rw [heq]
    simpa only [hmem, true_and] using hcount
  · have hcount := count_of_holds (h.after (Watched.preserves_counts count) hmem)
    rw [hcount, if_neg fun hboth => hmem hboth.1]
    rfl

namespace Window

variable {ω β : Type} [Cancellation ω] [ByteStream ω β] {ownership : Ownership} {count : Nat}

/-- Whatever is asked of the window, the stream below receives one more dispose than `count` if the
window is disposed and owns it, and none otherwise. -/
def DisposesOnce (ownership : Ownership) (count : Nat) (s : Window (Watched β) × Journal ω) :
    Prop :=
  ∀ requests : List Request, (ByteStream.after requests s).2.calls.count .dispose =
    count + if .dispose ∈ requests ∧ ownership.isOwner = true then 1 else 0

theorem disposesOnce_of_holds (kind : LayerKind) (kinds : List LayerKind) (flags : List Ownership)
    {f : Stack (kind :: kinds) (Watched β) → Window (Watched β)}
    (hcarries : ∀ request : Request, StreamM.Carries f
      (ByteStream.perform request : StreamM (Journal ω) _ request.Answer)
      (ByteStream.perform request))
    (hflags : Stack.allOwn flags = ownership.isOwner)
    {layer : Stack (kind :: kinds) (Watched β)} {w : Journal ω}
    (h : Stack.Holds (Watched.Counts count) (kind :: kinds) flags (layer, w)) :
    DisposesOnce ownership count (f layer, w) := by
  intro requests
  rw [ByteStream.after_carried hcarries, ← hflags]
  exact Stack.count_after h requests

theorem ends_truncate_disposesOnce {layer : Rebased (Watched β)} {s : Watched β × Journal ω}
    (h : LayerKind.rebased.Holds ownership (Watched.Counts count) (layer, s.2)) (size : Nat) :
    (truncate layer size : StreamM (Journal ω) (Watched β) _).Ends s
      (fun layer' s' => DisposesOnce ownership count (rebasedTruncated layer', s'.2))
      fun _ s' => Watched.Counts count s' := by
  have hrebased : ByteStream.Preserves (Journal ω)
      (LayerKind.rebased.Holds ownership (Watched.Counts (β := β) (ω := ω) count)) :=
    LayerKind.preserves (Watched.preserves_counts count) .rebased
  have hwrap := @Wrapping.ends_wrap_holds _ _ _ _ hrebased (.truncated size .owns) nofun _ h
  unfold truncate
  refine (StreamM.Ends.within hwrap).mono ?_ ?_
  · intro layer' s' hout
    obtain ⟨part, hholds, -⟩ := hout
    exact disposesOnce_of_holds .truncated [.rebased] [.owns, ownership] (fun _ _ _ => rfl)
      (by simp [Stack.allOwn, Ownership.isOwner]) hholds
  · intro e s' hout
    obtain ⟨part, ⟨below, -, hcount⟩, -⟩ := hout
    exact hcount

/-- **Windows honour the ownership of the stream below**, whichever layers they are made of: the
stream receives a dispose if the window does and owns it, and never a second one. A window on the
whole stream is made of none; it is the stream itself, and receives each dispose that is made. To
make a window, or to fail to, disposes nothing. -/
theorem disposals_of_part (offset : Nat) (size : Option Nat) (ownership : Ownership)
    (s₀ : Watched β × Journal ω) :
    (ofPart offset size ownership : StreamM (Journal ω) (Watched β) (Window (Watched β))).Ends s₀
      (fun window s₁ => ∀ requests : List Request,
        (ByteStream.after requests (window, s₁.2)).2.calls.count .dispose =
          s₀.2.calls.count .dispose +
            if offset = 0 ∧ size = none then requests.count .dispose
            else if .dispose ∈ requests ∧ ownership.isOwner = true then 1 else 0)
      fun _ s₁ => s₁.2.calls.count .dispose = s₀.2.calls.count .dispose := by
  have hcounts : Watched.Counts (s₀.2.calls.count .dispose) s₀ := rfl
  have hpreserves := Watched.preserves_counts (ω := ω) (β := β) (s₀.2.calls.count .dispose)
  cases offset with
  | zero =>
    cases size with
    | none =>
      refine StreamM.ends_state_bind (StreamM.ends_pure fun requests => ?_)
      rw [if_pos ⟨rfl, rfl⟩, ByteStream.after_carried (f := unwrapped) fun _ _ _ => rfl]
      rw [Watched.calls_after, List.count_append, List.count_reverse, Nat.add_comm]
    | some size =>
      have hwrap := @Wrapping.ends_wrap_holds _ _ _ _ hpreserves (.truncated size ownership) nofun
        _ hcounts
      refine hwrap.bind fun layer s₁ hlayer => StreamM.ends_pure fun requests => ?_
      rw [if_neg fun h => nomatch h.2]
      exact disposesOnce_of_holds .truncated [] [ownership] (fun _ _ _ => rfl)
        (by simp [Stack.allOwn]) hlayer requests
  | succ offset =>
    simp only [Nat.succ_ne_zero, false_and, if_false]
    refine (hpreserves (.seek (.fromStart (offset + 1))) nofun s₀ hcounts).bind ?_
    intro place s₁ h₁
    have hwrap := @Wrapping.ends_wrap_holds _ _ _ _ hpreserves (.rebased ownership) nofun _ h₁
    refine hwrap.bind ?_
    intro layer s₂ hlayer
    cases size with
    | none =>
      exact StreamM.ends_pure (disposesOnce_of_holds .rebased [] [ownership] (fun _ _ _ => rfl)
        (by simp [Stack.allOwn]) hlayer)
    | some size =>
      exact (ends_truncate_disposesOnce hlayer size).bind fun layer' s₃ honce =>
        StreamM.ends_pure honce

end Window

/-- Four zeros whose requests are entered in a journal. -/
def watchedZeros : Watched Zeros × Journal Surroundings := (⟨.ofSize 4⟩, ⟨[], .initial⟩)

/-- A window on the whole stream does not look at the ownership: the zeros are disposed although
they are borrowed, and where they are owned they receive the second dispose, too. -/
theorem whole_window_not_disposesOnce :
    ∃ window s₁, (∀ ownership, (Window.ofPart 0 none ownership :
        StreamM (Journal Surroundings) (Watched Zeros) _) watchedZeros = .ok window s₁) ∧
      ∀ ownership, ¬ Window.DisposesOnce ownership 0 (window, s₁.2) := by
  refine ⟨.unwrapped watchedZeros.1, watchedZeros, fun _ => rfl, ?_⟩
  intro ownership h
  cases ownership with
  | borrows =>
    have hone : 1 = 0 := h [.dispose]
    cases hone
  | owns =>
    have htwo : 2 = 1 := h [.dispose, .dispose]
    cases htwo

end LayeredStreams
