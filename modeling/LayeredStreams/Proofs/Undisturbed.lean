import LayeredStreams.Proofs.HiddenCursors
import Mathlib.Control.Monad.Basic

/-!
# Callers that a failure of the base does not disturb

A request to a stack may make several calls of the base, and any of them may be made to fail after
earlier ones have moved the streams in between.

Principal results: `Stack.undisturbed_by_failure` (the request ends with the error of the call, and
the caller finds the stack as it was before) and `Stack.disturbed_of_nested` (a cached layer below
another one keeps the block that it has loaded by then, and its own cursor may be left at a place
where the stream below cannot follow).
-/

set_option autoImplicit false

namespace LayeredStreams

namespace Stack

/-- **A failure of the base does not disturb the caller.** Where a call that a request makes is made
to fail, the request ends with its error, it is the last call, and no other was made to fail; the
stack shows what it showed before and stands where it stood. With at most one cached layer, no later
request tells that the failed one was made. -/
theorem undisturbed_by_failure {kinds : List LayerKind} (hwindow : .window ∉ kinds)
    {request : Request} (hexplores : request.explores = true) (s : Stack kinds Fickle × Fate)
    {calls : List FickleCall}
    (hcalls : ((ByteStream.perform request).final s).2.calls = calls ++ s.2.calls)
    {call : FickleCall} (hmem : call ∈ calls) {e : StreamError} (hfailure : call.failure = some e) :
    let s' := (ByteStream.perform request : StreamM Fate (Stack kinds Fickle) _).final s
    (ByteStream.perform request).result s = .error e ∧ Fate.Struck e s.2 s'.2 ∧
      Shown kinds s'.1 s.1 ∧
      (∀ w, (ByteStream.position : StreamM Fate (Stack kinds Fickle) Nat).outcome (s'.1, w) =
        ByteStream.position.outcome (s.1, w)) ∧
      (kinds.count .cached ≤ 1 → ∀ (requests : List Request) (w : Fate),
        (∀ later : Request,
          (ByteStream.perform later).outcome (ByteStream.after requests (s'.1, w)) =
            (ByteStream.perform later).outcome (ByteStream.after requests (s.1, w))) ∧
          ByteStream.LooksAlike (ByteStream.after requests (s'.1, w)).1
            (ByteStream.after requests (s.1, w)).1 (ByteStream.after requests (s'.1, w)).2) := by
  obtain ⟨hresult, hstruck, hshown⟩ :=
    (withstands hwindow).of_failure hexplores s hcalls hmem hfailure
  refine ⟨hresult, hstruck, hshown, fun w => (alike_position hwindow).outcome_eq hshown w, ?_⟩
  intro hcount requests w
  have hagrees := agrees hwindow hcount
  refine ⟨fun later => ?_, ?_⟩
  · exact hagrees.outcome_after hshown requests later w
  · exact hagrees.looks_after hshown requests w

/-- A base of zeros that stands at 1, of whose calls one is made to fail. -/
def failingBase (size failing : Nat) : Fickle × Fate :=
  (⟨List.replicate size 0, 1, false⟩,
    ⟨fun index => if index = failing then .fail (.refusal .overflow) else .grant none, [], []⟩)

/-- Three bytes of a base from its origin on, cached; a second read of the base is made to fail. -/
def cachedView : Stack [.cached, .truncated, .rebased] Fickle × Fate :=
  let rebased : Rebased Fickle := ⟨.ofStream (failingBase 5 3).1 .borrows, 1⟩
  let truncated : Truncated (Rebased Fickle) := ⟨.ofStream rebased .borrows, 0, 3, 0⟩
  let cached : Cached (Truncated (Rebased Fickle)) := ⟨.ofStream truncated .borrows, .empty, 0⟩
  (cached, (failingBase 5 3).2)

/-- The base has been moved and has given three bytes when the call is made to fail. -/
theorem undisturbed_by_failed_second_read :
    LayerKind.window ∉ [.cached, .truncated, .rebased] ∧
      (Request.read .blocking 2).explores = true ∧
      ((ByteStream.read .blocking 2).final cachedView).2.calls =
        [⟨.read .blocking 0, some (.refusal .overflow)⟩, ⟨.read .blocking 3, none⟩,
          ⟨.seek (.fromStart 1), none⟩, ⟨.length, none⟩] ++ cachedView.2.calls ∧
      (ByteStream.read .blocking 2).result cachedView = .error (.refusal .overflow) ∧
      ∀ (requests : List Request) (later : Request) (w : Fate),
        (ByteStream.perform later).outcome
            (ByteStream.after requests (((ByteStream.read .blocking 2).final cachedView).1, w)) =
          (ByteStream.perform later).outcome (ByteStream.after requests (cachedView.1, w)) := by
  have hwindow : LayerKind.window ∉ [.cached, .truncated, .rebased] := by decide
  have hcalls : ((ByteStream.read .blocking 2).final cachedView).2.calls =
      [⟨.read .blocking 0, some (.refusal .overflow)⟩, ⟨.read .blocking 3, none⟩,
        ⟨.seek (.fromStart 1), none⟩, ⟨.length, none⟩] ++ cachedView.2.calls := by
    decide +kernel
  obtain ⟨hresult, -, -, -, hlater⟩ := undisturbed_by_failure hwindow
    (show (Request.read .blocking 2).explores = true from rfl) cachedView hcalls
    List.mem_cons_self rfl
  refine ⟨hwindow, rfl, hcalls, hresult, fun requests later w => ?_⟩
  exact (hlater (by decide) requests w).1 later

/-! ## Cached layers over cached layers -/

/-- A cached layer over a rebased one over another cached layer. The call that is made to fail comes
when the outer one is half way through a block, which reaches over two blocks of the inner one. -/
def cachedTwice : Stack [.cached, .rebased, .cached] Fickle × Fate :=
  let inner : Cached Fickle := ⟨.ofStream (failingBase 4097 7).1 .borrows, .empty, 1⟩
  let rebased : Rebased (Cached Fickle) := ⟨.ofStream inner .borrows, 1⟩
  let outer : Cached (Rebased (Cached Fickle)) := ⟨.ofStream rebased .borrows, .empty, 0⟩
  (outer, (failingBase 4097 7).2.after ⟨.position, none⟩)

theorem reached_cachedTwice :
    Reached .granted (· = failingBase 4097 7) [.cached, .rebased, .cached] cachedTwice := by
  have hbase : Reached .granted (· = failingBase 4097 7) [] (failingBase 4097 7) := .base rfl
  have hrebased := (hbase.wrapped (.cached .borrows) trivial rfl).wrapped (.rebased .borrows)
    trivial rfl
  exact hrebased.wrapped (.cached .borrows) trivial rfl

/-- The number of blocks that the inner one of two cached layers keeps. -/
def innerBlockCount (stack : Stack [.cached, .rebased, .cached] Fickle) : Option Nat := do
  let outer : Cached (Rebased (Cached Fickle)) := stack
  let rebased ← outer.base.slot.get?
  let inner ← rebased.base.slot.get?
  return inner.cachedBlockCount

/-- A cached layer over a truncated one over another cached layer over a rebased one, which cannot
follow to the greatest position. The call that is made to fail comes when the outer layer seeks from
there. -/
def cachedFarOut : Stack [.cached, .truncated, .cached, .rebased] Fickle × Fate :=
  let rebased : Rebased Fickle := ⟨.ofStream (failingBase 5 2).1 .borrows, 1⟩
  let inner : Cached (Rebased Fickle) := ⟨.ofStream rebased .borrows, .empty, 0⟩
  let truncated : Truncated (Cached (Rebased Fickle)) := ⟨.ofStream inner .borrows, 0, 4, 0⟩
  let outer : Cached (Truncated (Cached (Rebased Fickle))) :=
    ⟨.ofStream truncated .borrows, .empty, maxWord⟩
  (outer, ((failingBase 5 2).2.after ⟨.position, none⟩).after ⟨.position, none⟩)

theorem reached_cachedFarOut :
    Reached .granted (· = failingBase 5 2) [.cached, .truncated, .cached, .rebased]
      cachedFarOut := by
  have hbase : Reached .granted (· = failingBase 5 2) [] (failingBase 5 2) := .base rfl
  have hinner := (hbase.wrapped (.rebased .borrows) trivial rfl).wrapped (.cached .borrows)
    trivial rfl
  have houter := (hinner.wrapped (.truncated 4 .borrows) trivial rfl).wrapped (.cached .borrows)
    trivial rfl
  exact houter.asked (.setPosition maxWord) ⟨rfl, trivial⟩

/-- **With a cached layer below another one, a failure of the base shows.** The inner one keeps the
block that it loaded before the call failed. And where the outer one took it to a place that the
stream below cannot be taken to, it stays there: a read that would have been granted is refused. -/
theorem disturbed_of_nested :
    (Reached .granted (· = failingBase 4097 7) [.cached, .rebased, .cached] cachedTwice ∧
      (ByteStream.read .blocking 2).result cachedTwice = .error (.refusal .overflow) ∧
      ((ByteStream.read .blocking 2).final cachedTwice).2.calls.head? =
        some ⟨.length, some (.refusal .overflow)⟩ ∧
      innerBlockCount cachedTwice.1 = some 0 ∧
      innerBlockCount ((ByteStream.read .blocking 2).final cachedTwice).1 = some 1) ∧
    Reached .granted (· = failingBase 5 2) [.cached, .truncated, .cached, .rebased] cachedFarOut ∧
      (ByteStream.seek (.fromEnd 0)).result cachedFarOut = .error (.refusal .overflow) ∧
      ((ByteStream.seek (.fromEnd 0)).final cachedFarOut).2.calls.head? =
        some ⟨.length, some (.refusal .overflow)⟩ ∧
      (ByteStream.read .blocking 2).result (ByteStream.after [.setPosition 0]
        (cachedFarOut.1, ((ByteStream.seek (.fromEnd 0)).final cachedFarOut).2)) = .ok [0, 0] ∧
      (ByteStream.read .blocking 2).result (ByteStream.after [.setPosition 0]
        ((ByteStream.seek (.fromEnd 0)).final cachedFarOut)) =
          .error (.refusal (.invalidSeek (maxWord + 1))) := by
  refine ⟨⟨reached_cachedTwice, ?_, ?_, ?_, ?_⟩, reached_cachedFarOut, ?_, ?_, ?_, ?_⟩
  · decide +kernel
  · decide +kernel
  · decide +kernel
  · decide +kernel
  · decide +kernel
  · decide +kernel
  · decide +kernel
  · decide +kernel

end Stack

end LayeredStreams
