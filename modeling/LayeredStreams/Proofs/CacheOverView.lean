import LayeredStreams.Proofs.CachedReading
import LayeredStreams.Proofs.ZerosView
import Mathlib.Data.List.TakeDrop

/-!
# Caches over views

What a cache changes when it is put over a stack of layers. A cache asks for no block that starts at
or beyond the length that the stream below reports. Where that length counts from another origin
than the positions do, as that of a truncated layer does, bytes are lost behind it.

* `BlockIndex.reach size` — where the last block that starts before `size` ends.
* `Cached.readThrough` — put a cache over a stream and read it to the end.

Principal results: `Cached.source` (a cached layer is a source of the content before the reach),
`readThrough_eq_iff` (a cache over a stack loses nothing exactly if the block of the last byte
starts before the reported length) and `readThrough_of_not_truncated` (it loses nothing without
truncated layers).
-/

set_option autoImplicit false

namespace LayeredStreams

namespace BlockIndex

/-- Where the last block that starts before `size` ends. -/
def reach (size : Nat) : Nat := (size + blockSize - 1) / blockSize * blockSize

theorem start_containing_lt_iff {offset size : Nat} :
    (containing offset).start < size ↔ offset < reach size := by
  show offset / 4096 * 4096 < size ↔ offset < (size + 4096 - 1) / 4096 * 4096
  omega

theorem le_reach (size : Nat) : size ≤ reach size := by
  unfold reach blockSize
  omega

theorem sub_offsetWithin_le {offset size : Nat} (h : offset < reach size) :
    blockSize - offsetWithin offset ≤ reach size - offset := by
  unfold offsetWithin
  unfold reach blockSize at *
  omega

end BlockIndex

theorem servedBytes_eq_window (content : Bytes) (size p room : Nat) :
    servedBytes content size p room =
      Bytes.window (content.take (BlockIndex.reach size)) p
        (min room (blockSize - BlockIndex.offsetWithin p)) := by
  unfold servedBytes
  split
  · rename_i hstart
    have hlt := BlockIndex.start_containing_lt_iff.mp hstart
    have hrest := BlockIndex.sub_offsetWithin_le hlt
    have hcut : min room (blockSize - BlockIndex.offsetWithin p) ≤ BlockIndex.reach size - p :=
      Nat.le_trans (Nat.min_le_right _ _) hrest
    rw [Bytes.window_take, Nat.min_eq_left hcut]
  · rename_i hstart
    have hge : BlockIndex.reach size ≤ p := by
      rw [BlockIndex.start_containing_lt_iff] at hstart
      omega
    refine (Bytes.window_of_le ?_ _).symm
    rw [List.length_take]
    omega

variable {ω σ : Type} [Cancellation ω] [ByteStream ω σ] {content : Bytes} {size : Nat}
  {fault : StreamError → Prop} {stands : σ × ω → Nat → Prop}

/-- **A cached layer is a source** of what lies before the reach of the length below. -/
theorem Cached.source (located : Located content size fault stands) (ownership : Ownership) :
    Source (content.take (BlockIndex.reach size)) fault
      (Cached.Stands content size ownership stands) where
  read {s p} h mode room := by
    obtain ⟨cache, q, hmirrors, hbelow⟩ := h
    refine (ends_read located hbelow hmirrors mode room).mono ?_ ?_
    · intro bytes s' hout
      obtain ⟨rfl, hstands⟩ := hout
      refine ⟨?_, hstands⟩
      have hwithin := BlockIndex.offsetWithin_lt p
      rw [servedBytes_eq_window]
      exact .window (by omega) (Nat.min_le_left _ _)
    · intro e s' hout
      obtain ⟨hexcuse, hkept⟩ := hout
      exact ⟨hexcuse, hkept.mirroring hmirrors⟩

/-- Put a cache over a stream and read it to the end. -/
def Cached.readThrough (ownership : Ownership) : StreamM ω σ Bytes := do
  let layer ← Cached.wrap ownership
  StreamM.within (fun _ => layer) (fun _ stream => stream) readToEnd

theorem length_lt_readLimit (h : content.length ≤ maxPosition) : content.length < readLimit := by
  unfold maxPosition at h
  unfold readLimit maxWord
  omega

theorem Cached.result_readThrough (located : Located content size (fun _ => False) stands)
    {s : σ × ω} {p : Nat} (h : stands s p) (ownership : Ownership) :
    (Cached.readThrough ownership : StreamM ω σ Bytes).result s =
      .ok ((content.drop p).take (BlockIndex.reach size - p)) := by
  have hends : (Cached.readThrough ownership : StreamM ω σ Bytes).Ends s
      (fun bytes _ => bytes = (content.drop p).take (BlockIndex.reach size - p))
      fun _ _ => False := by
    have source := Cached.source located ownership
    have hsize : (content.take (BlockIndex.reach size)).length < readLimit := by
      have hfits := length_lt_readLimit located.fits
      rw [List.length_take]
      omega
    unfold Cached.readThrough
    refine (Cached.ends_wrap located h ownership).bind ?_
    intro layer s₁ h₁
    refine StreamM.Ends.mono (StreamM.Ends.within
      (source.ends_readToEndWithin readLimit (Nat.lt_of_le_of_lt (Nat.sub_le _ p) hsize) h₁)) ?_ ?_
    · rintro bytes s' ⟨part, ⟨rfl, -⟩, -⟩
      exact List.drop_take
    · rintro e s' ⟨part, hfalse, -⟩
      exact hfalse
  obtain ⟨bytes, s', heq, rfl⟩ := hends.exists_ok
  exact StreamM.result_of_eq_ok heq

/-- A stretch that is cut keeps all its bytes exactly if its last byte lies before the cut. -/
theorem take_reach_eq_self_iff {bytes : Bytes} {p size : Nat} :
    bytes.take (BlockIndex.reach size - p) = bytes ↔
      bytes = [] ∨ (BlockIndex.containing (p + bytes.length - 1)).start < size := by
  rw [List.take_eq_self_iff, BlockIndex.start_containing_lt_iff, ← List.length_eq_zero_iff]
  omega

namespace Stack

variable {β : Type} [ByteStream ω β] {stands : β × ω → Nat → Prop} {kinds : List LayerKind}
  {s : Stack kinds β × ω}

/-- **What a cache over a stack loses.** Over a base that does not fail, a stack without caches that
stands at `p` and reports the length `size` shows some bytes; through a cache those before the reach
of `size` are left. Nothing is lost exactly if the block of the last byte starts before `size`. -/
theorem readThrough_eq_iff (base : View content content.length stands)
    (h : Stack.Reached .granted (fun s => ∃ p, stands s p) kinds s) (hcached : .cached ∉ kinds)
    (ownership : Ownership) :
    ∃ (p size : Nat) (bytes : Bytes),
      (ByteStream.position : StreamM ω (Stack kinds β) Nat).result s = .ok p ∧
      (ByteStream.length : StreamM ω (Stack kinds β) Nat).result s = .ok size ∧
      (readToEnd : StreamM ω (Stack kinds β) Bytes).result s = .ok bytes ∧
      (Cached.readThrough ownership : StreamM ω (Stack kinds β) Bytes).result s =
        .ok (bytes.take (BlockIndex.reach size - p)) ∧
      ((Cached.readThrough ownership : StreamM ω (Stack kinds β) Bytes).result s =
          (readToEnd : StreamM ω (Stack kinds β) Bytes).result s ↔
        bytes = [] ∨ (BlockIndex.containing (p + bytes.length - 1)).start < size) := by
  obtain ⟨content', size, stands', p, view, hstands, -⟩ := Reached.viewed base h hcached
  obtain ⟨_, s₁, hposition, rfl, -⟩ := (view.ends_position hstands).exists_ok
  obtain ⟨_, s₂, hlength, rfl, -⟩ := (view.ends_length hstands).exists_ok
  obtain ⟨s₃, hread⟩ := view.readToEnd_eq (length_lt_readLimit view.fits) hstands
  have hthrough := Cached.result_readThrough view.toLocated hstands ownership
  refine ⟨_, _, content'.drop _, StreamM.result_of_eq_ok hposition,
    StreamM.result_of_eq_ok hlength, StreamM.result_of_eq_ok hread, hthrough, ?_⟩
  rw [hthrough, StreamM.result_of_eq_ok hread, Except.ok.injEq]
  exact take_reach_eq_self_iff

/-- A stream of 4100 zeros that stands at 4096, and its last four bytes under a truncated layer. -/
def lastZeros : Stack [.truncated] Zeros × Surroundings :=
  (⟨.ofStream ⟨4096, 4100, false⟩ .borrows, 4096, 4, 4096⟩, .initial)

theorem reached_lastZeros :
    Stack.Reached .granted (fun s => ∃ p, Zeros.Stands 4100 s p) [.truncated] lastZeros := by
  have hbase : Stack.Reached .granted (fun s => ∃ p, Zeros.Stands 4100 s p) []
      ((Zeros.ofSize 4100, .initial) : Stack [] Zeros × Surroundings) := .base ⟨0, rfl⟩
  exact (hbase.asked (.setPosition 4096) ⟨rfl, trivial⟩).wrapped (.truncated 4 .borrows) trivial rfl

/-- The four zeros are read from the layer, and none of them through a cache over it. -/
theorem readThrough_lastZeros :
    (readToEnd : StreamM Surroundings (Stack [.truncated] Zeros) Bytes).result lastZeros =
        .ok (Bytes.zeros 4) ∧
      (Cached.readThrough .borrows : StreamM Surroundings (Stack [.truncated] Zeros) Bytes).result
        lastZeros = .ok [] := by
  obtain ⟨p, size, bytes, hposition, hlength, hread, hthrough, -⟩ :=
    readThrough_eq_iff (Zeros.view 4100 (by decide)) reached_lastZeros (by decide) .borrows
  obtain rfl : 4096 = p := Except.ok.inj hposition
  obtain rfl : 4 = size := Except.ok.inj hlength
  have hzeros : (readToEnd : StreamM Surroundings (Stack [.truncated] Zeros) Bytes).result
      lastZeros = .ok (Bytes.zeros 4) := rfl
  refine ⟨hzeros, ?_⟩
  rw [hthrough]
  rfl

/-- Without truncated layers and windows a cache over a stack loses nothing. -/
theorem readThrough_of_not_truncated (base : View content content.length stands)
    (h : Stack.Reached .granted (fun s => ∃ p, stands s p) kinds s) (hcached : .cached ∉ kinds)
    (htruncated : .truncated ∉ kinds) (hwindow : .window ∉ kinds) (ownership : Ownership) :
    (Cached.readThrough ownership : StreamM ω (Stack kinds β) Bytes).result s =
      (readToEnd : StreamM ω (Stack kinds β) Bytes).result s := by
  obtain ⟨content', size, stands', p, view, hstands, hsize⟩ := Reached.viewed base h hcached
  obtain ⟨s', hread⟩ := view.readToEnd_eq (length_lt_readLimit view.fits) hstands
  rw [Cached.result_readThrough view.toLocated hstands ownership, StreamM.result_of_eq_ok hread,
    List.take_of_length_le]
  have hreach := BlockIndex.le_reach size
  rw [hsize ⟨htruncated, hwindow⟩] at hreach ⊢
  rw [List.length_drop]
  omega

end Stack

end LayeredStreams
