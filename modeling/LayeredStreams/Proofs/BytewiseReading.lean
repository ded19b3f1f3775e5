import LayeredStreams.Proofs.ChartedStacks

/-!
# Reading byte by byte

A read of one byte asks a truncated and a cached layer other things than a read into a buffer of one
place does: the two load other blocks, and leave other cursors below. None of that shows. Both give
the byte at the place where the stream lies, and leave it at the same place of the same chart.

* `Chart.Consults` — the requests that ask for bytes or places.
* `Chart.Tells` — what such a request is answered at a place, and where it leaves the stream.
* `ByteStream.Indistinct` — two states that no run of such requests tells apart.
* `readBytes` — ask for one byte, a number of times.

Principal results: `FollowsChart.tells` (a stream answers what its chart tells),
`FollowsChart.indistinct` (two states that lie at one place are not told apart) and
`Stack.reads_byte_by_byte` (reads of single bytes come to the same as one read, and leave the same).
-/

set_option autoImplicit false

namespace LayeredStreams

namespace Chart

/-- The requests that ask for bytes or places, and send the stream to no place that is not admitted.
-/
def Consults (admits : Nat → Prop) (x : Chart) : Request → Prop
  | .position | .length | .seek _ | .read .blocking _ | .readByte => True
  | .setPosition target => x.setPosition target = .ok () → admits (x.origin + target)
  | _ => False

/-- What a request is answered by a stream that lies at `place`, and the place where it leaves the
stream. -/
def Tells (x : Chart) (place : Nat) :
    (request : Request) → Except StreamError request.Answer → Nat → Prop
  | .position, answer, there => answer = x.position place ∧ there = place
  | .length, answer, there => answer = .ok x.size ∧ there = place
  | .setPosition target, .ok _, there => x.setPosition target = .ok () ∧ there = x.origin + target
  | .setPosition target, .error e, there => x.setPosition target = .error e ∧ there = place
  | .seek target, .ok position, there =>
    x.seek target place = .ok position ∧ there = x.origin + position
  | .seek target, .error e, there => x.seek target place = .error (e, there)
  | .read _ room, answer, there =>
    answer = .ok (x.read place room) ∧ there = place + (x.read place room).length
  | .readByte, answer, there =>
    answer = .ok (x.read place 1).head? ∧ there = place + (x.read place 1).head?.toList.length
  | _, _, _ => False

variable {x : Chart} {place there there' : Nat}

theorem Tells.unique {request : Request} {answer answer' : Except StreamError request.Answer}
    (h : x.Tells place request answer there) (h' : x.Tells place request answer' there') :
    answer = answer' ∧ there = there' := by
  cases request with
  | setPosition target =>
    cases answer with
    | ok _ =>
      cases answer' with
      | ok _ => exact ⟨rfl, h.2.trans h'.2.symm⟩
      | error e' => exact nomatch h.1.symm.trans h'.1
    | error e =>
      cases answer' with
      | ok _ => exact nomatch h.1.symm.trans h'.1
      | error e' =>
        obtain rfl := Except.error.inj (h.1.symm.trans h'.1)
        exact ⟨rfl, h.2.trans h'.2.symm⟩
  | seek target =>
    cases answer with
    | ok position =>
      cases answer' with
      | ok position' =>
        obtain rfl := Except.ok.inj (h.1.symm.trans h'.1)
        exact ⟨rfl, h.2.trans h'.2.symm⟩
      | error e' => exact nomatch h.1.symm.trans h'
    | error e =>
      cases answer' with
      | ok position' => exact nomatch h.symm.trans h'.1
      | error e' =>
        obtain ⟨rfl, rfl⟩ := Prod.mk.inj (Except.error.inj (h.symm.trans h'))
        exact ⟨rfl, rfl⟩
  | position => exact ⟨h.1.trans h'.1.symm, h.2.trans h'.2.symm⟩
  | length => exact ⟨h.1.trans h'.1.symm, h.2.trans h'.2.symm⟩
  | read mode room => exact ⟨h.1.trans h'.1.symm, h.2.trans h'.2.symm⟩
  | readByte => exact ⟨h.1.trans h'.1.symm, h.2.trans h'.2.symm⟩
  | _ => exact h.elim

end Chart

theorem Delivers.head?_eq {content bytes : Bytes} {place : Nat}
    (h : Delivers content place 1 bytes) : bytes.head? = content[place]? := by
  cases bytes with
  | nil =>
    have hend : content.length ≤ place := by
      by_contra hlt
      exact h.ne_nil Nat.one_pos (Nat.lt_of_not_le hlt) rfl
    exact (List.getElem?_eq_none hend).symm
  | cons byte bytes =>
    have hle := h.length_le
    obtain rfl : bytes = [] := by
      rw [List.length_cons] at hle
      exact List.length_eq_zero_iff.mp (by omega)
    have hwindow : [byte] = content.window place 1 := h.eq_window
    rw [Bytes.window_one] at hwindow
    rw [hwindow, Option.head?_toList]

namespace Bytes

theorem head?_eq_some_iff {bytes : Bytes} (h : bytes.length ≤ 1) {value : UInt8} :
    bytes.head? = some value ↔ bytes = [value] := by
  cases bytes with
  | nil => simp
  | cons byte bytes =>
    obtain rfl : bytes = [] := by
      rw [List.length_cons] at h
      exact List.length_eq_zero_iff.mp (by omega)
    rw [List.head?_cons, Option.some.injEq, List.cons.injEq, and_iff_left rfl]

theorem getElem?_behind (content : Bytes) (place i : Nat) :
    content[place + content[place]?.toList.length + i]? = content[place + (i + 1)]? := by
  cases hfirst : content[place]? with
  | some byte =>
    show content[place + 1 + i]? = _
    rw [Nat.add_assoc, Nat.add_comm 1 i]
  | none =>
    have hend := List.getElem?_eq_none_iff.mp hfirst
    have hnone : ∀ j, content[place + j]? = none := fun j =>
      List.getElem?_eq_none (Nat.le_trans hend (Nat.le_add_right _ _))
    show content[place + 0 + i]? = _
    rw [Nat.add_zero, hnone, hnone]

theorem reach_behind (content : Bytes) (place count : Nat) :
    place + content[place]?.toList.length +
        min count (content.length - (place + content[place]?.toList.length)) =
      place + min (count + 1) (content.length - place) := by
  cases hfirst : content[place]? with
  | some byte =>
    have hlt := (List.getElem?_eq_some_iff.mp hfirst).1
    show place + 1 + min count (content.length - (place + 1)) = _
    omega
  | none =>
    have hend := List.getElem?_eq_none_iff.mp hfirst
    show place + 0 + min count (content.length - (place + 0)) = _
    omega

end Bytes

/-- Ask for one byte, a number of times. -/
def readBytes {ω σ : Type} [ByteStream ω σ] : (count : Nat) → StreamM ω σ (List (Option UInt8))
  | 0 => return []
  | count + 1 => do
    let byte ← ByteStream.readByte
    return byte :: (← readBytes count)

/-- Two states that no run of requests for bytes or places tells apart. -/
def ByteStream.Indistinct {ω σ : Type} [ByteStream ω σ] (admits : Nat → Prop) (x : Chart)
    (s s' : σ × ω) : Prop :=
  ∀ requests : List Request, (∀ request ∈ requests, x.Consults admits request) →
    ∀ request : Request, x.Consults admits request →
      (ByteStream.perform request : StreamM ω σ request.Answer).outcome
          (ByteStream.after requests s) =
        (ByteStream.perform request : StreamM ω σ request.Answer).outcome
          (ByteStream.after requests s')

section Charted

variable {ω σ : Type} {admits : Nat → Prop} {lies : σ → Chart → Nat → Prop} {x : Chart} {w : ω}

theorem StreamM.Moves.settled {α : Type} {act : StreamM ω σ α} {s : σ × ω}
    {good : α → Nat → Prop} {bad : StreamError → Nat → Prop}
    (h : act.Moves (LiesIn lies x w) s good bad) {told : Except StreamError α → Nat → Prop}
    (hgood : ∀ value there, good value there → told (.ok value) there)
    (hbad : ∀ e there, bad e there → told (.error e) there) :
    ∃ there, told (act.result s) there ∧ LiesIn lies x w (act.final s) there := by
  unfold StreamM.Moves StreamM.Ends at h
  unfold StreamM.result StreamM.final
  split at h
  · obtain ⟨there, hout, hliesIn⟩ := h
    exact ⟨there, hgood _ _ hout, hliesIn⟩
  · obtain ⟨there, hout, hliesIn⟩ := h
    exact ⟨there, hbad _ _ hout, hliesIn⟩

variable [Cancellation ω] [ByteStream ω σ] {stream stream' : σ} {place : Nat}

/-- **A stream answers what its chart tells**, and lies where that says. -/
theorem FollowsChart.tells (h : FollowsChart ω admits lies) (hlies : lies stream x place)
    {request : Request} (hconsults : x.Consults admits request) (w : ω) :
    ∃ there, x.Tells place request
        ((ByteStream.perform request : StreamM ω σ request.Answer).result (stream, w)) there ∧
      LiesIn lies x w
        ((ByteStream.perform request : StreamM ω σ request.Answer).final (stream, w)) there := by
  cases request with
  | position =>
    apply (h.moves_position (w := w) hlies).settled
    · intro position there hout
      exact ⟨hout.1.symm, hout.2⟩
    · intro e there hout
      exact ⟨hout.1.symm, hout.2⟩
  | length =>
    have hlength : (ByteStream.length : StreamM ω σ Nat).Moves (LiesIn lies x w) (stream, w)
        (fun size there => size = x.size ∧ there = place) fun _ _ => False :=
      StreamM.ends_of_eq_ok (h.length hlies w) ⟨place, ⟨rfl, rfl⟩, hlies, rfl⟩
    apply hlength.settled
    · intro size there hout
      obtain ⟨rfl, rfl⟩ := hout
      exact ⟨rfl, rfl⟩
    · intro e there hfalse
      exact hfalse.elim
  | setPosition target =>
    exact (h.setPosition hlies target hconsults w).settled (fun _ _ h => h) fun _ _ h => h
  | seek target => exact (h.seek hlies target w).settled (fun _ _ h => h) fun _ _ h => h
  | read mode room =>
    cases mode with
    | suspending token => exact hconsults.elim
    | blocking =>
      apply (h.read hlies .blocking room w).settled
      · intro bytes there hout
        obtain ⟨rfl, rfl⟩ := hout
        exact ⟨rfl, rfl⟩
      · intro e there hout
        cases hout.1.1
  | readByte =>
    apply (h.readByte hlies w).settled
    · intro byte there hout
      obtain ⟨rfl, rfl⟩ := hout
      exact ⟨rfl, rfl⟩
    · intro e there hfalse
      exact hfalse.elim
  | _ => exact hconsults.elim

theorem FollowsChart.same_answer (h : FollowsChart ω admits lies) (hlies : lies stream x place)
    (hlies' : lies stream' x place) {request : Request} (hconsults : x.Consults admits request) :
    (ByteStream.perform request : StreamM ω σ request.Answer).outcome (stream, w) =
        (ByteStream.perform request : StreamM ω σ request.Answer).outcome (stream', w) ∧
      ∃ there,
        LiesIn lies x w ((ByteStream.perform request : StreamM ω σ _).final (stream, w)) there ∧
        LiesIn lies x w
          ((ByteStream.perform request : StreamM ω σ _).final (stream', w)) there := by
  obtain ⟨there, htold, hliesIn⟩ := h.tells hlies hconsults w
  obtain ⟨there', htold', hliesIn'⟩ := h.tells hlies' hconsults w
  obtain ⟨hanswer, rfl⟩ := htold.unique htold'
  refine ⟨?_, there, hliesIn, hliesIn'⟩
  unfold StreamM.outcome
  rw [hanswer, hliesIn.2, hliesIn'.2]

/-- **What lies at one place of a chart is not told apart.** The induction is on the requests made
before. -/
theorem FollowsChart.indistinct (h : FollowsChart ω admits lies) {s s' : σ × ω}
    (hs : LiesIn lies x w s place) (hs' : LiesIn lies x w s' place) :
    ByteStream.Indistinct admits x s s' := by
  intro requests hrequests request hconsults
  induction requests generalizing s s' place with
  | nil =>
    obtain ⟨stream, w⟩ := s
    obtain ⟨stream', w'⟩ := s'
    obtain ⟨hlies, rfl⟩ := hs
    obtain ⟨hlies', rfl⟩ := hs'
    exact (h.same_answer hlies hlies' hconsults).1
  | cons first requests ih =>
    obtain ⟨stream, w⟩ := s
    obtain ⟨stream', w'⟩ := s'
    obtain ⟨hlies, rfl⟩ := hs
    obtain ⟨hlies', rfl⟩ := hs'
    obtain ⟨-, there, hliesIn, hliesIn'⟩ :=
      h.same_answer hlies hlies' (hrequests first List.mem_cons_self)
    rw [ByteStream.after_cons, ByteStream.after_cons]
    exact ih hliesIn hliesIn'
      fun request hmem => hrequests request (List.mem_cons_of_mem first hmem)

theorem FollowsChart.moves_readBytes (h : FollowsChart ω admits lies) :
    ∀ (count : Nat) {stream : σ} {place : Nat} {w : ω}, lies stream x place →
      (readBytes count : StreamM ω σ (List (Option UInt8))).Moves (LiesIn lies x w) (stream, w)
        (fun answers q => answers = (List.range count).map (fun i => x.content[place + i]?) ∧
          q = place + min count (x.content.length - place)) fun _ _ => False
  -- the induction is on their number
  | 0, stream, place, w, hlies => by
    refine StreamM.moves_pure ⟨hlies, rfl⟩ ⟨rfl, ?_⟩
    rw [Nat.zero_min, Nat.add_zero]
  | count + 1, stream, place, w, hlies => by
    have hbyte := (h.delivers hlies 1).head?_eq
    rw [List.range_succ_eq_map, List.map_cons, List.map_map]
    apply StreamM.Moves.bind ((h.readByte hlies w).mono (fun _ _ h => h) fun _ _ h => h)
    intro byte q s₁ hout hliesIn
    obtain ⟨stream₁, w₁⟩ := s₁
    obtain ⟨rfl, rfl⟩ := hout
    obtain ⟨hlies₁, rfl⟩ := hliesIn
    rw [hbyte] at hlies₁ ⊢
    apply StreamM.Moves.bind (h.moves_readBytes count hlies₁)
    intro answers q s₂ hout hliesIn₂
    obtain ⟨rfl, rfl⟩ := hout
    refine StreamM.moves_pure hliesIn₂ ⟨congrArg _ (List.map_congr_left fun i _ => ?_), ?_⟩
    · exact Bytes.getElem?_behind x.content place i
    · exact Bytes.reach_behind x.content place count

theorem FollowsChart.moves_fill (h : FollowsChart ω admits lies)
    (hlies : lies stream x place) (count : Nat) :
    (fill .blocking count : StreamM ω σ Filled).Moves (LiesIn lies x w) (stream, w)
      (fun filled q => filled = ⟨x.content.window place count, none⟩ ∧
        q = place + min count (x.content.length - place)) fun _ _ => False := by
  apply ((h.source x w).ends_fill .blocking count ⟨hlies, rfl⟩).mono
  · intro filled s' hout
    obtain ⟨bytes, failure⟩ := filled
    obtain ⟨hfilled, hliesIn⟩ := hout
    cases failure with
    | some e => exact ((hfilled.excuse e rfl).2.fault_of_admitted rfl).elim
    | none =>
      have hbytes : bytes = x.content.window place count := hfilled.complete rfl
      subst hbytes
      refine ⟨_, ⟨rfl, ?_⟩, hliesIn⟩
      rw [Bytes.length_window]
  · intro e s' hfalse
    exact hfalse.elim

end Charted

namespace Stack

variable {ω : Type} [Cancellation ω]

/-- **Reading byte by byte is reading in bulk.** On a stack over zeros or memory that is used with
care for its cached layers, a read of one byte gives the byte that a read into a buffer of one place
gives, or both give none. So many reads of one byte give, one after the other, the bytes that fill a
buffer of so many places, and none behind those. No run of requests for bytes or places tells in
which of the two ways the stack was read. -/
theorem reads_byte_by_byte (base : ResizedBase) (care : Care) {kinds : List LayerKind}
    {s : Stack kinds base.Over × ω} (h : Reached (.onCharts care (base.Lies care.Admits))
      (Charted (base.Lies care.Admits)) kinds s) :
    ∃ x place, Lies care.Admits (base.Lies care.Admits) kinds s.1 x place ∧
      (∃ bytes byte s₁ s₂,
        (ByteStream.read .blocking 1 : StreamM ω (Stack kinds base.Over) Bytes) s = .ok bytes s₁ ∧
        (ByteStream.readByte : StreamM ω (Stack kinds base.Over) _) s = .ok byte s₂ ∧
        (∀ value, byte = some value ↔ bytes = [value]) ∧ (byte = none ↔ bytes = []) ∧
        ByteStream.Indistinct care.Admits x s₁ s₂) ∧
      ∀ count, ∃ bytes s₁ s₂,
        (fill .blocking count : StreamM ω (Stack kinds base.Over) Filled) s =
          .ok ⟨bytes, none⟩ s₁ ∧
        (readBytes count : StreamM ω (Stack kinds base.Over) _) s =
          .ok ((List.range count).map (bytes[·]?)) s₂ ∧
        ByteStream.Indistinct care.Admits x s₁ s₂ := by
  have hnonempty : Nonempty ω := ⟨s.2⟩
  have hbase : FollowsChart ω care.Admits (base.Lies care.Admits) :=
    base.followsChart fun _ => care.admits_of_le
  obtain ⟨hallows, x, place, hlies⟩ := h.charted hbase base.finds
  have hfollows := (followsChart_and_finds hbase base.finds kinds).1 hallows
  obtain ⟨stack, w⟩ := s
  refine ⟨x, place, hlies, ?_, ?_⟩
  · have hle := (hfollows.delivers hlies 1).length_le
    have hbulk : (ByteStream.read .blocking 1 : StreamM ω (Stack kinds base.Over) Bytes).Moves
        (LiesIn (Lies care.Admits (base.Lies care.Admits) kinds) x w) (stack, w)
        (fun bytes q => bytes = x.read place 1 ∧ q = place + bytes.length) fun _ _ => False :=
      (hfollows.read hlies .blocking 1 w).mono (fun _ _ h => h) fun _ _ hout => nomatch hout.1.1
    obtain ⟨_, _, s₁, hread, ⟨rfl, rfl⟩, hliesIn₁⟩ := hbulk.exists_ok
    obtain ⟨_, _, s₂, hbyte, ⟨rfl, rfl⟩, hliesIn₂⟩ := (hfollows.readByte hlies w).exists_ok
    rw [Bytes.length_head? hle] at hliesIn₂
    refine ⟨_, _, s₁, s₂, hread, hbyte, ?_, List.head?_eq_none_iff,
      hfollows.indistinct hliesIn₁ hliesIn₂⟩
    intro value
    exact Bytes.head?_eq_some_iff hle
  · intro count
    obtain ⟨_, _, s₁, hfill, ⟨rfl, rfl⟩, hliesIn₁⟩ :=
      (hfollows.moves_fill (w := w) hlies count).exists_ok
    obtain ⟨_, _, s₂, hread, ⟨rfl, rfl⟩, hliesIn₂⟩ :=
      (hfollows.moves_readBytes (w := w) count hlies).exists_ok
    refine ⟨_, s₁, s₂, hfill, ?_, hfollows.indistinct hliesIn₁ hliesIn₂⟩
    have hanswers : (List.range count).map (fun i => x.content[place + i]?) =
        (List.range count).map fun i => (x.content.window place count)[i]? := by
      apply List.map_congr_left
      intro i hmem
      rw [Bytes.getElem?_window, if_pos (List.mem_range.mp hmem)]
    rw [hread, hanswers]

end Stack

/-- Twelve bytes in memory under two cached layers, and the first ten of them under a truncated one.
-/
def firstTen : Stack [.truncated, .cached, .cached] ResizedBase.memory.Over :=
  let memory : DeviceStream MemoryDevice :=
    .ofDevice ⟨[0, 1, 2, 3, 4, 5, 6, 7, 8, 9, 10, 11], 0⟩ .fixedLength
  let inner : Cached (DeviceStream MemoryDevice) := ⟨.ofStream memory .borrows, .empty, 0⟩
  let outer : Cached (Cached (DeviceStream MemoryDevice)) := ⟨.ofStream inner .borrows, .empty, 0⟩
  (⟨.ofStream outer .borrows, 0, 10, 0⟩ : Truncated (Cached (Cached (DeviceStream MemoryDevice))))

theorem reached_firstTen (w : Surroundings) :
    Stack.Reached (.onCharts .inRange (ResizedBase.memory.Lies Care.inRange.Admits))
      (Charted (ResizedBase.memory.Lies Care.inRange.Admits)) [.truncated, .cached, .cached]
      (firstTen, w) := by
  have hmemory : Charted (ResizedBase.memory.Lies Care.inRange.Admits)
      ((.ofDevice ⟨[0, 1, 2, 3, 4, 5, 6, 7, 8, 9, 10, 11], 0⟩ .fixedLength :
        DeviceStream MemoryDevice), w) :=
    ⟨_, _, DeviceStream.lies_ofDevice ⟨by decide, by decide⟩ (by decide) (Nat.zero_le maxPosition)⟩
  have hbase : Stack.Reached (.onCharts .inRange (ResizedBase.memory.Lies Care.inRange.Admits))
      (Charted (ResizedBase.memory.Lies Care.inRange.Admits)) [] _ := .base hmemory
  have hinner := hbase.wrapped (.cached .borrows) (fun _ => trivial) rfl
  have houter := hinner.wrapped (.cached .borrows) (fun _ => trivial) rfl
  exact houter.wrapped (.truncated 10 .borrows) (fun _ => trivial) rfl

/-- The truncated layer at its end. -/
def firstTenRead : Stack [.truncated, .cached, .cached] ResizedBase.memory.Over × Surroundings :=
  (ByteStream.perform (.seek (.fromStart 10)) : StreamM Surroundings
    (Stack [.truncated, .cached, .cached] ResizedBase.memory.Over) Nat).final (firstTen, .initial)

/-- At its end a truncated layer gives none to a read of one byte, and none into a buffer of one
place. The latter loads a block below, and what is read afterwards does not tell. -/
theorem Stack.reads_none_at_end :
    ∃ s₁ s₂,
      (ByteStream.read .blocking 1 : StreamM Surroundings
        (Stack [.truncated, .cached, .cached] ResizedBase.memory.Over) Bytes) firstTenRead =
          .ok [] s₁ ∧
      (ByteStream.readByte : StreamM Surroundings
        (Stack [.truncated, .cached, .cached] ResizedBase.memory.Over) _) firstTenRead =
          .ok none s₂ ∧
      (ByteStream.perform (.read .blocking 12) : StreamM Surroundings
        (Stack [.truncated, .cached, .cached] ResizedBase.memory.Over) Bytes).outcome
          (ByteStream.after [.seek (.fromStart 0)] s₁) =
        (ByteStream.perform (.read .blocking 12) : StreamM Surroundings
          (Stack [.truncated, .cached, .cached] ResizedBase.memory.Over) Bytes).outcome
            (ByteStream.after [.seek (.fromStart 0)] s₂) := by
  have hreached : Reached (.onCharts .inRange (ResizedBase.memory.Lies Care.inRange.Admits))
      (Charted (ResizedBase.memory.Lies Care.inRange.Admits)) [.truncated, .cached, .cached]
      firstTenRead :=
    (reached_firstTen .initial).asked (.seek (.fromStart 10)) fun _ _ _ => trivial
  obtain ⟨x, place, -, ⟨bytes, byte, s₁, s₂, hread, hbyte, -, hnone, hsame⟩, -⟩ :=
    reads_byte_by_byte .memory .inRange hreached
  have hend : (ByteStream.readByte : StreamM Surroundings
      (Stack [.truncated, .cached, .cached] ResizedBase.memory.Over) _).result firstTenRead =
        .ok none := rfl
  rw [StreamM.result_of_eq_ok hbyte] at hend
  obtain rfl := Except.ok.inj hend
  obtain rfl := hnone.mp rfl
  refine ⟨s₁, s₂, hread, hbyte, hsame _ ?_ (.read .blocking 12) trivial⟩
  intro request hmem
  obtain rfl := List.mem_singleton.mp hmem
  exact trivial

end LayeredStreams
