import LayeredStreams.Proofs.Resizing
import LayeredStreams.Surroundings

/-!
# Views of a stream that is resized

A truncated view shares the stream below with another user, who sets its length while the view is
read. The view counts for itself where the cursor is.

* `Use` — what befalls such a view: it is asked something, or the stream below is resized;
  `Truncated.afterUses` is the view afterwards.
* `ReadsLeft content q left room bytes` — what one read gives of a view that takes so many bytes to
  be left.
* `Truncated.Leads` — an open view whose count is not behind the cursor.
* `Truncated.Undisturbed` — no resize moves the cursor.

Principal results: `Truncated.ends_asked` (a request sets the count right or keeps what it is off
by), `Truncated.Leads.afterUses` (the count stays at the cursor or before it) and
`Truncated.reads_of_resized` (the view never reads past its boundary; over memory it stays exact,
and over zeros it can be at its end before the end).
-/

set_option autoImplicit false

namespace LayeredStreams

/-- What befalls a view of a stream that has another user. -/
inductive Use
  /-- The view is asked something. -/
  | asked (request : Request)
  /-- The other user sets the length of the stream below. -/
  | resized (size : Nat)
  deriving DecidableEq, Repr

namespace Truncated

variable {ω σ : Type} [ByteStream ω σ]

/-- The view after a use. -/
def afterUse (s : Truncated σ × ω) : Use → Truncated σ × ω
  | .asked request =>
    (ByteStream.perform request : StreamM ω (Truncated σ) request.Answer).final s
  | .resized size =>
    (onBase (Passthrough.forward (ByteStream.setLength size)) :
      StreamM ω (Truncated σ) Unit).final s

/-- The view after uses, one after the other. -/
def afterUses (uses : List Use) (s : Truncated σ × ω) : Truncated σ × ω := uses.foldl afterUse s

end Truncated

/-- What one read of a view gives that takes so many bytes to be `left`: bytes that stand at the
cursor, no more than are left, and none at all only if none is left or the cursor is at the end. -/
structure ReadsLeft (content : Bytes) (q left room : Nat) (bytes : Bytes) : Prop where
  eq_window : bytes = content.window q bytes.length
  length_le_room : bytes.length ≤ room
  length_le_left : bytes.length ≤ left
  eq_nil_iff : bytes = [] ↔ left = 0 ∨ content.length ≤ q

theorem Delivers.readsLeft {content bytes : Bytes} {q left room : Nat}
    (h : Delivers content q (min room left) bytes) (hroom : 0 < room) :
    ReadsLeft content q left room bytes := by
  have hle := h.length_le
  have hsub := h.length_le_sub
  refine ⟨h.eq_window, by omega, by omega, ?_, ?_⟩
  · intro hnil
    by_cases hleft : left = 0
    · exact .inl hleft
    · exact .inr (Nat.le_of_not_lt fun hlt => h.ne_nil (by omega) hlt hnil)
  · rintro (rfl | hend)
    · exact List.eq_nil_of_length_eq_zero (by omega)
    · exact List.eq_nil_of_length_eq_zero (by omega)

section

variable {ω σ : Type} [Cancellation ω] [ByteStream ω σ]

namespace Truncated

variable {origin start maxLength count q : Nat} {bounds : List Nat}
  {stands : Bytes → σ × ω → Nat → Prop} {ownership : Ownership} {s : Truncated σ × ω}
  {shown : Bytes}

/-- A view after a step: its count is right, or off by as much as before. -/
def Stepped (origin start maxLength count : Nat) (ownership : Ownership)
    (stands : σ × ω → Nat → Prop) (q : Nat) (s : Truncated σ × ω) : Prop :=
  ∃ q' count', Below start maxLength count' ownership stands s q' ∧
    (origin + count' = q' ∨ ∃ moved, q' = q + moved ∧ count' = count + moved)

omit [Cancellation ω] [ByteStream ω σ] in
theorem Stepped.of_same {stands : σ × ω → Nat → Prop}
    (h : Below start maxLength count ownership stands s q) :
    Stepped origin start maxLength count ownership stands q s :=
  ⟨q, count, h, .inr ⟨0, rfl, rfl⟩⟩

omit [Cancellation ω] [ByteStream ω σ] in
theorem ends_stepped_of_moves {stands : σ × ω → Nat → Prop} {α : Type}
    {act : StreamM ω (Truncated σ) α} {good : α → Nat → Prop} {bad : StreamError → Nat → Prop}
    (h : act.Moves (Below start maxLength count ownership stands) s good bad)
    (hgood : ∀ value q', good value q' → q' = q) (hbad : ∀ e q', bad e q' → q' = q) :
    act.Ends s (fun _ => Stepped origin start maxLength count ownership stands q)
      fun _ => Stepped origin start maxLength count ownership stands q := by
  refine StreamM.Ends.mono h ?_ ?_
  · rintro value s' ⟨q', hq', hs'⟩
    exact .of_same (hgood value q' hq' ▸ hs')
  · rintro e s' ⟨q', hq', hs'⟩
    exact .of_same (hbad e q' hq' ▸ hs')

/-- **A request sets the count right or keeps what it is off by**: a seek that succeeds sets it
right, and a read moves it as far as the cursor. -/
theorem ends_asked (bounded : Bounded origin bounds stands)
    (h : Below start maxLength count ownership (stands shown) s q) {request : Request}
    (hne : request ≠ .dispose) :
    (ByteStream.perform request : StreamM ω (Truncated σ) request.Answer).Ends s
      (fun _ => Stepped origin start maxLength count ownership (stands shown) q)
      fun _ => Stepped origin start maxLength count ownership (stands shown) q := by
  have hidle : ∀ idle : Request, idle.isIdle = true →
      (ByteStream.perform idle : StreamM ω (Truncated σ) idle.Answer).Ends s
        (fun _ => Stepped origin start maxLength count ownership (stands shown) q)
        fun _ => Stepped origin start maxLength count ownership (stands shown) q :=
    fun idle hisIdle =>
      ends_stepped_of_moves (moves_idle bounded h hisIdle) (fun _ _ h => h) fun _ _ h => h
  have hdeclined : ∀ declined : Request, declines declined = true →
      (ByteStream.perform declined : StreamM ω (Truncated σ) declined.Answer).Ends s
        (fun _ => Stepped origin start maxLength count ownership (stands shown) q)
        fun _ => Stepped origin start maxLength count ownership (stands shown) q :=
    fun declined hdeclines => (ends_declined h hdeclines).mono (fun _ _ h => h.elim)
      fun _ _ hs' => .of_same hs'
  cases request with
  | position =>
    have hposition := moves_onBase h.1 ((bounded.passthrough ownership).position h.2)
    exact ends_stepped_of_moves hposition (fun _ _ h => h.2) fun _ _ h => h
  | setPosition target =>
    exact (ends_setPosition bounded h target).mono (fun _ s' hs' => ⟨_, target, hs', .inl rfl⟩)
      fun _ _ hs' => .of_same hs'
  | seek target =>
    exact (ends_seek bounded h target).mono (fun place s' hs' => ⟨_, place, hs'.2, .inl rfl⟩)
      fun _ _ hs' => .of_same hs'
  | read mode room =>
    exact (ends_read bounded h mode room).mono
      (fun bytes s' hs' => ⟨_, _, hs'.2, .inr ⟨bytes.length, rfl, rfl⟩⟩)
      fun _ _ hs' => .of_same hs'.2
  | readByte =>
    exact (ends_readByte bounded h).mono
      (fun byte s' hs' => ⟨_, _, hs'.2, .inr ⟨byte.toList.length, rfl, rfl⟩⟩)
      fun _ _ hs' => hs'.elim
  | length => exact hidle .length rfl
  | timeout direction => exact hidle (.timeout direction) rfl
  | setTimeout direction limit => exact hidle (.setTimeout direction limit) rfl
  | flush mode => exact hdeclined (.flush mode) rfl
  | setLength size => exact hdeclined (.setLength size) rfl
  | write mode data => exact hdeclined (.write mode data) rfl
  | writeByte byte => exact hdeclined (.writeByte byte) rfl
  | dispose => exact absurd rfl hne

variable {calm : σ × ω → Prop} {content : σ × ω → Bytes} {cursor : σ × ω → Nat}
  {settle : Nat → Nat → Nat} {exact : Prop}

/-- An open view whose count is not behind the cursor, and right if it is to be `exact`. -/
def Leads (start maxLength : Nat) (ownership : Ownership)
    (stands : Bytes → σ × ω → Nat → Prop) (exact : Prop) (s : Truncated σ × ω) : Prop :=
  ∃ shown q count, Below start maxLength count ownership (stands shown) s q ∧ q ≤ count ∧
    (exact → count = q)

theorem Leads.asked {stands : Bytes → σ × ω → Nat → Prop} (bounded : Bounded 0 bounds stands)
    (h : Leads start maxLength ownership stands exact s) {request : Request}
    (hne : request ≠ .dispose) :
    Leads start maxLength ownership stands exact (afterUse s (.asked request)) := by
  obtain ⟨shown, q, count, hbelow, hle, hexact⟩ := h
  obtain ⟨q', count', hbelow', hcount⟩ := (ends_asked bounded hbelow hne).final
  refine ⟨shown, q', count', hbelow', ?_, ?_⟩
  · rcases hcount with hright | ⟨moved, rfl, rfl⟩
    · omega
    · omega
  · intro hwanted
    have hequal := hexact hwanted
    rcases hcount with hright | ⟨moved, rfl, rfl⟩
    · omega
    · omega

/-- A resize moves the cursor back or leaves it, and the view does not take notice. -/
theorem Leads.resized (resizable : Resizable calm content cursor settle)
    (h : Leads start maxLength ownership (Standing calm content cursor) exact s) (size : Nat)
    (hsettled : exact → ∀ below, s.1.base.slot = .live below →
      settle (cursor (below, s.2)) size = cursor (below, s.2)) :
    Leads start maxLength ownership (Standing calm content cursor) exact
      (afterUse s (.resized size)) := by
  obtain ⟨shown, q, count, ⟨hfields, below, hbase, hstanding⟩, hle, hexact⟩ := h
  have hcut := (Passthrough.carries_forward ownership (ByteStream.setLength size)).ends
    ⟨below, hbase, hstanding⟩ fun t ht => resizable.setLength ht size
  have hslot : s.1.base.slot = .live below := congrArg Passthrough.slot hbase
  have hcursor : cursor (below, s.2) = q := hstanding.2.2
  refine StreamM.Ends.final ((ends_onBase hfields hcut).mono ?_ ?_)
  · rintro _ s' ⟨hfields', hbelow'⟩
    have hsettle := resizable.settle_le q size
    refine ⟨_, _, count, ⟨hfields', hbelow'⟩, by omega, ?_⟩
    intro hwanted
    rw [← hcursor, hsettled hwanted below hslot, hcursor]
    exact hexact hwanted
  · rintro _ s' ⟨hfields', hbelow'⟩
    exact ⟨shown, q, count, ⟨hfields', hbelow'⟩, hle, hexact⟩

theorem ends_wrap_leads (resizable : Resizable calm content cursor settle) {s : σ × ω}
    (hcalm : calm s) (maxLength : Nat) (ownership : Ownership) :
    (wrap maxLength ownership : StreamM ω σ (Truncated σ)).Ends s
      (fun layer s' => ∀ exact, Leads layer.origin layer.maxLength ownership
        (Standing calm content cursor) exact (layer, s'.2)) fun _ _ => True := by
  unfold wrap
  split
  · exact trivial
  refine StreamM.Ends.bind (StreamM.Ends.mono (resizable.tells ⟨hcalm, rfl, rfl⟩)
    (fun _ _ h => h) fun _ _ _ => trivial) ?_
  rintro place s' ⟨_, ⟨rfl, rfl⟩, hs'⟩
  refine StreamM.ends_state_bind (StreamM.ends_pure fun _ => ?_)
  exact ⟨_, _, _, ⟨⟨rfl, rfl, rfl⟩, s'.1, rfl, hs'⟩, Nat.le_refl _, fun _ => rfl⟩

/-- No resize moves the cursor of the stream below. -/
def Undisturbed (cursor : σ × ω → Nat) (settle : Nat → Nat → Nat) (uses : List Use)
    (s : Truncated σ × ω) : Prop :=
  ∀ before size, before ++ [.resized size] <+: uses →
    ∀ below, (afterUses before s).1.base.slot = .live below →
      settle (cursor (below, (afterUses before s).2)) size = cursor (below, (afterUses before s).2)

omit [Cancellation ω] in
theorem Undisturbed.tail {use : Use} {uses : List Use}
    (h : Undisturbed cursor settle (use :: uses) s) :
    Undisturbed cursor settle uses (afterUse s use) :=
  fun before size hbefore =>
    h (use :: before) size (List.cons_prefix_cons.mpr ⟨rfl, hbefore⟩)

/-- The induction is on the uses: each keeps the count at the cursor or before it. -/
theorem Leads.afterUses (resizable : Resizable calm content cursor settle) {uses : List Use}
    (h : Leads start maxLength ownership (Standing calm content cursor) exact s)
    (hopen : .asked .dispose ∉ uses) (hexact : exact → Undisturbed cursor settle uses s) :
    Leads start maxLength ownership (Standing calm content cursor) exact
      (Truncated.afterUses uses s) := by
  induction uses generalizing s with
  | nil => exact h
  | cons use uses ih =>
    rw [List.mem_cons, not_or] at hopen
    have hstep : Leads start maxLength ownership (Standing calm content cursor) exact
        (afterUse s use) := by
      cases use with
      | asked request =>
        apply h.asked resizable.toBounded
        rintro rfl
        exact hopen.1 rfl
      | resized size =>
        apply h.resized resizable size
        intro hwanted
        exact hexact hwanted [] size ⟨uses, rfl⟩
    exact ih hstep hopen.2 fun hwanted => (hexact hwanted).tail

/-- **What a view gives whose count leads**: no more than it takes to be left, which is no more than
there is before its boundary, and exactly that if its count is right. -/
theorem Leads.reads (resizable : Resizable calm content cursor settle)
    (h : Leads start maxLength ownership (Standing calm content cursor) exact s) :
    ∃ below, s.1.base.slot = .live below ∧
      (ByteStream.position : StreamM ω (Truncated σ) Nat).result s = .ok (cursor (below, s.2)) ∧
      s.1.remaining ≤ start + maxLength - cursor (below, s.2) ∧
      (exact → s.1.remaining = saturatingAdd start maxLength - cursor (below, s.2)) ∧
      (∃ s', (ByteStream.readByte : StreamM ω (Truncated σ) (Option UInt8)) s =
        .ok (if s.1.remaining = 0 then none
          else (content (below, s.2))[cursor (below, s.2)]?) s') ∧
      ∀ (mode : Mode) (room : Nat), mode.isCancelled s.2 = false → 0 < room →
        ∃ bytes s', (ByteStream.read mode room : StreamM ω (Truncated σ) Bytes) s = .ok bytes s' ∧
          ReadsLeft (content (below, s.2)) (cursor (below, s.2)) s.1.remaining room bytes := by
  obtain ⟨shown, q, count, hbelow, hle, hexact⟩ := h
  have hfields := hbelow.1
  obtain ⟨below, hbase, -, hshown, hq⟩ := hbelow.2
  have hremaining : s.1.remaining = saturatingAdd start maxLength - count := by
    unfold remaining boundary
    rw [hfields.1, hfields.2.1, hfields.2.2]
  refine ⟨below, congrArg Passthrough.slot hbase, ?_⟩
  dsimp only at hq hshown
  rw [hq, hshown, hremaining]
  refine ⟨?_, ?_, ?_, ?_, ?_⟩
  · have hposition := moves_onBase hfields ((Passthrough.carries_forward ownership _).moves
      hbelow.2 fun _ ht => resizable.tells ht)
    obtain ⟨place, _, s', heq, ⟨rfl, -⟩, -⟩ := hposition.exists_ok
    exact StreamM.result_of_eq_ok heq
  · unfold saturatingAdd
    omega
  · intro hwanted
    rw [hexact hwanted]
  · obtain ⟨byte, s', heq, hbyte, -⟩ := (ends_readByte resizable.toBounded hbelow).exists_ok
    refine ⟨s', ?_⟩
    rw [Bytes.take_limit_nil] at hbyte
    simp only [Nat.sub_eq_zero_iff_le]
    rw [← hbyte]
    exact heq
  · intro mode room hmode hroom
    have hnever : ∀ (e : StreamError) (s' : Truncated σ × ω),
        (mode.isCancelled s.2 = true ∧
          Below start maxLength count ownership (Standing calm content cursor shown) s' q) →
        False := by
      rintro _ _ ⟨hcancelled, -⟩
      rw [hmode] at hcancelled
      cases hcancelled
    have hread := (ends_read resizable.toBounded hbelow mode room).mono (fun _ _ h => h) hnever
    obtain ⟨bytes, s', heq, hdelivers, -⟩ := hread.exists_ok
    rw [Bytes.take_limit_nil] at hdelivers
    exact ⟨bytes, s', heq, hdelivers.readsLeft hroom⟩

end Truncated

end

namespace Truncated

variable {ω : Type} [Cancellation ω]

/-- **A view never reads past its boundary, however the stream below is resized.** It takes no more
bytes to be left than there are before the boundary, reads of those what is there, and says where
the stream below stands. What it takes to be left is exact over memory, and over zeros as long as no
resize moves the cursor. -/
theorem reads_of_resized (base : ResizedBase) {s₀ s₁ : base.Over × ω} (hcalm : base.Calm s₀)
    {maxLength : Nat} {ownership : Ownership} {layer : Truncated base.Over}
    (hmade : (wrap maxLength ownership : StreamM ω base.Over (Truncated base.Over)) s₀ =
      .ok layer s₁) {uses : List Use} (hopen : .asked .dispose ∉ uses)
    {s : Truncated base.Over × ω} (hs : s = afterUses uses (layer, s₁.2)) :
    ∃ below, s.1.base.slot = .live below ∧
      (ByteStream.position : StreamM ω (Truncated base.Over) Nat).result s =
        .ok (base.cursor (below, s.2)) ∧
      s.1.remaining ≤ layer.origin + layer.maxLength - base.cursor (below, s.2) ∧
      (base = .memory ∨ Undisturbed base.cursor base.settle uses (layer, s₁.2) →
        s.1.remaining = layer.boundary - base.cursor (below, s.2)) ∧
      (∃ s', (ByteStream.readByte : StreamM ω (Truncated base.Over) (Option UInt8)) s =
        .ok (if s.1.remaining = 0 then none
          else (base.content (below, s.2))[base.cursor (below, s.2)]?) s') ∧
      ∀ (mode : Mode) (room : Nat), mode.isCancelled s.2 = false → 0 < room →
        ∃ bytes s', (ByteStream.read mode room : StreamM ω (Truncated base.Over) Bytes) s =
            .ok bytes s' ∧
          ReadsLeft (base.content (below, s.2)) (base.cursor (below, s.2)) s.1.remaining room
            bytes := by
  subst hs
  have resizable := base.resizable (ω := ω)
  have hundisturbed : base = .memory ∨
      Undisturbed base.cursor base.settle uses (layer, s₁.2) →
      Undisturbed base.cursor base.settle uses (layer, s₁.2) := by
    rintro (rfl | h)
    · intro before size _ below _
      rfl
    · exact h
  have hmade' := (ends_wrap_leads resizable hcalm maxLength ownership).of_eq_ok hmade
  exact ((hmade' _).afterUses resizable hopen hundisturbed).reads resizable

/-- Ten zeros are read, and made two and ten again. -/
def driftingUses : List Use := [.asked (.read .blocking 10), .resized 2, .resized 10]

/-- **A view of ten zeros that drifted is at its end at the place 2.** The first resize moved the
cursor back there, and the view took no notice of that. -/
theorem reads_of_drifted :
    ∃ (layer : Truncated (ResizedBase.Over .zeros)) (s : _ × Surroundings),
      (wrap 10 .borrows : StreamM Surroundings (ResizedBase.Over .zeros) _)
        (Zeros.ofSize 10, .initial) = .ok layer (Zeros.ofSize 10, .initial) ∧
      s = afterUses driftingUses (layer, .initial) ∧
      StreamM.result ByteStream.position s = .ok 2 ∧
      StreamM.result ByteStream.length s = .ok 10 ∧
      ∃ s', ByteStream.read .blocking 1 s = .ok [] s' := by
  have hcalm : ResizedBase.zeros.Calm (Zeros.ofSize 10, Surroundings.initial) := ⟨rfl, by decide⟩
  have hmade : (wrap 10 .borrows : StreamM Surroundings (ResizedBase.Over .zeros) _)
      (Zeros.ofSize 10, .initial) = .ok _ (Zeros.ofSize 10, .initial) := rfl
  have hopen : .asked .dispose ∉ driftingUses := by decide
  obtain ⟨below, hslot, hposition, -, -, -, hreads⟩ :=
    reads_of_resized .zeros hcalm hmade hopen rfl
  obtain ⟨bytes, s', heq, hleft⟩ := hreads .blocking 1 rfl Nat.one_pos
  obtain rfl : bytes = [] := hleft.eq_nil_iff.mpr (.inl rfl)
  cases hslot
  exact ⟨_, _, hmade, rfl, hposition, rfl, s', heq⟩

end Truncated

end LayeredStreams
