import LayeredStreams.Layer.Window
import LayeredStreams.Proofs.Rebasing

/-!
# Windows over memory

A window with an offset and a length reads as the part of the content does that it is named after.

* `Request.inspects` — the requests that read, move the cursor, or ask for it or for the length.
* `MemoryDevice.clip` — a content that is cut off.
* `Request.bytesOf` — the bytes that an answer carries.
* `Truncated.Over` — an open truncated layer that counts from the start of the stream below and
  stands where that does; `Truncated.Shows` says that it shows the content below, cut off.
* `Window.Shows` — an open window with an offset and a length over a stream that shows a memory.

Principal results: `Truncated.follows` (a truncated layer cuts the content off and changes nothing
else), `Window.follows_part` (a window behaves as the part) and `Window.answers_as_part` (every
answer of a window, after every run of requests, is that of a stream over the part, and carries no
byte from outside it).
-/

set_option autoImplicit false

namespace LayeredStreams

/-- Whether a request reads, or moves the cursor, or asks for the cursor or the length. -/
def Request.inspects : Request → Bool
  | position | setPosition _ | length | seek _ | read _ _ | readByte => true
  | _ => false

theorem Request.isServed_of_inspects {request : Request} (h : request.inspects = true) :
    request.isServed false = true := by
  cases request with
  | setLength | write | writeByte | dispose => cases h
  | _ => rfl

/-- The bytes of the content that an answer carries. -/
def Request.bytesOf : (request : Request) → request.Answer → Bytes
  | .read _ _, bytes => bytes
  | .readByte, byte => byte.toList
  | _, _ => []

namespace MemoryDevice

/-- The content cut off after `size` bytes. -/
def clip (size : Nat) (memory : MemoryDevice) : MemoryDevice :=
  { memory with content := memory.content.take size }

variable {ω σ : Type} [Cancellation ω] [ByteStream ω σ] {w : ω} {offset origin : Nat}
  {shows : σ × ω → MemoryDevice → Prop}

/-- A memory of machine words that a stream shows, told from the origin on. -/
def ShowsBehind (origin : Nat) (shows : σ × ω → MemoryDevice → Prop) (s : σ × ω)
    (part : MemoryDevice) : Prop :=
  ∃ memory : MemoryDevice, memory.Words ∧ shows s memory ∧ part = memory.behind origin

/-- What a stream shows behind its origin is a content of its own, as long as it is only looked at.
-/
theorem follows_behind (below : ByteStream.Follows (behaviour origin origin w)
      (Rebased.Serves false) shows)
    (hcursor : ∀ {s memory}, shows s memory → origin ≤ memory.cursor) :
    ByteStream.Follows (behaviour origin 0 w)
      (fun _ request => request.inspects = true ∧ request.isFromEnd = false)
      (ShowsBehind origin shows) := by
  constructor
  rintro s _ ⟨memory, hwords, hshows, rfl⟩ request ⟨hinspects, hend⟩
  have hserved := Request.isServed_of_inspects hinspects
  have hserves : Rebased.Serves false memory request := ⟨⟨hwords, hserved⟩, hend⟩
  have hanswer := respond_behind w (hcursor hshows) request
  have hfar : (behaviour origin 0 w).leadsTooFar (memory.behind origin) request = _ :=
    leadsTooFar_behind origin memory request
  refine (below.meets hshows hserves).mono ?_ ?_
  · rintro answer s' ⟨hnear, memory', hrespond, hshows'⟩
    have hrespond : respond origin w memory request = .ok (answer, memory') := hrespond
    have hwords' := hwords.respond hnear hrespond fun hmutates => by
      rw [Request.mutates_of_isServed hserved] at hmutates
      cases hmutates
    rw [hrespond] at hanswer
    exact ⟨hfar.trans hnear, memory'.behind origin, hanswer, memory', hwords', hshows', rfl⟩
  · rintro e s' ⟨hcause, hshows'⟩
    refine ⟨hcause.imp hfar.trans ?_, memory, hwords, hshows', rfl⟩
    rintro ⟨cause, hrespond, rfl⟩
    have hrespond : respond origin w memory request = .error cause := hrespond
    rw [hrespond] at hanswer
    exact ⟨cause, hanswer, rfl⟩

theorem window_infix (content : Bytes) (start count : Nat) :
    content.window start count <:+: content :=
  (List.take_prefix _ _).isInfix.trans (List.drop_suffix _ _).isInfix

theorem bytesOf_infix {memory memory' : MemoryDevice} {request : Request} {answer : request.Answer}
    (h : respond 0 w memory request = .ok (answer, memory')) :
    request.bytesOf answer <:+: memory.content := by
  cases request with
  | read mode room =>
    simp only [respond] at h
    split at h
    · cases h
    · cases h
      exact window_infix _ _ _
  | readByte =>
    cases h
    show memory.content[memory.cursor]?.toList <:+: memory.content
    rw [← Bytes.window_one]
    exact window_infix _ _ _
  | _ => exact List.nil_infix

end MemoryDevice

namespace Truncated

variable {ω σ : Type} [Cancellation ω] [ByteStream ω σ] {w : ω} {offset size cursor : Nat}
  {ownership : Ownership} {shows : σ × ω → MemoryDevice → Prop} {s : Truncated σ × ω}
  {memory : MemoryDevice}

/-- An open layer of a given length and with a given cursor over a stream that shows a memory from
its start on. -/
def Placed (size cursor : Nat) (ownership : Ownership) (shows : σ × ω → MemoryDevice → Prop)
    (s : Truncated σ × ω) (memory : MemoryDevice) : Prop :=
  (s.1.origin = 0 ∧ s.1.maxLength = size ∧ s.1.cursor = cursor) ∧
    StreamM.Held (fun stream => ⟨.live stream, ownership⟩) (shows · memory) (s.1.base, s.2)

/-- An open layer of a given length that stands where the stream below does. -/
def Over (size : Nat) (ownership : Ownership) (shows : σ × ω → MemoryDevice → Prop)
    (s : Truncated σ × ω) (memory : MemoryDevice) : Prop :=
  Placed size memory.cursor ownership shows s memory

/-- An open layer of a given length shows what the stream below shows, cut off. -/
def Shows (size : Nat) (ownership : Ownership) (shows : σ × ω → MemoryDevice → Prop)
    (s : Truncated σ × ω) (part : MemoryDevice) : Prop :=
  ∃ memory, Over size ownership shows s memory ∧ part = memory.clip size

omit [Cancellation ω] [ByteStream ω σ] in
theorem Over.clip (hover : Over size ownership shows s memory) :
    Shows size ownership shows s (memory.clip size) :=
  ⟨memory, hover, rfl⟩

omit [Cancellation ω] [ByteStream ω σ] in
theorem Placed.moved (h : Placed size cursor ownership shows s memory) {place : Nat}
    (hplace : place = memory.cursor) :
    Over size ownership shows ({ s.1 with cursor := place }, s.2) memory :=
  ⟨⟨h.1.1, h.1.2.1, hplace⟩, h.2⟩

omit [Cancellation ω] [ByteStream ω σ] in
theorem Over.boundary_eq (hover : Over size ownership shows s memory) (hsize : size ≤ maxPosition) :
    s.1.boundary = size := by
  unfold boundary saturatingAdd
  rw [hover.1.1, hover.1.2.1, Nat.zero_add, Nat.min_eq_left (le_maxWord hsize)]

section Requests

variable (follows : ByteStream.Follows (MemoryDevice.behaviour offset 0 w)
    (fun _ request => request.inspects = true ∧ request.isFromEnd = false) shows)
  (hover : Over size ownership shows s memory)

include follows hover

theorem onBase_metBy (request : Request) (hinspects : request.inspects = true)
    (hend : request.isFromEnd = false) :
    (MemoryDevice.behaviour offset 0 w).MetBy (Placed size memory.cursor ownership shows) memory
      request (onBase (ByteStream.perform request)) s := by
  have base := follows.passthrough (fun h hdispose => by subst hdispose; cases h.1) ownership
  refine (ends_onBase hover.1 (base.meets hover.2 ⟨hinspects, hend⟩)).mono ?_ ?_
  · rintro answer s' ⟨hfields, hnear, memory', hrespond, hheld⟩
    exact ⟨hnear, memory', hrespond, hfields, hheld⟩
  · rintro e s' ⟨hfields, hcause, hheld⟩
    exact ⟨hcause, hfields, hheld⟩

theorem ends_visibleLength_over :
    (visibleLength : StreamM ω (Truncated σ) Nat).Ends s
      (fun visible s' => visible = (memory.clip size).content.length ∧
        Over size ownership shows s' memory) fun _ _ => False := by
  have hlength := onBase_metBy follows hover .length rfl rfl
  refine (hlength.ends_of_near rfl rfl).bind ?_
  rintro _ s' ⟨rfl, hover'⟩
  refine StreamM.ends_state_bind (StreamM.ends_pure ⟨?_, hover'⟩)
  rw [hover'.1.1, hover'.1.2.1]
  exact List.length_take.symm

theorem seek_below_metBy {target lower : SeekTarget}
    (hend : Request.isFromEnd (.seek lower) = false)
    (hlower : lower.destination memory.cursor memory.content.length =
      target.destination memory.cursor (memory.clip size).content.length) :
    (MemoryDevice.behaviour offset 0 w).MetBy (Shows size ownership shows) (memory.clip size)
      (.seek target)
      (do
        let place ← onBase (ByteStream.seek lower)
        moveTo place
        return place) s := by
  have hfar : (MemoryDevice.behaviour offset 0 w).leadsTooFar memory (.seek lower) =
      (MemoryDevice.behaviour offset 0 w).leadsTooFar (memory.clip size) (.seek target) := by
    refine decide_eq_decide.mpr ?_
    simp only [Nat.sub_zero, hlower]
    rfl
  have hseek := onBase_metBy follows hover (.seek lower) rfl hend
  rcases Int.lt_or_le (lower.destination memory.cursor memory.content.length) 0 with hneg | hpos
  · have hrefused : MemoryDevice.respond 0 w memory (.seek lower) = .error _ :=
      MemoryDevice.respond_seek_of_neg hlower (hlower ▸ hneg)
    have hhere : MemoryDevice.respond 0 w (memory.clip size) (.seek target) = .error _ :=
      MemoryDevice.respond_seek_of_neg rfl (hlower ▸ hneg)
    refine ((hseek.ends_of_error hfar hrefused).mono (fun _ _ h => h) ?_).bind fun _ _ h => h.elim
    rintro e s' ⟨hfar | he, hover'⟩
    · exact ⟨.inl hfar, Over.clip hover'⟩
    · exact ⟨.inr ⟨_, hhere, he⟩, Over.clip hover'⟩
  · obtain ⟨place, hplace⟩ := Int.eq_ofNat_of_zero_le hpos
    have hmove : MemoryDevice.respond 0 w memory (.seek lower) =
        .ok (place, memory.moveTo (0 + place)) := MemoryDevice.respond_seek hplace
    have hhere : MemoryDevice.respond 0 w (memory.clip size) (.seek target) =
        .ok (place, (memory.clip size).moveTo (0 + place)) :=
      MemoryDevice.respond_seek (hlower.symm.trans hplace)
    refine ((hseek.ends_of_ok hfar hmove).mono (fun _ _ h => h) ?_).bind ?_
    · rintro e s' ⟨hfar, hover'⟩
      exact ⟨.inl hfar, Over.clip hover'⟩
    · rintro _ s' ⟨hnear, rfl, hplaced⟩
      have hmoved := hplaced.moved (Nat.zero_add _).symm
      exact StreamM.ends_update_bind (StreamM.ends_pure ⟨hnear, _, hhere, _, hmoved, rfl⟩)

/-- A seek told from the end is told from the start below, unless it leads to no position. -/
theorem ends_targetBelow_fromEnd (distance : Int) :
    (targetBelow (.fromEnd distance) : StreamM ω (Truncated σ) SeekTarget).Ends s
      (fun lower s' => Over size ownership shows s' memory ∧
        Request.isFromEnd (.seek lower) = false ∧
        lower.destination memory.cursor memory.content.length =
          SeekTarget.destination (.fromEnd distance) memory.cursor
            (memory.clip size).content.length)
      (fun e s' =>
        ((MemoryDevice.behaviour offset 0 w).leadsTooFar (memory.clip size)
            (.seek (.fromEnd distance)) = true ∨
          ∃ cause, MemoryDevice.respond 0 w (memory.clip size) (.seek (.fromEnd distance)) =
            .error cause ∧ e = .refusal cause) ∧
          Over size ownership shows s' memory) := by
  refine (ends_visibleLength_over follows hover).of_never.bind ?_
  rintro _ s₁ ⟨rfl, hover₁⟩
  refine ((StreamM.ends_ofExcept _).mono (fun _ _ h => h) ?_).bind ?_
  · rintro e _ ⟨cause, hcause, rfl, rfl⟩
    obtain ⟨rfl, hbefore | hbeyond⟩ := SeekTarget.resolve_eq_error_iff.mp hcause
    · exact ⟨.inr ⟨_, MemoryDevice.respond_seek_of_neg rfl hbefore, rfl⟩, hover₁⟩
    · refine ⟨.inl (decide_eq_true ?_), hover₁⟩
      exact Int.lt_of_lt_of_le hbeyond (Int.le_add_of_nonneg_left (Int.natCast_nonneg offset))
  · rintro place _ ⟨hplace, rfl⟩
    obtain ⟨hdestination, hle⟩ := SeekTarget.resolve_eq_ok_iff.mp hplace
    have hsum : saturatingAdd 0 place = place := by
      unfold saturatingAdd
      rw [Nat.zero_add, Nat.min_eq_left (le_maxWord hle)]
    refine StreamM.ends_state_bind (StreamM.ends_pure ⟨hover₁, rfl, ?_⟩)
    rw [hover₁.1.1, hsum]
    exact hdestination.symm

theorem read_metBy (hsize : size ≤ maxPosition) (mode : Mode) (room : Nat) :
    (MemoryDevice.behaviour offset 0 w).MetBy (Shows size ownership shows) (memory.clip size)
      (.read mode room) (Truncated.read mode room) s := by
  refine StreamM.ends_state_bind ?_
  have hremaining : s.1.remaining = size - memory.cursor := by
    unfold remaining
    rw [hover.boundary_eq hsize, hover.1.2.2]
  have hwindow : (memory.clip size).content.window memory.cursor room =
      memory.content.window memory.cursor (min room (size - memory.cursor)) :=
    Bytes.window_take _ _ _ _
  have hbase := fun room => onBase_metBy follows hover (.read mode room) rfl rfl
  rw [hremaining]
  cases hcancelled : mode.isCancelled w with
  | true =>
    have hrefused : ∀ (memory : MemoryDevice) (room : Nat),
        MemoryDevice.respond 0 w memory (.read mode room) = .error .cancelled :=
      fun _ _ => if_pos hcancelled
    refine (((hbase _).ends_of_error rfl (hrefused memory _)).mono
      (fun _ _ h => h) ?_).bind fun _ _ h => h.elim
    rintro e s' ⟨hfar | he, hover'⟩
    · cases hfar
    · exact ⟨.inr ⟨_, hrefused _ room, he⟩, Over.clip hover'⟩
  | false =>
    have hread : ∀ (memory : MemoryDevice) (room : Nat),
        MemoryDevice.respond 0 w memory (.read mode room) =
          .ok (memory.content.window memory.cursor room, memory.moveTo
            (memory.cursor + (memory.content.window memory.cursor room).length)) :=
      fun _ _ => if_neg (Bool.eq_false_iff.mp hcancelled)
    refine ((hbase _).ends_of_near rfl (hread memory _)).of_never.bind ?_
    rintro _ s' ⟨rfl, hplaced⟩
    rw [← hwindow] at hplaced ⊢
    have hmoved := hplaced.moved (congrArg (· + _) hplaced.1.2.2)
    exact StreamM.ends_update_bind (StreamM.ends_pure ⟨rfl, _, hread _ room, _, hmoved, rfl⟩)

theorem readByte_metBy (hsize : size ≤ maxPosition) :
    (MemoryDevice.behaviour offset 0 w).MetBy (Shows size ownership shows) (memory.clip size)
      .readByte (Truncated.readByte) s := by
  have hbelow : Below 0 size memory.cursor ownership (fun t (_ : Nat) => shows t memory) s 0 :=
    hover
  refine StreamM.ends_bind_of_eq_ok (onBase_ensureOpen hbelow) (StreamM.ends_state_bind ?_)
  rw [hover.boundary_eq hsize, hover.1.2.2]
  have hbyte : (memory.clip size).content[memory.cursor]? =
      if memory.cursor < size then memory.content[memory.cursor]? else none :=
    List.getElem?_take
  have hanswer : ∀ {byte}, (memory.clip size).content[memory.cursor]? = byte →
      MemoryDevice.respond 0 w (memory.clip size) .readByte =
        .ok (byte, (memory.clip size).moveTo (memory.cursor + byte.toList.length)) :=
    MemoryDevice.respond_readByte
  split
  · rename_i hend
    rw [if_neg (Nat.not_lt.mpr hend)] at hbyte
    exact StreamM.ends_pure ⟨rfl, _, hanswer hbyte, Over.clip hover⟩
  · rename_i hmore
    rw [if_pos (Nat.lt_of_not_le hmore)] at hbyte
    have hread : MemoryDevice.respond 0 w memory .readByte = .ok (_, memory.moveTo _) :=
      MemoryDevice.respond_readByte rfl
    have hbase := onBase_metBy follows hover .readByte rfl rfl
    refine (hbase.ends_of_near rfl hread).of_never.bind ?_
    rintro _ s' ⟨rfl, hplaced⟩
    cases hthere : memory.content[memory.cursor]? with
    | none =>
      rw [hthere] at hbyte hplaced
      exact StreamM.ends_pure ⟨rfl, _, hanswer hbyte, _, hplaced, rfl⟩
    | some byte =>
      rw [hthere] at hbyte hplaced
      have hmoved := hplaced.moved (congrArg (· + 1) hplaced.1.2.2)
      exact StreamM.ends_update_bind (StreamM.ends_pure ⟨rfl, _, hanswer hbyte, _, hmoved, rfl⟩)

end Requests

/-- **A truncated layer cuts the content off** and changes nothing else. -/
theorem follows (below : ByteStream.Follows (MemoryDevice.behaviour offset 0 w)
      (fun _ request => request.inspects = true ∧ request.isFromEnd = false) shows)
    (hsize : size ≤ maxPosition) (ownership : Ownership) :
    ByteStream.Follows (MemoryDevice.behaviour offset 0 w)
      (fun _ request => request.inspects = true) (Shows (σ := σ) size ownership shows) := by
  constructor
  rintro s _ ⟨memory, hover, rfl⟩ request hinspects
  cases request with
  | position =>
    have hposition := onBase_metBy below hover .position rfl rfl
    refine (hposition.ends_of_near rfl rfl).of_never.mono ?_ fun _ _ h => h
    rintro _ s' ⟨rfl, hover'⟩
    exact ⟨rfl, _, rfl, Over.clip hover'⟩
  | length =>
    refine (ends_visibleLength_over below hover).mono ?_ fun _ _ h => h.elim
    rintro _ s' ⟨rfl, hover'⟩
    exact ⟨rfl, _, rfl, Over.clip hover'⟩
  | setPosition target =>
    have hset := onBase_metBy below hover (.setPosition target) rfl rfl
    refine ((hset.ends_of_ok rfl rfl).mono (fun _ _ h => h) ?_).bind ?_
    · rintro e s' ⟨hfar, hover'⟩
      exact ⟨.inl hfar, Over.clip hover'⟩
    · rintro _ s' ⟨hnear, -, hplaced⟩
      exact StreamM.ends_update ⟨hnear, _, rfl, _, hplaced.moved (Nat.zero_add target).symm, rfl⟩
  | seek target =>
    cases target with
    | fromStart target => exact seek_below_metBy below hover rfl rfl
    | fromCurrent distance => exact seek_below_metBy below hover rfl rfl
    | fromEnd distance =>
      refine ((ends_targetBelow_fromEnd below hover distance).mono (fun _ _ h => h) ?_).bind ?_
      · rintro e s' ⟨hcause, hover'⟩
        exact ⟨hcause, Over.clip hover'⟩
      · rintro lower s' ⟨hover', hend, hlower⟩
        exact seek_below_metBy below hover' hend hlower
  | read mode room => exact read_metBy below hover hsize mode room
  | readByte => exact readByte_metBy below hover hsize
  | setLength | write | writeByte | flush | timeout | setTimeout | dispose => cases hinspects

theorem ends_wrap_over (below : ByteStream.Follows (MemoryDevice.behaviour offset 0 w)
      (fun _ request => request.inspects = true ∧ request.isFromEnd = false) shows)
    {s : σ × ω} {content : Bytes} (h : shows s (.ofContent content)) (hsize : size ≤ maxPosition)
    (ownership : Ownership) :
    (wrap size ownership : StreamM ω σ (Truncated σ)).Ends s
      (fun layer s' => Over size ownership shows (layer, s'.2) (.ofContent content))
      fun _ _ => False := by
  unfold wrap
  rw [if_neg (Nat.not_lt.mpr hsize)]
  have hposition : (ByteStream.position : StreamM ω σ Nat).Ends s
      (fun place s' => place = 0 ∧ shows s' (.ofContent content)) fun _ _ => False :=
    (below.meets h ⟨rfl, rfl⟩).ends_of_near rfl rfl
  refine hposition.bind ?_
  rintro _ s' ⟨rfl, hshows⟩
  exact StreamM.ends_state_bind (StreamM.ends_pure ⟨⟨rfl, rfl, rfl⟩, s'.1, rfl, hshows⟩)

end Truncated

/-! ## Windows -/

namespace Window

variable {ω σ : Type} [Cancellation ω] [ByteStream ω σ] {w : ω} {offset size : Nat}
  {ownership : Ownership} {shows : σ × ω → MemoryDevice → Prop} {s : σ × ω}

/-- An open rebased layer over a stream that shows a memory, told from the offset on. -/
def RebasedShows (offset : Nat) (ownership : Ownership) (shows : σ × ω → MemoryDevice → Prop) :
    Rebased σ × ω → MemoryDevice → Prop :=
  MemoryDevice.ShowsBehind offset (Rebased.Behind 0 offset ownership shows)

/-- An open window, with an offset and a length, over a stream that shows a memory. -/
def Shows (offset size : Nat) (ownership : Ownership) (shows : σ × ω → MemoryDevice → Prop)
    (s : Window σ × ω) (part : MemoryDevice) : Prop :=
  StreamM.Held rebasedTruncated
    (Truncated.Shows size .owns (RebasedShows offset ownership shows) · part) s

variable (base : ByteStream.Follows (MemoryDevice.behaviour 0 0 w)
    (MemoryDevice.Serves false) shows)

include base

theorem follows_rebased (offset : Nat) (ownership : Ownership) :
    ByteStream.Follows (MemoryDevice.behaviour offset 0 w)
      (fun _ request => request.inspects = true ∧ request.isFromEnd = false)
      (RebasedShows offset ownership shows) := by
  have rebased := Rebased.follows (base.mono fun _ _ h => h.1) offset ownership
  rw [Nat.zero_add] at rebased
  exact MemoryDevice.follows_behind rebased fun h => Nat.le_of_add_left_le h.2

/-- A window over memory behaves as the part that it is named after. -/
theorem follows_part (offset : Nat) (hsize : size ≤ maxPosition) (ownership : Ownership) :
    ByteStream.Follows (MemoryDevice.behaviour offset 0 w)
      (fun _ request => request.inspects = true) (Shows offset size ownership shows) :=
  (Truncated.follows (follows_rebased base offset ownership) hsize .owns).carried fun _ _ _ => rfl

theorem ends_seek_offset {content : Bytes} {p : Nat} (h : shows s ⟨content, p⟩)
    (hwords : (MemoryDevice.mk content p).Words) (hoffset : offset ≤ maxPosition) :
    (ByteStream.seek (.fromStart offset) : StreamM ω σ Nat).Ends s
      (fun _ s' => shows s' ⟨content, offset⟩) fun _ _ => False := by
  have hnear : (MemoryDevice.behaviour 0 0 w).leadsTooFar ⟨content, p⟩ (.seek (.fromStart offset)) =
      false := by
    refine decide_eq_false ?_
    show ¬ (maxPosition : Int) < (0 : Nat) + (offset : Int)
    omega
  have hrespond : MemoryDevice.respond 0 w ⟨content, p⟩ (.seek (.fromStart offset)) =
      .ok (offset, MemoryDevice.moveTo (0 + offset) ⟨content, p⟩) := MemoryDevice.respond_seek rfl
  refine ((base.meets h ⟨hwords, rfl⟩).ends_of_near hnear hrespond).mono ?_ fun _ _ h => h
  rintro _ s' ⟨-, hshows⟩
  rwa [Nat.zero_add] at hshows

theorem ends_ofPart {content : Bytes} {p : Nat} (h : shows s ⟨content, p⟩)
    (hwords : (MemoryDevice.mk content p).Words) (hpos : 0 < offset)
    (hoffset : offset ≤ maxPosition) (hsize : size ≤ maxPosition) (ownership : Ownership) :
    (ofPart offset (some size) ownership : StreamM ω σ (Window σ)).Ends s
      (fun window s₁ => Shows offset size ownership shows (window, s₁.2)
        (.ofContent ((content.drop offset).take size)))
      fun _ _ => False := by
  obtain ⟨before, rfl⟩ : ∃ before, offset = before + 1 := ⟨offset - 1, by omega⟩
  refine (ends_seek_offset base h hwords hoffset).bind ?_
  intro _ s₁ h₁
  have hwords₁ : (MemoryDevice.mk content (before + 1)).Words :=
    ⟨le_maxWord hoffset, hwords.length_le⟩
  have below := base.mono (fun _ _ (h : Rebased.Serves false _ _) => h.1)
  refine (Rebased.ends_wrap_over below h₁ hwords₁ ownership).bind ?_
  intro layer s₂ hlayer
  -- the truncated layer is put over the rebased one, which stands at its start
  have hpart : RebasedShows (before + 1) ownership shows (layer, s₂.2)
      (.ofContent (content.drop (before + 1))) :=
    ⟨_, hwords₁, ⟨hlayer, Nat.le_of_eq (Nat.zero_add _)⟩, MemoryDevice.ofContent_drop _ _⟩
  have hwrap := Truncated.ends_wrap_over (follows_rebased base (before + 1) ownership) hpart hsize
    .owns
  have htruncate : (truncate layer size : StreamM ω σ (Truncated (Rebased σ))).Ends s₂
      (fun layer' s' => Truncated.Over size .owns (RebasedShows (before + 1) ownership shows)
        (layer', s'.2) (.ofContent (content.drop (before + 1)))) fun _ _ => False := by
    refine hwrap.within.mono ?_ ?_
    · rintro layer' s' ⟨part, hover, -⟩
      exact hover
    · rintro e s' ⟨part, hfalse, -⟩
      exact hfalse
  refine htruncate.bind ?_
  intro layer' s₃ hlayer'
  exact StreamM.ends_pure ⟨layer', rfl, _, hlayer', rfl⟩

end Window

/-- **A window is exactly the part that it is named after.** A window with an offset and a length is
put over a stream in memory that stands anywhere. After every run of requests that look at it, the
next one gets the answer that a stream over the part alone gives after the run. Only a request that
leads beyond the greatest position, as counted from the offset, fails; it leaves the cursor where it
was, and the run goes on without it. No answer carries a byte from outside the part. -/
theorem Window.answers_as_part {ω σ : Type} [Cancellation ω] [ByteStream ω σ] {w : ω}
    {shows : σ × ω → MemoryDevice → Prop}
    (base : ByteStream.Follows (MemoryDevice.behaviour 0 0 w) (MemoryDevice.Serves false) shows)
    {s : σ × ω} {content : Bytes} {p : Nat} (h : shows s ⟨content, p⟩)
    (hwords : (MemoryDevice.mk content p).Words) {offset size : Nat} (hpos : 0 < offset)
    (hoffset : offset ≤ maxPosition) (hsize : size ≤ maxPosition) (ownership : Ownership) :
    (Window.ofPart offset (some size) ownership : StreamM ω σ (Window σ)).Ends s
      (fun window s₁ => ∀ requests : List Request,
        (∀ request ∈ requests, request.inspects = true) →
        ∃ memory : MemoryDevice,
          DeviceStream.afterWithin offset requests
              (.ofDevice (.ofContent ((content.drop offset).take size)) .readOnly, w) =
            (.ofDevice memory .readOnly, w) ∧
          ∀ request : Request, request.inspects = true →
            (if (DeviceStream.ofDevice memory .readOnly).leadsBeyond offset request then
              ∃ e s', (ByteStream.perform request : StreamM ω (Window σ) request.Answer)
                  (ByteStream.after requests (window, s₁.2)) = .error e s' ∧
                (ByteStream.position : StreamM ω (Window σ) Nat).result s' = .ok memory.cursor
            else
              (ByteStream.perform request : StreamM ω (Window σ) request.Answer).result
                  (ByteStream.after requests (window, s₁.2)) =
                (ByteStream.perform request : StreamM ω _ request.Answer).result
                  (DeviceStream.ofDevice memory .readOnly, w)) ∧
            ∀ answer, (ByteStream.perform request : StreamM ω (Window σ) request.Answer).result
                (ByteStream.after requests (window, s₁.2)) = .ok answer →
              request.bytesOf answer <:+: (content.drop offset).take size)
      fun _ _ => False := by
  have follows := Window.follows_part base offset hsize ownership
  refine (Window.ends_ofPart base h hwords hpos hoffset hsize ownership).mono ?_ fun _ _ h => h
  intro window s₁ hstart requests hrequests
  have hpart : (MemoryDevice.ofContent ((content.drop offset).take size)).Words := by
    refine ⟨Nat.zero_le _, ?_⟩
    have hlength : content.length ≤ maxWord := hwords.length_le
    show List.length ((content.drop offset).take size) ≤ maxWord
    rw [List.length_take, List.length_drop]
    omega
  have hserved : ∀ request ∈ requests, request.isServed false = true :=
    fun request hmem => Request.isServed_of_inspects (hrequests request hmem)
  obtain ⟨hwords', hcontent⟩ := hpart.run (w := w)
    (fun request hmem => Request.mutates_of_isServed (hserved request hmem)) offset
  have hshows := follows.after hstart fun before request hbefore => hrequests request
    (hbefore.mem (List.mem_append_right _ List.mem_cons_self))
  refine ⟨_, DeviceStream.afterWithin_eq offset hserved hpart, fun request hinspects => ?_⟩
  have hanswers := DeviceStream.answers_of_follows follows hshows (Nat.zero_le _) hinspects
    .readOnly ⟨hwords', Request.isServed_of_isServed (Request.isServed_of_inspects hinspects)⟩
  rw [MemoryDevice.behind_zero] at hanswers
  refine ⟨?_, ?_⟩
  · split
    · rename_i hfar
      rw [if_pos hfar] at hanswers
      obtain ⟨e, s', heq, hshows'⟩ := hanswers
      have hposition : (ByteStream.position : StreamM ω (Window σ) Nat).result s' = .ok _ :=
        (follows.meets hshows' rfl).result_eq rfl
      exact ⟨e, s', heq, hposition⟩
    · rename_i hnear
      rw [if_neg hnear] at hanswers
      exact hanswers
  · intro answer hanswer
    obtain ⟨memory', hrespond⟩ := (follows.meets hshows hinspects).exists_respond hanswer
    have hcarried := MemoryDevice.bytesOf_infix (w := w) hrespond
    rwa [hcontent] at hcarried

/-- A seek to two places before the end, and a move to the greatest position. -/
def nearAndFar : List Request := [.seek (.fromEnd (-2)), .setPosition maxPosition]

/-- A window on three of five bytes. A seek is counted from the end of the window, a move to the
greatest position fails, and a read with room for more stops at the end of the window. -/
theorem Window.answers_as_part_of_five :
    ∃ window s₁,
      (Window.ofPart 1 (some 3) .borrows :
          StreamM Surroundings (DeviceStream MemoryDevice) (Window (DeviceStream MemoryDevice)))
        (.ofDevice ⟨[1, 2, 3, 4, 5], 4⟩ .fixedLength, .initial) = .ok window s₁ ∧
      (ByteStream.perform (.read .blocking 9) :
          StreamM Surroundings (Window (DeviceStream MemoryDevice)) Bytes).result
        (ByteStream.after nearAndFar (window, s₁.2)) = .ok [3, 4] := by
  have hwords : (MemoryDevice.mk [1, 2, 3, 4, 5] 4).Words := ⟨by decide, by decide⟩
  have hwindow := Window.answers_as_part
    (DeviceStream.follows_memory .fixedLength Surroundings.initial) rfl hwords Nat.one_pos
    (by decide) (show 3 ≤ maxPosition by decide) .borrows
  obtain ⟨window, s₁, hmade, hanswers⟩ := hwindow.exists_ok
  refine ⟨window, s₁, hmade, ?_⟩
  obtain ⟨memory, hreference, hrequest⟩ := hanswers nearAndFar (by decide)
  have hdevice := congrArg (fun s => s.1.device) hreference
  obtain rfl : ⟨[2, 3, 4], 1⟩ = memory := Slot.live.inj hdevice
  have hread := (hrequest (.read .blocking 9) rfl).1
  rw [if_neg (by decide)] at hread
  exact hread

end LayeredStreams
