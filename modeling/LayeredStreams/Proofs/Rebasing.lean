import LayeredStreams.Proofs.InMemory
import LayeredStreams.Proofs.View
import LayeredStreams.Surroundings
import Mathlib.Algebra.GroupWithZero.Nat

/-!
# Rebased layers over memory

A rebased layer counts from where it was made, and does nothing else to what lies behind that place.

* `Request.isFromEnd` — a seek that is told from the end.
* `Rebased.Over` — an open rebased layer over a stream that shows a memory; `Rebased.Behind` says
  that it also stands behind its origin.
* `MemoryDevice.tower` — rebased layers, any number of them, over a stream over memory;
  `MemoryDevice.totalOrigin` is where they count from, together.

Principal results: `Rebased.follows` (a rebased layer adds its origin to that of the stream below),
`MemoryDevice.tower_follows` (so a tower behaves as the memory behind the sum of its origins) and
`Rebased.changes_origin` (every answer of a tower, after every run of requests, is that of a stream
over the content without its first bytes, which stay as they were).
-/

set_option autoImplicit false

namespace LayeredStreams

/-- Whether a request is a seek that is told from the end. -/
def Request.isFromEnd : Request → Bool
  | seek (.fromEnd _) => true
  | _ => false

namespace Rebased

variable {ω σ : Type} [Cancellation ω] [ByteStream ω σ] {w : ω} {writable : Bool}
  {offset origin : Nat} {ownership : Ownership} {shows : σ × ω → MemoryDevice → Prop}
  {s : Rebased σ × ω} {memory : MemoryDevice}

/-- The requests that a rebased layer over memory is asked here: it is not told to seek from the
end. -/
def Serves (writable : Bool) (memory : MemoryDevice) (request : Request) : Prop :=
  memory.Serves writable request ∧ request.isFromEnd = false

/-- An open layer with a given origin over a stream that shows a memory. -/
def Over (origin : Nat) (ownership : Ownership) (shows : σ × ω → MemoryDevice → Prop)
    (s : Rebased σ × ω) (memory : MemoryDevice) : Prop :=
  s.1.baseOffset = origin ∧
    StreamM.Held (fun stream => ⟨.live stream, ownership⟩) (shows · memory) (s.1.base, s.2)

variable {below : Behaviour MemoryDevice}

omit [Cancellation ω] in
theorem onBase_metBy (follows : ByteStream.Follows below (Serves writable) shows)
    (hover : Over origin ownership shows s memory) (request : Request)
    (hserves : Serves writable memory request) :
    below.MetBy (Over origin ownership shows) memory request
      (onBase (ByteStream.perform request)) s := by
  have base := follows.passthrough (fun h hdispose => by subst hdispose; cases h.1.2) ownership
  refine (ends_onBase hover.1 (base.meets hover.2 hserves)).mono ?_ ?_
  · rintro answer s' ⟨horigin, hnear, memory', hrespond, hheld⟩
    exact ⟨hnear, memory', hrespond, horigin, hheld⟩
  · rintro e s' ⟨horigin, hcause, hheld⟩
    exact ⟨hcause, horigin, hheld⟩

/-- An open layer with a given origin over a stream that shows a memory, and that stands behind the
origin. -/
def Behind (offset origin : Nat) (ownership : Ownership) (shows : σ × ω → MemoryDevice → Prop)
    (s : Rebased σ × ω) (memory : MemoryDevice) : Prop :=
  Over origin ownership shows s memory ∧ offset + origin ≤ memory.cursor

omit [ByteStream ω σ] in
/-- A request that names a place is made below with the origin added to the place. Where the sum is
no machine word, it leads too far. -/
theorem toBase_metBy (hbehind : Behind offset origin ownership shows s memory)
    {request : Request} {place : Nat}
    {lower : Nat → StreamM ω (Rebased σ) request.Answer}
    (hfar : (MemoryDevice.behaviour (offset + origin) (offset + origin) w).leadsTooFar memory
      request = decide (maxPosition < offset + origin + place))
    (hlower : (MemoryDevice.behaviour (offset + origin) (offset + origin) w).MetBy
      (Behind offset origin ownership shows) memory request (lower (place + origin)) s) :
    (MemoryDevice.behaviour (offset + origin) (offset + origin) w).MetBy
      (Behind offset origin ownership shows) memory request (toBase place >>= lower) s := by
  have hpositions := le_maxWord (Nat.le_refl maxPosition)
  refine ((ends_toBase hbehind.1.1 place).mono (fun _ _ h => h) ?_).bind ?_
  · rintro e _ ⟨hword, rfl⟩
    refine ⟨.inl (hfar.trans (decide_eq_true ?_)), hbehind⟩
    omega
  · rintro _ _ ⟨rfl, rfl⟩
    exact hlower

section Requests

variable (follows : ByteStream.Follows (MemoryDevice.behaviour offset offset w)
    (Serves writable) shows)
  (hbehind : Behind offset origin ownership shows s memory)

include follows hbehind

theorem passed_metBy {request : Request} (hserves : Serves writable memory request)
    (hnear : ∀ place, (MemoryDevice.behaviour place place w).leadsTooFar memory request = false)
    (hsame : MemoryDevice.respond offset w memory request =
      MemoryDevice.respond (offset + origin) w memory request) :
    (MemoryDevice.behaviour (offset + origin) (offset + origin) w).MetBy
      (Behind offset origin ownership shows) memory request
      (onBase (ByteStream.perform request)) s := by
  refine (onBase_metBy follows hbehind.1 _ hserves).mono ?_ ?_
  · rintro answer s' ⟨-, memory', hrespond, hover'⟩
    have hrespond' := hsame.symm.trans hrespond
    have hcursor' := (MemoryDevice.take_prefix_respond hbehind.2 hrespond').2
    exact ⟨hnear _, memory', hrespond', hover', hcursor'⟩
  · rintro e s' ⟨hfar | ⟨cause, hcause, he⟩, hover'⟩
    · rw [hnear] at hfar
      cases hfar
    · exact ⟨.inr ⟨cause, hsame.symm.trans hcause, he⟩, hover', hbehind.2⟩

theorem seek_below_metBy (hwords : memory.Words)
    {target lower : SeekTarget} {position : Nat} (hend : Request.isFromEnd (.seek lower) = false)
    (htarget : target.destination (memory.cursor - (offset + origin))
      (memory.content.length - (offset + origin)) = position)
    (hlower : lower.destination (memory.cursor - offset) (memory.content.length - offset) =
      ((origin + position : Nat) : Int)) :
    (MemoryDevice.behaviour (offset + origin) (offset + origin) w).MetBy
      (Behind offset origin ownership shows) memory (.seek target)
      (onBase (ByteStream.seek lower) >>= fromBase) s := by
  have hfar : (MemoryDevice.behaviour offset offset w).leadsTooFar memory (.seek lower) =
      (MemoryDevice.behaviour (offset + origin) (offset + origin) w).leadsTooFar memory
        (.seek target) := by
    refine decide_eq_decide.mpr ?_
    rw [htarget, hlower]
    omega
  have hrespond : MemoryDevice.respond offset w memory (.seek lower) =
      .ok (origin + position, memory.moveTo (offset + origin + position)) := by
    rw [MemoryDevice.respond_seek hlower, Nat.add_assoc]
  have hhere : MemoryDevice.respond (offset + origin) w memory (.seek target) = .ok (position, _) :=
    MemoryDevice.respond_seek htarget
  have hseek := (onBase_metBy follows hbehind.1 _ ⟨⟨hwords, rfl⟩, hend⟩).ends_of_ok hfar hrespond
  refine (hseek.mono (fun _ _ h => h) ?_).bind ?_
  · rintro e s' ⟨hfar, hover'⟩
    exact ⟨.inl hfar, hover', hbehind.2⟩
  rintro _ s' ⟨hnear, rfl, hover'⟩
  refine (ends_fromBase hover'.1 _).mono ?_ ?_
  · rintro position' _ ⟨hposition, rfl⟩
    obtain rfl : position' = position := Nat.add_left_cancel hposition
    exact ⟨hnear, _, hhere, hover', Nat.le_add_right _ _⟩
  · rintro e _ ⟨hlt, -⟩
    omega

theorem seek_fromCurrent_metBy (hwords : memory.Words) (distance : Int) :
    (MemoryDevice.behaviour (offset + origin) (offset + origin) w).MetBy
      (Behind offset origin ownership shows) memory (.seek (.fromCurrent distance))
      (targetBelow (.fromCurrent distance) >>= fun lower =>
        onBase (ByteStream.seek lower) >>= fromBase) s := by
  obtain ⟨hover, hcursor⟩ := hbehind
  have hposition := (onBase_metBy follows hover .position ⟨⟨hwords, rfl⟩, rfl⟩).ends_of_near
    rfl rfl
  have hbelow : (targetBelow (.fromCurrent distance) : StreamM ω (Rebased σ) SeekTarget).Ends s
      (fun lower s' => lower = .fromCurrent distance ∧
        (origin : Int) ≤ (memory.cursor - offset : Nat) + distance ∧
        Over origin ownership shows s' memory)
      (fun e s' => (memory.cursor - offset : Nat) + distance < (origin : Int) ∧
        e = .refusal (.invalidSeek ((memory.cursor - offset : Nat) + distance - origin)) ∧
        Over origin ownership shows s' memory) := by
    refine hposition.of_never.bind ?_
    rintro _ s₁ ⟨rfl, hover₁⟩
    refine ((ends_ensureFromOrigin hover₁.1 _).mono (fun _ _ h => h) ?_).bind ?_
    · rintro e _ ⟨hlt, rfl, rfl⟩
      exact ⟨hlt, rfl, hover₁⟩
    · rintro _ _ ⟨hle, rfl⟩
      exact StreamM.ends_pure ⟨rfl, hle, hover₁⟩
  have hplace : SeekTarget.destination (.fromCurrent distance)
      (memory.cursor - (offset + origin)) (memory.content.length - (offset + origin)) =
        (memory.cursor - offset : Nat) + distance - origin := by
    show ((memory.cursor - (offset + origin) : Nat) : Int) + distance = _
    omega
  refine StreamM.Ends.bind (hbelow.mono (fun _ _ h => h) ?_) ?_
  · rintro e s' ⟨hlt, rfl, hover'⟩
    have hrefused := MemoryDevice.respond_seek_of_neg (w := w) hplace (by omega)
    exact ⟨.inr ⟨_, hrefused, rfl⟩, hover', hcursor⟩
  · rintro _ s' ⟨rfl, hle, hover'⟩
    obtain ⟨position, hposition⟩ := Int.eq_ofNat_of_zero_le (Int.sub_nonneg_of_le hle)
    refine seek_below_metBy follows ⟨hover', hcursor⟩ hwords rfl (hplace.trans hposition) ?_
    show ((memory.cursor - offset : Nat) : Int) + distance = _
    omega

end Requests

/-- **A rebased layer adds its origin** to that from which the stream below counts. -/
theorem follows (below : ByteStream.Follows (MemoryDevice.behaviour offset offset w)
      (Serves writable) shows) (origin : Nat) (ownership : Ownership) :
    ByteStream.Follows (MemoryDevice.behaviour (offset + origin) (offset + origin) w)
      (Serves writable) (Behind (σ := σ) offset origin ownership shows) := by
  constructor
  intro s memory hbehind request hserves
  obtain ⟨⟨hwords, hserved⟩, hend⟩ := hserves
  obtain ⟨hover, hcursor⟩ := hbehind
  cases request with
  | position =>
    have hposition := onBase_metBy below hover .position ⟨⟨hwords, rfl⟩, rfl⟩
    refine (hposition.ends_of_near rfl rfl).of_never.bind ?_
    rintro _ s' ⟨rfl, hover'⟩
    refine (ends_fromBase hover'.1 _).mono ?_ ?_
    · rintro position _ ⟨hposition, rfl⟩
      have hanswer : memory.cursor - (offset + origin) = position := by omega
      subst hanswer
      exact ⟨rfl, memory, rfl, hover', hcursor⟩
    · rintro e _ ⟨hlt, -⟩
      omega
  | length =>
    have hlength := onBase_metBy below hover .length ⟨⟨hwords, rfl⟩, rfl⟩
    refine (hlength.ends_of_near rfl rfl).of_never.bind ?_
    rintro _ s' ⟨rfl, hover'⟩
    refine StreamM.ends_state_bind (StreamM.ends_pure ?_)
    rw [hover'.1, Nat.sub_sub]
    exact ⟨rfl, memory, rfl, hover', hcursor⟩
  | setPosition target =>
    refine toBase_metBy ⟨hover, hcursor⟩ rfl ?_
    have hsum : offset + (target + origin) = offset + origin + target := by omega
    have hset := onBase_metBy below hover (.setPosition (target + origin))
      ⟨⟨hwords, rfl⟩, rfl⟩
    refine (hset.ends_of_ok (congrArg (decide <| maxPosition < ·) hsum) rfl).mono ?_ ?_
    · rintro _ s' ⟨hnear, -, hover'⟩
      rw [hsum] at hover'
      exact ⟨hnear, _, rfl, hover', Nat.le_add_right _ _⟩
    · rintro e s' ⟨hfar, hover'⟩
      exact ⟨.inl hfar, hover', hcursor⟩
  | setLength size =>
    refine toBase_metBy ⟨hover, hcursor⟩ rfl ?_
    have hsum : offset + (size + origin) = offset + origin + size := by omega
    have hset := onBase_metBy below hover (.setLength (size + origin))
      ⟨⟨hwords, hserved⟩, rfl⟩
    refine (hset.ends_of_ok (congrArg (decide <| maxPosition < ·) hsum) rfl).mono ?_ ?_
    · rintro _ s' ⟨hnear, -, hover'⟩
      rw [hsum] at hover'
      exact ⟨hnear, _, rfl, hover', hcursor⟩
    · rintro e s' ⟨hfar, hover'⟩
      exact ⟨.inl hfar, hover', hcursor⟩
  | seek target =>
    cases target with
    | fromStart target =>
      refine ((ends_targetBelow_fromStart hover.1 target).mono (fun _ _ h => h) ?_).bind ?_
      · rintro e _ ⟨hword, rfl⟩
        refine ⟨.inl (decide_eq_true ?_), hover, hcursor⟩
        show (maxPosition : Int) < ((offset + origin : Nat) : Int) + (target : Int)
        have hpositions := le_maxWord (Nat.le_refl maxPosition)
        omega
      rintro _ _ ⟨rfl, rfl⟩
      refine seek_below_metBy below ⟨hover, hcursor⟩ hwords rfl rfl ?_
      rw [Nat.add_comm origin target]
      rfl
    | fromCurrent distance =>
      exact seek_fromCurrent_metBy below ⟨hover, hcursor⟩ hwords distance
    | fromEnd distance => cases hend
  | _ => exact passed_metBy below ⟨hover, hcursor⟩ ⟨⟨hwords, hserved⟩, rfl⟩ (fun _ => rfl) rfl

theorem ends_wrap_over (below : ByteStream.Follows (MemoryDevice.behaviour offset offset w)
      (Serves writable) shows) {s : σ × ω} (h : shows s memory) (hwords : memory.Words)
    (ownership : Ownership) :
    (wrap ownership : StreamM ω σ (Rebased σ)).Ends s
      (fun layer s' => Over (memory.cursor - offset) ownership shows (layer, s'.2) memory)
      fun _ _ => False := by
  have hserves : Serves writable memory .position := ⟨⟨hwords, rfl⟩, rfl⟩
  refine ((below.meets h hserves).ends_of_near rfl rfl).bind ?_
  rintro _ s' ⟨rfl, hshows⟩
  exact StreamM.ends_state_bind (StreamM.ends_pure ⟨rfl, s'.1, rfl, hshows⟩)

end Rebased

/-! ## Towers -/

/-- Rebased layers over a stream, the outermost first, each with its origin and its ownership. -/
def Rebased.tower {σ : Type} : (layers : List (Nat × Ownership)) → σ →
    Stack (layers.map fun _ => .rebased) σ
  | [], stream => stream
  | (origin, ownership) :: layers, stream =>
    (⟨.ofStream (tower layers stream) ownership, origin⟩ : Rebased _)

namespace MemoryDevice

/-- A stream over memory whose content can be changed. -/
def resizable (memory : MemoryDevice) : DeviceStream MemoryDevice := .ofDevice memory .resizable

/-- A tower of rebased layers over memory whose content can be changed. -/
def tower (layers : List (Nat × Ownership)) (memory : MemoryDevice) :
    Stack (layers.map fun _ => .rebased) (DeviceStream MemoryDevice) :=
  Rebased.tower layers memory.resizable

/-- Where a tower counts from: its origins add up. -/
def totalOrigin (layers : List (Nat × Ownership)) : Nat := (layers.map Prod.fst).sum

theorem totalOrigin_cons (layer : Nat × Ownership) (layers : List (Nat × Ownership)) :
    totalOrigin (layer :: layers) = totalOrigin layers + layer.1 := Nat.add_comm _ _

/-- A tower over memory that stands behind its origin. -/
def TowerShows {ω : Type} (layers : List (Nat × Ownership)) (w : ω)
    (s : Stack (layers.map fun _ => .rebased) (DeviceStream MemoryDevice) × ω)
    (memory : MemoryDevice) : Prop :=
  s = (memory.tower layers, w) ∧ totalOrigin layers ≤ memory.cursor

theorem towerShows_cons {ω : Type} {w : ω} {origin : Nat} {ownership : Ownership}
    {layers : List (Nat × Ownership)}
    (s : Stack (((origin, ownership) :: layers).map fun _ => .rebased)
      (DeviceStream MemoryDevice) × ω) (memory : MemoryDevice) :
    TowerShows ((origin, ownership) :: layers) w s memory ↔
      Rebased.Over origin ownership (TowerShows layers w) s memory ∧
        totalOrigin layers + origin ≤ memory.cursor := by
  unfold TowerShows
  rw [totalOrigin_cons]
  constructor
  · rintro ⟨rfl, hle⟩
    exact ⟨⟨rfl, memory.tower layers, rfl, rfl, by omega⟩, hle⟩
  · obtain ⟨⟨base, baseOffset⟩, w'⟩ := s
    rintro ⟨⟨horigin, part, hbase, hpart, -⟩, hle⟩
    obtain rfl : baseOffset = origin := horigin
    obtain rfl : base = ⟨.live part, ownership⟩ := hbase
    cases hpart
    exact ⟨rfl, hle⟩

variable {ω : Type} [Cancellation ω] {w : ω}

/-- **A tower of rebased layers over memory behaves as the memory behind its origin.** The induction
is on the layers, from the lowest one up. -/
theorem tower_follows (w : ω) :
    ∀ layers : List (Nat × Ownership), ByteStream.Follows
      (behaviour (totalOrigin layers) (totalOrigin layers) w) (Rebased.Serves true)
      (TowerShows layers w)
  | [] => by
    refine ((DeviceStream.follows_memory .resizable w).mono fun _ _ h => h.1).congr_shows ?_
    intro s memory
    exact and_iff_left (Nat.zero_le _)
  | (origin, ownership) :: layers => by
    have hstep := Rebased.follows (tower_follows w layers) origin ownership
    rw [totalOrigin_cons]
    exact hstep.congr_shows fun s memory => towerShows_cons s memory

variable {layers : List (Nat × Ownership)} {memory : MemoryDevice} {request : Request}
  {requests : List Request}

/-- What one request does to a tower over memory, and to what lies behind its origin. -/
theorem tower_step (hserves : Rebased.Serves true memory request)
    (hcursor : totalOrigin layers ≤ memory.cursor) :
    ∃ memory' : MemoryDevice,
      StreamM.final (ByteStream.perform request) (memory.tower layers, w) =
          (memory'.tower layers, w) ∧
        DeviceStream.stepWithin (totalOrigin layers)
            ((memory.behind (totalOrigin layers)).resizable, w) request =
          ((memory'.behind (totalOrigin layers)).resizable, w) ∧
        totalOrigin layers ≤ memory'.cursor ∧
        memory.content.take (totalOrigin layers) <+: memory'.content ∧
        (memory'.cursor ≤ maxWord → memory'.Words) := by
  have hbehind : (memory.behind (totalOrigin layers)).Serves true request :=
    ⟨hserves.1.1.behind _, hserves.1.2⟩
  refine ⟨(behaviour (totalOrigin layers) (totalOrigin layers) w).next memory request,
    ((tower_follows w layers).meets ⟨rfl, hcursor⟩ hserves).final.1, ?_, ?_⟩
  · rw [← next_behind hcursor]
    exact DeviceStream.stepWithin_eq _ hbehind
  · rcases Behaviour.next_cases (behaviour (totalOrigin layers) (totalOrigin layers) w) memory
      request with hsame | ⟨hnear, answer, hrespond⟩
    · rw [hsame]
      exact ⟨hcursor, List.take_prefix _ _, fun _ => hserves.1.1⟩
    · obtain ⟨hbefore, hcursor'⟩ := take_prefix_respond hcursor hrespond
      exact ⟨hcursor', hbefore, fun hword => hserves.1.1.respond hnear hrespond fun _ => hword⟩

/-- What a run of requests does to a tower over memory, and to what lies behind its origin. -/
theorem tower_run (hserved : ∀ request ∈ requests, request.isServed true = true ∧
      request.isFromEnd = false)
    (hcursor : totalOrigin layers ≤ memory.cursor) (hlength : memory.content.length ≤ maxWord)
    (hwords : DeviceStream.StaysInWords (totalOrigin layers) requests
      ((memory.behind (totalOrigin layers)).resizable, w)) :
    ∃ memory' : MemoryDevice,
      ByteStream.after requests (memory.tower layers, w) = (memory'.tower layers, w) ∧
        DeviceStream.afterWithin (totalOrigin layers) requests
            ((memory.behind (totalOrigin layers)).resizable, w) =
          ((memory'.behind (totalOrigin layers)).resizable, w) ∧
        totalOrigin layers ≤ memory'.cursor ∧
        memory.content.take (totalOrigin layers) <+: memory'.content ∧ memory'.Words := by
  have hword : memory.cursor ≤ maxWord := by
    have hle : totalOrigin layers + (memory.cursor - totalOrigin layers) ≤ maxWord :=
      hwords.cursor_le
    omega
  induction requests generalizing memory with
  | nil => exact ⟨memory, rfl, rfl, hcursor, List.take_prefix _ _, hword, hlength⟩
  | cons request requests ih =>
    have hrequest := hserved request List.mem_cons_self
    obtain ⟨memory₁, hstep, hreference, hcursor₁, hbefore₁, hwords₁⟩ :=
      tower_step (w := w) ⟨⟨⟨hword, hlength⟩, hrequest.1⟩, hrequest.2⟩ hcursor
    have htail := hwords.tail
    rw [hreference] at htail
    have hword₁ : memory₁.cursor ≤ maxWord := by
      have hle : totalOrigin layers + (memory₁.cursor - totalOrigin layers) ≤ maxWord :=
        htail.cursor_le
      omega
    obtain ⟨memory', hafter, hafter', hcursor', hbefore', hwords'⟩ :=
      ih (fun request hmem => hserved request (List.mem_cons_of_mem _ hmem)) hcursor₁
        (hwords₁ hword₁).length_le htail hword₁
    refine ⟨memory', ?_, ?_, hcursor', ?_, hwords'⟩
    · rw [ByteStream.after_cons, hstep, hafter]
    · show DeviceStream.afterWithin _ requests (DeviceStream.stepWithin _ _ request) = _
      rw [hreference, hafter']
    · have htake : memory.content.take (totalOrigin layers) <+:
          memory₁.content.take (totalOrigin layers) :=
        List.prefix_take_iff.mpr ⟨hbefore₁, List.length_take_le _ _⟩
      exact htake.trans hbefore'

theorem wrap_tower (hwords : memory.Words) {origin : Nat} (ownership : Ownership)
    (horigin : totalOrigin layers + origin = memory.cursor) :
    (Rebased.wrap ownership : StreamM ω (Stack (layers.map fun _ => .rebased) _) _)
        (memory.tower layers, w) =
      .ok (memory.tower ((origin, ownership) :: layers)) (memory.tower layers, w) := by
  have hcursor : totalOrigin layers ≤ memory.cursor := by omega
  have hshows : TowerShows layers w (memory.tower layers, w) memory := ⟨rfl, hcursor⟩
  have hserves : Rebased.Serves true memory .position := ⟨⟨hwords, rfl⟩, rfl⟩
  obtain ⟨place, s', hposition, rfl, hshows'⟩ :=
    (((tower_follows w layers).meets hshows hserves).ends_of_near rfl rfl).exists_ok
  obtain rfl : s' = (memory.tower layers, w) := hshows'.1
  obtain rfl : origin = memory.cursor - totalOrigin layers := by omega
  unfold Rebased.wrap ByteStream.position
  rw [StreamM.bind_apply, hposition]
  rfl

end MemoryDevice

theorem Request.isServed_true {request : Request} (h : request ≠ .dispose) :
    request.isServed true = true := by
  simp [isServed, h]

/-- **To rebase is to change the origin and nothing else.** Layers are put over a stream over
memory, each where the one below stands; together they count from `b`. The view that results does
what a stream does over the content without its first `b` bytes, as long as the cursor stays a
machine word. Only a request that leads beyond the greatest position, as counted from `b` places
before the view, fails; it changes nothing. In every state that is reached the view can say where it
stands, and the bytes before `b` are as they were. -/
theorem Rebased.changes_origin {ω : Type} [Cancellation ω] (content : Bytes)
    (hcontent : content.length ≤ maxWord) (layers : List (Nat × Ownership)) (origin : Nat)
    (ownership : Ownership) {b : Nat} (hb : MemoryDevice.totalOrigin layers + origin = b)
    (hword : b ≤ maxWord) (w : ω) :
    (Rebased.wrap ownership : StreamM ω (Stack (layers.map fun _ => .rebased) _) _)
        ((MemoryDevice.mk content b).tower layers, w) =
      .ok ((MemoryDevice.mk content b).tower ((origin, ownership) :: layers))
        ((MemoryDevice.mk content b).tower layers, w) ∧
    ∀ requests : List Request,
      (∀ request ∈ requests, request ≠ .dispose ∧ request.isFromEnd = false) →
      DeviceStream.StaysInWords b requests
        ((MemoryDevice.ofContent (content.drop b)).resizable, w) →
      ∃ memory : MemoryDevice,
        ByteStream.after requests
            ((MemoryDevice.mk content b).tower ((origin, ownership) :: layers), w) =
          (memory.tower ((origin, ownership) :: layers), w) ∧
        DeviceStream.afterWithin b requests
            ((MemoryDevice.ofContent (content.drop b)).resizable, w) =
          ((memory.behind b).resizable, w) ∧
        content.take b <+: memory.content ∧
        (ByteStream.position : StreamM ω (Stack _ (DeviceStream MemoryDevice)) Nat).result
            (memory.tower ((origin, ownership) :: layers), w) = .ok (memory.behind b).cursor ∧
        ∀ request : Request, request ≠ .dispose → request.isFromEnd = false →
          if (memory.behind b).resizable.leadsBeyond b request then
            ∃ e, (ByteStream.perform request : StreamM ω (Stack _ _) request.Answer)
                (memory.tower ((origin, ownership) :: layers), w) =
              .error e (memory.tower ((origin, ownership) :: layers), w)
          else
            (ByteStream.perform request : StreamM ω (Stack _ _) request.Answer).result
                (memory.tower ((origin, ownership) :: layers), w) =
              (ByteStream.perform request : StreamM ω _ request.Answer).result
                ((memory.behind b).resizable, w) := by
  have htotal := (MemoryDevice.totalOrigin_cons (origin, ownership) layers).trans hb
  refine ⟨MemoryDevice.wrap_tower ⟨hword, hcontent⟩ ownership hb, ?_⟩
  intro requests hrequests hstays
  subst htotal
  have hserved : ∀ request ∈ requests, request.isServed true = true ∧ request.isFromEnd = false :=
    fun request hmem => (hrequests request hmem).imp_left Request.isServed_true
  rw [MemoryDevice.ofContent_drop] at hstays ⊢
  obtain ⟨memory, hafter, hreference, hcursor, hbefore, hwords⟩ :=
    MemoryDevice.tower_run hserved (Nat.le_refl _) hcontent hstays
  have follows := MemoryDevice.tower_follows w ((origin, ownership) :: layers)
  have hposition : (ByteStream.perform .position :
      StreamM ω (Stack (((origin, ownership) :: layers).map fun _ => .rebased) _) Nat).result
        (memory.tower ((origin, ownership) :: layers), w) = .ok _ :=
    (follows.meets ⟨rfl, hcursor⟩ ⟨⟨hwords, rfl⟩, rfl⟩).result_eq rfl
  refine ⟨memory, hafter, hreference, hbefore, hposition, ?_⟩
  intro request hdispose hend
  have hserves : memory.Serves true request := ⟨hwords, Request.isServed_true hdispose⟩
  have hbehind : (memory.behind (MemoryDevice.totalOrigin ((origin, ownership) :: layers))).Serves
      (Access.resizable == .resizable) request := ⟨hwords.behind _, hserves.2⟩
  have hanswers := DeviceStream.answers_of_follows follows ⟨rfl, hcursor⟩ hcursor ⟨hserves, hend⟩
    .resizable hbehind
  unfold MemoryDevice.resizable
  split
  · rename_i hfar
    rw [if_pos hfar] at hanswers
    obtain ⟨e, s', heq, rfl, -⟩ := hanswers
    exact ⟨e, heq⟩
  · rename_i hnear
    rw [if_neg hnear] at hanswers
    exact hanswers

/-- A move to the greatest position, and a write of three bytes. -/
def farAndWrite : List Request := [.setPosition maxPosition, .write .blocking [9, 8, 7]]

/-- Two rebased layers over five bytes count from the fourth one on. A move to the greatest position
fails, and three bytes that are written next land behind the first three. -/
theorem Rebased.changes_origin_of_five :
    ∃ memory : MemoryDevice,
      ByteStream.after farAndWrite
          ((MemoryDevice.mk [1, 2, 3, 4, 5] 3).tower [(2, .owns), (1, .borrows)],
            Surroundings.initial) =
        (memory.tower [(2, .owns), (1, .borrows)], .initial) ∧
      memory.behind 3 = ⟨[9, 8, 7], 3⟩ ∧ [1, 2, 3] <+: memory.content := by
  have hstays : DeviceStream.StaysInWords 3 farAndWrite
      ((MemoryDevice.ofContent [4, 5]).resizable, Surroundings.initial) := by
    intro before hbefore memory hlive
    rcases List.prefix_cons_iff.mp hbefore with rfl | ⟨rest, rfl, hrest⟩
    · obtain rfl : ⟨[4, 5], 0⟩ = memory := Slot.live.inj hlive
      decide
    rcases List.prefix_cons_iff.mp hrest with rfl | ⟨last, rfl, hlast⟩
    · obtain rfl : ⟨[4, 5], 0⟩ = memory := Slot.live.inj hlive
      decide
    obtain rfl := List.prefix_nil.mp hlast
    obtain rfl : ⟨[9, 8, 7], 3⟩ = memory := Slot.live.inj hlive
    decide
  obtain ⟨-, hrun⟩ := Rebased.changes_origin [1, 2, 3, 4, 5] (by decide) [(1, .borrows)] 2 .owns
    (b := 3) rfl (by decide) Surroundings.initial
  obtain ⟨memory, hafter, hreference, hbefore, -⟩ := hrun farAndWrite (by decide) hstays
  refine ⟨memory, hafter, ?_, hbefore⟩
  have hdevice := congrArg (fun s => s.1.device) hreference
  exact (Slot.live.inj hdevice).symm

end LayeredStreams
