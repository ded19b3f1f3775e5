import LayeredStreams.Device.Memory
import LayeredStreams.Proofs.Source

/-!
# Streams in memory

What a stream over a block of memory answers, told of the content and the cursor alone.

* `Behaviour α` — what is expected of a stream, told of states of its own: which requests lead too
  far, and how the others are answered; `Behaviour.run` makes requests one after the other.
* `Behaviour.MetBy` — a program that comes out as a behaviour answers a request.
* `ByteStream.Follows behaviour serves shows` — a stream that behaves so: `shows s a` says that `s`
  is a state of the stream where `a` is one of the behaviour.
* `MemoryDevice.respond origin` — the answers of a content with a cursor, counted from an origin;
  `MemoryDevice.behind origin` is what lies behind the origin.
* `MemoryDevice.Words` — cursor and end are machine words.

Principal results: `Follows.after` (a stream that follows a behaviour is where the behaviour is,
after every run of requests), `DeviceStream.follows_memory` (a stream over memory behaves as the
content and the cursor say), `MemoryDevice.respond_behind` (to count from an origin is to drop what
lies before it) and `MemoryDevice.take_prefix_respond` (and what lies before it stays).
-/

set_option autoImplicit false

namespace LayeredStreams

/-! ## Behaviours -/

/-- What is expected of a stream, told of states of its own. -/
structure Behaviour (α : Type) where
  /-- Whether a request leads to a place that is too far away. -/
  leadsTooFar : α → Request → Bool
  /-- The answer to a request that does not, and what becomes of the state. -/
  respond : α → (request : Request) → Except Refusal (request.Answer × α)

namespace Behaviour

variable {α : Type}

/-- What comes of a request that does not lead too far. -/
def result (behaviour : Behaviour α) (a : α) (request : Request) :
    Except StreamError request.Answer :=
  match behaviour.respond a request with
  | .ok (answer, _) => .ok answer
  | .error cause => .error (.refusal cause)

/-- The state after a request; one that fails changes nothing. -/
def next (behaviour : Behaviour α) (a : α) (request : Request) : α :=
  if behaviour.leadsTooFar a request then a
  else
    match behaviour.respond a request with
    | .ok (_, a') => a'
    | .error _ => a

/-- The state after requests made one after the other. -/
def run (behaviour : Behaviour α) (requests : List Request) (a : α) : α :=
  requests.foldl behaviour.next a

variable {behaviour : Behaviour α} {a a' : α} {request : Request}

theorem result_of_ok {answer : request.Answer}
    (h : behaviour.respond a request = .ok (answer, a')) :
    behaviour.result a request = .ok answer := by
  unfold result; rw [h]

theorem result_of_error {cause : Refusal} (h : behaviour.respond a request = .error cause) :
    behaviour.result a request = .error (.refusal cause) := by
  unfold result; rw [h]

theorem next_of_leadsTooFar (h : behaviour.leadsTooFar a request = true) :
    behaviour.next a request = a := by
  unfold next; rw [if_pos h]

theorem next_of_ok {answer : request.Answer} (hnear : behaviour.leadsTooFar a request = false)
    (h : behaviour.respond a request = .ok (answer, a')) : behaviour.next a request = a' := by
  unfold next; rw [hnear, h]; rfl

theorem next_of_error {cause : Refusal} (h : behaviour.respond a request = .error cause) :
    behaviour.next a request = a := by
  unfold next; rw [h]; exact ite_self a

/-- A request changes nothing, or it is answered. -/
theorem next_cases (behaviour : Behaviour α) (a : α) (request : Request) :
    behaviour.next a request = a ∨ behaviour.leadsTooFar a request = false ∧
      ∃ answer, behaviour.respond a request = .ok (answer, behaviour.next a request) := by
  cases hfar : behaviour.leadsTooFar a request with
  | true => exact .inl (next_of_leadsTooFar hfar)
  | false =>
    cases hrespond : behaviour.respond a request with
    | ok out => exact .inr ⟨rfl, out.1, by rw [next_of_ok hfar hrespond]⟩
    | error cause => exact .inl (next_of_error hrespond)

@[simp] theorem run_nil (behaviour : Behaviour α) (a : α) : behaviour.run [] a = a := rfl

@[simp] theorem run_cons (behaviour : Behaviour α) (request : Request) (requests : List Request)
    (a : α) :
    behaviour.run (request :: requests) a = behaviour.run requests (behaviour.next a request) := rfl

/-! ### Programs that meet a behaviour -/

variable {ω σ : Type} {shows : σ × ω → α → Prop} {program : StreamM ω σ request.Answer} {s : σ × ω}

/-- A program that comes out as a behaviour answers a request, from a state that shows `a` on. It
fails where the request leads too far, and whatever fails leaves the state as it was. -/
def MetBy (behaviour : Behaviour α) (shows : σ × ω → α → Prop) (a : α) (request : Request)
    (program : StreamM ω σ request.Answer) (s : σ × ω) : Prop :=
  program.Ends s
    (fun answer s' => behaviour.leadsTooFar a request = false ∧
      ∃ a', behaviour.respond a request = .ok (answer, a') ∧ shows s' a')
    (fun e s' => (behaviour.leadsTooFar a request = true ∨
      ∃ cause, behaviour.respond a request = .error cause ∧ e = .refusal cause) ∧ shows s' a)

namespace MetBy

/-- A request that is answered ends in the answer, unless it leads too far. -/
theorem ends_of_ok (met : behaviour.MetBy shows a request program s) {far : Bool}
    (hfar : behaviour.leadsTooFar a request = far) {answer : request.Answer}
    (hrespond : behaviour.respond a request = .ok (answer, a')) :
    program.Ends s (fun answer' s' => far = false ∧ answer' = answer ∧ shows s' a')
      (fun _ s' => far = true ∧ shows s' a) := by
  subst hfar
  refine StreamM.Ends.mono met ?_ ?_
  · rintro answer' s' ⟨hnear, a'', hrespond', hshows⟩
    obtain ⟨rfl, rfl⟩ : answer = answer' ∧ a' = a'' := by
      simpa only [hrespond, Except.ok.injEq, Prod.mk.injEq] using hrespond'
    exact ⟨hnear, rfl, hshows⟩
  · rintro e s' ⟨hfar | ⟨cause, hcause, -⟩, hshows⟩
    · exact ⟨hfar, hshows⟩
    · rw [hrespond] at hcause
      cases hcause

/-- A request that is declined ends in the refusal, unless it leads too far. -/
theorem ends_of_error (met : behaviour.MetBy shows a request program s) {far : Bool}
    (hfar : behaviour.leadsTooFar a request = far) {cause : Refusal}
    (hrespond : behaviour.respond a request = .error cause) :
    program.Ends s (fun _ _ => False)
      (fun e s' => (far = true ∨ e = .refusal cause) ∧ shows s' a) := by
  subst hfar
  refine StreamM.Ends.mono met ?_ ?_
  · rintro answer s' ⟨-, a', hrespond', -⟩
    rw [hrespond] at hrespond'
    cases hrespond'
  · rintro e s' ⟨hfar | ⟨cause', hcause', rfl⟩, hshows⟩
    · exact ⟨.inl hfar, hshows⟩
    · rw [hrespond] at hcause'
      cases hcause'
      exact ⟨.inr rfl, hshows⟩

/-- A request that leads nowhere far and is answered. -/
theorem ends_of_near (met : behaviour.MetBy shows a request program s)
    (hnear : behaviour.leadsTooFar a request = false) {answer : request.Answer}
    (hrespond : behaviour.respond a request = .ok (answer, a')) :
    program.Ends s (fun answer' s' => answer' = answer ∧ shows s' a') fun _ _ => False := by
  refine (met.ends_of_ok hnear hrespond).mono (fun _ _ h => h.2) ?_
  rintro e s' ⟨hfar, -⟩
  cases hfar

theorem result_eq (met : behaviour.MetBy shows a request program s)
    (hnear : behaviour.leadsTooFar a request = false) :
    program.result s = behaviour.result a request := by
  unfold MetBy StreamM.Ends at met
  split at met
  · rename_i answer s' heq
    obtain ⟨-, a', hrespond, -⟩ := met
    rw [StreamM.result_of_eq_ok heq, result_of_ok hrespond]
  · rename_i e s' heq
    obtain ⟨hfar | ⟨cause, hcause, rfl⟩, -⟩ := met
    · rw [hnear] at hfar
      cases hfar
    · rw [StreamM.result_of_eq_error heq, result_of_error hcause]

/-- An answer that is given is that of the behaviour. -/
theorem exists_respond (met : behaviour.MetBy shows a request program s) {answer : request.Answer}
    (h : program.result s = .ok answer) :
    ∃ a', behaviour.respond a request = .ok (answer, a') := by
  unfold MetBy StreamM.Ends at met
  split at met
  · rename_i answer' s' heq
    obtain ⟨-, a', hrespond, -⟩ := met
    rw [StreamM.result_of_eq_ok heq] at h
    cases h
    exact ⟨a', hrespond⟩
  · rename_i e s' heq
    rw [StreamM.result_of_eq_error heq] at h
    cases h

/-- A request that leads too far fails and leaves the state as it was. -/
theorem exists_error (met : behaviour.MetBy shows a request program s)
    (hfar : behaviour.leadsTooFar a request = true) :
    ∃ e s', program s = .error e s' ∧ shows s' a := by
  unfold MetBy StreamM.Ends at met
  split at met
  · obtain ⟨hnear, -⟩ := met
    rw [hfar] at hnear
    cases hnear
  · rename_i e s' heq
    exact ⟨e, s', heq, met.2⟩

theorem final (met : behaviour.MetBy shows a request program s) :
    shows (program.final s) (behaviour.next a request) := by
  have hends : program.Ends s (fun _ s' => shows s' (behaviour.next a request))
      fun _ s' => shows s' (behaviour.next a request) := by
    refine StreamM.Ends.mono met ?_ ?_
    · rintro answer s' ⟨hnear, a', hrespond, hshows⟩
      rw [next_of_ok hnear hrespond]
      exact hshows
    · rintro e s' ⟨hfar | ⟨cause, hcause, -⟩, hshows⟩
      · rw [next_of_leadsTooFar hfar]
        exact hshows
      · rw [next_of_error hcause]
        exact hshows
  exact hends.final

end MetBy

end Behaviour

namespace ByteStream

variable {ω σ α : Type} [ByteStream ω σ]

/-- A stream that answers the requests it serves as a behaviour says. -/
structure Follows (behaviour : Behaviour α) (serves : α → Request → Prop)
    (shows : σ × ω → α → Prop) : Prop where
  meets : ∀ {s : σ × ω} {a : α}, shows s a → ∀ {request : Request}, serves a request →
    behaviour.MetBy shows a request (perform request) s

namespace Follows

variable {behaviour : Behaviour α} {serves : α → Request → Prop} {shows : σ × ω → α → Prop}
  {s : σ × ω} {a : α}

/-- **A stream that follows a behaviour is where the behaviour is**, after every run of requests
that it serves where they are made. -/
theorem after (follows : Follows behaviour serves shows) {requests : List Request}
    (h : shows s a)
    (hserves : ∀ before request, before ++ [request] <+: requests →
      serves (behaviour.run before a) request) :
    shows (ByteStream.after requests s) (behaviour.run requests a) := by
  induction requests generalizing s a with
  | nil => exact h
  | cons request requests ih =>
    have hfirst := hserves [] request ⟨requests, rfl⟩
    rw [after_cons, Behaviour.run_cons]
    refine ih (follows.meets h hfirst).final fun before later hbefore => ?_
    rw [← Behaviour.run_cons]
    exact hserves (request :: before) later (List.cons_prefix_cons.mpr ⟨rfl, hbefore⟩)

theorem mono (follows : Follows behaviour serves shows) {serves' : α → Request → Prop}
    (hserves : ∀ a request, serves' a request → serves a request) :
    Follows behaviour serves' shows where
  meets h _ hrequest := follows.meets h (hserves _ _ hrequest)

/-- To show the same states in other words makes no difference. -/
theorem congr_shows (follows : Follows behaviour serves shows) {shows' : σ × ω → α → Prop}
    (hshows : ∀ s a, shows' s a ↔ shows s a) : Follows behaviour serves shows' := by
  have heq : shows' = shows := by
    funext s a
    exact propext (hshows s a)
  rw [heq]
  exact follows

/-- A stream that is embedded with the answers that it gives behaves as it does alone. -/
theorem carried {τ : Type} [ByteStream ω τ] {f : σ → τ} (follows : Follows behaviour serves shows)
    (hcarries : ∀ {a request}, serves a request →
      StreamM.Carries f (perform request : StreamM ω σ request.Answer) (perform request)) :
    Follows behaviour serves fun (s : τ × ω) a => StreamM.Held f (shows · a) s where
  meets h request hserves := by
    refine ((hcarries hserves).ends h fun t ht => follows.meets ht hserves).mono ?_ ?_
    · rintro answer s' ⟨part, heq, hnear, a', hrespond, hshows⟩
      exact ⟨hnear, a', hrespond, part, heq, hshows⟩
    · rintro e s' ⟨part, heq, hcause, hshows⟩
      exact ⟨hcause, part, heq, hshows⟩

/-- An open layer that changes nothing behaves as the stream below. -/
theorem passthrough (follows : Follows behaviour serves shows)
    (hserves : ∀ {a request}, serves a request → request ≠ .dispose) (ownership : Ownership) :
    Follows behaviour serves fun (s : Passthrough σ × ω) a =>
      StreamM.Held (fun stream => ⟨.live stream, ownership⟩) (shows · a) s := by
  refine follows.carried fun {a request} hrequest => ?_
  cases request with
  | dispose => exact absurd rfl (hserves hrequest)
  | _ => exact Passthrough.carries_forward ownership _

end Follows

end ByteStream

/-! ## Contents behind an origin -/

namespace Bytes

theorem drop_zeros (count dropped : Nat) : (zeros count).drop dropped = zeros (count - dropped) :=
  List.drop_replicate

theorem drop_resize (content : Bytes) (origin size : Nat) :
    (content.resize (origin + size)).drop origin = Bytes.resize (content.drop origin) size := by
  unfold resize
  rw [List.drop_append, drop_zeros, List.drop_take, Nat.add_sub_cancel_left, List.length_take,
    List.length_drop]
  congr 2
  omega

theorem drop_splice (content : Bytes) (origin start : Nat) (data : Bytes) :
    (content.splice (origin + start) data).drop origin =
      Bytes.splice (content.drop origin) start data := by
  unfold splice
  rw [List.drop_append, drop_resize, length_resize, Nat.sub_eq_zero_of_le (Nat.le_add_right _ _),
    List.drop_zero, List.drop_drop, Nat.add_assoc]

theorem take_prefix_resize (content : Bytes) (origin size : Nat) :
    content.take origin <+: content.resize (origin + size) :=
  (List.take_prefix_take_left (Nat.le_add_right _ _)).trans (List.prefix_append _ _)

theorem take_prefix_splice (content : Bytes) (origin start : Nat) (data : Bytes) :
    content.take origin <+: content.splice (origin + start) data :=
  (take_prefix_resize content origin start).trans (List.prefix_append _ _)

end Bytes

/-- Whether a request moves a cursor, or an end, to a place that lies beyond the greatest position,
as counted from `offset` places before the start. -/
def Request.leadsBeyond (offset position length : Nat) : Request → Bool
  | setPosition target | setLength target => maxPosition < offset + target
  | seek target => (maxPosition : Int) < offset + target.destination position length
  | _ => false

/-- What is not too far away from places before the start is not too far away from the start. -/
theorem Request.leadsBeyond_zero {offset position length : Nat} {request : Request}
    (h : request.leadsBeyond offset position length = false) :
    request.leadsBeyond 0 position length = false := by
  cases request with
  | setPosition target =>
    have hnear : ¬ maxPosition < offset + target := of_decide_eq_false h
    exact decide_eq_false (by omega)
  | setLength size =>
    have hnear : ¬ maxPosition < offset + size := of_decide_eq_false h
    exact decide_eq_false (by omega)
  | seek target =>
    have hnear : ¬ (maxPosition : Int) < offset + target.destination position length :=
      of_decide_eq_false h
    exact decide_eq_false (by omega)
  | _ => rfl

/-- Whether a request leaves the stream in use, and changes the content only where that is
`writable`. -/
def Request.isServed (writable : Bool) (request : Request) : Bool :=
  request != .dispose && (!request.mutates || writable)

theorem Request.mutates_of_isServed {request : Request} (h : request.isServed false = true) :
    request.mutates = false := by
  simpa [isServed] using (Bool.and_eq_true_iff.mp h).2

theorem Request.isServed_of_isServed {request : Request} (h : request.isServed false = true)
    {writable : Bool} : request.isServed writable = true := by
  unfold isServed at h ⊢
  rw [Bool.or_false] at h
  rw [(Bool.and_eq_true_iff.mp h).1, (Bool.and_eq_true_iff.mp h).2]
  rfl

theorem le_maxWord {place : Nat} (h : place ≤ maxPosition) : place ≤ maxWord :=
  Nat.le_trans h (by decide)

namespace MemoryDevice

variable {ω : Type} [Cancellation ω]

/-- The cursor and the end of the content are machine words. -/
structure Words (memory : MemoryDevice) : Prop where
  cursor_le : memory.cursor ≤ maxWord
  length_le : memory.content.length ≤ maxWord

/-- What lies behind an origin, with the cursor counted from there. -/
def behind (origin : Nat) (memory : MemoryDevice) : MemoryDevice :=
  ⟨memory.content.drop origin, memory.cursor - origin⟩

/-- The cursor at another place. -/
def moveTo (place : Nat) (memory : MemoryDevice) : MemoryDevice := { memory with cursor := place }

/-- The content with bytes written at the cursor, and the cursor behind them. -/
def put (data : Bytes) (memory : MemoryDevice) : MemoryDevice :=
  ⟨memory.content.splice memory.cursor data, memory.cursor + data.length⟩

/-- The answers of a content with a cursor, whose positions and lengths are counted from `origin`. A
seek to a place before it is declined, and so is a transfer whose token was cancelled. -/
def respond (origin : Nat) (w : ω) (memory : MemoryDevice) :
    (request : Request) → Except Refusal (request.Answer × MemoryDevice)
  | .position => .ok (memory.cursor - origin, memory)
  | .setPosition target => .ok ((), memory.moveTo (origin + target))
  | .length => .ok (memory.content.length - origin, memory)
  | .setLength size => .ok ((), { memory with content := memory.content.resize (origin + size) })
  | .seek target =>
    let place := target.destination (memory.cursor - origin) (memory.content.length - origin)
    if place < 0 then .error (.invalidSeek place)
    else .ok (place.toNat, memory.moveTo (origin + place.toNat))
  | .read mode room =>
    let bytes := memory.content.window memory.cursor room
    if mode.isCancelled w then .error .cancelled
    else .ok (bytes, memory.moveTo (memory.cursor + bytes.length))
  | .readByte =>
    let byte := memory.content[memory.cursor]?
    .ok (byte, memory.moveTo (memory.cursor + byte.toList.length))
  | .write mode data => if mode.isCancelled w then .error .cancelled else .ok ((), memory.put data)
  | .writeByte byte => .ok ((), memory.put [byte])
  | .flush mode => if mode.isCancelled w then .error .cancelled else .ok ((), memory)
  | .timeout direction => .error (.notSupported (Request.timeout direction).name)
  | .setTimeout direction limit =>
    .error (.notSupported (Request.setTimeout direction limit).name)
  | .dispose => .ok ((), memory)

/-- The behaviour of a content with a cursor that is counted from `origin`. No place can be reached
that lies beyond the greatest position, as counted from `offset` places before the origin. -/
def behaviour (offset origin : Nat) (w : ω) : Behaviour MemoryDevice where
  leadsTooFar memory request :=
    request.leadsBeyond offset (memory.cursor - origin) (memory.content.length - origin)
  respond := respond origin w

/-- The requests that a stream over memory is asked here: none that gives it up, and changes only
where it is `writable`. -/
def Serves (writable : Bool) (memory : MemoryDevice) (request : Request) : Prop :=
  memory.Words ∧ request.isServed writable = true

variable {memory memory' : MemoryDevice} {origin : Nat} {w : ω} {request : Request}

omit [Cancellation ω] in
@[simp] theorem behind_zero (memory : MemoryDevice) : memory.behind 0 = memory := rfl

omit [Cancellation ω] in
theorem behind_moveTo (origin place : Nat) (memory : MemoryDevice) :
    (memory.moveTo (origin + place)).behind origin = (memory.behind origin).moveTo place := by
  unfold moveTo behind
  dsimp only
  rw [Nat.add_sub_cancel_left]

theorem behind_put (h : origin ≤ memory.cursor) (data : Bytes) :
    (memory.put data).behind origin = (memory.behind origin).put data := by
  obtain ⟨place, hplace⟩ := Nat.exists_eq_add_of_le h
  unfold put behind
  dsimp only
  rw [hplace, Bytes.drop_splice, Nat.add_assoc, Nat.add_sub_cancel_left, Nat.add_sub_cancel_left]

/-- **To count from an origin is to drop what lies before it.** -/
theorem respond_behind (w : ω) (h : origin ≤ memory.cursor) (request : Request) :
    respond 0 w (memory.behind origin) request =
      (respond origin w memory request).map fun out => (out.1, out.2.behind origin) := by
  have hcursor : origin + (memory.cursor - origin) = memory.cursor := by omega
  have hmoved : ∀ count, (memory.behind origin).moveTo (memory.cursor - origin + count) =
      (memory.moveTo (memory.cursor + count)).behind origin := by
    intro count
    rw [← behind_moveTo, ← Nat.add_assoc, hcursor]
  cases request with
  | setPosition target => simp [respond, behind_moveTo, Except.map]
  | setLength size => simp [respond, behind, Bytes.drop_resize, Except.map]
  | seek target =>
    have hplace : target.destination ((memory.behind origin).cursor - 0)
          ((memory.behind origin).content.length - 0) =
        target.destination (memory.cursor - origin) (memory.content.length - origin) := by
      simp [behind]
    simp only [respond, hplace, Nat.zero_add]
    split
    · rfl
    · simp [behind_moveTo, Except.map]
  | read mode room =>
    have hbytes : (memory.behind origin).content.window (memory.behind origin).cursor room =
        memory.content.window memory.cursor room := by
      simp [behind, Bytes.window_drop, hcursor]
    simp only [respond, hbytes]
    split
    · rfl
    · simp only [Except.map, ← hmoved]
      rfl
  | readByte =>
    have hbyte : (memory.behind origin).content[(memory.behind origin).cursor]? =
        memory.content[memory.cursor]? := by
      simp [behind, List.getElem?_drop, hcursor]
    simp only [respond, hbyte, Except.map, ← hmoved]
    rfl
  | write mode data =>
    simp only [respond, ← behind_put h]
    split
    · rfl
    · rfl
  | writeByte byte =>
    simp only [respond, ← behind_put h]
    rfl
  | flush mode =>
    simp only [respond]
    split
    · rfl
    · rfl
  | position | length => simp [respond, behind, Except.map]
  | timeout | setTimeout | dispose => rfl

theorem respond_readByte {byte : Option UInt8} (h : memory.content[memory.cursor]? = byte) :
    respond origin w memory .readByte =
      .ok (byte, memory.moveTo (memory.cursor + byte.toList.length)) := by
  subst h
  rfl

theorem respond_seek {target : SeekTarget} {place : Nat}
    (h : target.destination (memory.cursor - origin) (memory.content.length - origin) = place) :
    respond origin w memory (.seek target) = .ok (place, memory.moveTo (origin + place)) := by
  unfold respond
  dsimp only
  rw [h, if_neg (Int.not_lt.mpr (Int.natCast_nonneg place)), Int.toNat_natCast]

theorem respond_seek_of_neg {target : SeekTarget} {place : Int}
    (h : target.destination (memory.cursor - origin) (memory.content.length - origin) = place)
    (hplace : place < 0) :
    respond origin w memory (.seek target) = .error (.invalidSeek place) := by
  unfold respond
  dsimp only
  rw [h, if_pos hplace]

/-- A target that stands for a position is reached. -/
theorem seek_of_resolve_ok {target : SeekTarget} {place : Nat} (w : ω)
    (h : target.resolve memory.cursor memory.content.length = .ok place) :
    (behaviour 0 0 w).leadsTooFar memory (.seek target) = false ∧
      respond 0 w memory (.seek target) = .ok (place, memory.moveTo place) := by
  obtain ⟨hplace, hle⟩ := SeekTarget.resolve_eq_ok_iff.mp h
  have hrespond : respond 0 w memory (.seek target) = .ok (place, memory.moveTo (0 + place)) :=
    respond_seek hplace
  rw [Nat.zero_add] at hrespond
  refine ⟨decide_eq_false ?_, hrespond⟩
  simp only [Nat.sub_zero, hplace]
  omega

/-- A target that stands for no position lies too far away, or before the start. -/
theorem seek_of_resolve_error {target : SeekTarget} {cause : Refusal} (w : ω)
    (h : target.resolve memory.cursor memory.content.length = .error cause) :
    (behaviour 0 0 w).leadsTooFar memory (.seek target) = true ∨
      respond 0 w memory (.seek target) = .error cause := by
  obtain ⟨rfl, hbefore | hbeyond⟩ := SeekTarget.resolve_eq_error_iff.mp h
  · exact .inr (if_pos hbefore)
  · refine .inl (decide_eq_true ?_)
    simp only [Nat.sub_zero]
    omega

/-- What a granted request does to the device: it moves the cursor to a place that it names, or over
bytes that are there, or it changes the content. -/
theorem respond_cases {answer : request.Answer}
    (h : respond origin w memory request = .ok (answer, memory')) :
    (∃ target, memory' = memory.moveTo (origin + target) ∧ ∀ offset,
      (behaviour offset origin w).leadsTooFar memory request =
        decide (maxPosition < offset + target)) ∨
    (∃ count, memory' = memory.moveTo (memory.cursor + count) ∧
      count ≤ memory.content.length - memory.cursor) ∨
    (∃ size, request = .setLength size ∧
      memory' = { memory with content := memory.content.resize (origin + size) }) ∨
    ∃ data, request.mutates = true ∧ memory' = memory.put data := by
  cases request with
  | setPosition target =>
    cases h
    exact .inl ⟨target, rfl, fun _ => rfl⟩
  | seek target =>
    simp only [respond] at h
    split at h
    · cases h
    · rename_i hplace
      cases h
      refine .inl ⟨_, rfl, fun offset => decide_eq_decide.mpr ?_⟩
      omega
  | setLength size =>
    cases h
    exact .inr (.inr (.inl ⟨size, rfl, rfl⟩))
  | read mode room =>
    simp only [respond] at h
    split at h
    · cases h
    · cases h
      refine .inr (.inl ⟨_, rfl, ?_⟩)
      rw [Bytes.length_window]
      exact Nat.min_le_right _ _
  | readByte =>
    cases h
    refine .inr (.inl ⟨_, rfl, ?_⟩)
    cases hbyte : memory.content[memory.cursor]? with
    | none => exact Nat.zero_le _
    | some byte =>
      obtain ⟨hlt, -⟩ := List.getElem?_eq_some_iff.mp hbyte
      exact Nat.sub_pos_of_lt hlt
  | write mode data =>
    simp only [respond] at h
    split at h
    · cases h
    · cases h
      exact .inr (.inr (.inr ⟨data, rfl, rfl⟩))
  | writeByte byte =>
    cases h
    exact .inr (.inr (.inr ⟨[byte], rfl, rfl⟩))
  | flush mode =>
    simp only [respond] at h
    split at h
    · cases h
    · cases h
      exact .inr (.inl ⟨0, rfl, Nat.zero_le _⟩)
  | position | length | dispose =>
    cases h
    exact .inr (.inl ⟨0, rfl, Nat.zero_le _⟩)
  | timeout | setTimeout => cases h

omit [Cancellation ω] in
theorem ofContent_drop (origin : Nat) (content : Bytes) :
    ofContent (content.drop origin) = behind origin ⟨content, origin⟩ := by
  unfold ofContent behind
  rw [Nat.sub_self]

/-- **What lies before the origin stays**, and the cursor behind it. -/
theorem take_prefix_respond (horigin : origin ≤ memory.cursor) {answer : request.Answer}
    (h : respond origin w memory request = .ok (answer, memory')) :
    memory.content.take origin <+: memory'.content ∧ origin ≤ memory'.cursor := by
  have htake : memory.content.take origin <+: memory.content := List.take_prefix _ _
  rcases respond_cases h with ⟨target, rfl, -⟩ | ⟨count, rfl, -⟩ | ⟨size, -, rfl⟩ | ⟨data, -, rfl⟩
  · exact ⟨htake, Nat.le_add_right _ _⟩
  · exact ⟨htake, Nat.le_add_right_of_le horigin⟩
  · exact ⟨Bytes.take_prefix_resize _ _ _, horigin⟩
  · have hsplice := Bytes.take_prefix_splice memory.content origin (memory.cursor - origin) data
    rw [Nat.add_sub_of_le horigin] at hsplice
    exact ⟨hsplice, Nat.le_add_right_of_le horigin⟩

/-- Cursor and end stay machine words, as long as no write leads beyond. -/
theorem Words.respond (hwords : memory.Words)
    (hnear : (behaviour origin origin w).leadsTooFar memory request = false)
    {answer : request.Answer} (h : respond origin w memory request = .ok (answer, memory'))
    (hcursor : request.mutates = true → memory'.cursor ≤ maxWord) : memory'.Words := by
  obtain ⟨hcursor₀, hlength⟩ := hwords
  rcases respond_cases h with ⟨target, rfl, hfar⟩ | ⟨count, rfl, hcount⟩ | ⟨size, rfl, rfl⟩ |
    ⟨data, hmutates, rfl⟩
  · rw [hfar, decide_eq_false_iff_not, Nat.not_lt] at hnear
    exact ⟨le_maxWord hnear, hlength⟩
  · refine ⟨?_, hlength⟩
    unfold moveTo
    dsimp only
    omega
  · have hsize : ¬ maxPosition < origin + size := of_decide_eq_false hnear
    refine ⟨hcursor₀, ?_⟩
    rw [Bytes.length_resize]
    exact le_maxWord (Nat.le_of_not_lt hsize)
  · have hcursor' := hcursor hmutates
    refine ⟨hcursor', ?_⟩
    unfold put at hcursor' ⊢
    rw [Bytes.length_splice]
    exact Nat.max_le.mpr ⟨hlength, hcursor'⟩

omit [Cancellation ω] in
theorem Words.behind (hwords : memory.Words) (origin : Nat) : (memory.behind origin).Words where
  cursor_le := Nat.le_trans (Nat.sub_le _ _) hwords.cursor_le
  length_le := by
    unfold MemoryDevice.behind
    rw [List.length_drop]
    exact Nat.le_trans (Nat.sub_le _ _) hwords.length_le

theorem leadsTooFar_behind (offset : Nat) (memory : MemoryDevice) (request : Request) :
    (behaviour offset 0 w).leadsTooFar (memory.behind origin) request =
      (behaviour offset origin w).leadsTooFar memory request := by
  simp [behaviour, behind]

/-- What lies behind the origin answers as a content of its own. -/
theorem result_behind (horigin : origin ≤ memory.cursor) (offset : Nat) (request : Request) :
    (behaviour offset 0 w).result (memory.behind origin) request =
      (behaviour offset origin w).result memory request := by
  have hrespond : (behaviour offset 0 w).respond (memory.behind origin) request =
      ((behaviour offset origin w).respond memory request).map _ :=
    respond_behind w horigin request
  unfold Behaviour.result
  rw [hrespond]
  cases (behaviour offset origin w).respond memory request with
  | ok out => rfl
  | error cause => rfl

/-- What lies behind the origin goes on as a content of its own. -/
theorem next_behind (horigin : origin ≤ memory.cursor) (offset : Nat) (request : Request) :
    (behaviour offset 0 w).next (memory.behind origin) request =
      ((behaviour offset origin w).next memory request).behind origin := by
  have hrespond : (behaviour offset 0 w).respond (memory.behind origin) request =
      ((behaviour offset origin w).respond memory request).map fun out =>
        (out.1, out.2.behind origin) :=
    respond_behind w horigin request
  unfold Behaviour.next
  rw [leadsTooFar_behind, hrespond]
  split
  · rfl
  · cases (behaviour offset origin w).respond memory request with
    | ok out => rfl
    | error cause => rfl

/-- A request that changes nothing leaves the content as it is. -/
theorem content_respond (hquiet : request.mutates = false) {answer : request.Answer}
    (h : respond origin w memory request = .ok (answer, memory')) :
    memory'.content = memory.content := by
  rcases respond_cases h with ⟨target, rfl, -⟩ | ⟨count, rfl, -⟩ | ⟨size, rfl, -⟩ |
    ⟨data, hmutates, -⟩
  · rfl
  · rfl
  · cases hquiet
  · rw [hquiet] at hmutates
    cases hmutates

/-- A request that changes nothing leaves the content as it is, and the cursor a machine word. -/
theorem Words.next (hwords : memory.Words) (hquiet : request.mutates = false) (offset : Nat) :
    ((behaviour offset 0 w).next memory request).Words ∧
      ((behaviour offset 0 w).next memory request).content = memory.content := by
  rcases Behaviour.next_cases (behaviour offset 0 w) memory request with
    hsame | ⟨hnear, answer, hrespond⟩
  · rw [hsame]
    exact ⟨hwords, rfl⟩
  · refine ⟨hwords.respond (Request.leadsBeyond_zero hnear) hrespond ?_,
      content_respond hquiet hrespond⟩
    intro hmutates
    rw [hquiet] at hmutates
    cases hmutates

/-- Requests that change nothing, one after the other, leave the content as it is, and the cursor a
machine word. -/
theorem Words.run {requests : List Request} (hwords : memory.Words)
    (hquiet : ∀ request ∈ requests, request.mutates = false) (offset : Nat) :
    ((behaviour offset 0 w).run requests memory).Words ∧
      ((behaviour offset 0 w).run requests memory).content = memory.content := by
  induction requests generalizing memory with
  | nil => exact ⟨hwords, rfl⟩
  | cons request requests ih =>
    obtain ⟨hwords', hcontent⟩ := hwords.next (w := w) (hquiet request List.mem_cons_self) offset
    obtain ⟨hwords'', hcontent'⟩ :=
      ih hwords' fun request hmem => hquiet request (List.mem_cons_of_mem _ hmem)
    exact ⟨hwords'', hcontent'.trans hcontent⟩

end MemoryDevice

/-! ## Streams over memory -/

namespace DeviceStream

variable {ω : Type} {memory memory' : MemoryDevice} {access : Access} {w : ω}

theorem onDevice_of_eq_ok {α : Type} {act : DeviceM ω MemoryDevice α} {value : α}
    (h : act (memory, w) = .ok value (memory', w)) (access : Access) :
    onDevice act (ofDevice memory access, w) = .ok value (ofDevice memory' access, w) := by
  unfold onDevice ofDevice
  dsimp only
  rw [h]

theorem operate_seek {place : Nat} {target : SeekTarget}
    (h : target.destination memory.cursor memory.content.length = place)
    (hplace : place ≤ maxWord) :
    (Device.operate (.seek target) : DeviceM ω MemoryDevice Nat) (memory, w) =
      .ok place (memory.moveTo place, w) := by
  have hword : (0 : Int) ≤ place ∧ (place : Int) ≤ maxWord := by omega
  show MemoryDevice.operate (.seek target) (memory, w) = _
  unfold MemoryDevice.operate
  dsimp only
  rw [h, if_pos hword]
  rfl

theorem operate_here (hwords : memory.Words) :
    (Device.operate (.seek (.fromCurrent 0)) : DeviceM ω MemoryDevice Nat) (memory, w) =
      .ok memory.cursor (memory, w) :=
  operate_seek (Int.add_zero _) hwords.cursor_le

theorem measure_apply (hwords : memory.Words) :
    (Device.measure : DeviceM ω MemoryDevice Nat) (memory, w) =
      .ok memory.content.length (memory, w) := by
  have hend : (Device.operate (.seek (.fromEnd 0)) : DeviceM ω MemoryDevice Nat) (memory, w) =
      .ok memory.content.length (memory.moveTo memory.content.length, w) :=
    operate_seek (Int.add_zero _) hwords.length_le
  have hback : (Device.operate (.seek (.fromStart memory.cursor)) : DeviceM ω MemoryDevice Nat)
      (memory.moveTo memory.content.length, w) = .ok memory.cursor (memory, w) :=
    operate_seek rfl hwords.cursor_le
  simp only [Device.measure, bind, EStateM.bind, operate_here hwords, hend]
  split
  · simp only [EStateM.bind, hback]
    rfl
  · rename_i hsame
    have hsame : memory.content.length = memory.cursor := Decidable.not_not.mp hsame
    show EStateM.Result.ok _ (memory.moveTo memory.content.length, w) = _
    rw [hsame]
    rfl

theorem ends_seek (hwords : memory.Words) (target : SeekTarget) :
    (seek target : StreamM ω (DeviceStream MemoryDevice) Nat).Ends (ofDevice memory access, w)
      (fun place s' => target.resolve memory.cursor memory.content.length = .ok place ∧
        s' = (ofDevice (memory.moveTo place) access, w))
      (fun e s' => ∃ cause, target.resolve memory.cursor memory.content.length = .error cause ∧
        e = .refusal cause ∧ s' = (ofDevice memory access, w)) := by
  have hlocate : (locate target : StreamM ω (DeviceStream MemoryDevice) Nat).Ends
      (ofDevice memory access, w)
      (fun place s' => target.resolve memory.cursor memory.content.length = .ok place ∧
        s' = (ofDevice memory access, w))
      (fun e s' => ∃ cause, target.resolve memory.cursor memory.content.length = .error cause ∧
        e = .refusal cause ∧ s' = (ofDevice memory access, w)) := by
    cases target with
    | fromStart target =>
      rw [SeekTarget.resolve_fromStart, ← SeekTarget.resolve_fromStart target 0 0]
      exact StreamM.ends_ofExcept _
    | fromCurrent | fromEnd =>
      refine StreamM.ends_bind_of_eq_ok (onDevice_of_eq_ok (operate_here hwords) access) ?_
      refine StreamM.ends_bind_of_eq_ok (onDevice_of_eq_ok (measure_apply hwords) access) ?_
      exact StreamM.ends_ofExcept _
  refine hlocate.bind ?_
  intro place _ hout
  obtain ⟨hplace, rfl⟩ := hout
  have hword := le_maxWord (SeekTarget.resolve_eq_ok_iff.mp hplace).2
  exact StreamM.ends_of_eq_ok (onDevice_of_eq_ok (operate_seek rfl hword) access) ⟨hplace, rfl⟩

/-- What is written is put at the cursor. -/
theorem write_apply (data : Bytes) :
    (write data : StreamM ω (DeviceStream MemoryDevice) Unit) (ofDevice memory .resizable, w) =
      .ok () (ofDevice (memory.put data) .resizable, w) :=
  onDevice_of_eq_ok (MemoryDevice.writePatiently_eq memory data w) .resizable

/-- The length is set to any position, and to no place beyond. -/
theorem ends_setLength (size : Nat) :
    (setLength size : StreamM ω (DeviceStream MemoryDevice) Unit).Ends
      (ofDevice memory .resizable, w)
      (fun _ s' => size ≤ maxPosition ∧
        s' = (ofDevice { memory with content := memory.content.resize size } .resizable, w))
      (fun _ s' => maxPosition < size ∧ s' = (ofDevice memory .resizable, w)) := by
  by_cases hsize : maxPosition < size
  · have hfails : (setLength size : StreamM ω (DeviceStream MemoryDevice) Unit)
        (ofDevice memory .resizable, w) =
          .error (.refusal (.argumentOutOfRange "length" size))
            (ofDevice memory .resizable, w) := by
      unfold setLength
      rw [if_pos hsize]
      rfl
    exact StreamM.ends_of_eq_error hfails ⟨hsize, rfl⟩
  · have hset : (setLength size : StreamM ω (DeviceStream MemoryDevice) Unit)
        (ofDevice memory .resizable, w) =
          .ok () (ofDevice { memory with content := memory.content.resize size } .resizable,
            w) := by
      unfold setLength
      rw [if_neg hsize]
      exact onDevice_of_eq_ok rfl .resizable
    exact StreamM.ends_of_eq_ok hset ⟨Nat.le_of_not_lt hsize, rfl⟩

/-- **A stream over memory behaves as the content and the cursor say.** -/
theorem follows_memory [Cancellation ω] (access : Access) (w : ω) :
    ByteStream.Follows (MemoryDevice.behaviour 0 0 w)
      (MemoryDevice.Serves (access == .resizable))
      fun s memory => s = (ofDevice memory access, w) := by
  constructor
  rintro s memory rfl request ⟨hwords, hserved⟩
  have hresizable : request.mutates = true → access = .resizable := by
    intro hmutates
    simpa [Request.isServed, hmutates] using (Bool.and_eq_true_iff.mp hserved).2
  cases request with
  | position =>
    exact StreamM.ends_of_eq_ok (onDevice_of_eq_ok (operate_here hwords) access)
      ⟨rfl, memory, rfl, rfl⟩
  | setPosition target =>
    refine StreamM.Ends.bind ((ends_seek hwords (.fromStart target)).mono (fun _ _ h => h) ?_) ?_
    · rintro e _ ⟨cause, hcause, -, rfl⟩
      obtain ⟨-, hbefore | hbeyond⟩ := SeekTarget.resolve_eq_error_iff.mp hcause
      · exact absurd hbefore (Int.not_lt.mpr (Int.natCast_nonneg target))
      · refine ⟨.inl (decide_eq_true ?_), rfl⟩
        rw [Nat.zero_add]
        exact Int.ofNat_lt.mp hbeyond
    · rintro place _ ⟨hplace, rfl⟩
      obtain ⟨htarget, hle⟩ := SeekTarget.resolve_eq_ok_iff.mp hplace
      obtain rfl : target = place := Int.ofNat.inj htarget
      refine ⟨decide_eq_false ?_, _, rfl, ?_⟩
      · omega
      · rw [Nat.zero_add]
  | length =>
    exact StreamM.ends_of_eq_ok (onDevice_of_eq_ok (measure_apply hwords) access)
      ⟨rfl, memory, rfl, rfl⟩
  | setLength size =>
    obtain rfl := hresizable rfl
    refine (ends_setLength size).mono ?_ ?_
    · rintro _ _ ⟨hsize, rfl⟩
      refine ⟨decide_eq_false ?_, _, rfl, ?_⟩
      · omega
      · rw [Nat.zero_add]
    · rintro e _ ⟨hsize, rfl⟩
      refine ⟨.inl (decide_eq_true ?_), rfl⟩
      omega
  | seek target =>
    refine (ends_seek hwords target).mono ?_ ?_
    · rintro place _ ⟨hplace, rfl⟩
      obtain ⟨hnear, hrespond⟩ := MemoryDevice.seek_of_resolve_ok w hplace
      exact ⟨hnear, _, hrespond, rfl⟩
    · rintro e _ ⟨cause, hcause, rfl, rfl⟩
      rcases MemoryDevice.seek_of_resolve_error w hcause with hfar | hrefused
      · exact ⟨.inl hfar, rfl⟩
      · exact ⟨.inr ⟨cause, hrefused, rfl⟩, rfl⟩
  | read mode room =>
    refine Mode.ends_checkToken_bind (fun hcancelled => ?_) fun hadmitted => ?_
    · exact ⟨.inr ⟨.cancelled, if_pos hcancelled, rfl⟩, rfl⟩
    · refine StreamM.ends_of_eq_ok (onDevice_of_eq_ok rfl access) ⟨rfl, _, ?_, rfl⟩
      exact if_neg (Bool.eq_false_iff.mp hadmitted)
  | readByte =>
    have hread : (read 1 : StreamM ω (DeviceStream MemoryDevice) Bytes)
        (ofDevice memory access, w) =
        .ok (memory.content.window memory.cursor 1) (ofDevice (memory.moveTo
          (memory.cursor + (memory.content.window memory.cursor 1).length)) access, w) :=
      onDevice_of_eq_ok rfl access
    rw [Bytes.window_one] at hread
    refine StreamM.ends_bind_of_eq_ok hread (StreamM.ends_pure ⟨rfl, _, ?_, rfl⟩)
    rw [Option.head?_toList]
    rfl
  | write mode data =>
    obtain rfl := hresizable rfl
    refine Mode.ends_checkToken_bind (fun hcancelled => ?_) fun hadmitted => ?_
    · exact ⟨.inr ⟨.cancelled, if_pos hcancelled, rfl⟩, rfl⟩
    · refine StreamM.ends_of_eq_ok (write_apply data) ⟨rfl, _, ?_, rfl⟩
      exact if_neg (Bool.eq_false_iff.mp hadmitted)
  | writeByte byte =>
    obtain rfl := hresizable rfl
    exact StreamM.ends_of_eq_ok (write_apply [byte]) ⟨rfl, _, rfl, rfl⟩
  | flush mode =>
    refine Mode.ends_checkToken_bind (fun hcancelled => ?_) fun hadmitted => ?_
    · exact ⟨.inr ⟨.cancelled, if_pos hcancelled, rfl⟩, rfl⟩
    · refine StreamM.ends_of_eq_ok (onDevice_of_eq_ok rfl access) ⟨rfl, _, ?_, rfl⟩
      exact if_neg (Bool.eq_false_iff.mp hadmitted)
  | timeout | setTimeout => exact ⟨.inr ⟨_, rfl, rfl⟩, rfl⟩
  | dispose => cases hserved

/-! ## Runs without far places -/

/-- Whether a request leads beyond the greatest position, as counted from `offset` places before the
start of the content. -/
def leadsBeyond (offset : Nat) (stream : DeviceStream MemoryDevice) (request : Request) : Bool :=
  match stream.device with
  | .live memory => request.leadsBeyond offset memory.cursor memory.content.length
  | .disposed => false

variable [Cancellation ω]

/-- The state after a request, which is not made if it leads beyond. -/
def stepWithin (offset : Nat) (s : DeviceStream MemoryDevice × ω) (request : Request) :
    DeviceStream MemoryDevice × ω :=
  if s.1.leadsBeyond offset request then s else StreamM.final (ByteStream.perform request) s

/-- The state after requests made one after the other, without those that lead beyond. -/
def afterWithin (offset : Nat) (requests : List Request) (s : DeviceStream MemoryDevice × ω) :
    DeviceStream MemoryDevice × ω :=
  requests.foldl (stepWithin offset) s

/-- Wherever requests lead the cursor, it is a machine word, as counted from `offset` places before
the start. -/
def StaysInWords (offset : Nat) (requests : List Request) (s : DeviceStream MemoryDevice × ω) :
    Prop :=
  ∀ before, before <+: requests → ∀ memory,
    (afterWithin offset before s).1.device = .live memory → offset + memory.cursor ≤ maxWord

theorem StaysInWords.cursor_le {offset : Nat} {requests : List Request}
    (h : StaysInWords offset requests (ofDevice memory access, w)) :
    offset + memory.cursor ≤ maxWord :=
  h [] List.nil_prefix memory rfl

theorem StaysInWords.tail {offset : Nat} {request : Request} {requests : List Request}
    {s : DeviceStream MemoryDevice × ω} (h : StaysInWords offset (request :: requests) s) :
    StaysInWords offset requests (stepWithin offset s request) :=
  fun before hbefore => h (request :: before) (List.cons_prefix_cons.mpr ⟨rfl, hbefore⟩)

/-- A request that does not lead beyond is answered as the memory answers it. -/
theorem result_of_near {offset : Nat} {request : Request}
    (hserves : memory.Serves (access == .resizable) request)
    (h : (ofDevice memory access).leadsBeyond offset request = false) :
    (ByteStream.perform request : StreamM ω (DeviceStream MemoryDevice) request.Answer).result
        (ofDevice memory access, w) =
      (MemoryDevice.behaviour offset 0 w).result memory request :=
  ((follows_memory access w).meets rfl hserves).result_eq (Request.leadsBeyond_zero h)

/-- Without the requests that lead beyond, a stream over memory goes on as its memory does. -/
theorem stepWithin_eq (offset : Nat) {request : Request}
    (hserves : memory.Serves (access == .resizable) request) :
    stepWithin offset (ofDevice memory access, w) request =
      (ofDevice ((MemoryDevice.behaviour offset 0 w).next memory request) access, w) := by
  unfold stepWithin
  cases hfar : (ofDevice memory access).leadsBeyond offset request with
  | true =>
    have hskipped : (MemoryDevice.behaviour offset 0 w).next memory request = memory :=
      Behaviour.next_of_leadsTooFar hfar
    rw [if_pos rfl, hskipped]
  | false =>
    have hnext : (MemoryDevice.behaviour 0 0 w).next memory request =
        (MemoryDevice.behaviour offset 0 w).next memory request := by
      have hnear : (MemoryDevice.behaviour offset 0 w).leadsTooFar memory request = false := hfar
      have hnear' : (MemoryDevice.behaviour 0 0 w).leadsTooFar memory request = false :=
        Request.leadsBeyond_zero hfar
      unfold Behaviour.next
      rw [hnear, hnear']
      rfl
    rw [← hnext]
    exact ((follows_memory access w).meets rfl hserves).final

/-- Without the requests that lead beyond, a stream over memory that is only looked at goes on as
its memory does. -/
theorem afterWithin_eq (offset : Nat) {requests : List Request}
    (hserved : ∀ request ∈ requests, request.isServed false = true) (hwords : memory.Words) :
    afterWithin offset requests (ofDevice memory access, w) =
      (ofDevice ((MemoryDevice.behaviour offset 0 w).run requests memory) access, w) := by
  induction requests generalizing memory with
  | nil => rfl
  | cons request requests ih =>
    have hrequest := hserved request List.mem_cons_self
    obtain ⟨hwords', -⟩ := hwords.next (w := w) (Request.mutates_of_isServed hrequest) offset
    show afterWithin offset requests (stepWithin offset _ request) = _
    rw [stepWithin_eq offset ⟨hwords, Request.isServed_of_isServed hrequest⟩]
    exact ih (fun request hmem => hserved request (List.mem_cons_of_mem _ hmem)) hwords'

/-- A stream that behaves as memory behind an origin gives the answers of a stream over what lies
there, but for the requests that lead beyond, which fail. -/
theorem answers_of_follows {σ : Type} [ByteStream ω σ] {serves : MemoryDevice → Request → Prop}
    {shows : σ × ω → MemoryDevice → Prop} {s : σ × ω} {offset origin : Nat} {request : Request}
    (follows : ByteStream.Follows (MemoryDevice.behaviour offset origin w) serves shows)
    (h : shows s memory) (hcursor : origin ≤ memory.cursor) (hserves : serves memory request)
    (access : Access) (hbehind : (memory.behind origin).Serves (access == .resizable) request) :
    if (ofDevice (memory.behind origin) access).leadsBeyond offset request then
      ∃ e s', (ByteStream.perform request : StreamM ω σ request.Answer) s = .error e s' ∧
        shows s' memory
    else
      (ByteStream.perform request : StreamM ω σ request.Answer).result s =
        (ByteStream.perform request : StreamM ω _ request.Answer).result
          (ofDevice (memory.behind origin) access, w) := by
  have met := follows.meets h hserves
  have hleads : (ofDevice (memory.behind origin) access).leadsBeyond offset request =
      (MemoryDevice.behaviour offset origin w).leadsTooFar memory request :=
    MemoryDevice.leadsTooFar_behind (w := w) offset memory request
  split
  · rename_i hfar
    exact met.exists_error (hleads.symm.trans hfar)
  · rename_i hnear
    have hnear' := Bool.eq_false_iff.mpr hnear
    rw [met.result_eq (hleads.symm.trans hnear'), result_of_near hbehind hnear',
      MemoryDevice.result_behind hcursor]

end DeviceStream

end LayeredStreams
