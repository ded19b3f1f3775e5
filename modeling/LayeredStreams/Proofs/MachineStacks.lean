import LayeredStreams.Proofs.MachineBlocks
import LayeredStreams.Proofs.Stack

/-!
# Stacks of the machine

* `Window.onWords`, `LayerKind.onWords`, `Stack.onWords` — windows, layers of any kind and stacks,
  on the machine.
* `Wrapping.wrapOnWords`, `Wrapping.InWords` — layers that are made there, of words.
* `Stack.Rules.inWords` — stacks on the machine that are asked for words.
* `InStep` — a stream of the machine that ran into no trap and does what is done without words.

Principal results: `Stack.sturdy`, `Wrapping.untrapped_wrap`, `Stack.Reached.inWords` (what one
step keeps, a whole run keeps) and `Stack.stays_in_step` (over zeros of any length and over
dependable devices no sum of words overflows and no part of a buffer lies outside it).
-/

set_option autoImplicit false

namespace LayeredStreams

/-! ## Windows -/

section

variable {ω σ : Type}

namespace Window

section

variable [ByteStream (Gauged ω) σ]

/-- Put a truncated layer over a rebased one, which it owns. -/
def truncateOnWords (layer : Rebased σ) (size : Nat) :
    StreamM (Gauged ω) σ (Truncated (Rebased σ)) :=
  StreamM.within (fun _ => layer) (fun layer stream => layer.base.slot.get?.getD stream)
    (@Truncated.wrap _ _ (Rebased.onWords inferInstance) size .owns)

/-- The part of a stream from `offset` on, of at most `size` bytes if a size is given. -/
def ofPartOnWords (offset : Nat) (size : Option Nat) (ownership : Ownership) :
    StreamM (Gauged ω) σ (Window σ) :=
  match offset, size with
  | 0, none => return .unwrapped (← StreamM.state)
  | 0, some size => return .truncated (← Truncated.wrap size ownership)
  | offset + 1, size => do
    let _ ← ByteStream.seek (.fromStart (offset + 1))
    let layer ← Rebased.wrap ownership
    match size with
    | none => return .rebased layer
    | some size => return .rebasedTruncated (← truncateOnWords layer size)

end

variable (below : ByteStream (Gauged ω) σ)

/-- The answer of a window to a request. -/
def performOnWords (request : Request) : StreamM (Gauged ω) (Window σ) request.Answer := do
  match ← StreamM.state with
  | .unwrapped stream => onLayer .unwrapped stream (below.perform request)
  | .rebased layer => onLayer .rebased layer ((Rebased.onWords below).perform request)
  | .truncated layer => onLayer .truncated layer ((Truncated.onWords below).perform request)
  | .rebasedTruncated layer =>
    onLayer .rebasedTruncated layer ((Truncated.onWords (Rebased.onWords below)).perform request)

/-- A window on the machine. -/
@[reducible] def onWords : ByteStream (Gauged ω) (Window σ) where
  can := @Window.can (Gauged ω) σ below
  isDisposed := @Window.isDisposed (Gauged ω) σ below
  perform := performOnWords below

/-- The numbers that the layers of a window keep are words. -/
def InWords (sound : σ → Prop) : Window σ → Prop
  | .unwrapped stream => sound stream
  | .rebased layer => Rebased.InWords (Passthrough.Sound sound) layer
  | .truncated layer => Truncated.InWords (Passthrough.Sound sound) layer
  | .rebasedTruncated layer =>
    Truncated.InWords (Passthrough.Sound (Rebased.InWords (Passthrough.Sound sound))) layer

variable {below} {sound : σ → Prop} [ByteStream ω σ]

/-- **A window is as sturdy as the stream below.** -/
theorem sturdy (h : Sturdy below sound) : Sturdy (onWords below) (InWords sound) where
  perform {request} hrequest {window} hs g := by
    have hlayer := Passthrough.sturdy h
    have hrebased := Rebased.sturdy hlayer
    have hboth := Truncated.sturdy (Passthrough.sturdy hrebased)
    cases window with
    | unwrapped stream =>
      exact (h.perform hrequest hs g).carried (f := unwrapped) (fun _ _ => rfl) (fun _ _ => rfl)
        (fun _ _ h => h) fun _ h => h
    | rebased layer =>
      exact (hrebased.perform hrequest hs g).carried (f := rebased) (fun _ _ => rfl)
        (fun _ _ => rfl) (fun _ _ h => h) fun _ h => h
    | truncated layer =>
      exact ((Truncated.sturdy hlayer).perform hrequest hs g).carried (f := truncated)
        (fun _ _ => rfl) (fun _ _ => rfl) (fun _ _ h => h) fun _ h => h
    | rebasedTruncated layer =>
      exact (hboth.perform hrequest hs g).carried (f := rebasedTruncated) (fun _ _ => rfl)
        (fun _ _ => rfl) (fun _ _ h => h) fun _ h => h

end Window

/-! ## Layers of any kind, and stacks -/

namespace LayerKind

variable [Cancellation ω]

/-- A layer of a kind on the machine. -/
@[reducible] def onWords (below : ByteStream (Gauged ω) σ) :
    (kind : LayerKind) → ByteStream (Gauged ω) (kind.Over σ)
  | passthrough => Passthrough.onWords below
  | rebased => Rebased.onWords below
  | truncated => Truncated.onWords below
  | readOnly => ReadOnly.onWords below
  | cached => Cached.onWords below
  | window => Window.onWords below

omit [Cancellation ω] in
/-- The numbers that a layer keeps are words, and the stream below is sound unless the layer was
disposed. -/
def InWords (sound : σ → Prop) : (kind : LayerKind) → kind.Over σ → Prop
  | passthrough => Passthrough.Sound sound
  | rebased => Rebased.InWords (Passthrough.Sound sound)
  | truncated => Truncated.InWords (Passthrough.Sound sound)
  | readOnly => fun layer => Passthrough.Sound sound (ReadOnly.base layer)
  | cached => Cached.InWords (Passthrough.Sound sound)
  | window => Window.InWords sound

/-- **A layer of any kind is as sturdy as the stream below.** -/
theorem sturdy [ByteStream ω σ] {below : ByteStream (Gauged ω) σ} {sound : σ → Prop}
    (h : Sturdy below sound) : ∀ kind : LayerKind, Sturdy (kind.onWords below) (kind.InWords sound)
  | passthrough => Passthrough.sturdy h
  | rebased => Rebased.sturdy (Passthrough.sturdy h)
  | truncated => Truncated.sturdy (Passthrough.sturdy h)
  | readOnly => ReadOnly.sturdy (Passthrough.sturdy h)
  | cached => Cached.sturdy (Passthrough.sturdy h)
  | window => Window.sturdy h

end LayerKind

namespace Stack

variable {β : Type} [Cancellation ω]

/-- A stack on the machine. -/
@[reducible] def onWords (base : ByteStream (Gauged ω) β) :
    (kinds : List LayerKind) → ByteStream (Gauged ω) (Stack kinds β)
  | [] => base
  | kind :: kinds => kind.onWords (onWords base kinds)

omit [Cancellation ω] in
/-- The numbers that the layers of a stack keep are words. -/
def InWords (sound : β → Prop) : (kinds : List LayerKind) → Stack kinds β → Prop
  | [] => sound
  | kind :: kinds => kind.InWords (InWords sound kinds)

/-- **A stack is as sturdy as its base.** The recursion is on the layers. -/
theorem sturdy [ByteStream ω β] {base : ByteStream (Gauged ω) β} {sound : β → Prop}
    (h : Sturdy base sound) :
    ∀ kinds : List LayerKind, Sturdy (onWords base kinds) (InWords sound kinds)
  | [] => h
  | kind :: kinds => kind.sturdy (sturdy h kinds)

end Stack

/-! ## Layers that are made -/

namespace Wrapping

/-- The numbers that a layer is made with are words. -/
def InWords : Wrapping → Prop
  | truncated maxLength _ => maxLength ≤ maxWord
  | window offset size _ => offset ≤ maxWord ∧ ∀ count, size = some count → count ≤ maxWord
  | _ => True

/-- Put a layer over a stream of the machine. -/
def wrapOnWords (below : ByteStream (Gauged ω) σ) :
    (wrapping : Wrapping) → StreamM (Gauged ω) σ (wrapping.kind.Over σ)
  | window offset size ownership => Window.ofPartOnWords offset size ownership
  | passthrough ownership => @wrap _ _ below (passthrough ownership)
  | rebased ownership => @wrap _ _ below (rebased ownership)
  | truncated maxLength ownership => @wrap _ _ below (truncated maxLength ownership)
  | readOnly => @wrap _ _ below readOnly
  | cached ownership => @wrap _ _ below (cached ownership)

end Wrapping

section

variable [ByteStream ω σ] {below : ByteStream (Gauged ω) σ} {sound : σ → Prop} {s : σ × Gauged ω}

theorem Rebased.untrapped_wrap (h : Sturdy below sound) (ownership : Ownership) (hs : sound s.1) :
    StreamM.Untrapped (@Rebased.wrap _ _ below ownership) (Rebased.wrap ownership) s
      (fun layer stream => InWords (Passthrough.Sound sound) layer ∧ sound stream) sound := by
  apply StreamM.Untrapped.bind (h.perform (show Request.position.InWords from trivial) hs s.2)
  intro origin s' hout
  obtain ⟨hs', horigin⟩ := hout
  apply StreamM.untrapped_state_bind
  exact StreamM.untrapped_pure ⟨⟨horigin, Passthrough.sound_live hs' ownership⟩, hs'⟩

theorem Truncated.untrapped_wrap (h : Sturdy below sound) {maxLength : Nat}
    (hmax : maxLength ≤ maxWord) (ownership : Ownership) (hs : sound s.1) :
    StreamM.Untrapped (@Truncated.wrap _ _ below maxLength ownership)
      (Truncated.wrap maxLength ownership) s
      (fun layer stream => InWords (Passthrough.Sound sound) layer ∧ sound stream) sound := by
  unfold Truncated.wrap
  by_cases hfar : maxPosition < maxLength
  · rw [if_pos hfar, if_pos hfar]
    exact ⟨rfl, hs⟩
  · rw [if_neg hfar, if_neg hfar]
    apply StreamM.Untrapped.bind (h.perform (show Request.position.InWords from trivial) hs s.2)
    intro origin s' hout
    obtain ⟨hs', horigin⟩ := hout
    apply StreamM.untrapped_state_bind
    exact StreamM.untrapped_pure
      ⟨⟨⟨horigin, hmax, horigin⟩, Passthrough.sound_live hs' ownership⟩, hs'⟩

theorem Cached.untrapped_wrap (h : Sturdy below sound) (ownership : Ownership) (hs : sound s.1) :
    StreamM.Untrapped (@Cached.wrap _ _ below ownership) (Cached.wrap ownership) s
      (fun layer stream => InWords (Passthrough.Sound sound) layer ∧ sound stream) sound := by
  apply StreamM.Untrapped.bind (h.perform (show Request.position.InWords from trivial) hs s.2)
  intro cursor s' hout
  obtain ⟨hs', hcursor⟩ := hout
  apply StreamM.untrapped_state_bind
  exact StreamM.untrapped_pure ⟨⟨⟨hcursor, BlockCache.endsBy_empty maxWord 0⟩,
    Passthrough.sound_live hs' ownership⟩, hs'⟩

theorem Window.untrapped_truncate (h : Sturdy below sound) {layer : Rebased σ}
    (hlayer : Rebased.InWords (Passthrough.Sound sound) layer) {size : Nat} (hsize : size ≤ maxWord)
    (hs : sound s.1) :
    StreamM.Untrapped (@truncateOnWords _ _ below layer size) (truncate layer size) s
      (fun window stream => Truncated.InWords
        (Passthrough.Sound (Rebased.InWords (Passthrough.Sound sound))) window ∧ sound stream)
      sound := by
  have hrebased := Rebased.sturdy (Passthrough.sturdy h)
  have hgiven : ∀ {layer : Rebased σ}, Rebased.InWords (Passthrough.Sound sound) layer →
      sound (layer.base.slot.get?.getD s.1) := by
    intro layer hlayer
    cases hslot : layer.base.slot with
    | disposed => exact hs
    | live stream => exact hlayer.2 stream hslot
  apply (Truncated.untrapped_wrap hrebased hsize .owns (s := (layer, s.2)) hlayer).within
  · intro window layer' hout
    exact ⟨hout.1, hgiven hout.2⟩
  · intro layer' hlayer'
    exact hgiven hlayer'

theorem Window.untrapped_ofPart (h : Sturdy below sound) {offset : Nat} {size : Option Nat}
    (hoffset : offset ≤ maxWord) (hsize : ∀ count, size = some count → count ≤ maxWord)
    (ownership : Ownership) (hs : sound s.1) :
    StreamM.Untrapped (@ofPartOnWords _ _ below offset size ownership)
      (ofPart offset size ownership) s
      (fun window stream => InWords sound window ∧ sound stream) sound := by
  cases offset with
  | zero =>
    cases size with
    | none =>
      apply StreamM.untrapped_state_bind
      exact StreamM.untrapped_pure ⟨hs, hs⟩
    | some size =>
      apply StreamM.Untrapped.bind (Truncated.untrapped_wrap h (hsize size rfl) ownership hs)
      intro layer s' hout
      exact StreamM.untrapped_pure hout
  | succ offset =>
    have hwords : (Request.seek (.fromStart (offset + 1))).InWords := hoffset
    apply StreamM.Untrapped.bind (h.perform hwords hs s.2)
    intro _ s₁ hout
    apply StreamM.Untrapped.bind (Rebased.untrapped_wrap h ownership hout.1)
    intro layer s₂ hout
    obtain ⟨hlayer, hs₂⟩ := hout
    cases size with
    | none => exact StreamM.untrapped_pure ⟨hlayer, hs₂⟩
    | some size =>
      apply StreamM.Untrapped.bind (Window.untrapped_truncate h hlayer (hsize size rfl) hs₂)
      intro window s₃ hout
      exact StreamM.untrapped_pure hout

/-- **A layer that is made of words keeps words**, and runs into no trap when it is made. -/
theorem Wrapping.untrapped_wrap (h : Sturdy below sound) {wrapping : Wrapping}
    (hwords : wrapping.InWords) (hs : sound s.1) :
    StreamM.Untrapped (wrapping.wrapOnWords below) wrapping.wrap s
      (fun layer _ => wrapping.kind.InWords sound layer) sound := by
  cases wrapping with
  | passthrough ownership =>
    apply StreamM.untrapped_state_bind
    exact StreamM.untrapped_pure (Passthrough.sound_live hs ownership)
  | rebased ownership =>
    exact (Rebased.untrapped_wrap h ownership hs).mono (fun _ _ hout => hout.1) fun _ h => h
  | truncated maxLength ownership =>
    exact (Truncated.untrapped_wrap h hwords ownership hs).mono (fun _ _ hout => hout.1)
      fun _ h => h
  | readOnly =>
    apply StreamM.untrapped_state_bind
    exact StreamM.untrapped_pure (Passthrough.sound_live hs .borrows)
  | cached ownership =>
    exact (Cached.untrapped_wrap h ownership hs).mono (fun _ _ hout => hout.1) fun _ h => h
  | window offset size ownership =>
    exact (Window.untrapped_ofPart h hwords.1 hwords.2 ownership hs).mono (fun _ _ hout => hout.1)
      fun _ h => h

end

end

/-! ## Stacks in use -/

/-- A stream of the machine that ran into no trap, and that does what the stream does that knows no
words: whatever it is asked next, whatever layer is put over it, and whatever buffer or part of a
buffer is filled from it or written to it. -/
structure InStep {ω σ : Type} [Cancellation ω] (machine : ByteStream (Gauged ω) σ) [ByteStream ω σ]
    (s : σ × Gauged ω) : Prop where
  traps_eq : s.2.traps = []
  perform_eq : ∀ request : Request, request.InWords →
    machine.perform request s = (ByteStream.perform request : StreamM ω σ _).trapless s
  wrap_eq : ∀ wrapping : Wrapping, wrapping.InWords →
    wrapping.wrapOnWords machine s = (wrapping.wrap : StreamM ω σ _).trapless s
  fill_eq : ∀ (mode : Mode) (size : Nat), size ≤ maxWord →
    (fillOnWords mode size : StreamM (Gauged ω) σ Filled) s =
      (fill mode size : StreamM ω σ Filled).trapless s
  readRange_eq : ∀ size offset count : Nat, size ≤ maxWord →
    (readRangeOnWords size offset count : StreamM (Gauged ω) σ Bytes) s =
      (readRange size offset count : StreamM ω σ Bytes).trapless s
  writeRange_eq : ∀ (data : Bytes) (offset count : Nat), data.length ≤ maxWord →
    (writeRangeOnWords data offset count : StreamM (Gauged ω) σ Unit) s =
      (writeRange data offset count : StreamM ω σ Unit).trapless s

theorem Passthrough.sound_of_get? {σ : Type} {sound : σ → Prop} {layer : Passthrough σ} {below : σ}
    (h : Sound sound layer) (hget : layer.slot.get? = some below) : sound below := by
  apply h
  cases hslot : layer.slot with
  | disposed =>
    rw [hslot] at hget
    cases hget
  | live stream =>
    rw [hslot] at hget
    cases hget
    rfl

theorem Window.sound_of_stream? {σ : Type} {sound : σ → Prop} {window : Window σ} {stream : σ}
    (h : InWords sound window) (hstream : window.stream? = some stream) : sound stream := by
  cases window with
  | unwrapped _ =>
    cases hstream
    exact h
  | rebased layer => exact Passthrough.sound_of_get? h.2 hstream
  | truncated layer => exact Passthrough.sound_of_get? h.2 hstream
  | rebasedTruncated layer =>
    obtain ⟨inner, hinner, hstream⟩ := Option.bind_eq_some_iff.mp hstream
    exact Passthrough.sound_of_get? (Passthrough.sound_of_get? h.2 hinner).2 hstream

theorem LayerKind.sound_of_below? {σ : Type} {sound : σ → Prop} :
    ∀ {kind : LayerKind} {layer : kind.Over σ} {below : σ}, kind.InWords sound layer →
      kind.below? layer = some below → sound below
  | passthrough, _, _, h, hbelow => Passthrough.sound_of_get? h hbelow
  | rebased, _, _, h, hbelow => Passthrough.sound_of_get? h.2 hbelow
  | truncated, _, _, h, hbelow => Passthrough.sound_of_get? h.2 hbelow
  | readOnly, _, _, h, hbelow => Passthrough.sound_of_get? h hbelow
  | cached, _, _, h, hbelow => Passthrough.sound_of_get? h.2 hbelow
  | window, _, _, h, hbelow => Window.sound_of_stream? h hbelow

namespace Stack

variable {ω β : Type} [Cancellation ω]

/-- Stacks on the machine, asked for words, on which layers of words are put and taken off, whatever
becomes of the surroundings. -/
def Rules.inWords (base : ByteStream (Gauged ω) β) : Rules (Gauged ω) β where
  perform kinds request := (onWords base kinds).perform request
  wrap kinds wrapping := wrapping.wrapOnWords (onWords base kinds)
  permits
    | _, _, .ask request => request.InWords
    | _, s, .change g => g.traps = s.2.traps
    | _, _, .wrap wrapping => wrapping.InWords
    | _, _, .unwrap => True

variable [ByteStream ω β] {machine : ByteStream (Gauged ω) β} {sound : β → Prop}
  {start : β × Gauged ω} {kinds : List LayerKind} {s : Stack kinds β × Gauged ω}

/-- A stack that is asked for words keeps words and runs into no trap. -/
theorem Reached.inWords (h : Reached (.inWords machine) (· = start) kinds s)
    (hbase : Sturdy machine sound) (hstart : sound start.1) :
    s.2.traps = start.2.traps ∧ InWords sound kinds s.1 := by
  have hkeeps : (Rules.inWords machine).Keeps fun kinds (s : Stack kinds β × Gauged ω) =>
      s.2.traps = start.2.traps ∧ InWords sound kinds s.1 := {
    ask := by
      intro kinds s request ⟨htraps, hs⟩ hwords
      have hrun := (sturdy hbase kinds).perform hwords hs s.2
      refine (hrun.ends.and hrun.ends_traps).mono ?_ ?_
      · exact fun _ s' hout => ⟨hout.2.trans htraps, hout.1.1⟩
      · exact fun _ s' hout => ⟨hout.2.trans htraps, hout.1⟩
    change := fun ⟨htraps, hs⟩ hkept => ⟨hkept.trans htraps, hs⟩
    wrap := by
      intro kinds s wrapping ⟨htraps, hs⟩ hwords
      have hmaking := Wrapping.untrapped_wrap (sturdy hbase kinds) hwords hs
      refine (hmaking.ends.and hmaking.ends_traps).mono ?_ ?_
      · exact fun _ s' hout => ⟨hout.2.trans htraps, hout.1⟩
      · exact fun _ s' hout => ⟨hout.2.trans htraps, hout.1⟩
    unwrap := fun ⟨htraps, hs⟩ _ hbelow => ⟨htraps, LayerKind.sound_of_below? hs hbelow⟩ }
  refine h.keeps hkeeps ?_
  rintro _ rfl
  exact ⟨rfl, hstart⟩

theorem Reached.inStep (h : Reached (.inWords machine) (· = start) kinds s)
    (hbase : Sturdy machine sound) (hstart : sound start.1) (hfresh : start.2.traps = []) :
    InStep (onWords machine kinds) s := by
  obtain ⟨htraps, hs⟩ := h.inWords hbase hstart
  have hstack := sturdy hbase kinds
  exact {
    traps_eq := htraps.trans hfresh
    perform_eq := fun _ hwords => (hstack.perform hwords hs s.2).1
    wrap_eq := fun _ hwords => (Wrapping.untrapped_wrap hstack hwords hs).1
    fill_eq := fun mode _ hsize => (hstack.untrapped_fill mode hsize hs).1
    readRange_eq := fun _ offset count hsize => (hstack.untrapped_readRange hsize offset count hs).1
    writeRange_eq := fun _ offset count hsize =>
      (hstack.untrapped_writeRange hsize offset count hs).1 }

omit [ByteStream ω β] in
/-- **Over zeros of any length and over any dependable device, no sum or product of a stack
overflows and no part of a buffer lies outside it**: however the stack is made, asked and taken
apart, the machine ran into no trap and does what is done without words. -/
theorem stays_in_step (w : ω) :
    (∀ size : Nat, size ≤ maxWord → ∀ (kinds : List LayerKind) (s : Stack kinds Zeros × Gauged ω),
      Reached (.inWords Zeros.onWords) (· = (.ofSize size, ⟨w, []⟩)) kinds s →
        InStep (onWords Zeros.onWords kinds) s) ∧
    ∀ (δ : Type) [Device ω δ], Device.Dependable ω δ → ∀ (device : δ) (access : Access)
      (kinds : List LayerKind) (s : Stack kinds (DeviceStream δ) × Gauged ω),
      Reached (.inWords DeviceStream.onWords) (· = (.ofDevice device access, ⟨w, []⟩)) kinds s →
        InStep (onWords DeviceStream.onWords kinds) s := by
  constructor
  · intro size hsize kinds s h
    exact h.inStep Zeros.sturdy ⟨Nat.zero_le _, hsize⟩ rfl
  · intro δ _ hdependable device access kinds s h
    exact h.inStep (DeviceStream.sturdy hdependable) trivial rfl

omit [Cancellation ω] [ByteStream ω β] in
/-- A truncated layer over a cached one that stands at the greatest word of as many zeros, and a
rebased layer over the end of a content in memory. -/
theorem stays_in_step_at_greatest_word :
    InStep (onWords Zeros.onWords [.truncated, .cached])
        (((⟨⟨.live ⟨⟨.live (.ofSize maxWord), .owns⟩, .empty, maxWord⟩, .owns⟩, maxWord, 5,
              maxWord⟩ : Truncated (Cached Zeros)), ⟨Surroundings.initial, []⟩) :
          Stack [.truncated, .cached] Zeros × Gauged Surroundings) ∧
      InStep (onWords DeviceStream.onWords [.rebased])
        (((⟨⟨.live (.ofDevice ⟨[1, 2, 3], 3⟩ .resizable), .borrows⟩, 3⟩ :
            Rebased (DeviceStream MemoryDevice)), ⟨Surroundings.initial, []⟩) :
          Stack [.rebased] (DeviceStream MemoryDevice) × Gauged Surroundings) := by
  have hboth := stays_in_step Surroundings.initial
  constructor
  · have hbase : Reached (.inWords Zeros.onWords)
        (· = (.ofSize maxWord, ⟨Surroundings.initial, []⟩)) [] _ := .base rfl
    have hcached := hbase.wrapped (.cached .owns) trivial rfl
    have hmoved := hcached.asked (.setPosition maxWord) (Nat.le_refl maxWord)
    have hmade := hmoved.wrapped (.truncated 5 .owns) (show 5 ≤ maxWord by decide) rfl
    exact hboth.1 maxWord (Nat.le_refl maxWord) _ _ hmade
  · have hbase : Reached (.inWords DeviceStream.onWords)
        (· = (.ofDevice (MemoryDevice.ofContent [1, 2, 3]) .resizable,
          ⟨Surroundings.initial, []⟩)) [] _ := .base rfl
    have hmoved := hbase.asked (.setPosition 3) (show 3 ≤ maxWord by decide)
    have hmade := hmoved.wrapped (.rebased .borrows) trivial rfl
    exact hboth.2 MemoryDevice MemoryDevice.dependable _ _ _ _ hmade

end Stack

end LayeredStreams
