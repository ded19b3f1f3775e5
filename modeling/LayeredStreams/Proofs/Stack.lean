import LayeredStreams.Layer.Cached
import LayeredStreams.Layer.ReadOnly
import LayeredStreams.Layer.Window
import LayeredStreams.Proofs.Outcome

/-!
# Stacks of layers

* `LayerKind`, `LayerKind.Over` — the kinds of layers, and a layer of a kind over a stream.
* `Stack kinds β` — a stack of layers of those kinds, the outermost first, over a base with state
  `β`. Every stack is a stream.
* `LayerKind.below?` — the stream that a layer holds.
* `Wrapping` — a layer to make, with what it is made with; `Wrapping.wrap` puts it over a stream.
* `Stack.Step` — what can happen to a stack; `Stack.Rules` — how a stack answers and is wrapped, and
  which steps are permitted; `Stack.Reached rules start` — the stacks that permitted steps lead to,
  from a base that satisfies `start`.
* `Stack.Rules.granted`, `Stack.Rules.undisposed` — quiet requests that are granted; any requests
  but a dispose.

Principal result: `Stack.Reached.keeps` (what every permitted step keeps holds of every stack that
is reached).
-/

set_option autoImplicit false

namespace LayeredStreams

/-- The kinds of layers. -/
inductive LayerKind
  | passthrough
  | rebased
  | truncated
  | readOnly
  | cached
  | window
  deriving DecidableEq, Repr

/-- The stream that a window is a part of, unless it was disposed. -/
def Window.stream? {σ : Type} : Window σ → Option σ
  | .unwrapped stream => some stream
  | .rebased layer => layer.base.slot.get?
  | .truncated layer => layer.base.slot.get?
  | .rebasedTruncated layer => layer.base.slot.get?.bind fun inner => inner.base.slot.get?

namespace LayerKind

/-- A layer of a kind over a stream with state `σ`. -/
def Over : LayerKind → Type → Type
  | passthrough, σ => Passthrough σ
  | rebased, σ => Rebased σ
  | truncated, σ => Truncated σ
  | readOnly, σ => ReadOnly σ
  | cached, σ => Cached σ
  | window, σ => Window σ

instance byteStream {ω σ : Type} [Cancellation ω] [ByteStream ω σ] :
    (kind : LayerKind) → ByteStream ω (kind.Over σ)
  | passthrough => inferInstanceAs (ByteStream ω (Passthrough σ))
  | rebased => inferInstanceAs (ByteStream ω (Rebased σ))
  | truncated => inferInstanceAs (ByteStream ω (Truncated σ))
  | readOnly => inferInstanceAs (ByteStream ω (ReadOnly σ))
  | cached => inferInstanceAs (ByteStream ω (Cached σ))
  | window => inferInstanceAs (ByteStream ω (Window σ))

/-- The stream that a layer holds, unless it was disposed. -/
def below? {σ : Type} : (kind : LayerKind) → kind.Over σ → Option σ
  | passthrough, layer => (Passthrough.slot layer).get?
  | rebased, layer => (Rebased.base layer).slot.get?
  | truncated, layer => (Truncated.base layer).slot.get?
  | readOnly, layer => (ReadOnly.base layer).slot.get?
  | cached, layer => (Cached.base layer).slot.get?
  | window, layer => Window.stream? layer

end LayerKind

/-- A stack of layers over a base with state `β`, the outermost first. -/
def Stack : List LayerKind → Type → Type
  | [], β => β
  | kind :: kinds, β => kind.Over (Stack kinds β)

instance Stack.byteStream {ω β : Type} [Cancellation ω] [ByteStream ω β] :
    (kinds : List LayerKind) → ByteStream ω (Stack kinds β)
  | [] => inferInstanceAs (ByteStream ω β)
  | kind :: kinds =>
    haveI := Stack.byteStream (ω := ω) (β := β) kinds
    inferInstanceAs (ByteStream ω (kind.Over (Stack kinds β)))

/-- A layer to make, with what it is made with. -/
inductive Wrapping
  | passthrough (ownership : Ownership)
  | rebased (ownership : Ownership)
  | truncated (maxLength : Nat) (ownership : Ownership)
  | readOnly
  | cached (ownership : Ownership)
  | window (offset : Nat) (size : Option Nat) (ownership : Ownership)
  deriving DecidableEq, Repr

namespace Wrapping

/-- The kind of a layer. -/
def kind : Wrapping → LayerKind
  | passthrough _ => .passthrough
  | rebased _ => .rebased
  | truncated _ _ => .truncated
  | readOnly => .readOnly
  | cached _ => .cached
  | window _ _ _ => .window

/-- Put a layer over a stream. -/
def wrap {ω σ : Type} [ByteStream ω σ] : (wrapping : Wrapping) → StreamM ω σ (wrapping.kind.Over σ)
  | passthrough ownership => do return Passthrough.ofStream (← StreamM.state) ownership
  | rebased ownership => Rebased.wrap ownership
  | truncated maxLength ownership => Truncated.wrap maxLength ownership
  | readOnly => do return ReadOnly.ofStream (← StreamM.state)
  | cached ownership => Cached.wrap ownership
  | window offset size ownership => Window.ofPart offset size ownership

end Wrapping

/-! ## Stacks in use -/

namespace Stack

variable {ω β : Type}

/-- What can happen to a stack. -/
inductive Step (ω : Type)
  /-- It is asked something. -/
  | ask (request : Request)
  /-- Its surroundings are changed. -/
  | change (w : ω)
  /-- A layer is put over it, unless that is refused. -/
  | wrap (wrapping : Wrapping)
  /-- Its outermost layer is taken off. -/
  | unwrap

/-- How stacks over a base are used: what they do when they are asked something, how a layer is put
over them, and which steps are permitted in which states. -/
structure Rules (ω β : Type) where
  perform : (kinds : List LayerKind) → (request : Request) →
    StreamM ω (Stack kinds β) request.Answer
  wrap : (kinds : List LayerKind) → (wrapping : Wrapping) →
    StreamM ω (Stack kinds β) (wrapping.kind.Over (Stack kinds β))
  permits : (kinds : List LayerKind) → Stack kinds β × ω → Step ω → Prop

/-- The stacks that permitted steps lead to from a base that satisfies `start`, whatever comes of
each step. -/
inductive Reached (rules : Rules ω β) (start : β × ω → Prop) :
    (kinds : List LayerKind) → Stack kinds β × ω → Prop
  | base {s : β × ω} (h : start s) : Reached rules start [] s
  | asked {kinds : List LayerKind} {s : Stack kinds β × ω} (h : Reached rules start kinds s)
      (request : Request) (hpermits : rules.permits kinds s (.ask request)) :
      Reached rules start kinds ((rules.perform kinds request).final s)
  | changed {kinds : List LayerKind} {s : Stack kinds β × ω} (h : Reached rules start kinds s)
      (w : ω) (hpermits : rules.permits kinds s (.change w)) : Reached rules start kinds (s.1, w)
  /-- A stack with one more layer. -/
  | wrapped {kinds : List LayerKind} {s s' : Stack kinds β × ω} (h : Reached rules start kinds s)
      (wrapping : Wrapping) (hpermits : rules.permits kinds s (.wrap wrapping))
      {layer : wrapping.kind.Over (Stack kinds β)}
      (hmade : rules.wrap kinds wrapping s = .ok layer s') :
      Reached rules start (wrapping.kind :: kinds) (layer, s'.2)
  /-- A stack on which a layer could not be made. -/
  | unmade {kinds : List LayerKind} {s s' : Stack kinds β × ω} (h : Reached rules start kinds s)
      (wrapping : Wrapping) (hpermits : rules.permits kinds s (.wrap wrapping)) {e : StreamError}
      (hrefused : rules.wrap kinds wrapping s = .error e s') : Reached rules start kinds s'
  | unwrapped {kind : LayerKind} {kinds : List LayerKind} {s : Stack (kind :: kinds) β × ω}
      (h : Reached rules start (kind :: kinds) s)
      (hpermits : rules.permits (kind :: kinds) s .unwrap) {below : Stack kinds β}
      (hbelow : kind.below? s.1 = some below) : Reached rules start kinds (below, s.2)

/-- Every permitted step keeps what holds of a stack. -/
structure Rules.Keeps (rules : Rules ω β)
    (keeps : (kinds : List LayerKind) → Stack kinds β × ω → Prop) : Prop where
  ask : ∀ {kinds : List LayerKind} {s : Stack kinds β × ω} {request : Request}, keeps kinds s →
    rules.permits kinds s (.ask request) →
      (rules.perform kinds request).Ends s (fun _ => keeps kinds) fun _ => keeps kinds
  change : ∀ {kinds : List LayerKind} {s : Stack kinds β × ω} {w : ω}, keeps kinds s →
    rules.permits kinds s (.change w) → keeps kinds (s.1, w)
  wrap : ∀ {kinds : List LayerKind} {s : Stack kinds β × ω} {wrapping : Wrapping}, keeps kinds s →
    rules.permits kinds s (.wrap wrapping) →
      (rules.wrap kinds wrapping).Ends s
        (fun layer s' => keeps (wrapping.kind :: kinds) (layer, s'.2)) fun _ => keeps kinds
  unwrap : ∀ {kind : LayerKind} {kinds : List LayerKind} {s : Stack (kind :: kinds) β × ω}
    {below : Stack kinds β}, keeps (kind :: kinds) s →
      rules.permits (kind :: kinds) s .unwrap → kind.below? s.1 = some below →
        keeps kinds (below, s.2)

/-- **What every permitted step keeps holds of every stack that is reached**, if it holds of the
bases. The induction is on how the stack was reached. -/
theorem Reached.keeps {rules : Rules ω β} {start : β × ω → Prop}
    {keeps : (kinds : List LayerKind) → Stack kinds β × ω → Prop} {kinds : List LayerKind}
    {s : Stack kinds β × ω} (h : Reached rules start kinds s) (hkeeps : rules.Keeps keeps)
    (hstart : ∀ base : β × ω, start base → keeps [] base) : keeps kinds s := by
  induction h with
  | base hs => exact hstart _ hs
  | asked _ request hpermits ih => exact (hkeeps.ask ih hpermits).final
  | changed _ w hpermits ih => exact hkeeps.change ih hpermits
  | wrapped _ wrapping hpermits hmade ih => exact (hkeeps.wrap ih hpermits).of_eq_ok hmade
  | unmade _ wrapping hpermits hrefused ih =>
    exact (hkeeps.wrap ih hpermits).of_eq_error hrefused
  | unwrapped _ hpermits hbelow ih => exact hkeeps.unwrap ih hpermits hbelow

variable [Cancellation ω] [ByteStream ω β]

/-- The rules of stacks of streams, where some of the steps are permitted. -/
def Rules.permitting
    (permits : (kinds : List LayerKind) → Stack kinds β × ω → Step ω → Prop) : Rules ω β where
  perform _ := ByteStream.perform
  wrap _ := Wrapping.wrap
  permits := permits

/-- Stacks that are asked quiet requests, which they grant, and on which layers are made. -/
def Rules.granted : Rules ω β := .permitting fun kinds s step =>
  match step with
  | .ask request => request.isQuiet = true ∧
      (ByteStream.perform request : StreamM ω (Stack kinds β) request.Answer).Succeeds s
  | .wrap wrapping => (wrapping.wrap : StreamM ω (Stack kinds β) _).Succeeds s
  | .change _ | .unwrap => False

/-- Stacks that are asked anything but to give themselves up, and on which layers are made. -/
def Rules.undisposed : Rules ω β := .permitting fun kinds s step =>
  match step with
  | .ask request => request ≠ .dispose
  | .wrap wrapping => (wrapping.wrap : StreamM ω (Stack kinds β) _).Succeeds s
  | .change _ | .unwrap => False

end Stack

end LayeredStreams
