import Mathlib.Data.List.Forall2
import PageBuilder.Drawing.Plain
import PageBuilder.Proofs.JsonReading

/-! # Pictures are put together from paintings

A node looks the same wherever it is painted: further down it fails as it does above, or it makes
the same calls further down and ends further down. So the picture of a page is made of the paintings
of its slots, each on its own and moved to where those before it end, as far as they start inside
the frame.

## Implementation notes

A node is painted at a height and tells the height below it, so the law of the move goes through
the tree with the paintings that follow each other: `nodes_shift` is proved together with
`node_shift`. -/

namespace PageBuilder

/-! ### Moved results -/

section Except

variable {ε α β γ : Type} {x : Except ε α}

theorem Except.bind_eq_map_bind {f : α → Except ε β} {g : α → Except ε γ} {move : β → γ}
    (h : ∀ a, g a = (f a).map move) : x >>= g = (x >>= f).map move := by
  cases x with
  | error e => rfl
  | ok a => exact h a

theorem Except.map_bind_eq_map_bind {f : α → Except ε β} {g : α → Except ε γ} {move : α → α}
    {move' : β → γ} (h : ∀ a, g (move a) = (f a).map move') :
    x.map move >>= g = (x >>= f).map move' := by
  cases x with
  | error e => rfl
  | ok a => exact h a

end Except

namespace Painting

theorem shift_grow (p : Painting) (d amount : Int) :
    (p.shift d).grow amount = (p.grow amount).shift d := by
  simp only [grow, shift, Int.add_right_comm]

/-- A painting and the one below it, moved together. -/
theorem shift_append (p q : Painting) (d : Int) :
    (⟨(p.shift d).calls ++ (q.shift d).calls, (q.shift d).bottom⟩ : Painting) =
      shift d ⟨p.calls ++ q.calls, q.bottom⟩ := by
  simp [shift]

end Painting

namespace Painter

variable (canvas : Canvas) (cols : Columns) (y d : Int)

/-! ### Parts of a painting further down -/

theorem textLines_shift (x : Int) (fill : Rgb) (lineHeight : Int) (ls : List String) :
    textLines x fill lineHeight (y + d) ls = (textLines x fill lineHeight y ls).shift d := by
  induction ls generalizing y with
  | nil => rfl
  | cons l ls ih =>
      rw [textLines, textLines, Int.add_right_comm, ih]
      rfl

theorem wrappedText_shift (s : String) (fill : Rgb) (size : Binary64) :
    wrappedText s cols fill size (y + d) =
      (wrappedText s cols fill size y).map (Painting.shift d) := by
  refine Except.bind_eq_map_bind fun lineHeight => Except.bind_eq_map_bind fun charWidth => ?_
  exact congrArg Except.ok (textLines_shift y d _ _ _ _)

theorem buttonLabel_shift (label : Option Node) (height : Int) :
    buttonLabel canvas label cols height (y + d) =
      (buttonLabel canvas label cols height y).map (DrawCall.shift d) := by
  unfold buttonLabel
  split
  · rfl
  · split
    · rfl
    · simp [DrawCall.shift, Int.add_right_comm]

theorem button_shift (style : Fields) (children : List Node) :
    button canvas style children cols (y + d) =
      (button canvas style children cols y).map (Painting.shift d) := by
  refine Except.bind_eq_map_bind fun height => congrArg Except.ok ?_
  simp [Painting.shift, DrawCall.shift, Rect.shift, buttonLabel_shift, Int.add_right_comm]

theorem control_shift (kind : ControlKind) (style attrs : Fields) :
    control canvas kind style attrs cols (y + d) =
      (control canvas kind style attrs cols y).map (Painting.shift d) := by
  refine Except.bind_eq_map_bind fun height => congrArg Except.ok ?_
  simp [Painting.shift, DrawCall.shift, Rect.shift, Int.add_right_comm]

theorem image_shift (style attrs : Fields) :
    image style attrs cols (y + d) = (image style attrs cols y).map (Painting.shift d) := by
  refine Except.bind_eq_map_bind fun height => congrArg Except.ok ?_
  simp only [Painting.shift, DrawCall.shift, Rect.shift, Int.add_right_comm, List.map_cons]
  split <;> simp [DrawCall.shift, Int.add_right_comm]

/-! ### Nodes and slots further down -/

mutual

/-- A node that is painted further down fails as above, or is the same painting moved down. -/
theorem node_shift (y d : Int) :
    (n : Node) → node canvas cols (y + d) n = (node canvas cols y n).map (Painting.shift d)
  | ⟨kind, id, text, style, attrs, children, behaviour⟩ => by
    cases kind with
    | text | heading | unsupported =>
        exact Except.bind_eq_map_bind fun size => wrappedText_shift cols y d _ _ size
    | button => exact button_shift canvas cols y d style children
    | field =>
        simp only [node]
        rw [nodes_shift y d children]
        refine Except.map_bind_eq_map_bind fun inside => Except.bind_eq_map_bind fun gap => ?_
        exact congrArg Except.ok (inside.shift_grow d gap)
    | label =>
        simp only [node]
        rw [wrappedText_shift]
        exact Except.map_bind_eq_map_bind fun lines => congrArg Except.ok (lines.shift_grow d 4)
    | control kind => exact control_shift canvas cols y d kind style attrs
    | image => exact image_shift cols y d style attrs
    | spacer =>
        refine Except.bind_eq_map_bind fun height => congrArg Except.ok ?_
        simp [Painting.shift, Painting.blank, Int.add_right_comm]
    | page | pageNotFound | slot | other => exact nodes_shift y d children

theorem nodes_shift (y d : Int) :
    (ns : List Node) →
      nodes canvas cols (y + d) ns = (nodes canvas cols y ns).map (Painting.shift d)
  | [] => rfl
  | n :: ns => by
    simp only [nodes]
    rw [node_shift y d n]
    refine Except.map_bind_eq_map_bind fun first => ?_
    have hrest : nodes canvas cols (first.shift d).bottom ns =
        (nodes canvas cols first.bottom ns).map (Painting.shift d) := nodes_shift first.bottom d ns
    rw [hrest]
    exact Except.map_bind_eq_map_bind fun rest => congrArg Except.ok (first.shift_append rest d)

end

theorem slot_shift (width inset : Int) (n : Node) :
    slot canvas width inset (y + d) n = (slot canvas width inset y n).map (Painting.shift d) := by
  simp only [slot]
  rw [nodes_shift]
  refine Except.map_bind_eq_map_bind fun inside => Except.bind_eq_map_bind fun gap => ?_
  exact congrArg Except.ok (inside.shift_grow d gap)

theorem slot_eq_map_zero (width inset : Int) (n : Node) :
    slot canvas width inset y n = (slot canvas width inset 0 n).map (Painting.shift y) := by
  rw [← slot_shift, Int.zero_add]

end Painter

/-! ### Stacks of paintings -/

namespace Painting

/-- The height at which painting number `i` starts, if the paintings stand below each other from
`top` on. -/
def startOf (top : Int) (ps : List Painting) (i : Nat) : Int :=
  (ps.take i).foldl (fun y p => y + p.bottom) top

@[simp] theorem startOf_zero (top : Int) (ps : List Painting) : startOf top ps 0 = top := rfl

@[simp] theorem startOf_succ (top : Int) (p : Painting) (ps : List Painting) (i : Nat) :
    startOf top (p :: ps) (i + 1) = startOf (top + p.bottom) ps i := rfl

/-- The calls of paintings that stand below each other from `top` on. -/
def stack (top : Int) (ps : List Painting) : List DrawCall :=
  (ps.mapIdx fun i p => p.calls.map (DrawCall.shift (startOf top ps i))).flatten

@[simp] theorem stack_cons (top : Int) (p : Painting) (ps : List Painting) :
    stack top (p :: ps) = p.calls.map (DrawCall.shift top) ++ stack (top + p.bottom) ps := by
  simp [stack, List.mapIdx_cons]

end Painting

namespace Painter

open Painting (startOf stack)

/-- The slots that are shown, with what each of them looks like on its own. They stand in front of
the others and start inside the frame, and the first of the others would not. -/
structure Shows (canvas : Canvas) (width height inset top : Int) (slots : List Node)
    (shown : List Node) (own : List Painting) : Prop where
  painted : List.Forall₂ (fun n p => slot canvas width inset 0 n = .ok p) shown own
  inside : ∀ i < shown.length, startOf top own i < height
  rest : ∃ hidden, slots = shown ++ hidden ∧
    (hidden ≠ [] → height ≤ startOf top own shown.length)

variable {canvas : Canvas} {width height inset top : Int}

theorem Shows.none {ns : List Node} (h : ns ≠ [] → height ≤ top) :
    Shows canvas width height inset top ns [] [] where
  painted := .nil
  inside := nofun
  rest := ⟨ns, rfl, by simpa using h⟩

theorem Shows.cons {n : Node} {ns shown : List Node} {p : Painting} {own : List Painting}
    (htop : top < height) (hp : slot canvas width inset 0 n = .ok p)
    (h : Shows canvas width height inset (top + p.bottom) ns shown own) :
    Shows canvas width height inset top (n :: ns) (n :: shown) (p :: own) where
  painted := .cons hp h.painted
  inside := by
    intro i hi
    cases i with
    | zero => simpa using htop
    | succ i => simpa using h.inside i (Nat.lt_of_succ_lt_succ hi)
  rest := by
    obtain ⟨hidden, hslots, hhidden⟩ := h.rest
    exact ⟨hidden, by rw [hslots, List.cons_append], by simpa using hhidden⟩

/-- Slots below each other are a stack of their own paintings, as far as they are shown. -/
theorem slots_eq_stack {ns : List Node} {painting : Painting}
    (h : slots canvas width height inset top ns = .ok painting) :
    ∃ shown own, Shows canvas width height inset top ns shown own ∧
      painting.calls = stack top own := by
  induction ns generalizing top painting with
  | nil =>
      cases h
      exact ⟨[], [], .none nofun, rfl⟩
  | cons n ns ih =>
      rw [slots] at h
      split at h
      · next hbelow =>
        cases h
        exact ⟨[], [], .none fun _ => hbelow, rfl⟩
      · next habove =>
        rw [slot_eq_map_zero] at h
        obtain ⟨first, hfirst, h⟩ := Except.bind_eq_ok_iff.mp h
        obtain ⟨below, hbelow, h⟩ := Except.bind_eq_ok_iff.mp h
        obtain ⟨p, hp, rfl⟩ := Json.map_ok hfirst
        cases h
        rw [show (p.shift top).bottom = top + p.bottom from Int.add_comm p.bottom top] at hbelow
        obtain ⟨shown, own, hshows, hcalls⟩ := ih hbelow
        refine ⟨n :: shown, p :: own, .cons (Int.not_le.mp habove) hp hshows, ?_⟩
        rw [Painting.stack_cons, ← hcalls]
        rfl

/-- A node that is painted further down fails as above, or makes the same calls further down and
ends further down, and so does a slot. The picture of a page is the frame around a stack: of the
paintings of the slots, each on its own, from the padding of the page on, and of those only that
start inside the frame. -/
theorem painted_anywhere_and_stacked (canvas : Canvas) :
    (∀ cols y d n, node canvas cols (y + d) n = (node canvas cols y n).map (Painting.shift d)) ∧
    (∀ width inset y d n, slot canvas width inset (y + d) n =
      (slot canvas width inset y n).map (Painting.shift d)) ∧
    ∀ config n calls, n.kind = .page → pictureOn canvas config n = .ok calls →
      ∃ inset top shown own background, whole config.pageInset = .ok inset ∧
        length config.pageInset (Fields.value n.style "padding") = .ok top ∧
        Shows canvas config.frameWidth config.frameHeight inset top n.children shown own ∧
        calls =
          .newImage 0 (config.frameWidth + 24) (config.frameHeight + 24) ⟨17, 24, 39⟩ ::
          .newImage 1 config.frameWidth config.frameHeight background :: .drawOn 1 ::
          (stack top own ++ [.paste 1 12 12, .save]) := by
  refine ⟨fun cols y d n => node_shift canvas cols y d n,
    fun width inset y d n => slot_shift canvas y d width inset n, fun config n calls hkind h => ?_⟩
  obtain ⟨inset, hinset, h⟩ := Except.bind_eq_ok_iff.mp h
  obtain ⟨drawn, hdrawn, h⟩ := Except.bind_eq_ok_iff.mp h
  cases h
  rw [screen, hkind] at hdrawn
  obtain ⟨top, htop, hdrawn⟩ := Except.bind_eq_ok_iff.mp hdrawn
  obtain ⟨painting, hpainting, hdrawn⟩ := Except.bind_eq_ok_iff.mp hdrawn
  obtain ⟨shown, own, hshows, hcalls⟩ := slots_eq_stack hpainting
  cases hdrawn
  exact ⟨inset, top, shown, own, _, hinset, htop, hshows, by rw [hcalls]⟩

/-- A slot with the gap below it. -/
def slotAround (n : Node) (gap : Int) : Node where
  kind := .slot
  id := "slot"
  style := [("marginBottom", .int gap)]
  children := [n]

def tallButton : Node where
  kind := .button
  id := "go"
  style := [("minHeight", .int 60)]
  children := [{ kind := .label, id := "go__label", text := some "Go" }]

def tallImage : Node where
  kind := .image
  id := "sky"
  style := [("height", .int 90)]

/-- A page whose last slot starts below a low frame. -/
def tallPage : Node where
  kind := .page
  id := "home"
  style := [("padding", .int 10)]
  children := [slotAround tallButton 8, slotAround tallImage 8, slotAround tallButton 0]

def tallCalls : List DrawCall :=
  [.roundedRectangle ⟨16, 10, 344, 70⟩ 8 (some ⟨3, 2, 19⟩) ⟨3, 2, 19⟩,
    .text 174 35 "Go" ⟨255, 255, 255⟩,
    .rectangle ⟨16, 78, 344, 168⟩ ⟨226, 232, 240⟩,
    .line ⟨16, 78, 344, 168⟩ ⟨203, 213, 225⟩,
    .line ⟨16, 168, 344, 78⟩ ⟨203, 213, 225⟩]

/-- Of the slots of the page, the first two are painted, each as it is on its own. -/
theorem tallPage_stacked :
    ∃ shown own, Shows .plain 360 100 16 10 tallPage.children shown own ∧
      stack 10 own = tallCalls := by
  have hpicture : picture { frameHeight := 100 } tallPage =
      .ok (.newImage 0 384 124 ⟨17, 24, 39⟩ :: .newImage 1 360 100 white :: .drawOn 1 ::
        (tallCalls ++ [.paste 1 12 12, .save])) := by decide +kernel
  obtain ⟨inset, top, shown, own, background, hinset, htop, hshows, hcalls⟩ :=
    (painted_anywhere_and_stacked .plain).2.2 { frameHeight := 100 } tallPage _ rfl hpicture
  have hinset' : whole ({ frameHeight := 100 } : Config).pageInset = .ok 16 := by decide +kernel
  have htop' : length ({ frameHeight := 100 } : Config).pageInset
      (Fields.value tallPage.style "padding") = .ok 10 := by decide +kernel
  obtain rfl : 16 = inset := by simpa [hinset'] using hinset
  obtain rfl : 10 = top := by simpa [htop'] using htop
  refine ⟨shown, own, hshows, ?_⟩
  simp only [List.cons.injEq, List.append_cancel_right_eq, true_and] at hcalls
  exact hcalls.2.2.symm

end Painter

end PageBuilder
