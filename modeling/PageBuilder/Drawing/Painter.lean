import PageBuilder.Config
import PageBuilder.Drawing.Canvas
import PageBuilder.Text.Integer
import PageBuilder.Text.Wrap
import PageBuilder.View.Node

/-! # Painting pages

A rendered page is painted from the top: every node is given the space between two columns and the
height at which it starts, and answers with its draw calls and the height at which it ends. Slots
that start below the frame are not painted.

## Implementation notes

`Painting` keeps the calls of a node in drawing order. A node fails only where one of its numbers
cannot be used. -/

namespace PageBuilder

/-- Why a node cannot be painted. -/
inductive PaintError where
  | number (error : NumberError)
  /-- A text where a whole number is needed. -/
  | notANumeral
  /-- A value where a whole number is needed. -/
  | noInteger
  deriving DecidableEq, Repr

/-- Draw calls, and the height below them. -/
structure Painting where
  calls : List DrawCall
  bottom : Int
  deriving DecidableEq, Repr

namespace Painting

/-- Nothing drawn at the given height. -/
def blank (y : Int) : Painting := ⟨[], y⟩

/-- The painting with room below it. -/
def grow (p : Painting) (amount : Int) : Painting :=
  { p with bottom := p.bottom + amount }

/-- The painting moved down. -/
def shift (d : Int) (p : Painting) : Painting :=
  ⟨p.calls.map (DrawCall.shift d), p.bottom + d⟩

end Painting

/-- The space that a node is painted in. -/
structure Columns where
  left : Int
  right : Int
  deriving DecidableEq, Repr

namespace Painter

def black : Rgb := ⟨0, 0, 0⟩
def white : Rgb := ⟨255, 255, 255⟩

/-- The dark color of buttons. -/
def ink : Rgb := ⟨3, 2, 19⟩

/-- A color of a style, or the default if the canvas knows none for it. -/
def color (canvas : Canvas) (default : Rgb) : Json → Rgb
  | .str s => if s = "" then default else (canvas.color? s).getD default
  | _ => default

/-- A number of a style, or the default for another value. -/
def number (default : Binary64) (v : Json) : Except PaintError Binary64 :=
  (TypedProps.doubleOr default v).mapError .number

/-- The whole part of a number. -/
def whole (x : Binary64) : Except PaintError Int :=
  (wholePart x).mapError .number

/-- The whole part of a number of a style. -/
def length (default : Binary64) (v : Json) : Except PaintError Int :=
  match number default v with
  | .error e => .error e
  | .ok x => whole x

/-- A count of rows. -/
def rows : Json → Except PaintError Int
  | .int n => .ok n
  | .bool b => .ok (if b then 1 else 0)
  | .float x => whole x
  | .str s =>
    match Text.integer? s with
    | some n => .ok n
    | none => .error .notANumeral
  | _ => .error .noInteger

/-- Lines of text below each other. -/
def textLines (x : Int) (fill : Rgb) (lineHeight : Int) : Int → List String → Painting
  | y, [] => .blank y
  | y, l :: ls =>
    let below := textLines x fill lineHeight (y + lineHeight) ls
    ⟨.text x y l fill :: below.calls, below.bottom⟩

/-- The lines of a text, at least one. -/
def wrapped (columns : Nat) (s : String) : List String :=
  match Text.Wrap.lines columns s with
  | [] => [""]
  | ls => ls

/-- A text wrapped into its columns. -/
def wrappedText (s : String) (cols : Columns) (fill : Rgb) (size : Binary64) (y : Int) :
    Except PaintError Painting := do
  let lineHeight := max 12 (← whole (size * .ofDecimal false ⟨13, -1⟩))
  let charWidth := max 6 (← whole (size * .ofDecimal false ⟨55, -2⟩))
  let columns := max 8 ((cols.right - cols.left).fdiv charWidth)
  return textLines cols.left fill lineHeight y (wrapped columns.toNat s)

/-- The title of a button in its middle. -/
def buttonLabel (canvas : Canvas) (label : Option Node) (cols : Columns) (height y : Int) :
    List DrawCall :=
  match label with
  | none => []
  | some n =>
    match n.text.filter (· != "") with
    | none => []
    | some s =>
      let x := cols.left + max 0 ((cols.right - cols.left - canvas.textWidth s).fdiv 2)
      let top := y + max 0 ((height - canvas.textHeight s).fdiv 2)
      [.text x top s (color canvas white (Fields.value n.style "color"))]

def button (canvas : Canvas) (style : Fields) (children : List Node) (cols : Columns) (y : Int) :
    Except PaintError Painting := do
  let height ← length (.ofInt 44) (Fields.value style "minHeight")
  let background := Fields.value style "backgroundColor"
  let fill := match background with
    | .str "transparent" => none
    | v => some (color canvas ink v)
  let outline := color canvas ink (Fields.value style "borderColor")
  let box := .roundedRectangle ⟨cols.left, y, cols.right, y + height⟩ 8 fill outline
  return ⟨box :: buttonLabel canvas children.head? cols height y, y + height⟩

/-- The height of a control. -/
def controlHeight (kind : ControlKind) (attrs : Fields) : Except PaintError Int :=
  match kind with
  | .textarea => (rows ((Fields.get? attrs "rows").getD (.int 3))).map fun n => n * 20 + 24
  | _ => .ok 44

def control (canvas : Canvas) (kind : ControlKind) (style attrs : Fields) (cols : Columns)
    (y : Int) : Except PaintError Painting := do
  let height ← controlHeight kind attrs
  let fill := color canvas white (Fields.value style "backgroundColor")
  let outline := color canvas ⟨224, 224, 224⟩ (Fields.value style "borderColor")
  let value := Fields.value attrs "value"
  let placeholder := Fields.value attrs "placeholder"
  let shown := if value.truthy then value.display
    else if placeholder.truthy then placeholder.display else ""
  let textFill := if value.truthy then black else ⟨150, 150, 150⟩
  return ⟨[.roundedRectangle ⟨cols.left, y, cols.right, y + height⟩ 8 (some fill) outline,
    .text (cols.left + 12) (y + 14) shown textFill], y + height⟩

def image (style attrs : Fields) (cols : Columns) (y : Int) : Except PaintError Painting := do
  let height ← length (.ofInt 200) (Fields.value style "height")
  let bottom := y + height
  let source := Fields.value attrs "source"
  let caption : List DrawCall :=
    if source.truthy then
      [.text (cols.left + 8) (y + 8) (String.ofList (source.display.toList.take 48)) ⟨71, 85, 105⟩]
    else []
  return ⟨.rectangle ⟨cols.left, y, cols.right, bottom⟩ ⟨226, 232, 240⟩ ::
    .line ⟨cols.left, y, cols.right, bottom⟩ ⟨203, 213, 225⟩ ::
    .line ⟨cols.left, bottom, cols.right, y⟩ ⟨203, 213, 225⟩ :: caption, bottom⟩

mutual

/-- Paint a node. -/
def node (canvas : Canvas) (cols : Columns) (y : Int) : Node → Except PaintError Painting
  | ⟨kind, _, text, style, attrs, children, _⟩ =>
    match kind with
    | .text | .heading | .unsupported => do
      let size ← number (.ofInt 16) (Fields.value style "fontSize")
      wrappedText (text.getD "") cols (color canvas black (Fields.value style "color")) size y
    | .button => button canvas style children cols y
    | .field => do
      let inside ← nodes canvas cols y children
      return inside.grow (← length (.ofInt 0) (Fields.value style "marginBottom"))
    | .label => do
      let lines ← wrappedText (text.getD "") cols black (.ofInt 14) y
      return lines.grow 4
    | .control kind => control canvas kind style attrs cols y
    | .image => image style attrs cols y
    | .spacer => do
      let height ← length (.ofInt 16) (Fields.value style "height")
      return .blank (y + height)
    | _ => nodes canvas cols y children

/-- Paint nodes below each other. -/
def nodes (canvas : Canvas) (cols : Columns) (y : Int) : List Node → Except PaintError Painting
  | [] => .ok (.blank y)
  | n :: ns => do
    let first ← node canvas cols y n
    let rest ← nodes canvas cols first.bottom ns
    return ⟨first.calls ++ rest.calls, rest.bottom⟩

end

/-- The columns of a slot: inside the inset of the page, or over the whole width. -/
def slotColumns (width inset : Int) (attrs : Fields) : Columns :=
  if (Fields.value attrs "fullBleed").truthy then ⟨0, width⟩ else ⟨inset, width - inset⟩

/-- Paint a slot and the gap below it. -/
def slot (canvas : Canvas) (width inset : Int) (y : Int) (n : Node) :
    Except PaintError Painting := do
  let inside ← nodes canvas (slotColumns width inset n.attrs) y n.children
  return inside.grow (← length (.ofInt 0) (Fields.value n.style "marginBottom"))

/-- Paint slots below each other, as far as they start inside the frame. -/
def slots (canvas : Canvas) (width height inset : Int) (y : Int) :
    List Node → Except PaintError Painting
  | [] => .ok (.blank y)
  | n :: ns =>
    if height ≤ y then .ok (.blank y)
    else do
      let first ← slot canvas width inset y n
      let rest ← slots canvas width height inset first.bottom ns
      return ⟨first.calls ++ rest.calls, rest.bottom⟩

/-- A text in the middle of the width. -/
def centered (canvas : Canvas) (width : Int) (s : String) (y : Int) : List DrawCall :=
  [.text (max 0 ((width - canvas.textWidth s).fdiv 2)) y s black]

/-- What is drawn on the screen. -/
def screen (canvas : Canvas) (config : Config) (inset : Int) (n : Node) :
    Except PaintError (List DrawCall) :=
  match n.kind with
  | .pageNotFound =>
    .ok (centered canvas config.frameWidth (n.text.getD "") (config.frameHeight.fdiv 2))
  | .page => do
    let top ← length config.pageInset (Fields.value n.style "padding")
    return (← slots canvas config.frameWidth config.frameHeight inset top n.children).calls
  | _ => do
    return (← node canvas ⟨inset, config.frameWidth - inset⟩ inset n).calls

/-- The calls that draw a node on the screen of a framed device. -/
def pictureOn (canvas : Canvas) (config : Config) (n : Node) :
    Except PaintError (List DrawCall) := do
  let inset ← whole config.pageInset
  let background := color canvas white (Fields.value n.style "backgroundColor")
  let drawn ← screen canvas config inset n
  return .newImage 0 (config.frameWidth + 24) (config.frameHeight + 24) ⟨17, 24, 39⟩ ::
    .newImage 1 config.frameWidth config.frameHeight background :: .drawOn 1 ::
    (drawn ++ [.paste 1 12 12, .save])

end Painter

end PageBuilder
