/-! # Canvases and draw calls

A picture is described by the calls that draw it. Only the calls of a painting depend on the height
at which it is drawn; `DrawCall.shift` moves a call down. How large a text is and which color it
names are questions to the canvas. -/

namespace PageBuilder

/-- A color by its parts. Parts are usually below 256. -/
structure Rgb where
  red : Int
  green : Int
  blue : Int
  deriving DecidableEq, Repr

/-- The corners of a rectangle. -/
structure Rect where
  left : Int
  top : Int
  right : Int
  bottom : Int
  deriving DecidableEq, Repr

/-- One step of drawing a picture. -/
inductive DrawCall where
  | newImage (image : Nat) (width height : Int) (color : Rgb)
  | drawOn (image : Nat)
  | text (x y : Int) (text : String) (fill : Rgb)
  | roundedRectangle (rect : Rect) (radius : Int) (fill : Option Rgb) (outline : Rgb)
  | rectangle (rect : Rect) (fill : Rgb)
  | line (rect : Rect) (fill : Rgb)
  | paste (image : Nat) (x y : Int)
  | save
  deriving DecidableEq, Repr

namespace Rect

/-- The rectangle moved down. -/
def shift (d : Int) (r : Rect) : Rect :=
  { r with top := r.top + d, bottom := r.bottom + d }

end Rect

namespace DrawCall

/-- A call on the screen moved down; calls that set up the picture stay. -/
def shift (d : Int) : DrawCall → DrawCall
  | .text x y s fill => .text x (y + d) s fill
  | .roundedRectangle rect radius fill outline =>
    .roundedRectangle (rect.shift d) radius fill outline
  | .rectangle rect fill => .rectangle (rect.shift d) fill
  | .line rect fill => .line (rect.shift d) fill
  | c => c

end DrawCall

/-- What a canvas knows: how large a text is that is drawn at the origin, and the color that a text
names, if it names one. -/
structure Canvas where
  textWidth : String → Int
  textHeight : String → Int
  color? : String → Option Rgb

end PageBuilder
