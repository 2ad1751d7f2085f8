import PageBuilder.Drawing.Canvas
import PageBuilder.Json.Basic

/-! # Pictures as lists

A picture written down as the list of its calls: each call is an array of its name and what it is
given. -/

namespace PageBuilder

def Rgb.toJson (c : Rgb) : Json :=
  .arr [.int c.red, .int c.green, .int c.blue]

def Rect.toJson (r : Rect) : Json :=
  .arr [.int r.left, .int r.top, .int r.right, .int r.bottom]

def DrawCall.toJson : DrawCall → Json
  | .newImage n w h color =>
    .arr [.str "new", .int n, .str "RGB", .arr [.int w, .int h], color.toJson]
  | .drawOn n => .arr [.str "draw_on", .int n]
  | .text x y s fill => .arr [.str "text", .arr [.int x, .int y], .str s, fill.toJson]
  | .roundedRectangle r radius fill outline =>
    .arr [.str "rounded_rectangle", r.toJson, .int radius, fill.elim .null Rgb.toJson,
      outline.toJson]
  | .rectangle r fill => .arr [.str "rectangle", r.toJson, fill.toJson]
  | .line r fill => .arr [.str "line", r.toJson, fill.toJson]
  | .paste n x y => .arr [.str "paste", .int n, .arr [.int x, .int y]]
  | .save => .arr [.str "save"]

end PageBuilder
