import PageBuilder.Drawing.Color
import PageBuilder.Drawing.Painter

/-! # The canvas of the program

Every character is six wide and every text ten high. Colors are read as style sheets write them. -/

namespace PageBuilder

/-- The canvas that the program draws on. -/
def Canvas.plain : Canvas where
  textWidth s := 6 * s.length
  textHeight _ := 10
  color? := Rgb.ofText?

/-- The calls that draw a node on the canvas of the program. -/
def Painter.picture (config : Config) (n : Node) : Except PaintError (List DrawCall) :=
  pictureOn .plain config n

end PageBuilder
