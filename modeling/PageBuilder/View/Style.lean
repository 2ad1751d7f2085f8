import PageBuilder.Json.Basic

/-! # Resolved styles

A style may give the margin and the padding as a number for all sides, as an object with a value per
side, or as keys for single sides. A resolved style has no objects and none of the properties that
are not known; the object form wins over the single keys. -/

namespace PageBuilder.Style

/-- A box around the content. -/
inductive Box where
  | margin
  | padding
  deriving DecidableEq, Repr

def Box.name : Box → String
  | .margin => "margin"
  | .padding => "padding"

def Box.all : List Box := [.margin, .padding]

/-- A side of a box. -/
inductive Side where
  | top
  | bottom
  | left
  | right
  deriving DecidableEq, Repr

/-- The key of the side inside the object form of a box. -/
def Side.name : Side → String
  | .top => "top"
  | .bottom => "bottom"
  | .left => "left"
  | .right => "right"

/-- The end of the key for one side of a box. -/
def Side.suffix : Side → String
  | .top => "Top"
  | .bottom => "Bottom"
  | .left => "Left"
  | .right => "Right"

def Side.all : List Side := [.top, .bottom, .left, .right]

/-- The key for one side of a box. -/
def sideKey (box : Box) (side : Side) : String :=
  box.name ++ side.suffix

/-- The properties that are taken over unless they are null or an empty text. -/
def plainKeys : List String :=
  ["backgroundColor", "borderRadius", "width", "height", "flex", "alignItems", "justifyContent"]

/-- A field, unless its value is null. -/
def present (key : String) (v : Json) : Fields :=
  if v.isNull then [] else [(key, v)]

/-- A field, unless its value is null or an empty text. -/
def presentText (key : String) : Json → Fields
  | .str "" => []
  | v => present key v

/-- The resolved keys that the value of a whole box gives. -/
def boxFields (box : Box) : Json → Fields
  | .int n => [(box.name, .int n)]
  | .float x => [(box.name, .float x)]
  | .obj sides =>
    Side.all.flatMap fun side => present (sideKey box side) (Fields.value sides side.name)
  | _ => []

/-- The resolved keys of one box: those of single sides, then those of the whole. -/
def resolveBox (style : Fields) (box : Box) : Fields :=
  let single := Side.all.flatMap fun side =>
    present (sideKey box side) (Fields.value style (sideKey box side))
  Fields.merge single (boxFields box (Fields.value style box.name))

/-- The resolved form of a style. -/
def resolve (style : Fields) : Fields :=
  Box.all.flatMap (resolveBox style) ++
    plainKeys.flatMap fun key => presentText key (Fields.value style key)

end PageBuilder.Style
