import PageBuilder.Binary64.Rounding
import PageBuilder.Document.Component

/-! # Properties by kind

What the properties of a component mean for its kind. Texts may be given as other values and have
defaults; what a kind does not name is kept in `extra`. Only numbers can fail to be read. -/

namespace PageBuilder

/-- Why a number cannot be used. -/
inductive NumberError where
  | tooLarge
  | notANumber
  deriving DecidableEq, Repr

/-- A whole part that does not exist, as a number error. -/
def NumberError.ofNoInteger : Binary64.NoInteger → NumberError
  | .infinite => .tooLarge
  | .notANumber => .notANumber

/-- The whole part of a double. -/
def wholePart (x : Binary64) : Except NumberError Int :=
  x.truncate.mapError .ofNoInteger

/-- A whole number as a double. -/
def toDouble (n : Int) : Except NumberError Binary64 :=
  (Binary64.ofInt? n).elim (.error .tooLarge) .ok

/-- The number nearest to one. -/
def Binary64.one : Binary64 := .ofInt 1

/-- The properties of a component, read for its kind. -/
inductive TypedProps where
  | text (text : String) (style : Option Fields) (extra : Fields)
  | heading (text : String) (style : Option Fields) (extra : Fields)
  | button (title variant : String) (style : Option Fields) (extra : Fields)
  | textInput (label placeholder : Option String) (keyboardType autoCapitalize : String)
      (style : Option Fields) (extra : Fields)
  | textarea (label placeholder : Option String) (rows : Int) (autoCapitalize : String)
      (style : Option Fields) (extra : Fields)
  | datePicker (label placeholder : Option String) (style : Option Fields) (extra : Fields)
  | image (source : Option String) (style : Option Fields) (extra : Fields)
  | spacer (size : Binary64) (extra : Fields)
  /-- The properties of a component of unknown kind. -/
  | unknown (values : Fields)
  deriving Repr

namespace TypedProps

/-- A property as a text, with a default where it does not count as yes. -/
def textOr (fs : Fields) (key default : String) : String :=
  let v := Fields.value fs key
  if v.truthy then v.display else default

/-- A number of at least one, rounded down to a whole number, or the default for another value. -/
def positiveOr (default : Int) : Json → Except NumberError Int
  | .int n => .ok (if n < 1 then default else n)
  | .float x => if x.lt .one then .ok default else wholePart x
  | _ => .ok default

/-- A number as a double, or the default for another value. -/
def doubleOr (default : Binary64) : Json → Except NumberError Binary64
  | .int n => toDouble n
  | .float x => .ok x
  | _ => .ok default

/-- Read the properties of a component of a known kind. -/
def ofKind (kind : ComponentKind) (props : Fields) : Except NumberError TypedProps :=
  let style := (Fields.value props "style").fields?
  let rest (keys : List String) : Fields := Fields.without props ("style" :: keys)
  let text (key : String) : Option String := (Fields.value props key).displayUnlessNull?
  match kind with
  | .text => .ok (.text ((text "text").getD "") style (rest ["text"]))
  | .heading => .ok (.heading ((text "text").getD "") style (rest ["text"]))
  | .button =>
    .ok (.button ((text "title").getD "") (textOr props "variant" "primary") style
      (rest ["title", "variant"]))
  | .textInput =>
    .ok (.textInput (text "label") (text "placeholder") (textOr props "keyboardType" "default")
      (textOr props "autoCapitalize" "off") style
      (rest ["label", "placeholder", "keyboardType", "autoCapitalize"]))
  | .textarea => do
    let rows ← positiveOr 3 (Fields.value props "rows")
    return .textarea (text "label") (text "placeholder") rows
      (textOr props "autoCapitalize" "sentences") style
      (rest ["label", "placeholder", "rows", "autoCapitalize"])
  | .datePicker =>
    .ok (.datePicker (text "label") (text "placeholder") style (rest ["label", "placeholder"]))
  | .image => .ok (.image (text "source") style (rest ["source"]))
  | .spacer => do
    let size ← doubleOr (.ofInt 16) (Fields.value props "size")
    let styleField := style.elim [] fun s => [("style", Json.obj s)]
    return .spacer size (rest ["size"] ++ styleField)

/-- Read the properties of a component of the named kind. -/
def ofType (type : String) (props : Fields) : Except NumberError TypedProps :=
  match ComponentKind.ofName? type with
  | some kind => ofKind kind props
  | none => .ok (.unknown props)

end TypedProps

namespace Component

def kind? (c : Component) : Option ComponentKind :=
  ComponentKind.ofName? c.type

end Component

end PageBuilder
