import PageBuilder.Action.Basic
import PageBuilder.Document.Error

/-! # Components

A component of a page: its kind of control, its properties, what it does, what it accepts as input
and where it stands on the grid. Reading keeps every key, and `toJson` writes it back; a key of the
format that was stored as null is remembered, so that null is written again. -/

namespace PageBuilder

/-- The components that can be rendered. -/
inductive ComponentKind where
  | text
  | heading
  | button
  | textInput
  | textarea
  | datePicker
  | image
  | spacer
  deriving DecidableEq, Repr

namespace ComponentKind

/-- The name of the kind in documents. -/
def name : ComponentKind → String
  | .text => "text"
  | .heading => "heading"
  | .button => "button"
  | .textInput => "text-input"
  | .textarea => "textarea"
  | .datePicker => "date-picker"
  | .image => "image"
  | .spacer => "spacer"

def all : List ComponentKind :=
  [.text, .heading, .button, .textInput, .textarea, .datePicker, .image, .spacer]

def ofName? (s : String) : Option ComponentKind :=
  all.find? fun k => k.name == s

theorem ofName?_name (k : ComponentKind) : ofName? k.name = some k := by
  cases k <;> decide

/-- The properties of a new component. -/
def defaultProps : ComponentKind → Fields
  | .text => [("text", .str "Sample Text"), ("style", .obj [])]
  | .heading => [("text", .str "Sample Heading"), ("style", .obj [])]
  | .button => [("title", .str "Button"), ("variant", .str "primary")]
  | .textInput => [("label", .str "Input Label"), ("placeholder", .str "Enter text..."),
      ("keyboardType", .str "default"), ("autoCapitalize", .str "words")]
  | .textarea => [("label", .str "Textarea Label"), ("placeholder", .str "Enter text..."),
      ("rows", .int 3), ("autoCapitalize", .str "sentences")]
  | .datePicker => [("label", .str "Select Date"), ("placeholder", .str "Select date")]
  | .image => [("source", .str "https://via.placeholder.com/150")]
  | .spacer => [("size", .int 16)]

end ComponentKind

/-- The properties of a new component of the named kind, none for an unknown kind. -/
def defaultProps (kind : String) : Fields :=
  (ComponentKind.ofName? kind).elim [] ComponentKind.defaultProps

/-- Rules for the input of a component. They are carried along and never enforced; a rule that is
null is absent. -/
structure Validation where
  required : Option Bool := none
  minLength : Json := .null
  maxLength : Json := .null
  min : Json := .null
  max : Json := .null
  extras : Fields := []
  deriving Repr

namespace Validation

def keys : List String := ["required", "minLength", "maxLength", "min", "max"]

def ofFields (fs : Fields) : Validation where
  required := if (Fields.value fs "required").isNull then none
    else some (Fields.value fs "required").truthy
  minLength := Fields.value fs "minLength"
  maxLength := Fields.value fs "maxLength"
  min := Fields.value fs "min"
  max := Fields.value fs "max"
  extras := Fields.without fs keys

def toFields (v : Validation) : Fields :=
  let required := v.required.elim Json.null Json.bool
  let rules := [("required", required), ("minLength", v.minLength), ("maxLength", v.maxLength),
    ("min", v.min), ("max", v.max)]
  Fields.merge (rules.filter fun f => !f.2.isNull) v.extras

end Validation

/-- The place of a component on the grid of its page; null leaves a part of it open. -/
structure GridPlace where
  row : Json := .null
  rowSpan : Json := .null
  col : Json := .null
  colSpan : Json := .null
  deriving Repr

/-- The keys of a component that are left out unless they are set. -/
inductive OptionalKey where
  | props
  | action
  | validation
  | gridRow
  | rowSpan
  | gridCol
  | colSpan
  deriving DecidableEq, Repr

namespace OptionalKey

def name : OptionalKey → String
  | .props => "props"
  | .action => "action"
  | .validation => "validation"
  | .gridRow => "gridRow"
  | .rowSpan => "rowSpan"
  | .gridCol => "gridCol"
  | .colSpan => "colSpan"

def all : List OptionalKey :=
  [.props, .action, .validation, .gridRow, .rowSpan, .gridCol, .colSpan]

/-- The keys that place a component on the grid. -/
def grid : List OptionalKey :=
  [.gridRow, .rowSpan, .gridCol, .colSpan]

end OptionalKey

/-- A component of a page. -/
structure Component where
  id : String
  type : String
  props : Fields := []
  action : Option Action := none
  validation : Option Validation := none
  grid : GridPlace := {}
  extras : Fields := []
  /-- The optional keys that were stored as null. -/
  nulls : List OptionalKey := []
  deriving Repr

/-- The id that a stored value is: a text that is not blank. -/
def identifier? : Json → Option String
  | .str s => if Text.blank s then none else some s
  | _ => none

namespace Component

/-- The keys of the format. -/
def keys : List String :=
  "id" :: "type" :: OptionalKey.all.map OptionalKey.name

/-- A new component, whose id must not be blank. -/
def create (id : Json) (type : String) (props : Fields) (action : Option Action) :
    Except DocumentError Component :=
  match identifier? id with
  | none => .error (.blankId .component)
  | some id => .ok { id, type, props, action }

/-- The component with the given id and action that the fields describe. -/
def ofFields (id : String) (action : Option Action) (fs : Fields) : Component where
  id := id
  type := (Fields.value fs "type").displayOrEmpty
  props := (Fields.value fs "props").fields?.getD []
  action := action
  validation := (Fields.value fs "validation").fields?.map .ofFields
  grid := ⟨Fields.value fs "gridRow", Fields.value fs "rowSpan", Fields.value fs "gridCol",
    Fields.value fs "colSpan"⟩
  extras := Fields.without fs keys
  nulls := OptionalKey.all.filter fun k => (Fields.get? fs k.name).any Json.isNull

/-- Read a component. -/
def ofJson [Json.Limits] (place : String) : Json → Except (Json.Halt DocumentError) Component
  | .obj fs =>
    match identifier? (Fields.value fs "id") with
    | none => .error (.fault (.missingId place))
    | some id =>
      match Action.ofJson? (Fields.value fs "action") with
      | .error limit => .error (.overrun limit)
      | .ok action => .ok (ofFields id action fs)
  | _ => .error (.fault (.notAnObject place))

/-- An optional key, written if it is set or was stored as null. -/
def optionalField (c : Component) (key : OptionalKey) (v : Json) : Fields :=
  if v.isNull && !c.nulls.contains key then [] else [(key.name, v)]

/-- Write a component. -/
def toFields (c : Component) : Fields :=
  let props := if c.props.isEmpty && c.nulls.contains .props then .null else .obj c.props
  let validation := c.validation.elim Json.null fun v => .obj v.toFields
  let own := [("id", Json.str c.id), ("type", .str c.type), ("props", props)] ++
    c.optionalField .action (Action.toJson? c.action) ++
    c.optionalField .validation validation ++
    c.optionalField .gridRow c.grid.row ++
    c.optionalField .rowSpan c.grid.rowSpan ++
    c.optionalField .gridCol c.grid.col ++
    c.optionalField .colSpan c.grid.colSpan
  Fields.merge own c.extras

def toJson (c : Component) : Json :=
  .obj c.toFields

end Component

end PageBuilder
