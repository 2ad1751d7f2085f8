import PageBuilder.Action.Token
import PageBuilder.Document.Props
import PageBuilder.View.Node
import PageBuilder.View.Style
import PageBuilder.View.Theme

/-! # Rendering components

A component is rendered by its kind. A component of unknown kind is shown as a placeholder, so only
a number that cannot be used stops the rendering. -/

namespace PageBuilder

/-- What has been typed into the controls of a page, by component id. -/
abbrev Form := List (String × String)

namespace Form

/-- Set the value of a control, in its place if it has one already. -/
def set : Form → String → String → Form
  | [], id, v => [(id, v)]
  | f :: fs, id, v => if f.1 = id then (id, v) :: fs else f :: set fs id v

/-- The value of a control, empty if nothing has been typed. -/
def value (form : Form) (id : String) : String :=
  (form.lookup id).getD ""

end Form

/-- What components are rendered with. -/
structure RenderContext where
  theme : Theme
  config : Config
  form : Form := []
  /-- Buttons answer to clicks. -/
  actionable : Bool := true
  /-- Controls answer to changes. -/
  editable : Bool := true

/-- The looks of a button. -/
inductive ButtonVariant where
  | primary
  | secondary
  | outline
  deriving DecidableEq, Repr

namespace ButtonVariant

def name : ButtonVariant → String
  | .primary => "primary"
  | .secondary => "secondary"
  | .outline => "outline"

/-- The variant of the given name; an unknown one counts as primary. -/
def ofName (s : String) : ButtonVariant :=
  ([secondary, outline].find? fun v => v.name == s).getD primary

/-- The color inside the button. -/
def background (t : Theme) : ButtonVariant → String
  | .primary => t.primary
  | .secondary => t.secondary
  | .outline => "transparent"

/-- The color of the border. -/
def border (t : Theme) : ButtonVariant → String
  | .secondary => t.secondary
  | .primary | .outline => t.primary

/-- The color of the title. -/
def label (t : Theme) : ButtonVariant → String
  | .outline => t.primary
  | .primary | .secondary => "#FFFFFF"

end ButtonVariant

namespace View

/-- The color of text. -/
def textColor : Json := .str "#000000"

/-- A number with one decimal. -/
def tenths (n : Nat) : Json :=
  .float (.ofDecimal false ⟨n, -1⟩)

/-- The resolved form of a style that may be absent. -/
def resolved (style : Option Fields) : Fields :=
  Style.resolve (style.getD [])

/-- The id of a label. -/
def labelId (id : String) : String := id ++ "__label"

/-- The id of a field. -/
def fieldId (id : String) : String := id ++ "__field"

/-- The id of a slot. -/
def slotId (id : String) : String := id ++ "__slot"

def text (id text : String) (style : Option Fields) (extra : Fields) : Node where
  kind := .text
  id := id
  text := some text
  style := Fields.merge
    [("fontSize", .int 16), ("fontWeight", .str "normal"), ("color", textColor),
      ("textAlign", .str "left"), ("lineHeight", tenths 14)]
    (resolved style)
  attrs := extra

def heading (id text : String) (style : Option Fields) (extra : Fields) : Node where
  kind := .heading
  id := id
  text := some text
  style := Fields.merge
    [("fontSize", .int 24), ("fontWeight", .str "bold"), ("color", textColor),
      ("textAlign", .str "left"), ("lineHeight", tenths 12), ("margin", .int 0)]
    (resolved style)
  attrs := Fields.merge [("level", .int 2)] extra

/-- What a click on the button of a component does. -/
def press (ctx : RenderContext) (action : Option Action) : Behaviour :=
  match action with
  | some a => if ctx.actionable then .press a.token? else .inert
  | none => .inert

def button (ctx : RenderContext) (c : Component) (title variant : String) (style : Option Fields)
    (extra : Fields) : Node :=
  let variant := ButtonVariant.ofName variant
  let label : Node := {
    kind := .label
    id := labelId c.id
    text := some title
    style := [("color", .str (variant.label ctx.theme)), ("fontSize", .int 16),
      ("fontWeight", .str "600"), ("textAlign", .str "center")] }
  let attrs := Fields.merge [("variant", .str variant.name)] extra
  { kind := .button
    id := c.id
    style := Fields.merge
      [("flexDirection", .str "row"), ("alignItems", .str "center"),
        ("justifyContent", .str "center"), ("padding", .str "12px 16px"),
        ("borderRadius", .int 8), ("minWidth", .int 44), ("minHeight", .int 44),
        ("borderWidth", .int 1), ("borderStyle", .str "solid"),
        ("borderColor", .str (variant.border ctx.theme)),
        ("backgroundColor", .str (variant.background ctx.theme))]
      (resolved style)
    attrs := match c.action.bind Action.token? with
      | some token => Fields.set attrs "action" (.str token)
      | none => attrs
    children := [label]
    behaviour := press ctx c.action }

/-- The style of a control. -/
def controlStyle (style : Option Fields) : Fields :=
  Fields.merge
    [("width", .str "100%"), ("padding", .int 12), ("fontSize", .int 16), ("borderWidth", .int 1),
      ("borderStyle", .str "solid"), ("borderColor", .str "#E0E0E0"), ("borderRadius", .int 8),
      ("backgroundColor", .str "#FFFFFF")]
    (resolved style)

/-- The attributes of a control: its value, its own ones, the unknown properties and its rules. -/
def controlAttrs (ctx : RenderContext) (c : Component) (placeholder : Option String)
    (own extra : Fields) : Fields :=
  let attrs := ("value", Json.str (ctx.form.value c.id)) ::
    (placeholder.elim [] fun p => [("placeholder", Json.str p)]) ++ own
  let attrs := Fields.merge attrs extra
  match c.validation with
  | some v => Fields.set attrs "validation" (.obj v.toFields)
  | none => attrs

/-- A control with its label, if it has one. -/
def field (ctx : RenderContext) (c : Component) (kind : ControlKind) (label : Option String)
    (style attrs : Fields) : Node :=
  let labels : List Node := match label.filter (· != "") with
    | some text => [{
        kind := .label
        id := labelId c.id
        text := some text
        style := [("display", .str "block"), ("marginBottom", .int 8), ("fontSize", .int 14),
          ("fontWeight", .str "600"), ("color", textColor)] }]
    | none => []
  let control : Node := {
    kind := .control kind
    id := c.id
    style, attrs
    behaviour := if ctx.editable then .edit c.id else .inert }
  { kind := .field
    id := fieldId c.id
    style := [("marginBottom", .int 16), ("width", .str "100%")]
    children := labels ++ [control] }

def image (ctx : RenderContext) (id : String) (source : Option String) (style : Option Fields)
    (extra : Fields) : Node where
  kind := .image
  id := id
  style := Fields.merge
    [("width", .str "100%"), ("height", .float ctx.config.imageHeight), ("objectFit", .str "cover"),
      ("borderRadius", .int 8), ("margin", .int 0), ("padding", .int 0)]
    (resolved style)
  attrs := Fields.merge [("source", .str (source.getD "")), ("alt", .str "")] extra

def spacer (id : String) (size : Binary64) : Node where
  kind := .spacer
  id := id
  style := [("width", .str "100%"), ("height", .float size)]

/-- The placeholder for a component of unknown kind. -/
def unsupported (ctx : RenderContext) (c : Component) : Node where
  kind := .unsupported
  id := c.id
  text := some ("Unsupported component: " ++ c.type)
  style := [("color", .str ctx.theme.destructive)]
  attrs := [("type", .str c.type)]

/-- The node of a component with its properties read. -/
def ofProps (ctx : RenderContext) (c : Component) : TypedProps → Node
  | .text t style extra => text c.id t style extra
  | .heading t style extra => heading c.id t style extra
  | .button title variant style extra => button ctx c title variant style extra
  | .textInput label placeholder keyboardType autoCapitalize style extra =>
    let own := [("inputType", Json.str "text"), ("keyboardType", .str keyboardType),
      ("autoCapitalize", .str autoCapitalize)]
    field ctx c .textInput label (controlStyle style) (controlAttrs ctx c placeholder own extra)
  | .textarea label placeholder rows autoCapitalize style extra =>
    let own := [("rows", Json.int rows), ("autoCapitalize", .str autoCapitalize)]
    field ctx c .textarea label (Fields.set (controlStyle style) "resize" (.str "vertical"))
      (controlAttrs ctx c placeholder own extra)
  | .datePicker label placeholder style extra =>
    field ctx c .datePicker label (controlStyle style)
      (controlAttrs ctx c placeholder [("inputType", .str "date")] extra)
  | .image source style extra => image ctx c.id source style extra
  | .spacer size _ => spacer c.id size
  | .unknown _ => unsupported ctx c

/-- Render a component. -/
def component (ctx : RenderContext) (c : Component) : Except NumberError Node :=
  (TypedProps.ofType c.type c.props).map (ofProps ctx c)

end View

end PageBuilder
