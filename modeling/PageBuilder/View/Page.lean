import PageBuilder.Document.Basic
import PageBuilder.View.Component

/-! # Rendering pages

A page is rendered as one slot per component, in order. Slots are set apart by the configured gap;
the slot of an image reaches over the inset of the page on both sides. -/

namespace PageBuilder

namespace View

/-- The style of the slot of a component. -/
def slotStyle (config : Config) (isLast : Bool) (fullBleed : Bool) : Fields :=
  let bottom := ("marginBottom", if isLast then Json.int 0 else .float config.componentGap)
  let side := Json.float (-config.pageInset)
  bottom :: if fullBleed then [("marginLeft", side), ("marginRight", side)] else []

/-- The slot around the node of a component. -/
def slot (config : Config) (isLast : Bool) (c : Component) (n : Node) : Node :=
  let fullBleed := c.kind? == some .image
  { kind := .slot
    id := slotId c.id
    style := slotStyle config isLast fullBleed
    attrs := [("componentId", .str c.id), ("fullBleed", .bool fullBleed)]
    children := [n] }

/-- The slots of components in order. -/
def slots (ctx : RenderContext) : List Component → Except NumberError (List Node)
  | [] => .ok []
  | c :: cs =>
    match component ctx c with
    | .error e => .error e
    | .ok n =>
      match slots ctx cs with
      | .error e => .error e
      | .ok ns => .ok (slot ctx.config cs.isEmpty c n :: ns)

/-- Render a page. -/
def page (ctx : RenderContext) (p : Page) : Except NumberError Node :=
  let wanted := Fields.value p.extras "backgroundColor"
  let background := if wanted.truthy then wanted else .str ctx.theme.background
  (slots ctx p.components).map fun children => {
    kind := .page
    id := p.id
    text := if p.title = "" then none else some p.title
    style := [("padding", .float ctx.config.pageInset), ("backgroundColor", background),
      ("minHeight", .str "100%")]
    attrs := [("order", .int p.order)]
    children }

/-- What is shown in the place of a page that the document does not have. -/
def pageNotFound (id : String) : Node where
  kind := .pageNotFound
  id := id
  text := some ("Page \"" ++ id ++ "\" not found in schema")
  style := [("padding", .int 20), ("textAlign", .str "center")]

/-- Render the page with the given id. -/
def pageOf (ctx : RenderContext) (d : Document) (id : String) : Except NumberError Node :=
  match d.page? id with
  | some p => page ctx p
  | none => .ok (pageNotFound id)

end View

/-- One page of a document on show, with what has been typed into it. What was typed is dropped
whenever another page is shown. -/
structure PageView where
  document : Document
  pageId : String
  config : Config
  theme : Theme
  form : Form := []
  /-- Buttons answer to clicks. -/
  actionable : Bool := true

namespace PageView

/-- A page on show in the colors of the builder. -/
def start (d : Document) (page : String) (config : Config) : PageView :=
  { document := d, pageId := page, config, theme := .ofConfig config }

/-- Show a page. -/
def turnTo (v : PageView) (page : String) : PageView :=
  if v.pageId = page then v else { v with pageId := page, form := [] }

/-- Show a page of another document. -/
def showIn (v : PageView) (d : Document) (page : String) : PageView :=
  { v with document := d }.turnTo page

/-- Type a value into a control. -/
def setValue (v : PageView) (id value : String) : PageView :=
  { v with form := v.form.set id value }

/-- What the page is rendered with. -/
def context (v : PageView) : RenderContext :=
  { theme := v.theme, config := v.config, form := v.form, actionable := v.actionable }

/-- The document has the page. -/
def found (v : PageView) : Bool :=
  v.document.hasPage v.pageId

/-- The nodes on show. -/
def render (v : PageView) : Except NumberError Node :=
  View.pageOf v.context v.document v.pageId

end PageView

end PageBuilder
