import PageBuilder.View.Page

/-! # Where the nodes of a page are

Clicks and changes name a node by its id, and the first node with the id answers. The nodes of a
component are its slot, the field around a control, a label and the node of the component itself,
whose id is that of the component. -/

namespace PageBuilder

namespace ComponentKind

/-- The kinds that take input. -/
def isControl : ComponentKind → Bool
  | .textInput | .textarea | .datePicker => true
  | _ => false

end ComponentKind

namespace Component

/-- The component takes input. -/
def isControl (c : Component) : Bool :=
  c.kind?.any ComponentKind.isControl

/-- The label that is shown with a control; an empty one is not shown. -/
def label? (c : Component) : Option String :=
  (Fields.value c.props "label").displayUnlessNull?.filter (· != "")

/-- The ids of the nodes of a component, in the order of the walk. -/
def nodeIds (c : Component) : List String :=
  View.slotId c.id ::
    if c.kind? = some .button then [c.id, View.labelId c.id]
    else if c.isControl then
      View.fieldId c.id :: (if c.label?.isSome then [View.labelId c.id] else []) ++ [c.id]
    else [c.id]

end Component

/-- What the node of a component itself answers to; its other nodes are inert. -/
def View.behaviour (ctx : RenderContext) (c : Component) : Behaviour :=
  if c.kind? = some .button then press ctx c.action
  else if c.isControl && ctx.editable then .edit c.id
  else .inert

namespace Page

/-- The ids of the nodes in front of those of the component with the given id: that of the page, and
those of the components before it. -/
def idsBefore (p : Page) (id : String) : List String :=
  p.id :: (p.components.takeWhile (·.id != id)).flatMap Component.nodeIds

end Page

namespace Document

/-- The first page with the id `page` has a component with the given id that takes input. -/
def HasControl (d : Document) (page id : String) : Prop :=
  ∃ p, d.page? page = some p ∧ ∃ c ∈ p.components, c.id = id ∧ c.isControl = true

end Document

end PageBuilder
