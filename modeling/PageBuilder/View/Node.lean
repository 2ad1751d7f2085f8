import PageBuilder.Json.Display

/-! # Rendered nodes

A rendered page is a tree of nodes, which every way of showing it works from. Nodes share one space
of ids; `find?` gives the first node in the order of the walk, a node before its children. -/

namespace PageBuilder

/-- The controls that take input. -/
inductive ControlKind where
  | textInput
  | textarea
  | datePicker
  deriving DecidableEq, Repr

def ControlKind.name : ControlKind → String
  | .textInput => "text-input"
  | .textarea => "textarea"
  | .datePicker => "date-picker"

/-- What a node shows. -/
inductive NodeKind where
  | page
  | pageNotFound
  | slot
  | field
  | label
  | text
  | heading
  | unsupported
  | button
  | control (kind : ControlKind)
  | image
  | spacer
  | other (name : String)
  deriving DecidableEq, Repr

namespace NodeKind

def name : NodeKind → String
  | .page => "page"
  | .pageNotFound => "page-not-found"
  | .slot => "slot"
  | .field => "field"
  | .label => "label"
  | .text => "text"
  | .heading => "heading"
  | .unsupported => "unsupported"
  | .button => "button"
  | .control kind => kind.name
  | .image => "image"
  | .spacer => "spacer"
  | .other name => name

/-- The kinds that have a name of their own. -/
def known : List NodeKind :=
  [.page, .pageNotFound, .slot, .field, .label, .text, .heading, .unsupported, .button,
    .control .textInput, .control .textarea, .control .datePicker, .image, .spacer]

def ofName (s : String) : NodeKind :=
  (known.find? fun k => k.name == s).getD (.other s)

end NodeKind

/-- How a node answers to its user. -/
inductive Behaviour where
  | inert
  /-- A click dispatches the token, if there is one. -/
  | press (token : Option String)
  /-- A change sets the value of the named form field. -/
  | edit (field : String)
  deriving DecidableEq, Repr

/-- A rendered node. -/
structure Node where
  kind : NodeKind
  id : String
  text : Option String := none
  style : Fields := []
  attrs : Fields := []
  children : List Node := []
  behaviour : Behaviour := .inert
  deriving Repr

instance : Inhabited Node := ⟨{ kind := .page, id := "" }⟩

namespace Node

mutual

/-- The node and everything below it, each node before its children. -/
def walk : Node → List Node
  | ⟨kind, id, text, style, attrs, children, behaviour⟩ =>
    ⟨kind, id, text, style, attrs, children, behaviour⟩ :: walkAll children

def walkAll : List Node → List Node
  | [] => []
  | n :: ns => walk n ++ walkAll ns

end

/-- The first node with the given id. -/
def find? (n : Node) (id : String) : Option Node :=
  n.walk.find? fun m => m.id == id

/-- The nodes of the given kind. -/
def findAll (n : Node) (kind : NodeKind) : List Node :=
  n.walk.filter fun m => m.kind.name == kind.name

/-- The texts that are not empty. -/
def texts (n : Node) : List String :=
  (n.walk.filterMap Node.text).filter (· != "")

/-- The node answers to its user. -/
def isInteractive (n : Node) : Bool :=
  n.behaviour != .inert

/-- A click has an effect, if only on a token that does nothing. -/
def isClickable (n : Node) : Bool :=
  match n.behaviour with
  | .press _ => true
  | _ => false

/-- The token that a click dispatches. -/
def clickToken? (n : Node) : Option String :=
  match n.behaviour with
  | .press token => token
  | _ => none

/-- The form field that a change sets. -/
def changeField? (n : Node) : Option String :=
  match n.behaviour with
  | .edit field => some field
  | _ => none

/-- A field that is written if it is not empty. -/
def fieldUnlessEmpty (key : String) (fs : Fields) : Fields :=
  if fs.isEmpty then [] else [(key, .obj fs)]

mutual

/-- The node as a value; empty parts are left out. -/
def toJson : Node → Json
  | ⟨kind, id, text, style, attrs, children, _⟩ =>
    .obj <| ("kind", .str kind.name) :: ("id", .str id) ::
      (text.elim [] (fun t => [("text", Json.str t)]) ++ fieldUnlessEmpty "style" style ++
        fieldUnlessEmpty "attrs" attrs ++
        (match children with
          | [] => []
          | n :: ns => [("children", .arr (toJson n :: toJsonAll ns))]))

def toJsonAll : List Node → List Json
  | [] => []
  | n :: ns => toJson n :: toJsonAll ns

end

end Node

end PageBuilder
