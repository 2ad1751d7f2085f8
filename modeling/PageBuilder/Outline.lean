import PageBuilder.View.Node

/-! # Outlines

A rendered page as text, one line per visible node. Slots are left out, a field is one line with its
label, and nothing below a button is shown. -/

namespace PageBuilder

/-- How an outline is written. -/
structure OutlineStyle where
  indent : Nat := 2
  showStyles : Bool := false
  deriving DecidableEq, Repr

namespace OutlineStyle

/-- What an indent below one is refused with. -/
def indentMessage : String := "indent_width must be >= 1"

/-- The style with the given indent, which must be at least one. -/
def create? (indent : Int) (showStyles : Bool) : Option OutlineStyle :=
  if indent < 1 then none else some ⟨indent.toNat, showStyles⟩

end OutlineStyle

namespace Outline

/-- A text in double quotes. -/
def quoted (s : String) : String := "\"" ++ s ++ "\""

/-- The line of a control, with its label if one is given. -/
def describeControl (n : Node) (label : Option String) : String :=
  let attr (key : String) : Json := Fields.value n.attrs key
  let shown (word : String) (v : Json) : String :=
    if v.truthy then " " ++ word ++ "=" ++ quoted v.display else ""
  let rows := match n.kind with
    | .control .textarea => " rows=" ++ ((Fields.get? n.attrs "rows").getD (.int 3)).display
    | _ => ""
  n.kind.name ++ " " ++ n.id ++ shown "label" (.str (label.getD "")) ++
    shown "placeholder" (attr "placeholder") ++ shown "value" (attr "value") ++ rows

/-- The line of a button. -/
def describeButton (n : Node) : String :=
  let title := match n.children with
    | [] => ""
    | label :: _ => label.text.getD "None"
  let variant := ((Fields.get? n.attrs "variant").getD (.str "primary")).display
  let action := Fields.value n.attrs "action"
  "button " ++ quoted title ++ " [" ++ variant ++ "]" ++
    (if action.truthy then " -> " ++ action.display else "")

/-- The line of a node. -/
def describe (n : Node) : String :=
  let style (key : String) : String := (Fields.value n.style key).display
  match n.kind with
  | .page =>
    let title := (n.text.filter (· != "")).elim "" fun t => " " ++ quoted t
    "page " ++ n.id ++ title ++ " (bg " ++ style "backgroundColor" ++ ")"
  | .pageNotFound => "!! " ++ n.text.getD "None"
  | .unsupported => "?? " ++ n.text.getD "None"
  | .text | .heading => n.kind.name ++ " " ++ quoted (n.text.getD "")
  | .button => describeButton n
  | .control _ => describeControl n none
  | .image =>
    "image " ++ ((Fields.get? n.attrs "source").getD (.str "")).display ++
      " (h " ++ style "height" ++ ")"
  | .spacer => "spacer " ++ style "height"
  | kind => kind.name ++ " " ++ n.id

/-- A node that is a control. -/
def isControl (n : Node) : Bool :=
  match n.kind with
  | .control _ => true
  | _ => false

/-- The text of the first label among the children of a field. -/
def fieldLabel (children : List Node) : Option String :=
  (children.find? fun n => n.kind == .label).bind Node.text

/-- The style of a node as one line, sorted by key. -/
def describeStyle (style : Fields) : String :=
  let sorted := style.mergeSort fun a b => a.1 ≤ b.1
  "style: " ++ ", ".intercalate (sorted.map fun f => f.1 ++ "=" ++ f.2.display)

/-- Spaces in front of a line. -/
def pad (s : OutlineStyle) (depth : Nat) : String :=
  String.ofList (List.replicate (s.indent * depth) ' ')

/-- The line of the style of a node, if styles are shown. -/
def styleLines (s : OutlineStyle) (depth : Nat) (style : Fields) : List String :=
  if s.showStyles && !style.isEmpty then [pad s (depth + 1) ++ describeStyle style] else []

mutual

/-- The lines of a node at the given depth. -/
def lines (s : OutlineStyle) (depth : Nat) : Node → List String
  | ⟨kind, id, text, style, attrs, children, behaviour⟩ =>
    let own := (pad s depth ++ describe ⟨kind, id, text, style, attrs, children, behaviour⟩) ::
      styleLines s depth style
    match kind with
    | .slot => linesAll s depth children
    | .field => (children.filter isControl).map fun n =>
        pad s depth ++ describeControl n (fieldLabel children)
    | .button => own
    | _ => own ++ linesAll s (depth + 1) children

def linesAll (s : OutlineStyle) (depth : Nat) : List Node → List String
  | [] => []
  | n :: ns => lines s depth n ++ linesAll s depth ns

end

/-- The outline of a node, each line with a new line at its end. -/
def text (s : OutlineStyle) (n : Node) : String :=
  "\n".intercalate (lines s 0 n) ++ "\n"

end Outline

end PageBuilder
