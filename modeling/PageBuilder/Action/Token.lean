import PageBuilder.Action.Basic
import PageBuilder.Json.Printer
import PageBuilder.Text.Start

/-! # Action tokens

A token is the text by which an action reaches the preview: a bare name, `@pushPage:` with a page
id, or the compact text of the whole action for the actions that keep their parameters.
`Action.token?` makes tokens and `Command.ofToken` takes them apart. -/

namespace PageBuilder

namespace StructuredAction

/-- The page that a push action leads to: the first of `pageId` and `page_id` among the parameters
and `pageId` beside the type that counts as yes. -/
def pushTarget? (a : StructuredAction) : Option String :=
  let params := a.params.getD []
  let candidates := [Fields.value params "pageId", Fields.value params "page_id",
    Fields.value a.extras "pageId"]
  (candidates.find? Json.truthy).map Json.display

/-- The whole action as a compact text. -/
def serialize (a : StructuredAction) : String :=
  Json.compactText (.obj a.toFields)

/-- The token of an action; an action without a type has none. -/
def token? (a : StructuredAction) : Option String :=
  if a.type = "" then none
  else
    match ActionKind.ofName? a.type with
    | some .pushPage =>
      match a.pushTarget? with
      | some page => some (ActionKind.pushPage.name ++ ":" ++ page)
      | none => some ActionKind.pushPage.name
    | some .popPage => some ActionKind.popPage.name
    | some kind => some (if kind.keepsParams then a.serialize else a.type)
    | none => some a.type

end StructuredAction

namespace Action

/-- The token of an action; an empty name has none. -/
def token? : Action → Option String
  | .named name => if name = "" then none else some name
  | .structured a => a.token?
  | .serialized _ a => a.token?

end Action

/-- What a token is asked for: a value as it is stored, or what such a value was read as. -/
inductive ActionForm where
  | stored (raw : Json)
  | read (action : Option Action)
  deriving Repr

namespace ActionForm

section

variable [Json.Limits]

/-- The action. What was read is not read again. -/
def action? : ActionForm → Except Json.Overrun (Option Action)
  | .stored raw => Action.ofJson? raw
  | .read action => .ok action

/-- The token to dispatch, if there is anything to do. -/
def token? (form : ActionForm) : Except Json.Overrun (Option String) :=
  form.action?.map fun action => action.bind Action.token?

end

end ActionForm

/-- Why a token that looks like an action object cannot be taken apart. -/
inductive TokenFault where
  | notJson (fault : Json.Fault)
  | notAnAction
  deriving DecidableEq, Repr

def TokenFault.message : TokenFault → String
  | .notJson fault => "action token is not valid JSON: " ++ fault.message
  | .notAnAction => "action token must be a JSON object with a string `type`"

/-- A token taken apart. -/
structure Command where
  type : String
  params : Fields
  deriving Repr

namespace Command

/-- The text in front of the page id in a token that pushes a page. -/
def pushStart : String :=
  ActionKind.pushPage.name ++ ":"

/-- Take a token apart. A limit of the reader is no fault of the token. -/
def ofToken [Json.Limits] (token : String) : Except (Json.Halt TokenFault) Command :=
  if token.toList.head? = some '{' then
    match Json.parse token with
    | .error halt => .error (halt.map .notJson)
    | .ok (.obj fs) =>
      match Fields.value fs "type" with
      | .str type => .ok ⟨type, (Fields.value fs "params").fields?.getD []⟩
      | _ => .error (.fault .notAnAction)
    | .ok _ => .error (.fault .notAnAction)
  else
    match Text.after? pushStart token with
    | some page => .ok ⟨ActionKind.pushPage.name, [("pageId", .str page)]⟩
    | none => .ok ⟨token, []⟩

end Command

end PageBuilder
