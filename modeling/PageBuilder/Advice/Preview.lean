import PageBuilder.Advice.Basic
import PageBuilder.Preview.Session

/-! # Advice on previews

What is said while pages are rendered and tokens are executed. Rendering stops at the first
component that cannot be rendered, and so does the advice. -/

namespace PageBuilder

namespace View

/-- Advice on rendering a component. -/
def componentAdvice (c : Component) : List Advice :=
  if c.kind?.isNone then [.unsupportedComponent c.id c.type] else []

/-- Advice on rendering components in order. -/
def slotsAdvice (ctx : RenderContext) : List Component → List Advice
  | [] => []
  | c :: cs =>
    componentAdvice c ++
      (match component ctx c with
        | .ok _ => slotsAdvice ctx cs
        | .error _ => [])

end View

/-- Advice on rendering the page on show. -/
def PageView.advice (v : PageView) : List Advice :=
  match v.document.page? v.pageId with
  | some p => View.slotsAdvice v.context p.components
  | none => [.missingPage v.pageId v.document.id]

/-- Advice on executing a token. -/
def Command.advice [Json.Limits] (token : String) : List Advice :=
  match Command.ofToken token with
  | .error (.fault fault) => [.unknownToken fault]
  | _ => []

/-- Advice on answering a request. -/
def Session.advice [Json.Limits] (s : Session) : Session.Request → List Advice
  | .click id =>
    let token := match s.node? id with
      | .ok found => found.bind Node.clickToken?
      | .error _ => none
    s.refresh.view.advice ++ token.elim [] Command.advice
  | .change _ _ | .render => s.refresh.view.advice
  | .execute token => Command.advice token
  | .back => []

end PageBuilder
